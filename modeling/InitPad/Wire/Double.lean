import Mathlib.Algebra.Ring.Nat
import Mathlib.Data.Nat.Log
import Mathlib.Order.WithBot

/-!
# InitPad.Wire.Double

Whole numbers as binary64 sees them: 53 significant bits, ties to even, infinity from `2 ^ 1024` on.
Rounding keeps the order but not the strict order, so that two numbers that are compared after it
are told apart only when they do not round to the same double.
-/

namespace Double

/-- The distance of the doubles around `n`. -/
def spacing (n : ℕ) : ℕ := 2 ^ (Nat.log 2 n - 52)

/-- The nearest multiple of the spacing; a tie goes to the even one. -/
def nearest (n : ℕ) : ℕ :=
  if spacing n < 2 * (n % spacing n) ∨
      spacing n = 2 * (n % spacing n) ∧ (n / spacing n) % 2 = 1 then
    (n / spacing n + 1) * spacing n
  else n / spacing n * spacing n

/-- The double of a whole number; `⊤` is infinity. -/
def ofNat (n : ℕ) : WithTop ℕ := if nearest n < 2 ^ 1024 then WithTop.some (nearest n) else ⊤

variable {m n : ℕ}

theorem spacing_pos (n : ℕ) : 0 < spacing n := Nat.two_pow_pos _

theorem nearest_le (n : ℕ) : nearest n ≤ (n / spacing n + 1) * spacing n := by
  unfold nearest
  split
  · exact le_rfl
  · exact Nat.mul_le_mul_right _ (Nat.le_succ _)

theorem le_nearest (n : ℕ) : n / spacing n * spacing n ≤ nearest n := by
  unfold nearest
  split
  · exact Nat.mul_le_mul_right _ (Nat.le_succ _)
  · exact le_rfl

theorem nearest_le_pow (n : ℕ) : nearest n ≤ 2 ^ (Nat.log 2 n + 1) := by
  have hsplit : 2 ^ (Nat.log 2 n + 1) =
      2 ^ (Nat.log 2 n + 1 - (Nat.log 2 n - 52)) * spacing n := by
    rw [spacing, ← Nat.pow_add]
    congr 1
    omega
  have hlt : n < 2 ^ (Nat.log 2 n + 1 - (Nat.log 2 n - 52)) * spacing n := by
    rw [← hsplit]
    exact Nat.lt_pow_succ_log_self (by decide) n
  refine (nearest_le n).trans ?_
  rw [hsplit]
  exact Nat.mul_le_mul_right _ (Nat.div_lt_of_lt_mul (by rwa [Nat.mul_comm]))

theorem pow_le_nearest (hn : n ≠ 0) : 2 ^ Nat.log 2 n ≤ nearest n := by
  have hsplit : 2 ^ Nat.log 2 n = 2 ^ (Nat.log 2 n - (Nat.log 2 n - 52)) * spacing n := by
    rw [spacing, ← Nat.pow_add]
    congr 1
    omega
  refine le_trans ?_ (le_nearest n)
  rw [hsplit]
  refine Nat.mul_le_mul_right _ ((Nat.le_div_iff_mul_le (spacing_pos n)).mpr ?_)
  rw [← hsplit]
  exact Nat.pow_log_le_self 2 hn

theorem nearest_mono_of_spacing (h : m ≤ n) (hspacing : spacing m = spacing n) :
    nearest m ≤ nearest n := by
  have hquot : m / spacing n ≤ n / spacing n := Nat.div_le_div_right h
  rcases hquot.lt_or_eq with hlt | heq
  · calc
      nearest m ≤ (m / spacing n + 1) * spacing n := hspacing ▸ nearest_le m
      _ ≤ n / spacing n * spacing n := Nat.mul_le_mul_right _ hlt
      _ ≤ nearest n := le_nearest n
  · have hrem : m % spacing n ≤ n % spacing n := by
      have hm := Nat.div_add_mod m (spacing n)
      have hn := Nat.div_add_mod n (spacing n)
      rw [heq] at hm
      omega
    unfold nearest
    rw [hspacing, heq]
    split
    · rename_i hup
      rw [if_pos]
      rcases hup with hup | ⟨htie, hodd⟩
      · exact .inl (by omega)
      · rcases hrem.lt_or_eq with hlt | hsame
        · exact .inl (by omega)
        · exact .inr ⟨by omega, hodd⟩
    · split
      · exact Nat.mul_le_mul_right _ (Nat.le_succ _)
      · exact le_rfl

theorem nearest_mono (h : m ≤ n) : nearest m ≤ nearest n := by
  have hlog : Nat.log 2 m ≤ Nat.log 2 n := Nat.log_mono_right h
  rcases hlog.lt_or_eq with hlt | heq
  · have hn : n ≠ 0 := by
      rintro rfl
      simp at hlt
    calc
      nearest m ≤ 2 ^ (Nat.log 2 m + 1) := nearest_le_pow m
      _ ≤ 2 ^ Nat.log 2 n := Nat.pow_le_pow_right (by decide) hlt
      _ ≤ nearest n := pow_le_nearest hn
  · exact nearest_mono_of_spacing h (by rw [spacing, spacing, heq])

theorem ofNat_mono (h : m ≤ n) : ofNat m ≤ ofNat n := by
  have hnearest := nearest_mono h
  unfold ofNat
  split
  · split
    · exact WithTop.coe_le_coe.mpr hnearest
    · exact le_top
  · rw [if_neg (by omega)]

theorem ofNat_of_nearest_le (h : nearest n ≤ 2 ^ 53) : ofNat n = WithTop.some (nearest n) :=
  if_pos (h.trans_lt (Nat.pow_lt_pow_right (by decide) (by decide)))

theorem ofNat_of_lt (h : n < 2 ^ 53) : ofNat n = WithTop.some n := by
  have hspacing : spacing n = 1 := by
    have hlog : Nat.log 2 n ≤ 52 := by
      by_contra hlarge
      have hpow : 2 ^ 53 ≤ n := (Nat.pow_le_pow_right (by decide) (by omega)).trans
        (Nat.pow_log_le_self 2 (by rintro rfl; simp at hlarge))
      omega
    rw [spacing, Nat.sub_eq_zero_of_le hlog, Nat.pow_zero]
  have hnearest : nearest n = n := by
    simp [nearest, hspacing, Nat.mod_one]
  have hfinite : nearest n < 2 ^ 1024 := by
    rw [hnearest]
    exact Nat.lt_of_lt_of_le h (Nat.pow_le_pow_right Nat.two_pos (by omega))
  rw [ofNat, if_pos hfinite, hnearest]

end Double
