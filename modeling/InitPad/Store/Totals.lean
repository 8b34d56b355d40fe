import InitPad.Store.Table
import Mathlib.Algebra.Order.BigOperators.Group.List
import Mathlib.Algebra.Order.Group.Nat
import Mathlib.Algebra.Ring.Nat

/-!
# InitPad.Store.Totals

`update` rewrites the one row that a key leads to, `insertMany` adds several. `sum` aggregates a
number over all rows; `count` is the sum of an indicator. The lemmas say what insertion, update and
deletion do to a sum.
-/

namespace Store

namespace Table

variable {α κ : Type} [Keyed α κ] [DecidableEq κ]

/-- The first row that satisfies `p`, rewritten by `d`. -/
def updateFirst (t : Table α) (p : α → Bool) (d : α → α) : Table α :=
  ⟨t.rows.replaceF fun r => if p r then some (d r) else none⟩

def update (t : Table α) (k : κ) (d : α → α) : Table α := t.updateFirst (fun r => key r = k) d

def insertMany (t : Table α) (rs : List α) : Table α := ⟨t.rows ++ rs⟩

/-- The aggregate `_sum` of a column. -/
def sum (t : Table α) (f : α → Nat) : Nat := (t.rows.map f).sum

section Sum

variable {t : Table α} {f : α → Nat}

omit [Keyed α κ] [DecidableEq κ]

theorem count_eq_sum (t : Table α) (w : α → Bool) :
    t.count w = t.sum fun r => if w r then 1 else 0 := by
  obtain ⟨rows⟩ := t
  simp only [count, sum]
  induction rows with
  | nil => rfl
  | cons r rows ih =>
    rw [List.countP_cons, ih, List.map_cons, List.sum_cons]
    omega

@[simp] theorem sum_insert (t : Table α) (r : α) (f : α → Nat) :
    (t.insert r).sum f = t.sum f + f r := by
  simp [sum, insert]

@[simp] theorem count_insert (t : Table α) (r : α) (w : α → Bool) :
    (t.insert r).count w = t.count w + if w r then 1 else 0 := by
  simp [count, insert, List.countP_singleton]

@[simp] theorem count_insertMany (t : Table α) (rs : List α) (w : α → Bool) :
    (t.insertMany rs).count w = t.count w + rs.countP w := by
  simp [count, insertMany]

theorem sum_deleteMany_le (t : Table α) (w : α → Bool) (f : α → Nat) :
    (t.deleteMany w).sum f ≤ t.sum f :=
  List.Sublist.sum_le_sum (List.filter_sublist.map f) fun _ _ => Nat.zero_le _

theorem count_deleteMany_le (t : Table α) (w p : α → Bool) :
    (t.deleteMany w).count p ≤ t.count p :=
  List.Sublist.countP_le List.filter_sublist

theorem sum_updateMany_le (t : Table α) (w : α → Bool) {d : α → α} (h : ∀ r, f (d r) ≤ f r) :
    (t.updateMany w d).sum f ≤ t.sum f := by
  simp only [sum, updateMany, List.map_map]
  refine List.sum_le_sum fun r _ => ?_
  simp only [Function.comp]
  split
  · exact h r
  · exact Nat.le_refl _

theorem count_updateMany_le (t : Table α) (w : α → Bool) {d : α → α} {p : α → Bool}
    (h : ∀ r, p (d r) = true → p r = true) : (t.updateMany w d).count p ≤ t.count p := by
  rw [count_eq_sum, count_eq_sum]
  refine sum_updateMany_le t w fun r => ?_
  by_cases hp : p (d r) = true
  · rw [h r hp, hp]
  · rw [if_neg hp]
    exact Nat.zero_le _

theorem count_updateMany_congr (t : Table α) {w p : α → Bool} {d : α → α}
    (h : ∀ r, w r = true → p (d r) = p r) : (t.updateMany w d).count p = t.count p := by
  obtain ⟨rows⟩ := t
  simp only [count, updateMany, List.countP_map]
  refine List.countP_congr fun r _ => ?_
  simp only [Function.comp]
  split
  · rename_i hw
    rw [h r hw]
  · rfl

end Sum

/-! ## One row -/

section

omit [Keyed α κ] [DecidableEq κ]

theorem updateFirst_of_none {t : Table α} {p : α → Bool} (h : t.findFirst? p = none)
    (d : α → α) : t.updateFirst p d = t := by
  obtain ⟨rows⟩ := t
  simp only [findFirst?, List.find?_eq_none] at h
  simp only [updateFirst, mk.injEq]
  exact List.replaceF_of_forall_none fun r hr => if_neg (h r hr)

theorem sum_updateFirst {t : Table α} {p : α → Bool} {r : α} (h : t.findFirst? p = some r)
    (d : α → α) (f : α → Nat) : (t.updateFirst p d).sum f + f r = t.sum f + f (d r) := by
  obtain ⟨rows⟩ := t
  simp only [findFirst?, updateFirst, sum] at h ⊢
  induction rows with
  | nil => cases h
  | cons a rows ih =>
    by_cases ha : p a = true
    · rw [List.find?_cons_of_pos ha] at h
      cases h
      rw [List.replaceF_cons, if_pos ha]
      simp only [List.map_cons, List.sum_cons]
      omega
    · rw [List.find?_cons_of_neg ha] at h
      have hrest := ih h
      rw [List.replaceF_cons, if_neg ha]
      simp only [List.map_cons, List.sum_cons]
      omega

theorem count_updateFirst {t : Table α} {p : α → Bool} {r : α} (h : t.findFirst? p = some r)
    (d : α → α) (q : α → Bool) :
    ((t.updateFirst p d).count q + if q r then 1 else 0) =
      t.count q + if q (d r) then 1 else 0 := by
  rw [count_eq_sum, count_eq_sum]
  exact sum_updateFirst h d _

end

theorem update_of_none {t : Table α} {k : κ} (h : t.find? k = none) (d : α → α) :
    t.update k d = t :=
  updateFirst_of_none h d

theorem sum_update {t : Table α} {k : κ} {r : α} (h : t.find? k = some r) (d : α → α)
    (f : α → Nat) : (t.update k d).sum f + f r = t.sum f + f (d r) :=
  sum_updateFirst h d f

theorem count_update {t : Table α} {k : κ} {r : α} (h : t.find? k = some r) (d : α → α)
    (p : α → Bool) :
    ((t.update k d).count p + if p r then 1 else 0) = t.count p + if p (d r) then 1 else 0 :=
  count_updateFirst h d p

theorem sum_update_le (t : Table α) (k : κ) {d : α → α} {f : α → Nat} (h : ∀ r, f (d r) ≤ f r) :
    (t.update k d).sum f ≤ t.sum f := by
  cases hr : t.find? k with
  | none => rw [update_of_none hr]
  | some r =>
    have hsum := sum_update hr d f
    have hd := h r
    omega

theorem count_update_le (t : Table α) (k : κ) {d : α → α} {p : α → Bool}
    (h : ∀ r, p (d r) = true → p r = true) : (t.update k d).count p ≤ t.count p := by
  rw [count_eq_sum, count_eq_sum]
  refine sum_update_le t k fun r => ?_
  by_cases hp : p (d r) = true
  · rw [h r hp, hp]
  · rw [if_neg hp]
    exact Nat.zero_le _

theorem keys_update (t : Table α) (k : κ) {d : α → α} (hd : ∀ r, key (d r) = key r) :
    (t.update k d).keys = t.keys := by
  obtain ⟨rows⟩ := t
  simp only [keys, update, updateFirst]
  induction rows with
  | nil => rfl
  | cons a rows ih =>
    by_cases ha : key a = k
    · rw [List.replaceF_cons, if_pos (by simpa using ha)]
      simp [hd]
    · rw [List.replaceF_cons, if_neg (by simpa using ha)]
      simp only [List.map_cons, ih]

omit [DecidableEq κ] in
theorem Unique.insert {t : Table α} (h : t.Unique) {r : α} (hr : key r ∉ t.keys) :
    (t.insert r).Unique := by
  unfold Unique
  rw [keys_insert]
  exact List.nodup_append.mpr ⟨h, by simp, fun a ha b hb => by
    obtain rfl := List.mem_singleton.mp hb
    intro heq
    exact hr (heq ▸ ha)⟩

theorem Unique.count_without {t : Table α} (h : t.Unique) {k : κ} {r : α} (hr : t.find? k = some r)
    (w : α → Bool) :
    t.count w = (t.count fun a => w a && decide (key a ≠ k)) + if w r then 1 else 0 := by
  have hone : (t.count fun a => w a && decide (key a = k)) = ((t.find? k).any w).toNat := by
    rw [h.count_of_key (k := k) fun a ha => by simp at ha; exact ha.2, hr]
    have hkey : key r = k := find?_key hr
    simp [hkey]
  rw [hr] at hone
  have hsplit : ∀ rows : List α, rows.countP w =
      (rows.countP fun a => w a && decide (key a ≠ k)) +
        rows.countP fun a => w a && decide (key a = k) := by
    intro rows
    induction rows with
    | nil => rfl
    | cons a rows ih =>
      simp only [List.countP_cons, ih]
      by_cases hw : w a = true
      · by_cases ha : key a = k
        · simp [hw, ha]
          omega
        · simp [hw, ha]
          omega
      · simp [hw]
  have htable := hsplit t.rows
  simp only [count] at hone ⊢
  rw [htable, hone, Option.any_some]
  cases w r with
  | true => rfl
  | false => rfl

theorem Unique.count_updateMany {t : Table α} (h : t.Unique) {k : κ} {r : α}
    (hr : t.find? k = some r) {d : α → α} (hd : ∀ r, key (d r) = key r) (w : α → Bool) :
    ((t.updateMany (fun a => key a = k) d).count w + if w r then 1 else 0) =
      t.count w + if w (d r) then 1 else 0 := by
  have hr' : (t.updateMany (fun a => key a = k) d).find? k = some (d r) := by
    rw [find?_updateMany t _ hd, hr]
    have hkey : key r = k := find?_key hr
    simp [hkey]
  have hsame : ((t.updateMany (fun a => key a = k) d).count fun a => w a && decide (key a ≠ k)) =
      t.count fun a => w a && decide (key a ≠ k) := by
    refine count_updateMany_congr t fun a ha => ?_
    have hkey : key a = k := of_decide_eq_true ha
    simp [hd, hkey]
  rw [(h.updateMany _ hd).count_without hr' w, h.count_without hr w, hsame]
  omega

end Table

end Store
