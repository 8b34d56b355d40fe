import Mathlib.Data.List.Basic
import Mathlib.Data.UInt

/-!
# InitPad.Wire.Utf8

Decoding of UTF-8 that replaces what is malformed, and of byte strings that are decoded piece by
piece: the pieces give the characters of the whole just if no character is cut.
-/

namespace Utf8

/-- The decoder between two bytes: of a character whose bits so far are `value`, `needed + 1` bytes
are still to come, the next one between `low` and `high`. -/
inductive State where
  | ready
  | pending (value needed low high : Nat)
  deriving DecidableEq

def replacement : Nat := 0xFFFD

def State.continues (byte : UInt8) : State → Bool
  | .ready => false
  | .pending _ _ low high => decide (low ≤ byte.toNat ∧ byte.toNat ≤ high)

/-- The first byte of a character. -/
def start (byte : UInt8) : List Nat × State :=
  let b := byte.toNat
  if b < 0x80 then ([b], .ready)
  else if b < 0xC2 then ([replacement], .ready)
  else if b < 0xE0 then ([], .pending (b - 0xC0) 0 0x80 0xBF)
  else if b < 0xF0 then
    ([], .pending (b - 0xE0) 1 (if b = 0xE0 then 0xA0 else 0x80) (if b = 0xED then 0x9F else 0xBF))
  else if b < 0xF5 then
    ([], .pending (b - 0xF0) 2 (if b = 0xF0 then 0x90 else 0x80) (if b = 0xF4 then 0x8F else 0xBF))
  else ([replacement], .ready)

/-- A byte that does not go on with a character is the first one of the next. -/
def step (state : State) (byte : UInt8) : List Nat × State :=
  match state with
  | .ready => start byte
  | .pending value needed low high =>
    if decide (low ≤ byte.toNat ∧ byte.toNat ≤ high) then
      let value := value * 64 + (byte.toNat - 0x80)
      match needed with
      | 0 => ([value], .ready)
      | needed + 1 => ([], .pending value needed 0x80 0xBF)
    else (replacement :: (start byte).1, (start byte).2)

def finish : State → List Nat
  | .ready => []
  | .pending .. => [replacement]

def decodeFrom : State → List UInt8 → List Nat
  | state, [] => finish state
  | state, byte :: bytes => (step state byte).1 ++ decodeFrom (step state byte).2 bytes

/-- The characters of a byte string; a piece of a character is one replacement. -/
def decode (bytes : List UInt8) : List Nat := decodeFrom .ready bytes

def after : State → List UInt8 → State
  | state, [] => state
  | state, byte :: bytes => after (step state byte).2 bytes

/-- The characters that are complete after a byte string. -/
def emitted : State → List UInt8 → List Nat
  | _, [] => []
  | state, byte :: bytes => (step state byte).1 ++ emitted (step state byte).2 bytes

/-- The pending character of a byte string goes on in the next. -/
def cut (bytes rest : List UInt8) : Bool := rest.head?.any fun byte => (after .ready bytes).continues byte

/-- No piece ends in a character that the pieces after it go on with. -/
def Uncut : List (List UInt8) → Prop
  | [] => True
  | piece :: pieces => cut piece pieces.flatten = false ∧ Uncut pieces

instance decidableUncut : (pieces : List (List UInt8)) → Decidable (Uncut pieces)
  | [] => inferInstanceAs (Decidable True)
  | piece :: pieces =>
    have := decidableUncut pieces
    inferInstanceAs (Decidable (cut piece pieces.flatten = false ∧ Uncut pieces))

/-! ## Two pieces -/

section Append

variable {state : State} {byte : UInt8} {bytes a b : List UInt8}

theorem decodeFrom_append :
    decodeFrom state (a ++ b) = emitted state a ++ decodeFrom (after state a) b := by
  induction a generalizing state with
  | nil => rfl
  | cons x a ih =>
    change (step state x).1 ++ decodeFrom (step state x).2 (a ++ b) =
      (step state x).1 ++ emitted (step state x).2 a ++ decodeFrom (after (step state x).2 a) b
    rw [ih, List.append_assoc]

theorem decodeFrom_eq : decodeFrom state a = emitted state a ++ finish (after state a) := by
  have h := @decodeFrom_append state a []
  rw [List.append_nil] at h
  exact h

/-- In every state the bounds of the next byte are those of a continuation, and the character that
is pending is no ASCII character. -/
def Sound : State → Prop
  | .ready => True
  | .pending value needed low high =>
    0x80 ≤ low ∧ high ≤ 0xBF ∧ 0x80 ≤ (value * 64 + (low - 0x80)) * 64 ^ needed

theorem sound_start : Sound (start byte).2 := by
  unfold start
  dsimp only
  split_ifs <;> simp only [Sound] <;> omega

theorem sound_next {value needed low high b : Nat} (h : Sound (.pending value (needed + 1) low high))
    (hb : low ≤ b) : Sound (.pending (value * 64 + (b - 0x80)) needed 0x80 0xBF) := by
  obtain ⟨-, -, hvalue⟩ := h
  refine ⟨Nat.le_refl _, Nat.le_refl _, ?_⟩
  calc 0x80 ≤ (value * 64 + (low - 0x80)) * 64 ^ (needed + 1) := hvalue
    _ ≤ (value * 64 + (b - 0x80)) * 64 ^ (needed + 1) := Nat.mul_le_mul_right _ (by omega)
    _ = ((value * 64 + (b - 0x80)) * 64 + (0x80 - 0x80)) * 64 ^ needed := by
      simp [Nat.pow_succ', Nat.mul_assoc]

theorem sound_step (h : Sound state) : Sound (step state byte).2 := by
  unfold step
  cases state with
  | ready => exact sound_start
  | pending value needed low high =>
    dsimp only
    split
    · rename_i hc
      rw [decide_eq_true_eq] at hc
      cases needed with
      | zero => trivial
      | succ => exact sound_next h hc.1
    · exact sound_start

theorem sound_after (h : Sound state) : Sound (after state a) := by
  induction a generalizing state with
  | nil => exact h
  | cons x a ih => exact ih (sound_step h)

theorem mem_step {c : Nat} (h : Sound state) (hc : c < 0x80) (hmem : c ∈ (step state byte).1) :
    byte.toNat = c := by
  have hstart : c ∈ (start byte).1 → byte.toNat = c := by
    unfold start replacement
    dsimp only
    split_ifs <;> simp <;> omega
  unfold step at hmem
  cases state with
  | ready => exact hstart hmem
  | pending value needed low high =>
    dsimp only at hmem
    split at hmem
    · rename_i hbyte
      rw [decide_eq_true_eq] at hbyte
      cases needed with
      | zero =>
        obtain ⟨-, -, hvalue⟩ := h
        rw [Nat.pow_zero, Nat.mul_one] at hvalue
        have hsame := List.mem_singleton.mp hmem
        omega
      | succ => cases hmem
    · rcases List.mem_cons.mp hmem with hsame | hmem
      · unfold replacement at hsame
        omega
      · exact hstart hmem

theorem mem_decodeFrom {c : Nat} (h : Sound state) (hc : c < 0x80) (hmem : c ∈ decodeFrom state bytes) :
    ∃ b ∈ bytes, b.toNat = c := by
  induction bytes generalizing state with
  | nil =>
    cases state with
    | ready => cases hmem
    | pending =>
      have hsame := List.mem_singleton.mp hmem
      unfold replacement at hsame
      omega
  | cons x bytes ih =>
    rcases List.mem_append.mp hmem with hmem | hmem
    · exact ⟨x, List.mem_cons_self, mem_step h hc hmem⟩
    · obtain ⟨b, hb, hsame⟩ := ih (sound_step h) hmem
      exact ⟨b, List.mem_cons_of_mem _ hb, hsame⟩

theorem start_continuation (h : Sound state) (hc : state.continues byte = true) :
    start byte = ([replacement], .ready) := by
  cases state with
  | ready => cases hc
  | pending value needed low high =>
    simp only [State.continues, decide_eq_true_eq] at hc
    obtain ⟨hlow, hhigh, -⟩ := h
    unfold start
    dsimp only
    rw [if_neg (by omega), if_pos (by omega)]

theorem decodeFrom_of_not_continues (hnot : (b.head?.any fun byte => state.continues byte) = false) :
    decodeFrom state b = finish state ++ decodeFrom .ready b := by
  cases state with
  | ready => rfl
  | pending value needed low high =>
    cases b with
    | nil => rfl
    | cons x b =>
      have hx : decide (low ≤ x.toNat ∧ x.toNat ≤ high) = false := hnot
      simp only [decodeFrom, step, hx, Bool.false_eq_true, if_false]
      rfl

/-- How many characters are replaced; a character that a container has written as U+FFFD counts. -/
def replaced (text : List Nat) : Nat := text.count replacement

theorem replaced_append {s t : List Nat} : replaced (s ++ t) = replaced s + replaced t :=
  List.count_append

theorem replaced_finish_le : replaced (finish state) ≤ 1 := by
  cases state <;> simp [finish, replaced]

theorem replaced_decodeFrom_le (h : Sound state) :
    replaced (decodeFrom state b) ≤ 1 + replaced (decodeFrom .ready b) ∧
      ((b.head?.any fun byte => state.continues byte) = true →
        replaced (decodeFrom state b) ≤ replaced (decodeFrom .ready b)) := by
  induction b generalizing state with
  | nil =>
    refine ⟨?_, fun hc => by cases hc⟩
    have hone := @replaced_finish_le state
    simp only [decodeFrom]
    omega
  | cons x b ih =>
    cases hc : state.continues x with
    | false =>
      have hnot : ((x :: b).head?.any fun byte => state.continues byte) = false := hc
      rw [decodeFrom_of_not_continues hnot, replaced_append]
      refine ⟨?_, fun hyes => by rw [hnot] at hyes; cases hyes⟩
      exact Nat.add_le_add_right replaced_finish_le _
    | true =>
      have hready : replaced (decodeFrom .ready (x :: b)) = 1 + replaced (decodeFrom .ready b) := by
        simp only [decodeFrom, step, start_continuation h hc, replaced_append]
        rfl
      have hle : replaced (decodeFrom state (x :: b)) ≤ 1 + replaced (decodeFrom .ready b) := by
        cases state with
        | ready => cases hc
        | pending value needed low high =>
          have hx : decide (low ≤ x.toNat ∧ x.toNat ≤ high) = true := hc
          simp only [decodeFrom, step, hx, if_true]
          cases needed with
          | zero =>
            rw [replaced_append]
            exact Nat.add_le_add_right List.count_le_length _
          | succ needed => exact (ih (sound_next h (of_decide_eq_true hx).1)).1
      rw [hready]
      exact ⟨by omega, fun _ => hle⟩

theorem decode_append_of_not_cut (h : cut a b = false) : decode (a ++ b) = decode a ++ decode b := by
  unfold decode
  rw [decodeFrom_append, decodeFrom_of_not_continues h, @decodeFrom_eq _ a, List.append_assoc]

theorem replaced_decode_append_le :
    replaced (decode (a ++ b)) ≤ replaced (decode a) + replaced (decode b) ∧
      (cut a b = true → replaced (decode (a ++ b)) < replaced (decode a) + replaced (decode b)) := by
  cases hcut : cut a b with
  | false =>
    rw [decode_append_of_not_cut hcut, replaced_append]
    exact ⟨Nat.le_refl _, fun h => by cases h⟩
  | true =>
    have hle := (replaced_decodeFrom_le (b := b) (@sound_after .ready a trivial)).2 hcut
    have hpending : replaced (finish (after .ready a)) = 1 := by
      unfold cut at hcut
      cases hafter : after .ready a with
      | pending => rfl
      | ready =>
        rw [hafter] at hcut
        cases b <;> cases hcut
    unfold decode
    rw [decodeFrom_append, @decodeFrom_eq _ a, replaced_append, replaced_append, hpending]
    exact ⟨by omega, fun _ => by omega⟩

theorem start_emits : (start byte).1 ≠ [] ∨ (start byte).2 ≠ .ready := by
  unfold start
  dsimp only
  split_ifs <;> simp

theorem step_emits : (step state byte).1 ≠ [] ∨ (step state byte).2 ≠ .ready := by
  unfold step
  cases state with
  | ready => exact start_emits
  | pending value needed low high =>
    dsimp only
    split
    · cases needed <;> simp
    · simp

theorem decodeFrom_ne_nil (h : state ≠ .ready ∨ bytes ≠ []) : decodeFrom state bytes ≠ [] := by
  induction bytes generalizing state with
  | nil =>
    cases state with
    | ready => simp at h
    | pending => exact List.cons_ne_nil _ _
  | cons x bytes ih =>
    intro hnil
    obtain ⟨hstep, hrest⟩ := List.append_eq_nil_iff.mp hnil
    rcases @step_emits state x with hemits | hpending
    · exact hemits hstep
    · exact ih (.inl hpending) hrest

theorem decode_ne_nil (h : bytes ≠ []) : decode bytes ≠ [] := decodeFrom_ne_nil (.inr h)

end Append

section Pieces

variable {pieces : List (List UInt8)}

theorem decode_flatten_of_uncut (h : Uncut pieces) : decode pieces.flatten = pieces.flatMap decode := by
  induction pieces with
  | nil => rfl
  | cons piece pieces ih =>
    rw [List.flatten_cons, List.flatMap_cons, decode_append_of_not_cut h.1, ih h.2]

theorem replaced_decode_flatten_le :
    replaced (decode pieces.flatten) ≤ replaced (pieces.flatMap decode) := by
  induction pieces with
  | nil => exact Nat.le_refl _
  | cons piece pieces ih =>
    have h := (@replaced_decode_append_le piece pieces.flatten).1
    rw [List.flatten_cons, List.flatMap_cons, replaced_append]
    omega

theorem replaced_decode_flatten_eq
    (h : replaced (decode pieces.flatten) = replaced (pieces.flatMap decode)) : Uncut pieces := by
  induction pieces with
  | nil => trivial
  | cons piece pieces ih =>
    obtain ⟨hle, hlt⟩ := @replaced_decode_append_le piece pieces.flatten
    have hrest : replaced (decode pieces.flatten) ≤ replaced (pieces.flatMap decode) :=
      replaced_decode_flatten_le
    rw [List.flatten_cons, List.flatMap_cons, replaced_append] at h
    refine ⟨?_, ih (by omega)⟩
    by_contra hcut
    have hless := hlt (by simpa using hcut)
    omega

theorem decode_flatten_iff : decode pieces.flatten = pieces.flatMap decode ↔ Uncut pieces :=
  ⟨fun h => replaced_decode_flatten_eq (congrArg replaced h), decode_flatten_of_uncut⟩

end Pieces

/-! ## UTF-16 -/

def units (c : Nat) : List Nat :=
  if c < 0x10000 then [c]
  else [0xD800 + (c - 0x10000) / 0x400 % 0x400, 0xDC00 + (c - 0x10000) % 0x400]

/-- `bytes.toString('utf8')`, as code units. -/
def toText (bytes : List UInt8) : List Nat := (decode bytes).flatMap units

section Units

variable {state : State} {byte : UInt8} {bytes : List UInt8} {text : List Nat} {c : Nat}

theorem length_units_le : (units c).length ≤ 2 := by
  unfold units
  split <;> simp

theorem mem_units {u : Nat} (hu : u < 0xD800) (h : u ∈ units c) : u = c := by
  unfold units at h
  split at h
  · exact List.mem_singleton.mp h
  · simp only [List.mem_cons, List.not_mem_nil, or_false] at h
    omega

theorem length_units_start : ((start byte).1.flatMap units).length ≤ 1 ∧
    ((start byte).2 ≠ .ready → (start byte).1 = []) := by
  have hone : ∀ {c}, c < 0x10000 → (([c] : List Nat).flatMap units).length ≤ 1 := by
    intro c hc
    simp [units, hc]
  unfold start
  dsimp only
  split
  · exact ⟨hone (by omega), fun h => absurd rfl h⟩
  split
  · exact ⟨hone (by decide), fun h => absurd rfl h⟩
  split
  · exact ⟨Nat.zero_le _, fun _ => rfl⟩
  split
  · exact ⟨Nat.zero_le _, fun _ => rfl⟩
  split
  · exact ⟨Nat.zero_le _, fun _ => rfl⟩
  · exact ⟨hone (by decide), fun h => absurd rfl h⟩

theorem length_units_decodeFrom_le : ((decodeFrom state bytes).flatMap units).length ≤
    bytes.length + if state = .ready then 0 else 1 := by
  induction bytes generalizing state with
  | nil => cases state <;> simp [decodeFrom, finish, replacement, units]
  | cons x bytes ih =>
    obtain ⟨hone, hnone⟩ := @length_units_start x
    -- The first byte of a character has a code unit, or the character is pending.
    have hstart : ((start x).1.flatMap units).length +
        ((decodeFrom (start x).2 bytes).flatMap units).length ≤ bytes.length + 1 := by
      have hrest := @ih (start x).2
      by_cases hready : (start x).2 = .ready
      · rw [if_pos hready] at hrest
        omega
      · rw [if_neg hready] at hrest
        rw [hnone hready]
        simpa using hrest
    simp only [decodeFrom, List.flatMap_append, List.length_append, List.length_cons]
    cases state with
    | ready => exact hstart
    | pending value needed low high =>
      rw [if_neg (by simp)]
      cases hx : decide (low ≤ x.toNat ∧ x.toNat ≤ high) with
      | false =>
        simp only [step, hx, Bool.false_eq_true, if_false, List.flatMap_cons, List.length_append]
        have hreplacement : (units replacement).length = 1 := rfl
        omega
      | true =>
        simp only [step, hx, if_true]
        cases needed with
        | zero =>
          have hrest := @ih .ready
          have htwo := @length_units_le (value * 64 + (x.toNat - 0x80))
          simp only [if_true, Nat.add_zero, List.flatMap_cons, List.flatMap_nil,
            List.append_nil] at hrest ⊢
          omega
        | succ needed =>
          have hrest := @ih (.pending (value * 64 + (x.toNat - 0x80)) needed 0x80 0xBF)
          rw [if_neg (by simp)] at hrest
          simpa using Nat.le_succ_of_le hrest

theorem length_toText_le : (toText bytes).length ≤ bytes.length :=
  @length_units_decodeFrom_le .ready bytes

theorem count_units : (text.flatMap units).count replacement = replaced text := by
  induction text with
  | nil => rfl
  | cons c text ih =>
    have hc : (units c).count replacement = [c].count replacement := by
      unfold units
      split
      · rfl
      · rename_i hlarge
        have hnot : c ≠ replacement := by
          unfold replacement
          omega
        rw [List.count_eq_zero.mpr (show replacement ∉ [c] by simpa using hnot.symm),
          List.count_eq_zero]
        simp only [List.mem_cons, List.not_mem_nil, or_false, replacement]
        omega
    rw [List.flatMap_cons, List.count_append, hc, ih]
    exact List.count_append.symm

end Units

end Utf8
