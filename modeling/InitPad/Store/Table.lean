import Mathlib.Tactic.Common

/-!
# InitPad.Store.Table

Tables of rows with a key, as a relational store offers them to one transaction: look a row up by
its key, insert, and update every row that satisfies a condition (`updateMany`, which reports how
many rows it changed). Rows keep their insertion order, so `find?` is stable under insertion.

The lemmas say what a lookup finds after each operation; that is all a proof about a transaction
needs.
-/

namespace Store

/-- Rows that carry their key. -/
class Keyed (α : Type) (κ : outParam Type) where
  key : α → κ

export Keyed (key)

structure Table (α : Type) where
  rows : List α := []

namespace Table

variable {α κ : Type} [Keyed α κ] [DecidableEq κ]

def find? (t : Table α) (k : κ) : Option α := t.rows.find? fun r => key r = k

def findMany (t : Table α) (w : α → Bool) : List α := t.rows.filter w

def findFirst? (t : Table α) (w : α → Bool) : Option α := t.rows.find? w

def insert (t : Table α) (r : α) : Table α := ⟨t.rows ++ [r]⟩

/-- The rows that satisfy `w`, rewritten by `d`. -/
def updateMany (t : Table α) (w : α → Bool) (d : α → α) : Table α :=
  ⟨t.rows.map fun r => if w r then d r else r⟩

/-- The rows that do not satisfy `w`. -/
def deleteMany (t : Table α) (w : α → Bool) : Table α := ⟨t.rows.filter fun r => !w r⟩

/-- How many rows satisfy `w`. -/
def count (t : Table α) (w : α → Bool) : Nat := t.rows.countP w

theorem find?_key {t : Table α} {k : κ} {r : α} (h : t.find? k = some r) : key r = k := by
  simpa using List.find?_some h

theorem mem_of_find? {t : Table α} {k : κ} {r : α} (h : t.find? k = some r) : r ∈ t.rows :=
  List.mem_of_find?_eq_some h

theorem find?_updateMany (t : Table α) (w : α → Bool) {d : α → α} (hd : ∀ r, key (d r) = key r)
    (k : κ) :
    (t.updateMany w d).find? k = (t.find? k).map fun r => if w r then d r else r := by
  obtain ⟨rows⟩ := t
  simp only [find?, updateMany]
  induction rows with
  | nil => rfl
  | cons r rows ih =>
    have hr : key (if w r then d r else r) = key r := by split <;> simp [hd]
    simp only [List.map_cons, List.find?_cons, hr]
    cases decide (key r = k)
    · exact ih
    · rfl

theorem findFirst?_updateMany (t : Table α) (w : α → Bool) {d : α → α} {q : α → Bool}
    (hq : ∀ r, q (d r) = q r) :
    (t.updateMany w d).findFirst? q = (t.findFirst? q).map fun r => if w r then d r else r := by
  obtain ⟨rows⟩ := t
  simp only [findFirst?, Table.updateMany]
  induction rows with
  | nil => rfl
  | cons r rows ih =>
    have hr : q (if w r then d r else r) = q r := by split <;> simp [hq]
    simp only [List.map_cons, List.find?_cons, hr]
    cases q r
    · exact ih
    · rfl

omit [DecidableEq κ] [Keyed α κ] in
theorem findMany_updateMany (t : Table α) {w q : α → Bool} {d : α → α}
    (hq : ∀ r, w r = true → q (d r) = q r) :
    (t.updateMany w d).findMany q = (t.findMany q).map fun r => if w r then d r else r := by
  obtain ⟨rows⟩ := t
  simp only [findMany, updateMany, List.filter_map]
  congr 1
  refine List.filter_congr fun r _ => ?_
  by_cases hw : w r = true
  · simp [hw, hq r hw]
  · simp [hw]

theorem findFirst?_of_unique {t : Table α} {q : α → Bool} {r : α} (hr : r ∈ t.rows)
    (hq : q r = true) (hu : ∀ r' ∈ t.rows, q r' = true → r' = r) : t.findFirst? q = some r := by
  cases h : t.findFirst? q with
  | none => exact absurd hq (List.find?_eq_none.mp h r hr)
  | some r' => rw [hu r' (List.mem_of_find?_eq_some h) (List.find?_some h)]

theorem find?_insert_of_some {t : Table α} {k : κ} {r r' : α} (h : t.find? k = some r) :
    (t.insert r').find? k = some r := by
  simp only [find?, insert] at h ⊢
  rw [List.find?_append, h]; rfl

theorem find?_insert_self {t : Table α} {r : α} (h : t.find? (key r) = none) :
    (t.insert r).find? (key r) = some r := by
  simp only [find?, insert] at h ⊢
  rw [List.find?_append, h]; simp

omit [DecidableEq κ] [Keyed α κ] in
theorem mem_deleteMany {t : Table α} {w : α → Bool} {r : α} :
    r ∈ (t.deleteMany w).rows ↔ r ∈ t.rows ∧ w r = false := by
  simp [deleteMany]

theorem count_pos_iff (t : Table α) (w : α → Bool) :
    0 < t.count w ↔ ∃ r ∈ t.rows, w r = true := List.countP_pos_iff

theorem count_eq_zero_iff (t : Table α) (w : α → Bool) :
    t.count w = 0 ↔ ∀ r ∈ t.rows, ¬ w r = true := List.countP_eq_zero

theorem updateMany_of_none {t : Table α} {w : α → Bool} {d : α → α}
    (h : ∀ r ∈ t.rows, w r = false) : t.updateMany w d = t := by
  obtain ⟨rows⟩ := t
  simp only [updateMany, mk.injEq]
  conv_rhs => rw [← List.map_id rows]
  exact List.map_congr_left fun r hr => by simp [h r hr]

theorem mem_updateMany {t : Table α} {w : α → Bool} {d : α → α} {r : α} :
    r ∈ (t.updateMany w d).rows ↔ ∃ r₀ ∈ t.rows, (if w r₀ then d r₀ else r₀) = r := by
  simp [updateMany]

theorem mem_insert {t : Table α} {r r' : α} : r' ∈ (t.insert r).rows ↔ r' ∈ t.rows ∨ r' = r := by
  simp [insert]

def keys (t : Table α) : List κ := t.rows.map key

omit [DecidableEq κ] in
theorem keys_updateMany (t : Table α) (w : α → Bool) {d : α → α} (hd : ∀ r, key (d r) = key r) :
    (t.updateMany w d).keys = t.keys := by
  simp only [keys, Table.updateMany, List.map_map]
  refine List.map_congr_left fun r _ => ?_
  simp only [Function.comp]
  split
  · exact hd r
  · rfl

omit [DecidableEq κ] in
theorem keys_insert (t : Table α) (r : α) : (t.insert r).keys = t.keys ++ [key r] := by
  simp [keys, insert]

theorem find?_isSome_iff {t : Table α} {k : κ} : (t.find? k).isSome ↔ k ∈ t.keys := by
  simp [find?, keys, List.find?_isSome]

/-- Primary keys: no two rows share one. -/
def Unique (t : Table α) : Prop := t.keys.Nodup

instance (t : Table α) : Decidable t.Unique := inferInstanceAs (Decidable (List.Nodup _))

omit [DecidableEq κ] in
theorem Unique.updateMany {t : Table α} (h : t.Unique) (w : α → Bool) {d : α → α}
    (hd : ∀ r, key (d r) = key r) : (t.updateMany w d).Unique := by
  rw [Unique, keys_updateMany t w hd]
  exact h

theorem Unique.find?_of_mem {t : Table α} (h : t.Unique) {r : α} (hr : r ∈ t.rows) :
    t.find? (key r) = some r := by
  obtain ⟨rows⟩ := t
  simp only [Unique, keys, find?] at h ⊢
  induction rows with
  | nil => cases hr
  | cons a rows ih =>
    rw [List.map_cons, List.nodup_cons] at h
    rcases List.mem_cons.mp hr with rfl | hr
    · simp
    · have hne : key a ≠ key r := fun heq => h.1 (heq ▸ List.mem_map_of_mem hr)
      simp only [List.find?_cons, hne, decide_false]
      exact ih h.2 hr

theorem Unique.count_of_key {t : Table α} (h : t.Unique) {k : κ} {w : α → Bool}
    (hw : ∀ r, w r = true → key r = k) : t.count w = ((t.find? k).any w).toNat := by
  obtain ⟨rows⟩ := t
  simp only [Unique, keys, find?, count] at h ⊢
  induction rows with
  | nil => rfl
  | cons a rows ih =>
    rw [List.map_cons, List.nodup_cons] at h
    by_cases ha : key a = k
    · have hrest : rows.countP w = 0 := by
        refine List.countP_eq_zero.mpr fun r hr hwr => h.1 ?_
        rw [ha, ← hw r hwr]
        exact List.mem_map_of_mem hr
      rw [List.countP_cons, hrest, List.find?_cons_of_pos (by simpa using ha)]
      cases hwa : w a <;> simp [hwa]
    · have hwa : w a = false := by
        cases hwa : w a with
        | false => rfl
        | true => exact absurd (hw a hwa) ha
      rw [List.countP_cons_of_neg (by simp [hwa]), ih h.2,
        List.find?_cons_of_neg (by simpa using ha)]

end Table

end Store
