import Mathlib.Tactic.Common
import Mathlib.Data.List.Infix

/-!
# InitPad.Store.Tree

A tree of entries that are named by their path from the root, as a file system offers it to its
clients. An entry does not need its parents: what a client can see is which paths are occupied and
by what. `Clear p` says that nothing is left at `p` or below it.
-/

namespace Store

/-- Entries by path; the first entry of a path is the one that counts. -/
structure Tree (κ ν : Type) where
  entries : List (List κ × ν) := []
  deriving DecidableEq

namespace Tree

variable {κ ν : Type} [DecidableEq κ]

def get? (t : Tree κ ν) (p : List κ) : Option ν := (t.entries.find? fun e => e.1 == p).map (·.2)

/-- Paths strictly below `p`. -/
def Below (p q : List κ) : Bool := p.isPrefixOf q && p != q

/-- Nothing is strictly below `p`. -/
def bare (t : Tree κ ν) (p : List κ) : Bool := t.entries.all fun e => !Below p e.1

/-- Nothing is at `p` or below it. -/
def clear (t : Tree κ ν) (p : List κ) : Bool := t.entries.all fun e => !p.isPrefixOf e.1

/-- The names directly below `p`, with their entries. -/
def children (t : Tree κ ν) (p : List κ) : List (κ × ν) :=
  t.entries.filterMap fun e =>
    match e.1.getLast? with
    | some name => if e.1 == p ++ [name] then some (name, e.2) else none
    | none => none

def set (t : Tree κ ν) (p : List κ) (v : ν) : Tree κ ν :=
  ⟨(p, v) :: t.entries.filter fun e => e.1 != p⟩

/-- Without the entry at `p`. -/
def erase (t : Tree κ ν) (p : List κ) : Tree κ ν := ⟨t.entries.filter fun e => e.1 != p⟩

/-- Without the entries at `p` and below that are not kept. A kept entry keeps its parents. -/
def prune (t : Tree κ ν) (p : List κ) (kept : List κ → Bool) : Tree κ ν :=
  ⟨t.entries.filter fun e =>
    !p.isPrefixOf e.1 || t.entries.any fun d => e.1.isPrefixOf d.1 && kept d.1⟩

/-- What was at `p` and below, now at `q` and below; what was at `q` is gone. -/
def move (t : Tree κ ν) (p q : List κ) : Tree κ ν :=
  ⟨(t.entries.filter fun e => !q.isPrefixOf e.1 || p.isPrefixOf e.1).map fun e =>
    if p.isPrefixOf e.1 then (q ++ e.1.drop p.length, e.2) else e⟩

omit [DecidableEq κ] in
/-- Neither path is the other or below it. -/
def Apart (p q : List κ) : Prop := ¬ p <+: q ∧ ¬ q <+: p

omit [DecidableEq κ] in
theorem Apart.symm {p q : List κ} (h : Apart p q) : Apart q p := ⟨h.2, h.1⟩

omit [DecidableEq κ] in
theorem Apart.not_prefix {p q r : List κ} (h : Apart p q) (hp : p <+: r) : ¬ q <+: r := by
  intro hq
  rcases List.prefix_or_prefix_of_prefix hp hq with hpq | hqp
  · exact h.1 hpq
  · exact h.2 hqp

omit [DecidableEq κ] in
theorem apart_of_ne {root xs ys : List κ} {a b : κ} (hne : a ≠ b) :
    Apart (root ++ a :: xs) (root ++ b :: ys) := by
  constructor
  · intro h
    exact hne (List.cons_prefix_cons.mp ((List.prefix_append_right_inj root).mp h)).1
  · intro h
    exact hne (List.cons_prefix_cons.mp ((List.prefix_append_right_inj root).mp h)).1.symm

/-! ## What is left at a path -/

variable {t : Tree κ ν} {p q r : List κ}

theorem clear_iff : t.clear p = true ↔ ∀ e ∈ t.entries, ¬ p <+: e.1 := by
  simp only [clear, List.all_eq_true, Bool.not_eq_true', List.isPrefixOf_iff_prefix,
    Bool.eq_false_iff, ne_eq]

theorem bare_iff : t.bare p = true ↔ ∀ e ∈ t.entries, p <+: e.1 → e.1 = p := by
  simp only [bare, Below, List.all_eq_true]
  refine forall₂_congr fun e _ => ?_
  have hpre : p.isPrefixOf e.1 = true ↔ p <+: e.1 := List.isPrefixOf_iff_prefix
  cases hb : p.isPrefixOf e.1 with
  | false => simp [hb, ← hpre]
  | true => simp [hb, ← hpre, eq_comm (a := p)]

theorem get?_of_clear (h : t.clear p = true) : t.get? p = none := by
  rw [get?, Option.map_eq_none_iff, List.find?_eq_none]
  intro e he heq
  exact clear_iff.1 h e he (by rw [beq_iff_eq.mp heq])

theorem clear_of_bare (hbare : t.bare p = true) (hget : t.get? p = none) : t.clear p = true := by
  rw [get?, Option.map_eq_none_iff, List.find?_eq_none] at hget
  refine clear_iff.2 fun e he hp => hget e he ?_
  rw [beq_iff_eq]
  exact bare_iff.1 hbare e he hp

theorem clear_of_subset {t' : Tree κ ν} (hsub : ∀ e ∈ t'.entries, e ∈ t.entries)
    (h : t.clear p = true) : t'.clear p = true :=
  clear_iff.2 fun e he => clear_iff.1 h e (hsub e he)

theorem clear_congr {t' : Tree κ ν}
    (h : ∀ e, p <+: e.1 → (e ∈ t'.entries ↔ e ∈ t.entries)) : t'.clear p = t.clear p := by
  rw [Bool.eq_iff_iff, clear_iff, clear_iff]
  constructor
  · intro hc e he hp
    exact hc e ((h e hp).mpr he) hp
  · intro hc e he hp
    exact hc e ((h e hp).mp he) hp

theorem mem_erase {e : List κ × ν} : e ∈ (t.erase p).entries ↔ e ∈ t.entries ∧ e.1 ≠ p := by
  simp [erase]

theorem clear_erase_self : (t.erase p).clear p = t.bare p := by
  rw [Bool.eq_iff_iff, clear_iff, bare_iff]
  constructor
  · intro h e he hp
    by_contra hne
    exact h e (mem_erase.mpr ⟨he, hne⟩) hp
  · intro h e he hp
    obtain ⟨hmem, hne⟩ := mem_erase.1 he
    exact hne (h e hmem hp)

theorem mem_set {e : List κ × ν} {v : ν} :
    e ∈ (t.set p v).entries ↔ e = (p, v) ∨ e ∈ t.entries ∧ e.1 ≠ p := by
  simp [set]

variable {kept : List κ → Bool}

theorem mem_prune {e : List κ × ν} : e ∈ (t.prune p kept).entries ↔
    e ∈ t.entries ∧ (p <+: e.1 → ∃ d ∈ t.entries, e.1 <+: d.1 ∧ kept d.1 = true) := by
  simp only [prune, List.mem_filter, Bool.or_eq_true, Bool.not_eq_true', List.any_eq_true,
    Bool.and_eq_true, Bool.eq_false_iff, ne_eq, List.isPrefixOf_iff_prefix]
  refine and_congr_right fun _ => ?_
  by_cases hp : p <+: e.1
  · simp [hp]
  · simp [hp]

theorem clear_prune_self (t : Tree κ ν) (p : List κ) (kept : List κ → Bool) :
    (t.prune p kept).clear p = true ↔
    ∀ e ∈ t.entries, p <+: e.1 → kept e.1 = false := by
  rw [clear_iff]
  constructor
  · intro h e he hp
    by_contra hkept
    refine h e (mem_prune.mpr ⟨he, fun _ => ⟨e, he, List.prefix_refl _, ?_⟩⟩) hp
    exact Bool.not_eq_false _ ▸ hkept
  · intro h e he hp
    obtain ⟨d, hd, hed, hkept⟩ := (mem_prune.mp he).2 hp
    rw [h d hd (hp.trans hed)] at hkept
    cases hkept

theorem mem_move {e : List κ × ν} : e ∈ (t.move p q).entries ↔
    (∃ d ∈ t.entries, p <+: d.1 ∧ e = (q ++ d.1.drop p.length, d.2)) ∨
      e ∈ t.entries ∧ ¬ p <+: e.1 ∧ ¬ q <+: e.1 := by
  simp only [move, List.mem_map, List.mem_filter, Bool.or_eq_true, Bool.not_eq_true',
    Bool.eq_false_iff, ne_eq, List.isPrefixOf_iff_prefix]
  constructor
  · rintro ⟨d, ⟨hd, hor⟩, rfl⟩
    by_cases hp : p <+: d.1
    · exact .inl ⟨d, hd, hp, if_pos hp⟩
    · rw [if_neg hp]
      exact .inr ⟨hd, hp, hor.resolve_right hp⟩
  · rintro (⟨d, hd, hp, rfl⟩ | ⟨he, hp, hq⟩)
    · exact ⟨d, ⟨hd, .inr hp⟩, if_pos hp⟩
    · exact ⟨e, ⟨he, .inl hq⟩, if_neg hp⟩

theorem clear_move_self (h : Apart p q) : (t.move p q).clear p = true := by
  refine clear_iff.2 fun e he hp => ?_
  rcases mem_move.1 he with ⟨d, _, _, rfl⟩ | ⟨_, hne, _⟩
  · exact h.not_prefix hp (List.prefix_append _ _)
  · exact hne hp

end Tree

end Store
