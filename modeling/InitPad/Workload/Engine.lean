import Mathlib.Data.List.Nodup

/-!
# InitPad.Workload.Engine

A container engine: containers with an id and a name, both unique, that are created, started,
stopped, renamed and removed. What else a container has is the parameter `κ`.
-/

namespace Engine

structure Container (κ : Type) where
  id : Nat
  name : String
  config : κ
  running : Bool
  deriving DecidableEq

inductive Ref where
  | name (name : String)
  | id (id : Nat)

structure Host (κ : Type) where
  containers : List (Container κ) := []
  nextId : Nat := 0

variable {κ : Type}

def Ref.denotes : Ref → Container κ → Bool
  | .name n, c => c.name == n
  | .id i, c => c.id == i

namespace Host

def get? (h : Host κ) (ref : Ref) : Option (Container κ) := h.containers.find? ref.denotes

def create (h : Host κ) (name : String) (config : κ) : Host κ where
  containers := h.containers ++ [⟨h.nextId, name, config, false⟩]
  nextId := h.nextId + 1

def update (h : Host κ) (id : Nat) (d : Container κ → Container κ) : Host κ :=
  { h with containers := h.containers.map fun c => if c.id = id then d c else c }

def rename (h : Host κ) (id : Nat) (name : String) : Host κ := h.update id ({ · with name := name })

def remove (h : Host κ) (id : Nat) : Host κ :=
  { h with containers := h.containers.filter fun c => decide (c.id ≠ id) }

/-- Ids and names are unique, and no id is given twice. -/
structure WellFormed (h : Host κ) : Prop where
  ids : (h.containers.map (·.id)).Nodup
  names : (h.containers.map (·.name)).Nodup
  fresh : ∀ c ∈ h.containers, c.id < h.nextId

section Lookups

variable {h : Host κ} {c c' : Container κ} {ref : Ref} {name : String} {id : Nat}

theorem mem_of_get? (hc : h.get? ref = some c) : c ∈ h.containers ∧ ref.denotes c = true :=
  ⟨List.mem_of_find?_eq_some hc, List.find?_some hc⟩

theorem get?_eq_none : h.get? ref = none ↔ ∀ c ∈ h.containers, ref.denotes c = false := by
  unfold get?
  simp

namespace WellFormed

variable (hw : h.WellFormed)
include hw

theorem eq_of_id (hc : c ∈ h.containers) (hc' : c' ∈ h.containers) (hid : c.id = c'.id) : c = c' :=
  List.inj_on_of_nodup_map hw.ids hc hc' hid

theorem eq_of_name (hc : c ∈ h.containers) (hc' : c' ∈ h.containers) (hname : c.name = c'.name) :
    c = c' :=
  List.inj_on_of_nodup_map hw.names hc hc' hname

theorem get?_eq_some : h.get? ref = some c ↔ c ∈ h.containers ∧ ref.denotes c = true := by
  constructor
  · exact mem_of_get?
  · rintro ⟨hc, hdenotes⟩
    cases hfound : h.get? ref with
    | none =>
      have hnot := get?_eq_none.1 hfound c hc
      rw [hdenotes] at hnot
      cases hnot
    | some c' =>
      obtain ⟨hc', hdenotes'⟩ := mem_of_get? hfound
      cases ref with
      | name n =>
        simp only [Ref.denotes, beq_iff_eq] at hdenotes hdenotes'
        rw [hw.eq_of_name hc hc' (hdenotes.trans hdenotes'.symm)]
      | id i =>
        simp only [Ref.denotes, beq_iff_eq] at hdenotes hdenotes'
        rw [hw.eq_of_id hc hc' (hdenotes.trans hdenotes'.symm)]

theorem get?_id (hc : c ∈ h.containers) : h.get? (.id c.id) = some c :=
  hw.get?_eq_some.mpr ⟨hc, beq_self_eq_true _⟩

theorem get?_name (hc : c ∈ h.containers) : h.get? (.name c.name) = some c :=
  hw.get?_eq_some.mpr ⟨hc, beq_self_eq_true _⟩

end WellFormed

/-! ## Effects -/

theorem mem_create {config : κ} : c ∈ (h.create name config).containers ↔
    c ∈ h.containers ∨ c = ⟨h.nextId, name, config, false⟩ := by
  simp [create]

theorem mem_remove : c ∈ (h.remove id).containers ↔ c ∈ h.containers ∧ c.id ≠ id := by
  simp [remove]

theorem mem_update {d : Container κ → Container κ} : c ∈ (h.update id d).containers ↔
    ∃ c₀ ∈ h.containers, (if c₀.id = id then d c₀ else c₀) = c := by
  simp [update]

theorem mem_update_of_ne {d : Container κ → Container κ} (hc : c ∈ h.containers) (hne : c.id ≠ id) :
    c ∈ (h.update id d).containers :=
  mem_update.2 ⟨c, hc, if_neg hne⟩

theorem mem_update_self {d : Container κ → Container κ} (hc : c ∈ h.containers) :
    d c ∈ (h.update c.id d).containers :=
  mem_update.2 ⟨c, hc, if_pos rfl⟩

theorem get?_update {d : Container κ → Container κ} (hname : ∀ c, (d c).name = c.name) :
    (h.update id d).get? (.name name) =
      (h.get? (.name name)).map fun c => if c.id = id then d c else c := by
  unfold get? update
  rw [List.find?_map]
  congr 2
  funext c
  simp only [Function.comp_apply, Ref.denotes]
  split
  · rw [hname]
  · rfl

namespace WellFormed

variable (hw : h.WellFormed)
include hw

theorem create {config : κ} (hname : ∀ c ∈ h.containers, c.name ≠ name) :
    (h.create name config).WellFormed where
  ids := by
    simp only [Host.create, List.map_append, List.map_cons, List.map_nil]
    refine List.nodup_append.mpr ⟨hw.ids, List.nodup_singleton _, ?_⟩
    intro id hid id' hid'
    obtain ⟨c, hc, rfl⟩ := List.mem_map.mp hid
    rw [List.mem_singleton.mp hid']
    exact Nat.ne_of_lt (hw.fresh c hc)
  names := by
    simp only [Host.create, List.map_append, List.map_cons, List.map_nil]
    refine List.nodup_append.mpr ⟨hw.names, List.nodup_singleton _, ?_⟩
    intro name' hname' name'' hname''
    obtain ⟨c, hc, rfl⟩ := List.mem_map.mp hname'
    rw [List.mem_singleton.mp hname'']
    exact hname c hc
  fresh := by
    intro c hc
    rcases mem_create.1 hc with hc | rfl
    · exact Nat.lt_succ_of_lt (hw.fresh c hc)
    · exact Nat.lt_succ_self _

theorem remove : (h.remove id).WellFormed where
  ids := hw.ids.sublist (List.filter_sublist.map _)
  names := hw.names.sublist (List.filter_sublist.map _)
  fresh c hc := hw.fresh c (mem_remove.mp hc).1

theorem update {d : Container κ → Container κ} (hid : ∀ c, (d c).id = c.id)
    (hname : ∀ c ∈ h.containers, c.id = id → ∀ c' ∈ h.containers, c'.id ≠ id →
      (d c).name ≠ c'.name) : (h.update id d).WellFormed where
  ids := by
    have hsame : (h.update id d).containers.map (·.id) = h.containers.map (·.id) := by
      unfold Host.update
      rw [List.map_map]
      refine List.map_congr_left fun c _ => ?_
      simp only [Function.comp_apply]
      split
      · exact hid c
      · rfl
    rw [hsame]
    exact hw.ids
  names := by
    unfold Host.update
    rw [List.map_map]
    refine List.Nodup.map_on ?_ (List.Nodup.of_map _ hw.ids)
    intro c hc c' hc' hsame
    simp only [Function.comp_apply] at hsame
    split at hsame
    · rename_i hcid
      split at hsame
      · rename_i hcid'
        exact hw.eq_of_id hc hc' (hcid.trans hcid'.symm)
      · rename_i hcid'
        exact absurd hsame (hname c hc hcid c' hc' hcid')
    · rename_i hcid
      split at hsame
      · rename_i hcid'
        exact absurd hsame.symm (hname c' hc' hcid' c hc hcid)
      · exact hw.eq_of_name hc hc' hsame
  fresh c hc := by
    obtain ⟨c₀, hc₀, rfl⟩ := mem_update.1 hc
    split
    · rw [hid]
      exact hw.fresh c₀ hc₀
    · exact hw.fresh c₀ hc₀

theorem rename (hfree : ∀ c ∈ h.containers, c.name ≠ name) : (h.rename id name).WellFormed :=
  hw.update (fun _ => rfl) fun _ _ _ c' hc' _ => (hfree c' hc').symm

theorem update_config {d : Container κ → Container κ} (hid : ∀ c, (d c).id = c.id)
    (hname : ∀ c, (d c).name = c.name) : (h.update id d).WellFormed := by
  refine hw.update hid fun c hc hcid c' hc' hcid' hsame => hcid' ?_
  rw [hname c] at hsame
  rw [← hw.eq_of_name hc hc' hsame]
  exact hcid

end WellFormed

end Lookups

end Host

end Engine
