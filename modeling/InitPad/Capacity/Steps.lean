import InitPad.Capacity.Statement
import Mathlib.Data.List.Nodup

/-!
# InitPad.Capacity.Steps

What each transaction does to the usage of a workspace, to the ids that are given, and to the
number of environments bound to an allocation. A transaction either uses no more of anything
(`Shrinks`), or takes an amount of one resource (`Takes`); both say which bindings it adds.
-/

namespace InitPad.Capacity

open Interleave Store
open Provisioning (InstanceId)

variable {β : Type}

/-- No usage is raised above the limit in force. -/
def KeepsLimits (w w' : World) : Prop :=
  ∀ workspaceId resource limit, w.limit workspaceId resource = some limit →
    w.usage workspaceId resource < w'.usage workspaceId resource →
    w'.usage workspaceId resource ≤ limit

def insertable (w : World) (workspaceId targetId : Id) : Bool :=
  (w.workspaces.find? workspaceId).isSome && (w.targets.find? targetId).isSome &&
    (w.allocationOf workspaceId targetId).isNone

section

variable {α : Type} {w w' : World} {workspaceId : Id} {resource : Resource} {n : Nat}
  {added : List AllocationKey}

@[simp] theorem bind_eq_ok {x : Except Failure α} {f : α → Except Failure β} {b : β} :
    (x >>= f) = .ok b ↔ ∃ a, x = .ok a ∧ f a = .ok b := by
  cases x with
  | error failure =>
    constructor
    · intro h
      cases h
    · rintro ⟨a, h, -⟩
      cases h
  | ok a =>
    constructor
    · intro h
      exact ⟨a, rfl, h⟩
    · rintro ⟨a', h, hb⟩
      cases h
      exact hb

@[simp] theorem pure_eq_ok {a b : α} : (pure a : Except Failure α) = .ok b ↔ a = b :=
  Except.ok.injEq a b ▸ Iff.rfl

@[simp] theorem found_eq_ok {row : Option α} {a : α} : found row = .ok a ↔ row = some a := by
  cases row <;> simp [found]

@[simp] theorem failIf_eq_ok {condition : Bool} {text : String} {u : Unit} :
    failIf condition text = .ok u ↔ condition = false := by
  cases condition <;> simp [failIf]

theorem found_bind_ok {row : Option α} {f : α → Except Failure β} {b : β}
    (h : (found row >>= f) = .ok b) : ∃ a, row = some a ∧ f a = .ok b := by
  obtain ⟨a, hfound, h⟩ := bind_eq_ok.1 h
  exact ⟨a, found_eq_ok.1 hfound, h⟩

theorem failIf_bind_ok {condition : Bool} {text : String} {f : Unit → Except Failure β} {b : β}
    (h : (failIf condition text >>= f) = .ok b) : condition = false ∧ f () = .ok b := by
  obtain ⟨⟨⟩, hfree, h⟩ := bind_eq_ok.1 h
  exact ⟨failIf_eq_ok.1 hfree, h⟩

theorem assertAvailable_eq_ok {excluded : Option Id} {u : Unit} :
    assertAvailable w workspaceId resource n excluded = .ok u ↔
      ∃ limit, w.limit workspaceId resource = some limit ∧
        w.used workspaceId excluded resource + n ≤ limit := by
  unfold assertAvailable
  cases hlimit : w.limit workspaceId resource with
  | none => simp
  | some limit =>
    by_cases hexceeded : limit < w.used workspaceId excluded resource + n
    · simp [hexceeded]
    · simp only [hexceeded, if_false, true_iff]
      exact ⟨limit, rfl, Nat.le_of_not_lt hexceeded⟩

/-! ## Usage -/

/-- Ids of allocations are given once, and a step binds no environments but to the allocations that
it adds bindings to. -/
structure Frame (added : List AllocationKey) (w w' : World) : Prop where
  nextId : w.nextId ≤ w'.nextId
  allocationIds : ∀ a ∈ w'.allocations.keys,
      a ∈ w.allocations.keys ∨ w.nextId ≤ a.id ∧ a.id < w'.nextId
  bound : ∀ a, w'.bound a ≤ w.bound a + added.count a

/-- A step that gives no provisioning operation a new id. -/
structure SameIds (added : List AllocationKey) (w w' : World) : Prop extends Frame added w w' where
  operationIds : w'.provisioningOperations.keys = w.provisioningOperations.keys

/-- A step after which no workspace uses more of anything. -/
structure Shrinks (added : List AllocationKey) (w w' : World) : Prop
    extends SameIds added w w' where
  projects : ∀ workspaceId, (w'.projects.count fun p => p.key.workspaceId = workspaceId) ≤
      w.projects.count fun p => p.key.workspaceId = workspaceId
  members : ∀ workspaceId, (w'.members.count fun m => m.workspaceId = workspaceId) ≤
      w.members.count fun m => m.workspaceId = workspaceId
  allocations : ∀ workspaceId, (w'.allocations.count fun a => a.key.workspaceId = workspaceId) ≤
      w.allocations.count fun a => a.key.workspaceId = workspaceId
  deploymentOperations : ∀ workspaceId,
      w'.deploymentOperations.count (World.runningIn workspaceId) ≤
        w.deploymentOperations.count (World.runningIn workspaceId)
  provisioningOperations : ∀ workspaceId,
      w'.provisioningOperations.count (World.activeIn workspaceId none) ≤
        w.provisioningOperations.count (World.activeIn workspaceId none)
  artifacts : ∀ workspaceId, w'.artifacts.sum (World.reservedBytes workspaceId) ≤
      w.artifacts.sum (World.reservedBytes workspaceId)

theorem Frame.refl (w : World) : Frame [] w w :=
  ⟨Nat.le_refl _, fun _ h => .inl h, fun _ => Nat.le_refl _⟩

theorem SameIds.refl (w : World) : SameIds [] w w := ⟨.refl w, rfl⟩

theorem Shrinks.refl (w : World) : Shrinks [] w w where
  toSameIds := .refl w
  projects _ := Nat.le_refl _
  members _ := Nat.le_refl _
  allocations _ := Nat.le_refl _
  deploymentOperations _ := Nat.le_refl _
  provisioningOperations _ := Nat.le_refl _
  artifacts _ := Nat.le_refl _

theorem Shrinks.usage_le (h : Shrinks added w w') (workspaceId : Id) (resource : Resource) :
    w'.usage workspaceId resource ≤ w.usage workspaceId resource := by
  cases resource with
  | projects => exact h.projects _
  | members => exact h.members _
  | targets => exact h.allocations _
  | concurrentOperations =>
    exact Nat.add_le_add (h.deploymentOperations _) (h.provisioningOperations _)
  | artifactBytes => exact h.artifacts _

theorem Shrinks.keeps (h : Shrinks added w w') : KeepsLimits w w' := by
  intro workspaceId resource limit _ hraised
  have hle := h.usage_le workspaceId resource
  omega

/-- A step that takes `n` of one resource, and nothing else. -/
structure Takes (added : List AllocationKey) (w w' : World) (workspaceId : Id)
    (resource : Resource) (n : Nat) : Prop extends SameIds added w w' where
  usage : ∀ workspaceId' resource', w'.usage workspaceId' resource' =
    w.usage workspaceId' resource' +
      if workspaceId' = workspaceId ∧ resource' = resource then n else 0

theorem Takes.self (h : Takes added w w' workspaceId resource n) :
    w'.usage workspaceId resource = w.usage workspaceId resource + n := by
  rw [h.usage workspaceId resource, if_pos ⟨rfl, rfl⟩]

theorem Takes.keeps (h : Takes added w w' workspaceId resource n)
    (hroom : 0 < n → ∀ limit, w.limit workspaceId resource = some limit →
      w.usage workspaceId resource + n ≤ limit) : KeepsLimits w w' := by
  intro workspaceId' resource' limit hlimit hraised
  rw [h.usage workspaceId' resource'] at hraised ⊢
  split at hraised
  · rename_i hself
    obtain ⟨rfl, rfl⟩ := hself
    rw [if_pos ⟨rfl, rfl⟩]
    exact hroom (by omega) limit hlimit
  · omega

theorem Takes.keeps_of_available (h : Takes added w w' workspaceId resource n)
    (havailable : assertAvailable w workspaceId resource n none = .ok ()) : KeepsLimits w w' := by
  obtain ⟨limit, hlimit, hroom⟩ := assertAvailable_eq_ok.1 havailable
  refine h.keeps fun _ limit' hlimit' => ?_
  cases hlimit.symm.trans hlimit'
  exact hroom

/-! ## What the transactions take -/

variable {userId targetId : Id} {instance_ : InstanceId}

theorem attachMember_takes {u : Unit} (h : attachMember workspaceId userId w = .ok (u, w')) :
    assertAvailable w workspaceId .members 1 none = .ok () ∧
      Takes [] w w' workspaceId .members 1 := by
  obtain ⟨⟨⟩, havailable, h⟩ := bind_eq_ok.1 h
  obtain ⟨-, h⟩ := failIf_bind_ok h
  cases h
  refine ⟨havailable, { SameIds.refl w with }, fun workspaceId' resource' => ?_⟩
  cases resource' <;> simp [eq_comm]

theorem insertAllocation_takes {capabilities : List RuntimeKind} {maxEnvironments : Nat}
    {a : Allocation}
    (h : insertAllocation workspaceId targetId capabilities maxEnvironments w = .ok (a, w')) :
    Takes [] w w' workspaceId .targets 1 := by
  obtain ⟨-, -, h⟩ := found_bind_ok h
  obtain ⟨-, -, h⟩ := found_bind_ok h
  obtain ⟨-, h⟩ := failIf_bind_ok h
  cases h
  refine ⟨{ SameIds.refl w with nextId := Nat.le_succ _, allocationIds := fun a ha => ?_ },
    fun workspaceId' resource' => ?_⟩
  · rw [Table.keys_insert] at ha
    rcases List.mem_append.mp ha with ha | ha
    · exact .inl ha
    · obtain rfl := List.mem_singleton.mp ha
      exact .inr ⟨Nat.le_refl _, Nat.lt_succ_self _⟩
  · cases resource' <;> simp [World.fresh, eq_comm]

theorem insertAllocation_ok (capabilities : List RuntimeKind) (maxEnvironments : Nat)
    (h : insertable w workspaceId targetId = true) :
    ∃ a w', insertAllocation workspaceId targetId capabilities maxEnvironments w = .ok (a, w') := by
  simp only [insertable, Bool.and_eq_true, Option.isSome_iff_exists, Option.isNone_iff_eq_none] at h
  obtain ⟨⟨⟨workspace, hworkspace⟩, target, htarget⟩, hnone⟩ := h
  rw [insertAllocation, hworkspace, htarget, hnone]
  exact ⟨_, _, rfl⟩

theorem insertable_of_ok {capabilities : List RuntimeKind} {maxEnvironments : Nat}
    {r : Allocation × World}
    (h : insertAllocation workspaceId targetId capabilities maxEnvironments w = .ok r) :
    insertable w workspaceId targetId = true := by
  obtain ⟨workspace, hworkspace, h⟩ := found_bind_ok h
  obtain ⟨target, htarget, h⟩ := found_bind_ok h
  obtain ⟨hnone, -⟩ := failIf_bind_ok h
  have hfree : (w.allocationOf workspaceId targetId).isNone = true := by
    simpa using hnone
  simp only [insertable, hworkspace, htarget, hfree, Option.isSome_some, Bool.and_self]

theorem updateAllocation_shrinks {allocation : AllocationKey} {patch : AllocationPatch} {u : Unit}
    (h : updateAllocation allocation patch w = .ok (u, w')) : Shrinks [] w w' := by
  obtain ⟨-, -, h⟩ := found_bind_ok h
  cases h
  refine { Shrinks.refl w with
    allocationIds := fun a ha => .inl ?_
    allocations := fun _ => Table.count_update_le _ _ fun _ hr => hr }
  have hkeys : (w.allocations.update allocation patch.apply).keys = w.allocations.keys :=
    Table.keys_update _ _ fun _ => rfl
  exact hkeys ▸ ha

theorem bound_unbindWhere (w : World) (gone : AllocationKey → Bool) (a : AllocationKey) :
    (unbindWhere w gone).bound a ≤ w.bound a :=
  Table.count_updateMany_le _ _ fun e he => by simp at he

theorem mem_keys_deleteMany {κ : Type} [Keyed α κ] [DecidableEq κ] {t : Table α} {p : α → Bool}
    {k : κ} (h : k ∈ (t.deleteMany p).keys) : k ∈ t.keys := by
  obtain ⟨r, hr, rfl⟩ := List.mem_map.mp h
  exact List.mem_map_of_mem (Table.mem_deleteMany.mp hr).1

theorem deleteAllocation_shrinks {allocation : AllocationKey} {u : Unit}
    (h : deleteAllocation allocation w = .ok (u, w')) : Shrinks [] w w' := by
  obtain ⟨-, -, h⟩ := found_bind_ok h
  cases h
  exact { Shrinks.refl w with
    allocationIds := fun a ha => .inl (mem_keys_deleteMany ha)
    bound := bound_unbindWhere w _
    allocations := fun _ => Table.count_deleteMany_le _ _ _ }

theorem deleteTarget_shrinks {u : Unit} (h : deleteTarget targetId w = .ok (u, w')) :
    Shrinks [] w w' := by
  obtain ⟨-, -, h⟩ := found_bind_ok h
  cases h
  refine { Shrinks.refl w with
    allocationIds := fun a ha => .inl (mem_keys_deleteMany ha)
    bound := fun a => Nat.le_trans (bound_unbindWhere _ _ a) ?_
    allocations := fun _ => Table.count_deleteMany_le _ _ _ }
  exact Table.count_updateMany_le _ _ fun e he => by simp at he

theorem deleteMember_shrinks {u : Unit} (h : deleteMember workspaceId userId w = .ok (u, w')) :
    Shrinks [] w w' := by
  obtain ⟨-, -, h⟩ := found_bind_ok h
  cases h
  exact { Shrinks.refl w with members := fun _ => Table.count_deleteMany_le _ _ _ }

theorem createTarget_takes {capabilities : List RuntimeKind} {a : Allocation}
    (h : createTarget workspaceId capabilities w = .ok (a, w')) :
    assertAvailable w workspaceId .targets 1 none = .ok () ∧
      Takes [] w w' workspaceId .targets 1 := by
  obtain ⟨⟨⟩, havailable, hinsert⟩ := bind_eq_ok.1 h
  have htakes := insertAllocation_takes hinsert
  refine ⟨havailable, { SameIds.refl w with
    nextId := Nat.le_of_succ_le htakes.nextId
    allocationIds := fun a ha => (htakes.allocationIds a ha).imp_right fun hid =>
      ⟨Nat.le_of_succ_le hid.1, hid.2⟩
    bound := htakes.bound
    operationIds := htakes.operationIds },
    fun workspaceId' resource' => ?_⟩
  rw [htakes.usage workspaceId' resource']
  cases resource' <;> rfl

theorem createAllocation_takes {capabilities : List RuntimeKind} {maxEnvironments : Option Nat}
    {a : Allocation}
    (h : createAllocation workspaceId targetId capabilities maxEnvironments w = .ok (a, w')) :
    assertAvailable w workspaceId .targets 1 none = .ok () ∧
      Takes [] w w' workspaceId .targets 1 := by
  obtain ⟨⟨⟩, havailable, hinsert⟩ := bind_eq_ok.1 h
  exact ⟨havailable, insertAllocation_takes hinsert⟩

theorem countP_newEnvironments (project : ProjectKey) (deployed : EnvName → Deployed)
    (a : AllocationKey) (envTargets : List ResolvedEnvironmentTarget) : ∀ order,
    ((newEnvironments project deployed order envTargets).countP fun e => e.allocation = some a) =
      (envTargets.map (·.allocation)).count a := by
  induction envTargets with
  | nil =>
    intro order
    rfl
  | cons r rest ih =>
    intro order
    simp [newEnvironments, ih (order + 1), List.countP_cons, List.count_cons]

theorem createProject_takes {preset : PipelinePreset} {envTargets : List ResolvedEnvironmentTarget}
    {deployed : EnvName → Deployed} {project : ProjectKey}
    (h : createProject workspaceId preset envTargets deployed w = .ok (project, w')) :
    assertAvailable w workspaceId .projects 1 none = .ok () ∧
      Takes (envTargets.map (·.allocation)) w w' workspaceId .projects 1 := by
  obtain ⟨⟨⟩, havailable, h⟩ := bind_eq_ok.1 h
  obtain ⟨-, -, h⟩ := bind_eq_ok.1 h
  cases h
  refine ⟨havailable, { SameIds.refl w with
    nextId := Nat.le_trans (Nat.le_succ _) (Nat.le_add_right _ _)
    allocationIds := fun _ h => .inl h
    bound := fun a => ?_ }, fun workspaceId' resource' => ?_⟩
  · simp only [World.bound, Table.count_insertMany, countP_newEnvironments]
    exact Nat.le_refl _
  · cases resource' <;> simp [eq_comm]

theorem deleteProject_shrinks {project : ProjectKey} {u : Unit}
    (h : deleteProject project w = .ok (u, w')) : Shrinks [] w w' := by
  obtain ⟨-, -, h⟩ := found_bind_ok h
  cases h
  exact { Shrinks.refl w with
    bound := fun _ => Table.count_deleteMany_le _ _ _
    projects := fun _ => Table.count_deleteMany_le _ _ _
    deploymentOperations := fun _ => Table.count_deleteMany_le _ _ _
    artifacts := fun _ => Table.sum_deleteMany_le _ _ _ }

/-! ## The environments alone -/

/-- Worlds that differ in what no limit counts. -/
def SameCounts (w w' : World) : Prop :=
  w'.projects = w.projects ∧ w'.members = w.members ∧ w'.allocations = w.allocations ∧
    w'.deploymentOperations = w.deploymentOperations ∧
    w'.provisioningOperations = w.provisioningOperations ∧ w'.artifacts = w.artifacts ∧
    w.nextId ≤ w'.nextId

theorem placeStage_same {change : PresetChange} {order : Nat} {name : EnvName}
    (h : change.placeStage order name w = .ok w') : SameCounts w w' := by
  unfold PresetChange.placeStage at h
  split at h
  · simp only [bind_eq_ok, found_eq_ok, pure_eq_ok] at h
    obtain ⟨-, -, rfl⟩ := h
    exact ⟨rfl, rfl, rfl, rfl, rfl, rfl, Nat.le_refl _⟩
  · split at h
    · cases h
    · simp only [bind_eq_ok, failIf_eq_ok, pure_eq_ok] at h
      obtain ⟨-, -, -, -, rfl⟩ := h
      exact ⟨rfl, rfl, rfl, rfl, rfl, rfl, Nat.le_succ _⟩

theorem placeStages_same {change : PresetChange} {names : List EnvName} :
    ∀ {order : Nat} {w : World}, change.placeStages order names w = .ok w' → SameCounts w w' := by
  induction names with
  | nil =>
    intro order w h
    cases h
    exact ⟨rfl, rfl, rfl, rfl, rfl, rfl, Nat.le_refl _⟩
  | cons name names ih =>
    intro order w h
    simp only [PresetChange.placeStages, bind_eq_ok] at h
    obtain ⟨w₁, hplace, hrest⟩ := h
    obtain ⟨hp, hm, ha, hd, hv, hb, hid⟩ := placeStage_same hplace
    obtain ⟨hp', hm', ha', hd', hv', hb', hid'⟩ := ih hrest
    exact ⟨hp'.trans hp, hm'.trans hm, ha'.trans ha, hd'.trans hd, hv'.trans hv, hb'.trans hb,
      hid.trans hid'⟩

/-- The target that a created stage is bound to. -/
def PresetChange.binds (change : PresetChange) (a : AllocationKey) (name : EnvName) : Bool :=
  (change.addedTargets.find? (·.name = name)).any (·.allocation = a)

theorem placeStage_bound {change : PresetChange} {order : Nat} {name : EnvName}
    (h : change.placeStage order name w = .ok w') (a : AllocationKey) :
    w'.bound a ≤ w.bound a + if change.binds a name then 1 else 0 := by
  unfold PresetChange.placeStage at h
  split at h
  · simp only [bind_eq_ok, found_eq_ok, pure_eq_ok] at h
    obtain ⟨-, -, rfl⟩ := h
    exact Nat.le_add_right_of_le (Table.count_update_le _ _ fun _ he => he)
  · split at h
    · cases h
    · rename_i resolved hresolved
      simp only [bind_eq_ok, failIf_eq_ok, pure_eq_ok] at h
      obtain ⟨-, -, -, -, rfl⟩ := h
      simp [World.bound, PresetChange.binds, hresolved]

theorem placeStages_bound {change : PresetChange} (a : AllocationKey) {names : List EnvName} :
    ∀ {order : Nat} {w : World}, change.placeStages order names w = .ok w' →
      w'.bound a ≤ w.bound a + names.countP (change.binds a) := by
  induction names with
  | nil =>
    intro order w h
    cases h
    exact Nat.le_refl _
  | cons name names ih =>
    intro order w h
    simp only [PresetChange.placeStages, bind_eq_ok] at h
    obtain ⟨w₁, hplace, hrest⟩ := h
    have hone := placeStage_bound hplace a
    have hmore := ih hrest
    rw [List.countP_cons]
    omega

theorem countP_binds_le (a : AllocationKey) {names : List EnvName} (hnames : names.Nodup) :
    ∀ added : List ResolvedEnvironmentTarget,
      (names.countP fun name => (added.find? (·.name = name)).any (·.allocation = a)) ≤
        (added.map (·.allocation)).count a := by
  intro added
  induction added with
  | nil => simp
  | cons r rest ih =>
    have hsplit : ∀ name : EnvName, ((r :: rest).find? (·.name = name)).any (·.allocation = a) =
        true → r.name = name ∧ r.allocation = a ∨
          (rest.find? (·.name = name)).any (·.allocation = a) = true := by
      intro name hname
      by_cases hr : r.name = name
      · rw [List.find?_cons_of_pos (by simpa using hr)] at hname
        exact .inl ⟨hr, by simpa using hname⟩
      · rw [List.find?_cons_of_neg (by simpa using hr)] at hname
        exact .inr hname
    have hsum : (names.countP fun name =>
        ((r :: rest).find? (·.name = name)).any (·.allocation = a)) ≤
        (names.countP fun name => decide (r.name = name ∧ r.allocation = a)) +
          names.countP fun name => (rest.find? (·.name = name)).any (·.allocation = a) := by
      clear ih hnames
      induction names with
      | nil => simp
      | cons name names ih =>
        have hname := hsplit name
        simp only [List.countP_cons]
        split
        · rename_i hmatch
          rcases hname hmatch with hr | hr
          · rw [if_pos (decide_eq_true hr)]
            omega
          · rw [if_pos hr]
            omega
        · omega
    have hone : (names.countP fun name => decide (r.name = name ∧ r.allocation = a)) ≤
        if r.allocation = a then 1 else 0 := by
      by_cases hr : r.allocation = a
      · simp only [hr, and_true, if_true]
        have hcount := List.nodup_iff_count_le_one.mp hnames r.name
        rw [List.count] at hcount
        refine Nat.le_trans (List.countP_mono_left fun name _ h => ?_) hcount
        exact beq_iff_eq.mpr (of_decide_eq_true h).symm
      · simp [hr]
    rw [List.map_cons, List.count_cons]
    have hbeq : (r.allocation == a) = decide (r.allocation = a) := rfl
    rw [hbeq]
    simp only [decide_eq_true_eq]
    omega

theorem pipelineStages_nodup (preset : PipelinePreset) : (pipelineStages preset).Nodup := by
  cases preset <;> decide

theorem changePreset_shrinks {pending : Bool} {change : PresetChange} {u : Unit}
    (h : changePreset pending change w = .ok (u, w')) :
    Shrinks (change.addedTargets.map (·.allocation)) w w' := by
  simp only [changePreset, bind_eq_ok, pure_eq_ok, Prod.mk.injEq] at h
  obtain ⟨-, -, -, -, -, -, -, -, -, -, w₁, hplace, -, rfl⟩ := h
  obtain ⟨hp, hm, ha, hd, hv, hb, hid⟩ := placeStages_same hplace
  have hbound : ∀ a, w₁.bound a ≤
      w.bound a + (change.addedTargets.map (·.allocation)).count a := by
    intro a
    have hplaced := placeStages_bound a hplace
    have hremoved : (change.removeStages w).bound a ≤ w.bound a := Table.count_deleteMany_le _ _ _
    have hadded := countP_binds_le a (pipelineStages_nodup change.nextPreset) change.addedTargets
    unfold PresetChange.binds at hplaced
    omega
  exact { Shrinks.refl w with
    nextId := hid
    allocationIds := fun a hmem => .inl (ha ▸ hmem)
    bound := hbound
    operationIds := congrArg Table.keys hv
    projects := fun p => by
      refine Nat.le_trans (Table.count_update_le _ _ fun _ hr => ?_) (Nat.le_of_eq ?_)
      · exact hr
      · rw [hp]
        rfl
    members := fun p => by rw [hm]; exact Nat.le_refl _
    allocations := fun _ => by rw [ha]; exact Nat.le_refl _
    deploymentOperations := fun _ => by rw [hd]; exact Table.count_deleteMany_le _ _ _
    provisioningOperations := fun _ => by rw [hv]; exact Nat.le_refl _
    artifacts := fun _ => by rw [hb]; exact Nat.le_refl _ }

theorem bindEnvironment_shrinks {binding : Binding} {u : Unit}
    (h : bindEnvironment binding w = .ok (u, w')) : Shrinks [binding.allocation] w w' := by
  obtain ⟨e, he, h⟩ := found_bind_ok h
  obtain ⟨-, -, h⟩ := bind_eq_ok.1 h
  cases h
  refine { Shrinks.refl w with bound := fun a => ?_ }
  have hcount := Table.count_updateFirst he binding.apply fun e => decide (e.allocation = some a)
  have hbinding : (binding.apply e).allocation = some binding.allocation := rfl
  simp only [hbinding, Option.some.injEq, decide_eq_true_eq] at hcount
  simp only [World.bound, List.count_singleton, beq_iff_eq]
  omega

theorem updateEnvironment_shrinks {environment : EnvironmentKey} {deployed : Deployed} {u : Unit}
    (h : updateEnvironment environment deployed w = .ok (u, w')) : Shrinks [] w w' := by
  cases h
  exact { Shrinks.refl w with bound := fun _ => Table.count_update_le _ _ fun _ he => he }

/-! ## Operations -/

theorem beginOperation_takes {asExpected : Bool} {environment : EnvironmentKey} {reason : String}
    {r : Id × Bool} (h : beginOperation asExpected environment reason w = .ok (r, w')) :
    assertAvailable w environment.project.workspaceId .concurrentOperations 1 none = .ok () ∧
      Takes [] w w' environment.project.workspaceId .concurrentOperations 1 := by
  obtain ⟨⟨⟩, havailable, h⟩ := bind_eq_ok.1 h
  obtain ⟨current, hcurrent, h⟩ := found_bind_ok h
  have htables : w'.projects = w.projects ∧ w'.members = w.members ∧
      w'.allocations = w.allocations ∧
      w'.deploymentOperations = w.deploymentOperations.insert ⟨w.nextId, environment, .running⟩ ∧
      w'.provisioningOperations = w.provisioningOperations ∧ w'.artifacts = w.artifacts ∧
      w.nextId ≤ w'.nextId ∧ ∀ a, w'.bound a ≤ w.bound a := by
    split at h
    · cases h
      exact ⟨rfl, rfl, rfl, rfl, rfl, rfl, Nat.le_succ _,
        fun _ => Table.count_update_le _ _ fun _ he => he⟩
    · cases h
      exact ⟨rfl, rfl, rfl, rfl, rfl, rfl, Nat.le_succ _, fun _ => Nat.le_refl _⟩
  obtain ⟨hp, hm, ha, hd, hv, hb, hid, hbound⟩ := htables
  refine ⟨havailable, { SameIds.refl w with
    nextId := hid
    allocationIds := fun a hmem => .inl (ha ▸ hmem)
    bound := hbound
    operationIds := congrArg Table.keys hv }, fun workspaceId' resource' => ?_⟩
  cases resource' with
  | concurrentOperations =>
    simp only [World.usage_concurrentOperations, hd, hv, Table.count_insert, World.runningIn]
    by_cases hself : workspaceId' = environment.project.workspaceId
    · simp [hself]
      omega
    · simp [hself, Ne.symm hself]
  | _ => simp [hp, hm, ha, hb]

theorem endOperation_shrinks {id : Id} {result : OperationResult} {deployed : Option Deployed}
    {u : Unit} (h : endOperation id result deployed w = .ok (u, w')) : Shrinks [] w w' := by
  cases h
  refine { Shrinks.refl w with
    bound := fun _ => Table.count_updateMany_le _ _ fun _ he => he
    deploymentOperations := fun _ => Table.count_update_le _ _ fun o ho => ?_ }
  cases result <;> simp [World.runningIn] at ho

structure OwnIds (w : World) : Prop where
  unique : w.provisioningOperations.Unique
  given : ∀ id ∈ w.provisioningOperations.keys, id < w.nextId
  allocations : ∀ a ∈ w.allocations.keys, a.id < w.nextId

theorem retired_inactive (workspaceId : Id) (o : ProvisioningOperation) :
    World.activeIn workspaceId none
      { o with status := .retried, leaseOwner := none } = false := by
  simp [World.activeIn, World.activeProvisioning]

theorem count_retry {t : Table ProvisioningOperation} (ht : t.Unique) {previousId : Id}
    {previous o : ProvisioningOperation} (hprevious : t.find? previousId = some previous)
    (workspaceId : Id) :
    ((t.insert o).update previousId ({ · with status := .retried, leaseOwner := none })).count
        (World.activeIn workspaceId none) =
      t.count (World.activeIn workspaceId (some previousId)) +
        if World.activeIn workspaceId none o then 1 else 0 := by
  have hfind : (t.insert o).find? previousId = some previous :=
    Table.find?_insert_of_some hprevious
  have hupdate := Table.count_update hfind
    ({ · with status := .retried, leaseOwner := none }) (World.activeIn workspaceId none)
  have hwithout := ht.count_without hprevious (World.activeIn workspaceId none)
  have hexcluded : (t.count fun a => World.activeIn workspaceId none a &&
      decide (key a ≠ previousId)) = t.count (World.activeIn workspaceId (some previousId)) := by
    congr 1
    funext a
    simp [World.activeIn, key]
  rw [Table.count_insert] at hupdate
  simp only [retired_inactive, Bool.false_eq_true, if_false] at hupdate
  omega

theorem OwnIds.of_same (hw : OwnIds w) (h : SameIds added w w') : OwnIds w' where
  unique := by
    unfold Table.Unique
    rw [h.operationIds]
    exact hw.unique
  given id hid := by
    rw [h.operationIds] at hid
    exact Nat.lt_of_lt_of_le (hw.given id hid) h.nextId
  allocations a ha := by
    rcases h.allocationIds a ha with ha | ha
    · exact Nat.lt_of_lt_of_le (hw.allocations a ha) h.nextId
    · exact ha.2

theorem OwnIds.insert (hw : OwnIds w) {o : ProvisioningOperation} (ho : o.id = w.nextId) :
    OwnIds { w.fresh with provisioningOperations := w.provisioningOperations.insert o } where
  unique := hw.unique.insert fun hmem => Nat.lt_irrefl w.nextId (hw.given _ (ho ▸ hmem))
  given id hid := by
    rw [Table.keys_insert] at hid
    rcases List.mem_append.mp hid with hid | hid
    · exact Nat.lt_succ_of_lt (hw.given id hid)
    · obtain rfl := List.mem_singleton.mp hid
      rw [show key o = w.nextId from ho]
      exact Nat.lt_succ_self _
  allocations a ha := Nat.lt_succ_of_lt (hw.allocations a ha)

theorem startProvisioning_own {retryOfId : Option Id} {id : Id} (hw : OwnIds w)
    (h : startProvisioning workspaceId instance_ retryOfId w = .ok (id, w')) : OwnIds w' := by
  simp only [startProvisioning, bind_eq_ok] at h
  obtain ⟨-, -, h⟩ := h
  cases retryOfId with
  | none =>
    cases h
    exact hw.insert rfl
  | some previousId =>
    simp only [bind_eq_ok, pure_eq_ok, Prod.mk.injEq] at h
    obtain ⟨-, -, -, rfl⟩ := h
    have hinserted : OwnIds { w.fresh with
        provisioningOperations := w.provisioningOperations.insert
          ⟨w.nextId, workspaceId, .running, some instance_⟩ } := hw.insert rfl
    exact @OwnIds.of_same _ _ [] hinserted
      { SameIds.refl _ with operationIds := Table.keys_update _ _ fun _ => rfl }

theorem startProvisioning_frame {retryOfId : Option Id} {id : Id}
    (h : startProvisioning workspaceId instance_ retryOfId w = .ok (id, w')) : Frame [] w w' := by
  simp only [startProvisioning, bind_eq_ok] at h
  obtain ⟨-, -, h⟩ := h
  cases retryOfId with
  | none =>
    cases h
    exact ⟨Nat.le_succ _, fun _ h => .inl h, fun _ => Nat.le_refl _⟩
  | some previousId =>
    simp only [bind_eq_ok, pure_eq_ok, Prod.mk.injEq] at h
    obtain ⟨-, -, -, rfl⟩ := h
    exact ⟨Nat.le_succ _, fun _ h => .inl h, fun _ => Nat.le_refl _⟩

theorem startProvisioning_keeps {retryOfId : Option Id} {id : Id} (hw : OwnIds w)
    (h : startProvisioning workspaceId instance_ retryOfId w = .ok (id, w')) :
    KeepsLimits w w' := by
  simp only [startProvisioning, bind_eq_ok] at h
  obtain ⟨⟨⟩, havailable, h⟩ := h
  obtain ⟨limit, hlimit, hroom⟩ := assertAvailable_eq_ok.1 havailable
  have hactive : ∀ ws, World.activeIn ws none ⟨w.nextId, workspaceId, .running, some instance_⟩ =
      decide (workspaceId = ws) := by
    intro ws
    simp [World.activeIn, World.activeProvisioning]
  cases retryOfId with
  | none =>
    cases h
    intro workspaceId' resource' limit' hlimit' hraised
    cases resource' with
    | concurrentOperations =>
      simp only [World.usage_concurrentOperations, World.used_concurrentOperations,
        Table.count_insert, hactive, World.fresh]
        at hraised hroom ⊢
      by_cases hself : workspaceId' = workspaceId
      · subst hself
        cases hlimit.symm.trans hlimit'
        simp only [decide_true, if_true] at hraised ⊢
        omega
      · simp only [Ne.symm hself, decide_false, Bool.false_eq_true, if_false] at hraised
        omega
    | _ => exact absurd hraised (Nat.lt_irrefl _)
  | some previousId =>
    simp only [bind_eq_ok, failIf_eq_ok, pure_eq_ok, Prod.mk.injEq] at h
    obtain ⟨-, hprevious, -, rfl⟩ := h
    obtain ⟨previous, hprevious, -⟩ := (Option.any_eq_true _ _).mp (by simpa using hprevious)
    intro workspaceId' resource' limit' hlimit' hraised
    cases resource' with
    | concurrentOperations =>
      simp only [World.usage_concurrentOperations, World.used_concurrentOperations, World.fresh,
        count_retry hw.unique hprevious, hactive] at hraised hroom ⊢
      have hle : w.provisioningOperations.count (World.activeIn workspaceId' (some previousId)) ≤
          w.provisioningOperations.count (World.activeIn workspaceId' none) := by
        refine List.countP_mono_left fun o _ ho => ?_
        simp only [World.activeIn, Bool.and_eq_true] at ho ⊢
        exact ⟨ho.1, rfl⟩
      by_cases hself : workspaceId' = workspaceId
      · subst hself
        cases hlimit.symm.trans hlimit'
        simp only [decide_true, if_true] at hraised ⊢
        omega
      · simp only [Ne.symm hself, decide_false, Bool.false_eq_true, if_false] at hraised
        omega
    | _ => exact absurd hraised (Nat.lt_irrefl _)

theorem claimProvisioning_takes {id : Id} {claim : Claim} {o : ProvisioningOperation}
    (ho : (w.provisioningOperations.find? id).filter claimable = some o) :
    ∃ w', claimProvisioning instance_ id claim w = .ok (1, w') ∧
      Takes [] w w' o.workspaceId .concurrentOperations 1 := by
  obtain ⟨hfound, hclaimable⟩ := Option.filter_eq_some_iff.mp ho
  refine ⟨_, by rw [claimProvisioning, hfound, Option.any_some, if_pos hclaimable], ?_⟩
  refine ⟨{ SameIds.refl w with operationIds := Table.keys_update _ _ fun _ => rfl },
    fun workspaceId' resource' => ?_⟩
  cases resource' with
  | concurrentOperations =>
    have hcount := Table.count_update hfound
      ({ · with status := claim.status, leaseOwner := some instance_ })
      (World.activeIn workspaceId' none)
    have hidle : World.activeIn workspaceId' none o = false := by
      simp only [claimable, Bool.or_eq_true, decide_eq_true_eq] at hclaimable
      rcases hclaimable with hstatus | hstatus
      · simp [World.activeIn, World.activeProvisioning, hstatus]
      · simp [World.activeIn, World.activeProvisioning, hstatus]
    have hactive : World.activeIn workspaceId' none
        { o with status := claim.status, leaseOwner := some instance_ } =
          decide (o.workspaceId = workspaceId') := by
      cases claim <;> simp [World.activeIn, World.activeProvisioning, Claim.status]
    simp only [hidle, hactive, Bool.false_eq_true, if_false, Nat.add_zero] at hcount
    simp only [World.usage_concurrentOperations, hcount]
    by_cases hself : workspaceId' = o.workspaceId
    · simp [hself]
      omega
    · simp [hself, Ne.symm hself]
  | _ => simp

theorem claimProvisioning_same {id : Id} {claim : Claim} {changed : Nat}
    (hnone : (w.provisioningOperations.find? id).filter claimable = none)
    (h : claimProvisioning instance_ id claim w = .ok (changed, w')) : w' = w := by
  unfold claimProvisioning at h
  split at h
  · rename_i hany
    obtain ⟨o, ho, hclaimable⟩ := (Option.any_eq_true _ _).mp hany
    rw [ho, Option.filter_some, if_pos hclaimable] at hnone
    cases hnone
  · cases h
    rfl

theorem endProvisioning_shrinks {id : Id} {statuses : Option (List Provisioning.OperationStatus)}
    {leaseOwner : Option InstanceId} {ended : Ended} {u : Unit}
    (h : endProvisioning id statuses leaseOwner ended w = .ok (u, w')) : Shrinks [] w w' := by
  cases h
  refine { Shrinks.refl w with
    operationIds := Table.keys_update _ _ fun _ => ?_
    provisioningOperations := fun _ => Table.count_update_le _ _ fun o ho => ?_ }
  · split <;> rfl
  split at ho
  · cases ended <;> simp [World.activeIn, World.activeProvisioning, Ended.status] at ho
  · exact ho

/-! ## Artifacts -/

theorem artifact_takes {identity : ArtifactIdentity} {a : BuildArtifact}
    (ha : w.artifacts.find? identity = some a) {d : BuildArtifact → BuildArtifact} {n : Nat}
    (hd : ∀ workspaceId, World.reservedBytes workspaceId (d a) = World.reservedBytes workspaceId a +
      if workspaceId = a.project.workspaceId then n else 0) :
    Takes [] w { w with artifacts := w.artifacts.update identity d } a.project.workspaceId
      .artifactBytes n := by
  refine ⟨{ SameIds.refl w with }, fun workspaceId' resource' => ?_⟩
  cases resource' with
  | artifactBytes =>
    have hsum := Table.sum_update ha d (World.reservedBytes workspaceId')
    rw [hd workspaceId'] at hsum
    simp only [World.usage_artifactBytes, and_true]
    omega
  | _ => simp

theorem accepted_takes {identity : ArtifactIdentity} {a : BuildArtifact}
    (ha : w.artifacts.find? identity = some a) :
    Takes [] w { w with artifacts := w.artifacts.update identity accepted } a.project.workspaceId
      .artifactBytes (if World.reservedArtifact a.status then 0 else a.sizeBytes) := by
  refine artifact_takes ha fun workspaceId' => ?_
  have hreserved : World.reservedArtifact .accepted = true := rfl
  by_cases hself : workspaceId' = a.project.workspaceId
  · subst hself
    cases hstatus : World.reservedArtifact a.status <;>
      simp [World.reservedBytes, accepted, hreserved, hstatus]
  · simp [World.reservedBytes, accepted, hself, Ne.symm hself]

theorem insertArtifact_takes (project : ProjectKey) (artifact : ScmBuildArtifact) :
    Takes [] w { w with artifacts := w.artifacts.insert (artifact.row project) } project.workspaceId
      .artifactBytes artifact.sizeBytes := by
  refine ⟨{ SameIds.refl w with }, fun workspaceId' resource' => ?_⟩
  cases resource' <;> simp [World.reservedBytes, ScmBuildArtifact.row,
    World.reservedArtifact, eq_comm]

theorem acceptArtifact_takes {project : ProjectKey} {artifact : ScmBuildArtifact} {u : Unit}
    (h : acceptArtifact project artifact w = .ok (u, w')) :
    ∃ n, Takes [] w w' project.workspaceId .artifactBytes n ∧
      (0 < n → assertAvailable w project.workspaceId .artifactBytes n none = .ok ()) := by
  unfold acceptArtifact at h
  split at h
  · rename_i existing hexisting
    simp only [bind_eq_ok, failIf_eq_ok, Bool.or_eq_false_iff, decide_eq_false_iff_not,
      not_not, pure_eq_ok, Prod.mk.injEq] at h
    obtain ⟨-, ⟨hproject, -⟩, ⟨⟩, havailable, -, rfl⟩ := h
    refine ⟨_, hproject ▸ accepted_takes hexisting, fun hpos => ?_⟩
    split at hpos
    · exact absurd hpos (Nat.lt_irrefl 0)
    · rename_i hstatus
      rw [recheckBytes, if_neg hstatus] at havailable
      rw [if_neg hstatus]
      exact havailable
  · simp only [bind_eq_ok, pure_eq_ok, Prod.mk.injEq] at h
    obtain ⟨⟨⟩, havailable, -, rfl⟩ := h
    exact ⟨_, insertArtifact_takes project artifact, fun _ => havailable⟩

theorem reserveArtifact_takes {project : ProjectKey} {artifact : ScmBuildArtifact} {reopen : Bool}
    {u : Unit} (h : reserveArtifact project artifact reopen w = .ok (u, w')) :
    ∃ n, Takes [] w w' project.workspaceId .artifactBytes n ∧
      (0 < n → assertAvailable w project.workspaceId .artifactBytes n none = .ok ()) := by
  unfold reserveArtifact at h
  split at h
  · rename_i current hcurrent
    simp only [bind_eq_ok, failIf_eq_ok, Bool.or_eq_false_iff, decide_eq_false_iff_not,
      not_not] at h
    obtain ⟨-, ⟨hproject, -⟩, -, ⟨-, hsize⟩, h⟩ := h
    split at h
    · cases h
      exact ⟨0, ⟨.refl w, fun _ _ => by simp⟩, fun hpos => absurd hpos (Nat.lt_irrefl 0)⟩
    · simp only [bind_eq_ok, pure_eq_ok, Prod.mk.injEq] at h
      obtain ⟨⟨⟩, havailable, -, rfl⟩ := h
      refine ⟨_, hproject ▸ accepted_takes hcurrent, fun hpos => ?_⟩
      cases hstatus : current.status with
      | failed =>
        rw [hstatus] at havailable
        simpa [World.reservedArtifact, hsize] using havailable
      | _ => simp [World.reservedArtifact, hstatus] at hpos
  · simp only [bind_eq_ok, pure_eq_ok, Prod.mk.injEq] at h
    obtain ⟨⟨⟩, havailable, -, rfl⟩ := h
    exact ⟨_, insertArtifact_takes project artifact, fun _ => havailable⟩

theorem claimArtifact_takes {project : ProjectKey} {identity : ArtifactIdentity}
    {a : BuildArtifact}
    (ha : (w.artifacts.find? identity).filter (ingestible project) = some a) :
    ∃ generation w', claimArtifact instance_ project identity w = .ok (generation, w') ∧
      Takes [] w w' a.project.workspaceId .artifactBytes
        (if a.status = .failed then a.sizeBytes else 0) := by
  obtain ⟨hfound, hingestible⟩ := Option.filter_eq_some_iff.mp ha
  refine ⟨_, _, by rw [claimArtifact, ha], artifact_takes hfound fun workspaceId' => ?_⟩
  simp only [ingestible, Bool.and_eq_true, Bool.or_eq_true, decide_eq_true_eq] at hingestible
  by_cases hself : workspaceId' = a.project.workspaceId
  · subst hself
    rcases hingestible.1.2 with hstatus | hstatus <;>
      simp [World.reservedBytes, World.reservedArtifact, hstatus]
  · simp [World.reservedBytes, hself, Ne.symm hself]

theorem endArtifact_shrinks {generation : Nat} {identity : ArtifactIdentity} {published : Bool}
    {u : Unit} (h : endArtifact instance_ generation identity published w = .ok (u, w')) :
    Shrinks [] w w' := by
  cases h
  refine { Shrinks.refl w with
    artifacts := fun workspaceId' => Table.sum_update_le _ _ fun a => ?_ }
  split
  · rename_i hfence
    simp only [Bool.and_eq_true, decide_eq_true_eq] at hfence
    cases published <;> simp [World.reservedBytes, World.reservedArtifact, hfence.1.1]
  · exact Nat.le_refl _

theorem failArtifact_shrinks {identity : ArtifactIdentity} {u : Unit}
    (h : failArtifact identity w = .ok (u, w')) : Shrinks [] w w' := by
  cases h
  refine { Shrinks.refl w with
    artifacts := fun workspaceId' => Table.sum_update_le _ _ fun a => ?_ }
  simp [World.reservedBytes, World.reservedArtifact]

theorem updateCapacity_shrinks {limits : Limits} {u : Unit}
    (h : updateCapacity workspaceId limits w = .ok (u, w')) : Shrinks [] w w' := by
  obtain ⟨-, -, h⟩ := found_bind_ok h
  cases h
  exact { Shrinks.refl w with }

end

end InitPad.Capacity
