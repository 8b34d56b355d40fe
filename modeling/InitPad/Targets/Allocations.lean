import InitPad.Targets.Service

/-!
# InitPad.Targets.Allocations

The access of workspaces to one target, and the capabilities in it. An allocation is written with
capabilities that were checked against a target row read before; an edit of the target rewrites the
allocations that had the capabilities of the row that the edit has read.

* `Covered`: the step leaves no allocation with a capability that the target lacks.
* `capabilities_covered_iff`: over every run, all allocations keep to the target exactly if every
  step is such a step.
-/

namespace InitPad.Targets

open Interleave
open Prog (await refuseIf lift)

/-- The access of a workspace; the columns that no check on capabilities reads are left out. -/
structure AllocationRow where
  id : Nat
  workspaceId : Nat
  capabilities : List RuntimeKind
  deriving DecidableEq

structure AccessWorld where
  base : World
  allocations : List AllocationRow
  nextId : Nat

/-! ## Statements -/

inductive AccessStmt : Type → Type 1 where
  | query {β : Type} (e : Stmt β) : AccessStmt β
  /-- The transaction of `TargetsService.update`. -/
  | saveTarget (row : TargetRow) (dto : UpdateTargetDto) : AccessStmt Unit
  | hasAccess (workspaceId : Nat) : AccessStmt Bool
  | createAllocation (workspaceId : Nat) (capabilities : List RuntimeKind) : AccessStmt Unit
  | findAllocation (id : Nat) : AccessStmt (AllocationRow × TargetRow)
  | updateAllocation (id : Nat) (capabilities : Option (List RuntimeKind)) : AccessStmt Unit

namespace AccessWorld

variable (w : AccessWorld)

def saveTarget (row : TargetRow) (dto : UpdateTargetDto) : AccessWorld :=
  { w with
    base := { w.base with target := (dto.patch row).apply w.base.target }
    allocations :=
      if dto.capabilitiesChanged row then w.allocations.map fun a =>
        if a.capabilities = row.capabilities then
          { a with capabilities := toCsv (dto.capabilities.getD []) }
        else a
      else w.allocations }

def hasAccess (workspaceId : Nat) : Bool := w.allocations.any (·.workspaceId == workspaceId)

def createAllocation (workspaceId : Nat) (capabilities : List RuntimeKind) : AccessWorld :=
  { w with
    allocations := ⟨w.nextId, workspaceId, capabilities⟩ :: w.allocations
    nextId := w.nextId + 1 }

def updateAllocation (id : Nat) (capabilities : Option (List RuntimeKind)) : AccessWorld :=
  { w with allocations := w.allocations.map fun a =>
      if a.id = id then { a with capabilities := capabilities.getD a.capabilities } else a }

end AccessWorld

def AccessStmt.run {β : Type} (e : AccessStmt β) (i : TargetInput) (w : AccessWorld) :
    Except String β × AccessWorld :=
  match e with
  | .query e => ((e.run i w.base).1, w)
  | .saveTarget row dto => (.ok (), w.saveTarget row dto)
  | .hasAccess workspaceId => (.ok (w.hasAccess workspaceId), w)
  | .createAllocation workspaceId capabilities =>
    if w.hasAccess workspaceId then (.error "Unique constraint failed", w)
    else (.ok (), w.createAllocation workspaceId capabilities)
  | .findAllocation id =>
    match w.allocations.find? (·.id == id) with
    | some a => (.ok (a, w.base.target), w)
    | none => (.error "Allocation not found", w)
  | .updateAllocation id capabilities => (.ok (), w.updateAllocation id capabilities)

instance : Semantics AccessStmt TargetInput AccessWorld String where
  exec e i w :=
    match i.fault with
    | some fault => (.error fault.message, if fault.carriedOut then (e.run i w).2 else w)
    | none => e.run i w

abbrev AccessCall (α : Type) : Type 1 := Prog AccessStmt String α
abbrev AccessMoment := Moment AccessStmt TargetInput AccessWorld String
abbrev AccessStep := Transition AccessStmt TargetInput AccessWorld String
abbrev AccessSystem := Config AccessStmt TargetInput AccessWorld String

/-! ## Calls -/

def onTarget {α : Type} (p : TargetCall α) : AccessCall α := p.translate .query

def aside (what : String) : AccessCall Unit := await (.query (.aside what))

/-- `TargetsService.update` -/
def updateTarget (dto : UpdateTargetDto) : AccessCall Unit := do
  let row ← onTarget getUserTarget
  refuseIf (row.managementState = .retired) "Restore this retired target before editing it"
  refuseIf (dto.kind.any (· ≠ row.kind))
    "Target type cannot be changed; create a new target instead"
  let activeOperations ← await (.query (.countEnvironments true))
  refuseIf (0 < activeOperations) ("This target has " ++ toString activeOperations ++
    " deployment operation(s) in progress. Wait for them before editing the target.")
  onTarget (checkEndpoint dto row)
  onTarget (checkName dto row)
  onTarget (refuseInUse (dto.capabilitiesRemoved row)
    "A target in use cannot remove runtime capabilities. Move its environments first.")
  onTarget (refuseInUse (dto.routingChanged row)
    "A target in use cannot change routing mode. Remove or move its environments first.")
  onTarget (refuseInUse (dto.managedOriginChanged row)
    ("A managed gateway target in use cannot change its DNS origin. Remove or move its " ++
      "environments first."))
  await (.saveTarget row dto)
  aside "audit target.updated"

/-- The capabilities that an allocation is given, if the target offers them. -/
def resolveCapabilities (requested : Option (List RuntimeKind)) (offered : List RuntimeKind) :
    Except String (List RuntimeKind) :=
  match requested with
  | none | some [] => .ok (toCsv offered)
  | some requested =>
    match requested.filter fun c => !offered.contains c with
    | [] => .ok (toCsv requested)
    | invalid => .error ("Capabilities not offered by the target: " ++
        ", ".intercalate (invalid.map RuntimeKind.text))

/-- `TargetAllocationsService.create` -/
def createAccess (workspaceId : Nat) (requested : Option (List RuntimeKind)) : AccessCall Unit := do
  aside "workspace permission"
  let target ← await (.query .findTarget)
  aside "the target belongs to the workspace or is built in"
  refuseIf (target.scope = .user && target.managementState ≠ .active) ("Server '" ++ target.name ++
    "' is " ++ target.managementState.text ++
    "; restore and reconnect it before enabling workspace access")
  aside "assertSafePublicUrl"
  let taken ← await (.hasAccess workspaceId)
  refuseIf taken "This workspace already has access to that server"
  aside "capacity"
  let capabilities ← lift (resolveCapabilities requested target.capabilities)
  aside "workspace slug"
  await (.createAllocation workspaceId capabilities)
  aside "audit allocation.created"

/-- `TargetAllocationsService.update`; the access is to be resumed if `activates` holds. -/
def updateAccess (id : Nat) (requested : Option (List RuntimeKind)) (activates : Bool) :
    AccessCall Unit := do
  let (_, target) ← await (.findAllocation id)
  aside "permission on the allocation"
  let activeOperations ← await (.query (.countEnvironments true))
  refuseIf (0 < activeOperations) ("Workspace access has " ++ toString activeOperations ++
    " deployment operation(s) in progress. Wait for them before editing it.")
  let capabilities ← lift (match requested with
    | none => .ok none
    | some requested => (resolveCapabilities (some requested) target.capabilities).map some)
  aside "assertSafePublicUrl"
  refuseIf (activates && target.scope = .user && target.managementState ≠ .active)
    ("Reconnect server '" ++ target.name ++ "' before resuming workspace access")
  await (.updateAllocation id capabilities)
  aside "expiry of the environments"
  aside "audit allocation.updated"

/-- `ensureAllocation` of the project environments -/
def ensureAllocation (workspaceId : Nat) : AccessCall Unit := do
  let existing ← await (.hasAccess workspaceId)
  if existing then pure ()
  else do
    let target ← await (.query .findTarget)
    aside "workspace slug"
    tryCatch (await (.createAllocation workspaceId target.capabilities)) fun x => do
      let winner ← await (.hasAccess workspaceId)
      refuseIf (!winner) x

inductive AccessRequest : AccessCall Unit → Prop where
  | updateTarget (dto : UpdateTargetDto) : AccessRequest (updateTarget dto)
  | createAccess (workspaceId : Nat) (requested : Option (List RuntimeKind)) :
      AccessRequest (createAccess workspaceId requested)
  | updateAccess (id : Nat) (requested : Option (List RuntimeKind)) (activates : Bool) :
      AccessRequest (updateAccess id requested activates)
  | ensureAllocation (workspaceId : Nat) : AccessRequest (ensureAllocation workspaceId)

def AccessEntry (_ : AccessMoment) (p : AccessCall Unit) : Prop := AccessRequest p

/-! ## What keeps the capabilities -/

def AccessWorld.Subset (w : AccessWorld) : Prop :=
  ∀ a ∈ w.allocations, a.capabilities ⊆ w.base.target.capabilities

instance (w : AccessWorld) : Decidable w.Subset :=
  inferInstanceAs (Decidable (∀ a ∈ w.allocations, ∀ c, c ∈ a.capabilities → _))

def TargetInput.carriedOut (i : TargetInput) : Bool := i.fault.all (·.carriedOut)

/-- An edit of the capabilities finds only allocations that it rewrites, or that fit the new ones; an
allocation is written with capabilities that the target still has. -/
def AccessStmt.Covered {β : Type} (w : AccessWorld) : AccessStmt β → Prop
  | .saveTarget row dto => ∀ new, dto.capabilities = some new → ∀ a ∈ w.allocations,
      a.capabilities ⊆ new ∨
        dto.capabilitiesChanged row = true ∧ a.capabilities = row.capabilities
  | .createAllocation workspaceId capabilities =>
    w.hasAccess workspaceId = false → capabilities ⊆ w.base.target.capabilities
  | .updateAllocation id capabilities => ∀ new, capabilities = some new →
      (∃ a ∈ w.allocations, a.id = id) → new ⊆ w.base.target.capabilities
  | _ => True

def Covered (x : AccessStep) : Prop :=
  x.input.carriedOut = true → x.stmt.Covered x.pre.state

theorem mem_toCsv {capabilities : List RuntimeKind} {c : RuntimeKind} :
    c ∈ toCsv capabilities ↔ c ∈ capabilities := by
  unfold toCsv
  rw [List.mem_filter, List.contains_iff_mem]
  refine and_iff_right ?_
  cases c <;> decide

section Steps

variable {w : AccessWorld} {β : Type}

theorem subset_toCsv {l new : List RuntimeKind} : l ⊆ toCsv new ↔ l ⊆ new :=
  ⟨fun h _ hc => mem_toCsv.1 (h hc), fun h _ hc => mem_toCsv.2 (h hc)⟩

theorem subset_saveTarget (row : TargetRow) (dto : UpdateTargetDto) (h : w.Subset) :
    (w.saveTarget row dto).Subset ↔ (AccessStmt.saveTarget row dto).Covered w := by
  cases hnew : dto.capabilities with
  | none =>
    have hsame : dto.capabilitiesChanged row = false := by
      rw [UpdateTargetDto.capabilitiesChanged, hnew]
      rfl
    refine iff_of_true (fun a ha => ?_) fun new hsome => ?_
    · simp only [AccessWorld.saveTarget, hsame, Bool.false_eq_true, if_false] at ha
      simp only [AccessWorld.saveTarget, UpdateTargetDto.patch, TargetPatch.apply,
        TargetPatch.settings, hnew]
      exact h a ha
    · rw [hnew] at hsome
      cases hsome
  | some new =>
    have htarget : (w.saveTarget row dto).base.target.capabilities = toCsv new := by
      simp only [AccessWorld.saveTarget, UpdateTargetDto.patch, TargetPatch.apply,
        TargetPatch.settings, hnew]
      rfl
    unfold AccessWorld.Subset AccessStmt.Covered
    dsimp only
    rw [htarget, hnew]
    cases hchanged : dto.capabilitiesChanged row with
    | false =>
      have hsame : (w.saveTarget row dto).allocations = w.allocations := by
        simp [AccessWorld.saveTarget, hchanged]
      rw [hsame]
      constructor
      · rintro hsubset _ ⟨⟩ a ha
        exact .inl (subset_toCsv.1 (hsubset a ha))
      · intro hcovered a ha
        rcases hcovered new rfl a ha with hfits | ⟨hfalse, -⟩
        · exact subset_toCsv.2 hfits
        · cases hfalse
    | true =>
      have hmap : (w.saveTarget row dto).allocations = w.allocations.map fun a =>
          if a.capabilities = row.capabilities then { a with capabilities := toCsv new } else a := by
        simp [AccessWorld.saveTarget, hchanged, hnew]
      rw [hmap]
      constructor
      · rintro hsubset _ ⟨⟩ a ha
        have hfits := hsubset _ (List.mem_map_of_mem ha)
        by_cases hold : a.capabilities = row.capabilities
        · exact .inr ⟨rfl, hold⟩
        · rw [if_neg hold] at hfits
          exact .inl (subset_toCsv.1 hfits)
      · intro hcovered a' ha'
        obtain ⟨a, ha, rfl⟩ := List.mem_map.mp ha'
        split
        · exact List.Subset.refl _
        · rename_i hold
          rcases hcovered new rfl a ha with hfits | ⟨-, hsame⟩
          · exact subset_toCsv.2 hfits
          · exact absurd hsame hold

theorem subset_createAllocation (workspaceId : Nat) (capabilities : List RuntimeKind)
    (h : w.Subset) : (w.createAllocation workspaceId capabilities).Subset ↔
      capabilities ⊆ w.base.target.capabilities := by
  constructor
  · exact fun h' => h' _ List.mem_cons_self
  · intro hnew a ha
    rcases List.mem_cons.mp ha with rfl | ha
    · exact hnew
    · exact h a ha

theorem subset_updateAllocation (id : Nat) (capabilities : Option (List RuntimeKind))
    (h : w.Subset) : (w.updateAllocation id capabilities).Subset ↔
      (AccessStmt.updateAllocation id capabilities).Covered w := by
  constructor
  · rintro hsubset new rfl ⟨a, ha, hid⟩
    have hfits := hsubset _ (List.mem_map_of_mem ha)
    rw [if_pos hid] at hfits
    exact hfits
  · intro hcovered a' ha'
    obtain ⟨a, ha, rfl⟩ := List.mem_map.mp ha'
    split
    · rename_i hid
      cases capabilities with
      | none => exact h a ha
      | some new => exact hcovered new rfl ⟨a, ha, hid⟩
    · exact h a ha

theorem subset_run (e : AccessStmt β) (i : TargetInput) (h : w.Subset) :
    (e.run i w).2.Subset ↔ e.Covered w := by
  cases e with
  | query e => exact iff_of_true h trivial
  | saveTarget row dto => exact subset_saveTarget row dto h
  | hasAccess workspaceId => exact iff_of_true h trivial
  | createAllocation workspaceId capabilities =>
    cases htaken : w.hasAccess workspaceId with
    | true =>
      have hsame : ((AccessStmt.createAllocation workspaceId capabilities).run i w).2 = w := by
        simp [AccessStmt.run, htaken]
      rw [hsame]
      refine iff_of_true h fun hfree => ?_
      rw [htaken] at hfree
      cases hfree
    | false =>
      have hcreated : ((AccessStmt.createAllocation workspaceId capabilities).run i w).2 =
          w.createAllocation workspaceId capabilities := by
        simp [AccessStmt.run, htaken]
      rw [hcreated, subset_createAllocation workspaceId capabilities h]
      exact ⟨fun hnew _ => hnew, fun hcovered => hcovered htaken⟩
  | findAllocation id =>
    have hsame : ((AccessStmt.findAllocation id).run i w).2 = w := by
      unfold AccessStmt.run
      dsimp only
      split <;> rfl
    rw [hsame]
    exact iff_of_true h trivial
  | updateAllocation id capabilities => exact subset_updateAllocation id capabilities h

theorem subset_exec (e : AccessStmt β) (i : TargetInput) (h : w.Subset) :
    (exec e i w).2.Subset ↔ (i.carriedOut = true → e.Covered w) := by
  have hrun := subset_run e i h
  unfold TargetInput.carriedOut
  simp only [exec]
  cases i.fault with
  | none => simpa using hrun
  | some fault =>
    cases hcarried : fault.carriedOut with
    | true => simpa [hcarried] using hrun
    | false => simpa [hcarried] using h

end Steps

/-- A target and the access to it that is within its capabilities. -/
structure Granted where
  world : AccessWorld
  subset : world.Subset

theorem subset_of_covered {w : Granted} {tr : List AccessStep} {c : AccessSystem}
    (h : Run AccessEntry (Config.start w.world) tr c) (hcovered : ∀ x ∈ tr, Covered x) :
    c.moment.state.Subset := by
  induction h with
  | refl => exact w.subset
  | spawn _ _ ih => exact ih hcovered
  | step i _ _ ih =>
    refine (subset_exec _ i (ih fun x hx => hcovered x (List.mem_append_left _ hx))).2 ?_
    exact hcovered _ (List.mem_append_right _ List.mem_cons_self)

theorem capabilities_covered_iff {w : Granted} {tr : List AccessStep} {c : AccessSystem}
    (h : Run AccessEntry (Config.start w.world) tr c) :
    (∀ x ∈ tr, x.post.state.Subset) ↔ ∀ x ∈ tr, Covered x := by
  induction h with
  | refl => exact ⟨fun _ x hx => absurd hx List.not_mem_nil, fun _ x hx => absurd hx List.not_mem_nil⟩
  | spawn _ _ ih => exact ih
  | @step tr m ts t β e k i hrun hk ih =>
    simp only [List.mem_append, List.mem_singleton, or_imp, forall_and, forall_eq]
    constructor
    · rintro ⟨hbefore, hlast⟩
      have hcovered := ih.1 hbefore
      exact ⟨hcovered, (subset_exec e i (subset_of_covered hrun hcovered)).1 hlast⟩
    · rintro ⟨hcovered, hlast⟩
      exact ⟨ih.2 hcovered, (subset_exec e i (subset_of_covered hrun hcovered)).2 hlast⟩

/-! ## A capability that is taken from the target -/

/-- A web server for two runtimes. A workspace has access to it for static sites only. -/
def sharedServer : Granted where
  world := {
    base := {
      now := 0
      target := {
        host := some "web.example"
        port := some 22
        username := some "deploy"
        auth := some "password"
        secret := some "s3cret"
        hostKeyFingerprint := some "SHA256:abc"
        remotePath := some "/srv/www"
        publicUrl := some "https://web.example"
        capabilities := [.php, .static]
        name := "web"
        kind := .sftp
        scope := .user
        managementState := .active
        managementStateChangedAt := none
        routingMode := .directPort
        verifiedAt := none } }
    allocations := [⟨0, 0, [.static]⟩]
    nextId := 1 }
  subset := by decide

/-- Another workspace gets access. -/
def giveAccess : AccessCall Unit := createAccess 1 (some [.php])

def withoutStatic : AccessCall Unit := updateTarget { capabilities := some [.php] }

theorem capabilities_covered_in_turn : ∃ (tr : List AccessStep) (c : AccessSystem),
    Run AccessEntry (Config.start sharedServer.world) tr c ∧ tr.length = 9 ∧
      ∀ x ∈ tr, Covered x := by
  have hentry : ∀ p ∈ [giveAccess], AccessEntry (Config.start sharedServer.world).moment p := by
    intro p hp
    rw [List.mem_singleton.mp hp]
    exact .createAccess 1 (some [.php])
  obtain ⟨tr, c, hrun, hcheck⟩ := run_of_plays (Config.start sharedServer.world) [giveAccess]
    (List.replicate 9 (0, {}))
    (fun tr _ => tr.all (fun x => decide x.post.state.Subset) && tr.length == 9) hentry (by decide)
  simp only [Bool.and_eq_true, List.all_eq_true, decide_eq_true_eq, beq_iff_eq] at hcheck
  exact ⟨tr, c, hrun, hcheck.2, (capabilities_covered_iff hrun).1 hcheck.1⟩

/-- The allocation differs from the target that loses its capability. -/
theorem allocation_exceeds_target : ¬ ∀ (w : Granted) (tr : List AccessStep) (c : AccessSystem),
    Run AccessEntry (Config.start w.world) tr c → ∀ x ∈ tr, x.post.state.Subset := by
  intro h
  have hentry : ∀ p ∈ [withoutStatic], AccessEntry (Config.start sharedServer.world).moment p := by
    intro p hp
    rw [List.mem_singleton.mp hp]
    exact .updateTarget { capabilities := some [.php] }
  obtain ⟨tr, c, hrun, hcheck⟩ := run_of_plays (Config.start sharedServer.world) [withoutStatic]
    (List.replicate 7 (0, {})) (fun tr _ => tr.any fun x => !decide x.post.state.Subset) hentry
    (by decide)
  obtain ⟨x, hx, hexceeds⟩ := List.any_eq_true.mp hcheck
  rw [Bool.not_eq_true', decide_eq_false_iff_not] at hexceeds
  exact hexceeds (h sharedServer tr c hrun x hx)

end InitPad.Targets
