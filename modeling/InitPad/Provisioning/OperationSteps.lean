import InitPad.Provisioning.Projects

/-!
# InitPad.Provisioning.OperationSteps

What one statement does to the table of operations: it adds the row of a new attempt, rewrites the
rows that it selects, or leaves the table alone. A retry also retires the attempt that it follows.
-/

namespace InitPad.Provisioning

open Interleave Store

abbrev ProvisioningMoment := Moment Stmt ProvisioningInput World String
abbrev ProvisioningStep := Transition Stmt ProvisioningInput World String
abbrev ProvisioningSystem := Config Stmt ProvisioningInput World String

/-- The attempt that the statement adds, and the process that adds it. -/
def Stmt.creates {β : Type} : Stmt β → Option (InstanceId × NewOperation)
  | .createOperation instance_ data => some (instance_, data)
  | _ => none

def Stmt.rewrites {β : Type} : Stmt β → Option ((Operation → Bool) × OperationPatch)
  | .updateOperation _ id patch => some (fun op => op.id = id, patch)
  | .updateOperations filter patch => some (filter.selects, patch)
  | _ => none

def retiring (instance_ : InstanceId) (previous : Id) : OperationFilter :=
  { id := previous, status := [.retrying], leaseOwner := some instance_ }

def retired : OperationPatch := { status := some .retried, lease := .clear }

@[simp] theorem apply_id (now : Time) (patch : OperationPatch) (op : Operation) :
    (patch.apply now op).id = op.id := by
  cases hlease : patch.lease <;> simp [OperationPatch.apply, LeaseChange.apply, hlease]

@[simp] theorem apply_attempt (now : Time) (patch : OperationPatch) (op : Operation) :
    (patch.apply now op).attempt = op.attempt := by
  cases hlease : patch.lease <;> simp [OperationPatch.apply, LeaseChange.apply, hlease]

@[simp] theorem apply_retryOfId (now : Time) (patch : OperationPatch) (op : Operation) :
    (patch.apply now op).retryOfId = op.retryOfId := by
  cases hlease : patch.lease <;> simp [OperationPatch.apply, LeaseChange.apply, hlease]

@[simp] theorem apply_status (now : Time) (patch : OperationPatch) (op : Operation) :
    (patch.apply now op).status = patch.status.getD op.status := by
  cases hlease : patch.lease <;> simp [OperationPatch.apply, LeaseChange.apply, hlease]

@[simp] theorem tick_operations (w : World) (elapsed : Nat) :
    (w.tick elapsed).operations = w.operations := rfl

@[simp] theorem tick_nextOperation (w : World) (elapsed : Nat) :
    (w.tick elapsed).nextOperation = w.nextOperation := rfl

theorem operations_run {β : Type} (e : Stmt β) (u : Bool) (w : World) (hc : e.creates = none)
    (hr : e.rewrites = none) :
    (e.run u w).2.operations = w.operations ∧ (e.run u w).2.nextOperation = w.nextOperation := by
  cases e with
  | createOperation => cases hc
  | updateOperation => cases hr
  | updateOperations => cases hr
  | aside | currentTime | createContext | findOperation | staleOperations | updateEffect
  | interruptEffects | projectNamed | projectOf | findProject | workspaceMembers
  | deleteRepository | deleteSecret | removeCollaborator => exact ⟨rfl, rfl⟩
  | _ =>
    simp only [Stmt.run, World.request]
    split <;> exact ⟨rfl, rfl⟩

/-- What a statement may do to the operations. -/
inductive OperationStep {β : Type} (e : Stmt β) (w w' : World) : Prop where
  | kept (hoperations : w'.operations = w.operations) (hnext : w'.nextOperation = w.nextOperation)
  | rewritten {p : Operation → Bool} {patch : OperationPatch} (now : Time)
      (hrewrites : e.rewrites = some (p, patch))
      (hoperations : w'.operations = w.operations.updateMany p (patch.apply now))
      (hnext : w'.nextOperation = w.nextOperation)
  | created {instance_ : InstanceId} {data : NewOperation} {op : Operation}
      (hcreates : e.creates = some (instance_, data)) (hid : op.id = w.nextOperation)
      (hrow : op.attempt = data.attempt ∧ op.retryOfId = none ∧ data.retryOfId = none ∧
        op.status = .running ∧ op.leaseOwner = some instance_)
      (hoperations : w'.operations = w.operations.insert op)
      (hnext : w'.nextOperation = w.nextOperation + 1)
  | retried {instance_ : InstanceId} {data : NewOperation} {op : Operation} {previous : Id}
      (now : Time) (hcreates : e.creates = some (instance_, data)) (hid : op.id = w.nextOperation)
      (hrow : op.attempt = data.attempt ∧ op.retryOfId = some previous ∧
        data.retryOfId = some previous ∧ op.status = .running ∧ op.leaseOwner = some instance_)
      (hcount : w.operations.count (retiring instance_ previous).selects = 1)
      (hoperations : w'.operations = (w.operations.insert op).updateMany
        (retiring instance_ previous).selects (retired.apply now))
      (hnext : w'.nextOperation = w.nextOperation + 1)

theorem operationStep_run {β : Type} (e : Stmt β) (u : Bool) (w : World) :
    OperationStep e w (e.run u w).2 := by
  cases hr : e.rewrites with
  | some pp =>
    obtain ⟨p, patch⟩ := pp
    cases e with
    | updateOperation _ id patch' =>
      cases hr
      simp only [Stmt.run]
      split
      · exact .rewritten w.now rfl rfl rfl
      · exact .kept rfl rfl
    | updateOperations filter patch' =>
      cases hr
      exact .rewritten w.now rfl rfl rfl
    | _ => cases hr
  | none =>
    cases hc : e.creates with
    | none =>
      obtain ⟨hoperations, hnext⟩ := operations_run e u w hc hr
      exact .kept hoperations hnext
    | some id =>
      cases e with
      | createOperation instance_ data =>
        simp only [Stmt.run, World.createOperation]
        cases hretry : data.retryOfId with
        | none => exact .created rfl rfl ⟨rfl, hretry, hretry, rfl, rfl⟩ rfl rfl
        | some previous =>
          dsimp only
          split
          · rename_i hcount
            exact .retried w.now rfl rfl ⟨rfl, hretry, hretry, rfl, rfl⟩ hcount rfl rfl
          · exact .kept rfl rfl
      | _ => cases hc

theorem operationStep_exec {β : Type} (e : Stmt β) (i : ProvisioningInput) (w : World) :
    OperationStep e w (exec e i w).2 := by
  have htick : OperationStep e w (w.tick i.elapsed) := .kept rfl rfl
  have hrun : OperationStep e w (e.run i.unreadable (w.tick i.elapsed)).2 := by
    cases operationStep_run e i.unreadable (w.tick i.elapsed) with
    | kept hoperations hnext => exact .kept hoperations hnext
    | rewritten now hrewrites hoperations hnext => exact .rewritten now hrewrites hoperations hnext
    | created hcreates hid hrow hoperations hnext =>
      exact .created hcreates hid hrow hoperations hnext
    | retried now hcreates hid hrow hcount hoperations hnext =>
      exact .retried now hcreates hid hrow hcount hoperations hnext
  simp only [exec]
  split
  · dsimp only
    split
    · exact hrun
    · exact htick
  · exact hrun

/-- What nothing changes about an operation. -/
structure Operation.Same (op op' : Operation) : Prop where
  attempt : op'.attempt = op.attempt
  retryOfId : op'.retryOfId = op.retryOfId

theorem find?_rewritten {t : Table Operation} {p : Operation → Bool} {patch : OperationPatch}
    {now : Time} {id : Id} {op : Operation} (h : t.find? id = some op) :
    (t.updateMany p (patch.apply now)).find? id =
      some (if p op then patch.apply now op else op) := by
  rw [Table.find?_updateMany t p (fun r => apply_id now patch r), h]
  rfl

theorem persists_exec {β : Type} (e : Stmt β) (i : ProvisioningInput) {w : World} {id : Id}
    {op : Operation} (h : w.operations.find? id = some op) :
    ∃ op', (exec e i w).2.operations.find? id = some op' ∧ op.Same op' := by
  have hpatched : ∀ (p : Operation → Bool) (patch : OperationPatch) (now : Time),
      op.Same (if p op then patch.apply now op else op) := by
    intro p patch now
    split
    · exact ⟨apply_attempt .., apply_retryOfId ..⟩
    · exact ⟨rfl, rfl⟩
  cases operationStep_exec e i w with
  | kept hoperations => exact ⟨op, by rw [hoperations, h], rfl, rfl⟩
  | rewritten now _ hoperations =>
    rw [hoperations]
    exact ⟨_, find?_rewritten h, hpatched ..⟩
  | created _ _ _ hoperations =>
    rw [hoperations]
    exact ⟨op, Table.find?_insert_of_some h, rfl, rfl⟩
  | retried now _ _ _ _ hoperations =>
    rw [hoperations]
    exact ⟨_, find?_rewritten (Table.find?_insert_of_some h), hpatched ..⟩

end InitPad.Provisioning
