import InitPad.Deployment.Frame

/-!
# InitPad.Deployment.OperationSteps

What one statement can do to one `DeploymentOperation` row: to its outcome (`OutcomeStep`) and to
the rest of it (`OperationUpdate`). The invariants about operations are derived from these two.
-/

namespace InitPad

open Store Interleave

/-- What the recoveries and the projections select. -/
def DeploymentOperation.unfinished (o : DeploymentOperation) : Bool :=
  o.status == .running && o.finishedAt.isNone

/-- The operation that a statement completes with another result than `cancelled`. -/
def Stmt.concludes {β : Type} : Stmt β → Option Id
  | .finishUnowned o status _ | .finishOwned _ _ o status _ =>
    if status = .cancelled then none else some o
  | _ => none

/-- The operation that the direct branch of `remove` cancels. -/
def Stmt.cancelsDirect {β : Type} : Stmt β → Option Id
  | .cancelDirect o _ => some o
  | _ => none

/-- The change that `e` may make to the outcome of the operation `id`. -/
inductive OutcomeStep {β : Type} (e : Stmt β) (id : Id) (o o' : DeploymentOperation) : Prop where
  | kept : o'.status = o.status → o'.finishedAt = o.finishedAt → OutcomeStep e id o o'
  | cancelled : o'.status = .cancelled → o'.finishedAt.isSome → OutcomeStep e id o o'
  | cancelledDirect : e.cancelsDirect = some id → o'.status = .cancelled →
      o'.finishedAt = o.finishedAt → OutcomeStep e id o o'
  | concluded : e.concludes = some id → o.finishedAt = none → o'.finishedAt.isSome →
      OutcomeStep e id o o'
  | ended : o.status ≠ .cancelled → o.finishedAt = none → o'.finishedAt.isSome →
      OutcomeStep e id o o'

section Steps

variable {w : World} {id : Id} {o o' : DeploymentOperation}

theorem op?_updated {w' : World} {p : DeploymentOperation → Bool}
    {d : DeploymentOperation → DeploymentOperation} (ho : w.op? id = some o)
    (ho' : w'.op? id = some o') (hw : w'.db.operations = w.db.operations.updateMany p d)
    (hd : ∀ r, (d r).id = r.id) : o' = o ∨ (p o = true ∧ o' = d o) := by
  have hrow : w'.op? id = (w.op? id).map fun r => if p r then d r else r := by
    rw [World.op?, hw]
    exact Table.find?_updateMany _ p hd id
  rw [ho', ho, Option.map_some] at hrow
  by_cases h : p o = true
  · rw [if_pos h] at hrow
    exact .inr ⟨h, Option.some.inj hrow⟩
  · rw [if_neg h] at hrow
    exact .inl (Option.some.inj hrow)

theorem outcomeStep_kept {β : Type} {e : Stmt β} (ho : w.op? id = some o)
    (ho' : w.op? id = some o') : OutcomeStep e id o o' := by
  obtain rfl := Option.some.inj (ho.symm.trans ho')
  exact .kept rfl rfl

theorem outcomeStep_updated {β : Type} {e : Stmt β} {w' : World} {p : DeploymentOperation → Bool}
    {d : DeploymentOperation → DeploymentOperation} (ho : w.op? id = some o)
    (ho' : w'.op? id = some o') (hw : w'.db.operations = w.db.operations.updateMany p d)
    (hd : ∀ r, (d r).id = r.id) (h : p o = true → OutcomeStep e id o (d o)) :
    OutcomeStep e id o o' := by
  rcases op?_updated ho ho' hw hd with rfl | ⟨hp, rfl⟩
  · exact .kept rfl rfl
  · exact h hp

theorem outcomeStep_complete {β : Type} {e : Stmt β} {status : OperationResult}
    (he : e.concludes = if status = .cancelled then none else some id)
    (hf : o.finishedAt = none) (hs : o'.status = status.status) (hf' : o'.finishedAt.isSome) :
    OutcomeStep e id o o' := by
  by_cases h : status = .cancelled
  · subst h; exact .cancelled hs hf'
  · rw [if_neg h] at he
    exact .concluded he hf hf'

end Steps

theorem outcomeStep_run {β : Type} {e : Stmt β} {i : Input} {w : World} {id : Id}
    {o o' : DeploymentOperation} (ho : w.op? id = some o) (ho' : (e.run i w).2.op? id = some o') :
    OutcomeStep e id o o' := by
  have hid : o.id = id := Table.find?_key ho
  cases hw : e.writesOperations with
  | false => exact outcomeStep_kept ho (by rw [← op?_run_of_reads e i w id hw]; exact ho')
  | true =>
    cases e with
    | beginClaim view kind version artifact expected =>
      simp only [Stmt.run] at ho'
      split at ho'
      · exact outcomeStep_kept ho ho'
      · split at ho'
        · exact outcomeStep_kept ho ho'
        · refine outcomeStep_kept (w := { w with db := { w.db with
            operations := w.db.operations.insert _ } }) (Table.find?_insert_of_some ho) ho'
    | cancelClaimed | rejectBegin | cancelCiRetry | cancelAgentOperation =>
      simp only [Stmt.run, World.snd_requireRows] at ho'
      split at ho'
      · exact outcomeStep_updated ho ho' rfl (fun _ => rfl) fun _ => .cancelled (by rfl) (by rfl)
      · exact outcomeStep_kept ho ho'
    | cancelDirect a environmentId =>
      simp only [Stmt.run, World.snd_requireRows] at ho'
      split at ho'
      · refine outcomeStep_updated ho ho' rfl (fun _ => rfl) fun h => ?_
        obtain rfl : a = id := by rw [← hid]; exact (beq_iff_eq.mp h).symm
        exact .cancelledDirect (by rfl) (by rfl) (by rfl)
      · exact outcomeStep_kept ho ho'
    | finishUnowned a status message =>
      refine outcomeStep_updated ho ho' rfl (fun _ => rfl) fun h => ?_
      simp only [Bool.and_eq_true, beq_iff_eq, Option.isNone_iff_eq_none] at h
      obtain rfl : a = id := by rw [← hid]; exact h.1.1.symm
      exact outcomeStep_complete rfl h.2 (by rfl) (by rfl)
    | finishOwned instanceId generation a status message =>
      refine outcomeStep_updated ho ho' rfl (fun _ => rfl) fun h => ?_
      simp only [Bool.and_eq_true, beq_iff_eq, Option.isNone_iff_eq_none] at h
      obtain rfl : a = id := by rw [← hid]; exact h.1.1.1.symm
      exact outcomeStep_complete rfl h.1.2 (by rfl) (by rfl)
    | advancePhase | reportMessage | advanceDeploymentPhase | claimExecution | renewExecution
    | releaseExecution | publishQueued | publishManagedProgress =>
      exact outcomeStep_updated ho ho' rfl (fun _ => rfl) fun _ => .kept (by rfl) (by rfl)
    | captureRegistryArtifact =>
      simp only [Stmt.run] at ho'
      split at ho'
      · exact outcomeStep_updated ho ho' rfl (fun _ => rfl) fun _ => .kept (by rfl) (by rfl)
      · exact outcomeStep_kept ho ho'
    | mirrorDeploymentProgress operationId phase message sequence =>
      let w₁ := w.updateOperations (fun r => r.id == operationId && r.status == .running)
        fun r => { r with message := some message }
      obtain ⟨o₁, ho₁⟩ : ∃ o₁, w₁.op? id = some o₁ := by
        simp [w₁, World.op?_updateOperations, ho]
      have h₁ : o₁.status = o.status ∧ o₁.finishedAt = o.finishedAt := by
        rcases op?_updated ho ho₁ rfl (fun _ => rfl) with rfl | ⟨_, rfl⟩
        · exact ⟨rfl, rfl⟩
        · exact ⟨rfl, rfl⟩
      rcases op?_updated ho₁ ho' rfl (fun _ => rfl) with rfl | ⟨_, rfl⟩
      · exact .kept h₁.1 h₁.2
      · exact .kept h₁.1 h₁.2
    | recoverOperation operation now =>
      refine outcomeStep_updated ho ho' rfl (fun _ => rfl) fun h => ?_
      simp only [Bool.and_eq_true, beq_iff_eq, Option.isNone_iff_eq_none] at h
      by_cases hc : operation.status = .cancelled
      · exact .cancelled (by simp [hc]) (by rfl)
      · exact .ended (by rw [h.1.1.1.1.2]; exact hc) h.1.1.1.2 (by rfl)
    | finishProjection | failManagedOperation =>
      refine outcomeStep_updated ho ho' rfl (fun _ => rfl) fun h => ?_
      simp only [Bool.and_eq_true, beq_iff_eq, Option.isNone_iff_eq_none] at h
      exact .ended (by rw [h.1.2]; decide) h.2 (by rfl)
    | _ => cases hw

/-- What `begin` claims for: the environment as an earlier statement read it. -/
def Stmt.claimView {β : Type} : Stmt β → Option (EnvironmentView × Option ExpectedProductionState)
  | .beginClaim view _ _ _ expected => some (view, expected)
  | _ => none

theorem operationKeys_of_claimView {β : Type} {e : Stmt β} (h : e.claimView = none) (i : Input)
    (w : World) : (e.run i w).2.db.operations.keys = w.db.operations.keys := by
  cases hw : e.writesOperations with
  | false => rw [operations_run_of_reads e i w hw]
  | true =>
    cases e with
    | beginClaim => cases h
    | cancelClaimed | rejectBegin | cancelCiRetry | cancelAgentOperation | cancelDirect =>
      simp only [Stmt.run, World.snd_requireRows]
      split
      · exact Table.keys_updateMany _ _ fun _ => rfl
      · rfl
    | captureRegistryArtifact =>
      simp only [Stmt.run]
      split
      · exact Table.keys_updateMany _ _ fun _ => rfl
      · rfl
    | mirrorDeploymentProgress =>
      refine (Table.keys_updateMany (Table.updateMany w.db.operations _ _) _ ?_).trans
        (Table.keys_updateMany _ _ ?_)
      · intro r; rfl
      · intro r; rfl
    | finishUnowned | finishOwned | advancePhase | reportMessage | advanceDeploymentPhase
    | claimExecution | renewExecution | releaseExecution | publishQueued | publishManagedProgress
    | recoverOperation | finishProjection | failManagedOperation =>
      exact Table.keys_updateMany _ _ fun _ => rfl
    | _ => cases hw

theorem operationKeys_run {β : Type} (e : Stmt β) (i : Input) (w : World) :
    (e.run i w).2.db.operations.keys = w.db.operations.keys ∨
      ((e.run i w).2.db.operations.keys = w.db.operations.keys ++ [w.db.nextId] ∧
        (e.run i w).2.db.nextId = w.db.nextId + 1) := by
  cases e with
  | beginClaim =>
    simp only [Stmt.run]
    split
    · exact .inl rfl
    · split
      · exact .inl rfl
      · exact .inr ⟨Table.keys_insert _ _, rfl⟩
  | _ => exact .inl (operationKeys_of_claimView rfl i w)

theorem nextId_run {β : Type} (e : Stmt β) (i : Input) (w : World) :
    w.db.nextId ≤ (e.run i w).2.db.nextId := by
  cases e with
  | addExecution => exact Nat.le_succ _
  | leaveExecution | readContext | authenticate | enterExecution | captureRegistryArtifact =>
    simp only [Stmt.run]; split <;> exact Nat.le_refl _
  | createAllocation | createRoute =>
    simp only [Stmt.run]; split
    · exact Nat.le_refl _
    · exact Nat.le_succ _
  | beginClaim =>
    simp only [Stmt.run]
    split
    · exact Nat.le_refl _
    · split
      · exact Nat.le_refl _
      · exact Nat.le_succ _
  | upsertJob job =>
    simp only [Stmt.run]
    split
    · exact Nat.le_refl _
    · split
      · exact Nat.le_refl _
      · exact Nat.le_succ _
  | queueRouteJob route targetId allocation name request =>
    simp only [Stmt.run, World.queueRouteJob]
    split
    · exact Nat.le_refl _
    · split
      · exact Nat.le_refl _
      · split
        · exact Nat.le_refl _
        · exact Nat.le_succ _
  | cancelClaimed | rejectBegin | cancelCiRetry | cancelAgentOperation | cancelDirect
  | clearUnversioned | clearLock | abandonEnvironment | teardownPending | bindEnvironment =>
    simp only [Stmt.run, World.snd_requireRows]; split <;> exact Nat.le_refl _
  | completeJob => simp only [Stmt.run]; split <;> split <;> exact Nat.le_refl _
  | callDeploy | callStart | callStop | callTeardown | prepareDeployment
  | ensureImageAvailable | readArtifactObject | decryptConfig =>
    simp only [Stmt.run, external]; split <;> exact Nat.le_refl _
  | _ => exact Nat.le_refl _

/-! ## How rows are rewritten -/

/-- The ways in which statements rewrite the row of an operation. -/
inductive OperationUpdate : (DeploymentOperation → DeploymentOperation) → Prop where
  | finish (status : OperationResult) (message : Option String) (now : Time) :
      OperationUpdate (·.finish status message now)
  | complete (status : OperationResult) (message : Option String) (now : Time) :
      OperationUpdate (·.complete status message now)
  | completeOwned (status : OperationResult) (message : Option String) (now : Time) :
      OperationUpdate fun o => (o.complete status message now).releaseExecution
  | claim (instanceId : Id) (clock : Time) : OperationUpdate (·.claim instanceId clock)
  | renew (t : Time) : OperationUpdate fun o => { o with executionLeaseExpiresAt := some t }
  | release : OperationUpdate DeploymentOperation.releaseExecution
  | advance (phase : OperationPhase) (message : Option String) :
      OperationUpdate fun o => { o with phase := phase, message := message <|> o.message }
  | progress (phase : OperationPhase) (message : String) :
      OperationUpdate fun o => { o with phase := phase, message := some message }
  | message (message : String) : OperationUpdate fun o => { o with message := some message }
  | phase (phase : OperationPhase) : OperationUpdate fun o => { o with phase := phase }
  | recover (status : OperationStatus) (phase : OperationPhase) (message : String) (now : Time) :
      OperationUpdate fun o =>
        { o.releaseExecution with
          status := status, phase := phase, message := some message, finishedAt := some now }
  | cancelDirect (message : String) : OperationUpdate fun o =>
      { o with status := .cancelled, phase := .cancelled, message := some message }
  | artifact (id : Id) : OperationUpdate fun o => { o with buildArtifactId := some id }

section Updates

variable {w : World} {id : Id} {o o' : DeploymentOperation}
  {R : DeploymentOperation → DeploymentOperation → Prop}

theorem updated_of_update (hrefl : ∀ o, R o o) (hupdate : ∀ d, OperationUpdate d → ∀ o, R o (d o))
    {w' : World} {p : DeploymentOperation → Bool} {d : DeploymentOperation → DeploymentOperation}
    (ho : w.op? id = some o) (ho' : w'.op? id = some o')
    (hw : w'.db.operations = w.db.operations.updateMany p d) (hd : OperationUpdate d) :
    R o o' := by
  have hid : ∀ r, (d r).id = r.id := by cases hd <;> intro r <;> rfl
  rcases op?_updated ho ho' hw hid with rfl | ⟨_, rfl⟩
  · exact hrefl _
  · exact hupdate d hd o

theorem operation_run (hrefl : ∀ o, R o o) (htrans : ∀ o₁ o₂ o₃, R o₁ o₂ → R o₂ o₃ → R o₁ o₃)
    (hupdate : ∀ d, OperationUpdate d → ∀ o, R o (d o)) {β : Type} {e : Stmt β} {i : Input}
    (ho : w.op? id = some o) (ho' : (e.run i w).2.op? id = some o') : R o o' := by
  have hkept : ∀ {o'}, w.op? id = some o' → R o o' := by
    intro o' ho'
    obtain rfl := Option.some.inj (ho.symm.trans ho')
    exact hrefl _
  cases hw : e.writesOperations with
  | false => exact hkept (by rw [← op?_run_of_reads e i w id hw]; exact ho')
  | true =>
    cases e with
    | beginClaim view kind version artifact expected =>
      simp only [Stmt.run] at ho'
      split at ho'
      · exact hkept ho'
      · split at ho'
        · exact hkept ho'
        · obtain rfl := Option.some.inj ((Table.find?_insert_of_some ho).symm.trans ho')
          exact hrefl _
    | cancelClaimed | rejectBegin | cancelCiRetry | cancelAgentOperation =>
      simp only [Stmt.run, World.snd_requireRows] at ho'
      split at ho'
      · exact updated_of_update hrefl hupdate ho ho' rfl (.finish _ _ _)
      · exact hkept ho'
    | cancelDirect =>
      simp only [Stmt.run, World.snd_requireRows] at ho'
      split at ho'
      · exact updated_of_update hrefl hupdate ho ho' rfl (.cancelDirect _)
      · exact hkept ho'
    | captureRegistryArtifact =>
      simp only [Stmt.run] at ho'
      split at ho'
      · exact updated_of_update hrefl hupdate ho ho' rfl (.artifact _)
      · exact hkept ho'
    | finishUnowned => exact updated_of_update hrefl hupdate ho ho' rfl (.complete _ _ _)
    | finishOwned => exact updated_of_update hrefl hupdate ho ho' rfl (.completeOwned _ _ _)
    | claimExecution => exact updated_of_update hrefl hupdate ho ho' rfl (.claim _ _)
    | renewExecution => exact updated_of_update hrefl hupdate ho ho' rfl (.renew _)
    | releaseExecution => exact updated_of_update hrefl hupdate ho ho' rfl .release
    | advancePhase => exact updated_of_update hrefl hupdate ho ho' rfl (.advance _ _)
    | advanceDeploymentPhase | publishManagedProgress =>
      exact updated_of_update hrefl hupdate ho ho' rfl (.progress _ _)
    | reportMessage | publishQueued =>
      exact updated_of_update hrefl hupdate ho ho' rfl (.message _)
    | recoverOperation => exact updated_of_update hrefl hupdate ho ho' rfl (.recover _ _ _ _)
    | finishProjection | failManagedOperation =>
      exact updated_of_update hrefl hupdate ho ho' rfl (.finish _ _ _)
    | mirrorDeploymentProgress operationId phase message sequence =>
      let w₁ := w.updateOperations (fun r => r.id == operationId && r.status == .running)
        fun r => { r with message := some message }
      obtain ⟨o₁, ho₁⟩ : ∃ o₁, w₁.op? id = some o₁ := by
        simp [w₁, World.op?_updateOperations, ho]
      exact htrans _ _ _ (updated_of_update hrefl hupdate ho ho₁ rfl (.message _))
        (updated_of_update hrefl hupdate ho₁ ho' rfl (.phase _))
    | _ => cases hw

theorem generation_run {β : Type} {e : Stmt β} {i : Input} (ho : w.op? id = some o)
    (ho' : (e.run i w).2.op? id = some o') : o.executionGeneration ≤ o'.executionGeneration := by
  refine operation_run (R := fun o o' => o.executionGeneration ≤ o'.executionGeneration)
    (fun _ => Nat.le_refl _) (fun _ _ _ => Nat.le_trans) (fun d hd o => ?_) ho ho'
  cases hd with
  | claim =>
    simp only [DeploymentOperation.claim]
    split
    · exact Nat.le_refl _
    · exact Nat.le_succ _
  | _ => exact Nat.le_refl _

/-- What `begin` writes once and for all. -/
structure SameRequest (o o' : DeploymentOperation) : Prop where
  environmentId : o'.environmentId = o.environmentId
  kind : o'.kind = o.kind
  version : o'.version = o.version
  targetIdSnapshot : o'.targetIdSnapshot = o.targetIdSnapshot

theorem sameRequest_run {β : Type} {e : Stmt β} {i : Input} (ho : w.op? id = some o)
    (ho' : (e.run i w).2.op? id = some o') : SameRequest o o' := by
  refine operation_run (R := SameRequest) (fun _ => ⟨rfl, rfl, rfl, rfl⟩)
    (fun _ _ _ h h' => ⟨h'.1.trans h.1, h'.2.trans h.2, h'.3.trans h.3, h'.4.trans h.4⟩)
    (fun d hd o => ?_) ho ho'
  cases hd <;> exact ⟨rfl, rfl, rfl, rfl⟩

end Updates

section Exec

variable {β : Type} {e : Stmt β} {i : Input} {w : World} {id : Id} {o o' : DeploymentOperation}

theorem outcomeStep_exec (ho : w.op? id = some o) (ho' : (exec e i w).2.op? id = some o') :
    OutcomeStep e id o o' := by
  rcases exec_cases e i w with ⟨_, _, he⟩ | ⟨_, he⟩
  · rw [he] at ho'; exact outcomeStep_kept ho ho'
  · rw [he] at ho'; exact outcomeStep_run (by simpa using ho) ho'

theorem unfinished_of_exec (ho : w.op? id = some o) (ho' : (exec e i w).2.op? id = some o')
    (h : o'.unfinished = true) : o.unfinished = true := by
  simp only [DeploymentOperation.unfinished, Bool.and_eq_true, beq_iff_eq,
    Option.isNone_iff_eq_none] at h ⊢
  cases outcomeStep_exec ho ho' with
  | kept hs hf => exact ⟨hs ▸ h.1, hf ▸ h.2⟩
  | cancelled hs _ => rw [hs] at h; cases h.1
  | cancelledDirect _ hs _ => rw [hs] at h; cases h.1
  | concluded _ _ hf => rw [h.2] at hf; cases hf
  | ended _ _ hf => rw [h.2] at hf; cases hf

theorem op?_isSome_exec (h : (w.op? id).isSome) : ((exec e i w).2.op? id).isSome := by
  rcases exec_cases e i w with ⟨_, _, he⟩ | ⟨_, he⟩
  · rw [he]; exact h
  · rw [World.op?, Table.find?_isSome_iff] at h ⊢
    rw [he]
    rcases operationKeys_run e i (w.tick i.dbNow) with hk | ⟨hk, _⟩
    · rw [hk]; exact h
    · rw [hk]; exact List.mem_append_left _ h

theorem nextId_exec : w.db.nextId ≤ (exec e i w).2.db.nextId := by
  rcases exec_cases e i w with ⟨_, _, he⟩ | ⟨_, he⟩
  · exact Nat.le_of_eq (by rw [he])
  · rw [he]; exact nextId_run e i (w.tick i.dbNow)

theorem sameRequest_exec (ho : w.op? id = some o) (ho' : (exec e i w).2.op? id = some o') :
    SameRequest o o' := by
  rcases exec_cases e i w with ⟨_, _, he⟩ | ⟨_, he⟩
  · rw [he, ho] at ho'
    obtain rfl := Option.some.inj ho'
    exact ⟨rfl, rfl, rfl, rfl⟩
  · rw [he] at ho'; exact sameRequest_run (by simpa using ho) ho'

theorem generation_exec (ho : w.op? id = some o) (ho' : (exec e i w).2.op? id = some o') :
    o.executionGeneration ≤ o'.executionGeneration := by
  rcases exec_cases e i w with ⟨_, _, he⟩ | ⟨_, he⟩
  · rw [he, ho] at ho'
    obtain rfl := Option.some.inj ho'
    exact Nat.le_refl _
  · rw [he] at ho'; exact generation_run (by simpa using ho) ho'

end Exec

end InitPad
