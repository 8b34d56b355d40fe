import InitPad.Deployment.Effect

/-!
# InitPad.Deployment.Frame

What a lookup finds after each update of the world, and what an executed statement leaves alone.
-/

namespace InitPad

open Store Interleave

namespace World

variable (w : World)

@[simp] theorem env?_tick (t : Time) (id : Id) : (w.tick t).env? id = w.env? id := rfl
@[simp] theorem op?_tick (t : Time) (id : Id) : (w.tick t).op? id = w.op? id := rfl
@[simp] theorem job?_tick (t : Time) (id : Id) : (w.tick t).job? id = w.job? id := rfl
@[simp] theorem lock_tick (t : Time) (id : Id) : (w.tick t).lock id = w.lock id := rfl

section Environments

variable (p : Environment → Bool) (d : Environment → Environment) (id : Id)

theorem env?_updateEnvironments (hd : ∀ r, (d r).id = r.id) :
    (w.updateEnvironments p d).env? id = (w.env? id).map fun r => if p r then d r else r :=
  Table.find?_updateMany _ p hd id

@[simp] theorem op?_updateEnvironments (op : Id) :
    (w.updateEnvironments p d).op? op = w.op? op := rfl
@[simp] theorem job?_updateEnvironments (job : Id) :
    (w.updateEnvironments p d).job? job = w.job? job := rfl

@[simp] theorem env?_patchEnvironment (d : EnvironmentData) :
    (w.patchEnvironment p d).env? id = (w.env? id).map fun r => if p r then d.apply r else r :=
  w.env?_updateEnvironments p d.apply id fun _ => rfl

@[simp] theorem op?_patchEnvironment (d : EnvironmentData) (op : Id) :
    (w.patchEnvironment p d).op? op = w.op? op := rfl
@[simp] theorem job?_patchEnvironment (d : EnvironmentData) (job : Id) :
    (w.patchEnvironment p d).job? job = w.job? job := rfl

end Environments

section Operations

variable (p : DeploymentOperation → Bool) (d : DeploymentOperation → DeploymentOperation) (id : Id)

theorem op?_updateOperations (hd : ∀ r, (d r).id = r.id) :
    (w.updateOperations p d).op? id = (w.op? id).map fun r => if p r then d r else r :=
  Table.find?_updateMany _ p hd id

@[simp] theorem env?_updateOperations (env : Id) :
    (w.updateOperations p d).env? env = w.env? env := rfl
@[simp] theorem job?_updateOperations (job : Id) :
    (w.updateOperations p d).job? job = w.job? job := rfl

end Operations

section Jobs

variable (p : AgentJob → Bool) (d : AgentJob → AgentJob) (id : Id)

theorem job?_updateJobs (hd : ∀ r, (d r).id = r.id) :
    (w.updateJobs p d).job? id = (w.job? id).map fun r => if p r then d r else r :=
  Table.find?_updateMany _ p hd id

@[simp] theorem env?_updateJobs (env : Id) : (w.updateJobs p d).env? env = w.env? env := rfl
@[simp] theorem op?_updateJobs (op : Id) : (w.updateJobs p d).op? op = w.op? op := rfl
@[simp] theorem env?_insertJob (job : AgentJob) (env : Id) :
    (w.insertJob job).env? env = w.env? env := rfl
@[simp] theorem op?_insertJob (job : AgentJob) (op : Id) :
    (w.insertJob job).op? op = w.op? op := rfl

end Jobs

theorem snd_requireRows (rows : Bool) (w' : World) :
    (w.requireRows rows w').2 = if rows then w' else w := by
  cases rows <;> rfl

end World

theorem exec_cases {β : Type} (e : Stmt β) (i : Input) (w : World) :
    (i.fault = true ∧ e.inProcess = false ∧ exec e i w = (.error .databaseFault, w)) ∨
    ((i.fault = false ∨ e.inProcess = true) ∧ exec e i w = e.run i (w.tick i.dbNow)) := by
  rw [exec_eq]
  cases hf : i.fault <;> cases hp : e.inProcess <;> simp

theorem exec_of_inProcess {β : Type} {e : Stmt β} (h : e.inProcess = true) (i : Input)
    (w : World) : exec e i w = e.run i (w.tick i.dbNow) := by
  rw [exec_eq, if_neg (by simp [h])]

theorem exec_of_noFault {β : Type} (e : Stmt β) {i : Input} (hf : i.fault = false) (w : World) :
    exec e i w = e.run i (w.tick i.dbNow) := by
  rw [exec_eq, if_neg (by simp [hf])]

/-! ## Tables that a statement does not write -/

/-- The statements that may change a row of `Environment`. -/
def Stmt.writesEnvironments {β : Type} : Stmt β → Bool
  | .beginClaim .. | .cancelClaimed .. | .releaseLock .. | .reportStatusReason ..
  | .recoverEnvironment .. | .cancelCiRetry .. | .cancelAgentOperation .. | .cancelDirect ..
  | .clearUnversioned .. | .clearLock .. | .abandonEnvironment .. | .publishRemoved ..
  | .publishStopped .. | .failLifecycle .. | .publishStarted .. | .publishEmptied ..
  | .failBackground .. | .markDeploying .. | .publishDeployment .. | .teardownPending ..
  | .bindEnvironment .. | .claimExpiry .. | .rescheduleExpiry .. | .publishQueued ..
  | .mirrorDeploymentProgress .. | .finishProjection .. | .failManagedOperation ..
  | .publishManagedProgress .. => true
  | _ => false

/-- The statements that may change a row of `DeploymentOperation`. -/
def Stmt.writesOperations {β : Type} : Stmt β → Bool
  | .beginClaim .. | .cancelClaimed .. | .rejectBegin .. | .finishUnowned .. | .finishOwned ..
  | .claimExecution .. | .renewExecution .. | .releaseExecution .. | .advancePhase ..
  | .reportMessage .. | .recoverOperation .. | .cancelCiRetry .. | .cancelAgentOperation ..
  | .cancelDirect .. | .captureRegistryArtifact .. | .publishQueued ..
  | .mirrorDeploymentProgress .. | .advanceDeploymentPhase .. | .finishProjection ..
  | .failManagedOperation .. | .publishManagedProgress .. => true
  | _ => false

/-- The statements that may change a row of `AgentJob`. -/
def Stmt.writesJobs {β : Type} : Stmt β → Bool
  | .cancelAgentOperation .. | .cancelEnvironmentJobs .. | .upsertJob .. | .cancelBlockedJob ..
  | .queueRouteJob .. | .claimJob .. | .renewJob .. | .progressJob .. | .completeJob ..
  | .failJob .. | .failManagedOperation .. | .unblockWorkload .. => true
  | _ => false

theorem environments_run_of_reads {β : Type} (e : Stmt β) (i : Input) (w : World)
    (h : e.writesEnvironments = false) : (e.run i w).2.db.environments = w.db.environments := by
  cases e with
  | leaveExecution | readContext | captureRegistryArtifact | authenticate =>
    simp only [Stmt.run]; split <;> rfl
  | enterExecution | createAllocation | createRoute =>
    simp only [Stmt.run]; split <;> rfl
  | rejectBegin => simp only [Stmt.run, World.snd_requireRows]; split <;> rfl
  | completeJob => simp only [Stmt.run]; split <;> split <;> rfl
  | upsertJob job =>
    simp only [Stmt.run]
    split
    · rfl
    · split <;> rfl
  | queueRouteJob route targetId allocation name request =>
    simp only [Stmt.run, World.queueRouteJob]
    split
    · rfl
    · split
      · rfl
      · split <;> rfl
  | callDeploy | callStart | callStop | callTeardown | prepareDeployment
  | ensureImageAvailable | readArtifactObject | decryptConfig =>
    simp only [Stmt.run, external]; split <;> rfl
  | _ => first | rfl | cases h

theorem operations_run_of_reads {β : Type} (e : Stmt β) (i : Input) (w : World)
    (h : e.writesOperations = false) : (e.run i w).2.db.operations = w.db.operations := by
  cases e with
  | leaveExecution | readContext | authenticate =>
    simp only [Stmt.run]; split <;> rfl
  | enterExecution | createAllocation | createRoute =>
    simp only [Stmt.run]; split <;> rfl
  | clearUnversioned | clearLock | abandonEnvironment | teardownPending | bindEnvironment =>
    simp only [Stmt.run, World.snd_requireRows]; split <;> rfl
  | completeJob => simp only [Stmt.run]; split <;> split <;> rfl
  | upsertJob job =>
    simp only [Stmt.run]
    split
    · rfl
    · split <;> rfl
  | queueRouteJob route targetId allocation name request =>
    simp only [Stmt.run, World.queueRouteJob]
    split
    · rfl
    · split
      · rfl
      · split <;> rfl
  | callDeploy | callStart | callStop | callTeardown | prepareDeployment
  | ensureImageAvailable | readArtifactObject | decryptConfig =>
    simp only [Stmt.run, external]; split <;> rfl
  | _ => first | rfl | cases h

theorem agentJobs_run_of_reads {β : Type} (e : Stmt β) (i : Input) (w : World)
    (h : e.writesJobs = false) : (e.run i w).2.db.agentJobs = w.db.agentJobs := by
  cases e with
  | leaveExecution | readContext | captureRegistryArtifact | authenticate =>
    simp only [Stmt.run]; split <;> rfl
  | enterExecution | createAllocation | createRoute =>
    simp only [Stmt.run]; split <;> rfl
  | rejectBegin | cancelClaimed | cancelCiRetry | cancelDirect | clearUnversioned | clearLock
  | abandonEnvironment | teardownPending | bindEnvironment =>
    simp only [Stmt.run, World.snd_requireRows]; split <;> rfl
  | beginClaim =>
    simp only [Stmt.run]
    split
    · rfl
    · split <;> rfl
  | callDeploy | callStart | callStop | callTeardown | prepareDeployment
  | ensureImageAvailable | readArtifactObject | decryptConfig =>
    simp only [Stmt.run, external]; split <;> rfl
  | _ => first | rfl | cases h

theorem env?_run_of_reads {β : Type} (e : Stmt β) (i : Input) (w : World) (id : Id)
    (h : e.writesEnvironments = false) : (e.run i w).2.env? id = w.env? id := by
  rw [World.env?, environments_run_of_reads e i w h]; rfl

theorem op?_run_of_reads {β : Type} (e : Stmt β) (i : Input) (w : World) (id : Id)
    (h : e.writesOperations = false) : (e.run i w).2.op? id = w.op? id := by
  rw [World.op?, operations_run_of_reads e i w h]; rfl

/-- A statement that writes none of the three tables. -/
def Stmt.silent {β : Type} (e : Stmt β) : Bool :=
  !e.writesEnvironments && !e.writesOperations && !e.writesJobs

theorem exec_of_silent {β : Type} {e : Stmt β} (h : e.silent = true) (i : Input) (w : World) :
    (exec e i w).2.db.environments = w.db.environments ∧
      (exec e i w).2.db.operations = w.db.operations ∧
      (exec e i w).2.db.agentJobs = w.db.agentJobs := by
  simp only [Stmt.silent, Bool.and_eq_true, Bool.not_eq_true'] at h
  rcases exec_cases e i w with ⟨_, _, he⟩ | ⟨_, he⟩
  · rw [he]; exact ⟨rfl, rfl, rfl⟩
  · rw [he, environments_run_of_reads e _ _ h.1.1, operations_run_of_reads e _ _ h.1.2,
      agentJobs_run_of_reads e _ _ h.2]
    exact ⟨rfl, rfl, rfl⟩

end InitPad
