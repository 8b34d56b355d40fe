import InitPad.Deployment.Projects

/-!
# InitPad.Deployment.Tasks

The tasks that work on one claimed operation, and what they may execute: `Stmt.worksOn operationId`
is the footprint that they share. A task never enters or leaves an execution lease, never begins
an operation, and completes or publishes no other operation than its own.
-/

namespace InitPad

open Store Interleave Prog

/-- What a task may execute before it publishes or completes operation `o`. -/
@[grind =] def Stmt.prepares {β : Type} (o : Id) : Stmt β → Bool
  | .query _ | .readClock | .readContext _ | .setCompleted .. | .setLost .. | .recordAudit _
  | .createAllocation .. | .upsertJob _ | .cancelBlockedJob _ | .createRoute ..
  | .queueRouteJob .. | .callDeploy .. | .callStart _ | .callStop _ | .callTeardown _
  | .prepareDeployment _ | .ensureImageAvailable _ => true
  | .renewExecution _ _ o' | .advancePhase o' _ _ _ | .readCancelled o' | .reportMessage _ _ o' _
  | .reportStatusReason o' _ _ _ | .markDeploying _ _ o' _ | .captureRegistryArtifact o'
  | .publishQueued o' _ _ _ => o' == o
  | _ => false

/-- The part of `complete` that writes operation `o` with `status` and releases its lock. -/
@[grind =] def Stmt.completes {β : Type} (o : Id) (status : OperationResult) : Stmt β → Bool
  | .finishUnowned o' status' _ | .finishOwned _ _ o' status' _ => o' == o && status' == status
  | .releaseLock o' => o' == o
  | _ => false

/-- The operation that a statement publishes or completes. -/
@[grind =] def Stmt.settles {β : Type} : Stmt β → Option Id
  | .finishUnowned o _ _ | .finishOwned _ _ o _ _ | .releaseLock o | .publishRemoved _ o _
  | .publishStopped _ o | .failLifecycle _ o _ _ _ | .publishStarted _ _ o _
  | .publishEmptied _ _ o _ | .failBackground _ _ o _ | .publishDeployment _ _ o _ _ _ _ => some o
  | _ => none

/-- What a task may execute that works on operation `o`. -/
def Stmt.worksOn {β : Type} (o : Id) (e : Stmt β) : Bool := e.prepares o || e.settles == some o

def Prepares {α : Type} (o : Id) (p : Async α) : Prop := p.Only fun e => e.prepares o = true

def Completes {α : Type} (o : Id) (status : OperationResult) (p : Async α) : Prop :=
  p.Only fun e => (e.prepares o || e.completes o status) = true

/-- All statements of the program work on operation `o`. -/
def WorksOn {α : Type} (o : Id) (p : Async α) : Prop := p.Only fun e => e.worksOn o = true

theorem Prepares.worksOn {α : Type} {o : Id} {p : Async α} (h : Prepares o p) : WorksOn o p :=
  Only.mono (fun _ he => by simp [Stmt.worksOn, he]) h

theorem Prepares.completes {α : Type} {o : Id} {status : OperationResult} {p : Async α}
    (h : Prepares o p) : Completes o status p :=
  Only.mono (fun _ he => by simp [he]) h

theorem settles_of_completes {β : Type} {o : Id} {status : OperationResult} {e : Stmt β}
    (h : e.completes o status = true) : e.settles = some o := by
  cases e with
  | finishUnowned | finishOwned =>
    simp only [Stmt.completes, Bool.and_eq_true, beq_iff_eq] at h
    simp [Stmt.settles, h.1]
  | releaseLock => simpa [Stmt.completes, Stmt.settles] using h
  | _ => cases h

theorem Completes.worksOn {α : Type} {o : Id} {status : OperationResult} {p : Async α}
    (h : Completes o status p) : WorksOn o p := by
  refine Only.mono (fun e he => ?_) h
  rcases Bool.or_eq_true_iff.mp he with he | he
  · simp [Stmt.worksOn, he]
  · simp [Stmt.worksOn, settles_of_completes he]

theorem worksOn_await {β : Type} {o : Id} {e : Stmt β} (h : e.settles = some o) :
    WorksOn o (await e) := .await (by simp [Stmt.worksOn, h])

section Tasks

variable {o : Id} {x : Option Execution} {y : Execution}

theorem executionOf_operationId (h : executionOf x o = some y) : y.operationId = o := by
  simp only [executionOf, Option.filter_eq_some_iff, beq_iff_eq] at h
  exact h.2

/-! ## Operations -/

theorem prepares_recordResultSafely (o' : Id) : Prepares o (recordResultSafely o') :=
  .ignoreError (.await rfl)

theorem prepares_throwIfLost : Prepares o (throwIfLost y) := by
  refine .bind (.await rfl) fun context => ?_
  split
  · exact .ret _
  · exact .ret _

theorem prepares_renewExecution (h : y.operationId = o) : Prepares o (renewExecution y) := by
  refine .bind (.await rfl) fun context => ?_
  split
  · exact .ret _
  · split
    · exact .ret _
    · refine .bind (.await (by simp [Stmt.prepares, h])) fun rows => ?_
      split
      · exact .ret _
      · exact .bind (.await rfl) fun _ => .ret _

theorem prepares_assertExecution : Prepares o (assertExecution x o) := by
  unfold assertExecution
  split
  · exact .ret _
  · rename_i y h
    exact .bind prepares_throwIfLost fun _ =>
      .bind (prepares_renewExecution (executionOf_operationId h)) fun _ => prepares_throwIfLost

theorem prepares_assertIfOwned : Prepares o (assertIfOwned x o) := by
  unfold assertIfOwned
  split
  · exact .ret _
  · exact prepares_assertExecution

theorem completes_completeOwned {status : OperationResult} {message : Option String}
    (h : y.operationId = o) : Completes o status (completeOwned y status message) := by
  subst h
  refine .bind prepares_assertExecution.completes fun _ => .bind (.await rfl) fun _ =>
    .bind (.tryCatch (.await (by simp [Stmt.completes])) fun _ => ?_) fun changed => ?_
  · exact .bind (.await rfl) fun _ => .ret _
  · split
    · exact .bind (.await (by simp [Stmt.completes])) fun _ => .bind (.await rfl) fun _ =>
        (prepares_recordResultSafely _).completes
    · exact .bind (.await rfl) fun _ => .bind (.await rfl) fun _ => .ret _

theorem completes_completeUnowned {status : OperationResult} {message : Option String} :
    Completes o status (completeUnowned o status message) := by
  refine .bind (.tryCatch (.bind (.await (by simp [Stmt.completes])) fun _ => .ret _)
    fun _ => .ret _) fun changed => ?_
  have hrelease : ∀ proceed : Bool, Completes o status (if proceed = true then do
      let _ ← await (.releaseLock o)
      if changed.isSome then do
        ignoreError (await (.query fun db => .ok (db.operations.find? o)))
        recordResultSafely o
      else pure ()
    else pure ()) := by
    intro proceed
    split
    · refine .bind (.await (by simp [Stmt.completes])) fun _ => ?_
      split
      · exact .bind (.ignoreError (.await rfl)) fun _ => (prepares_recordResultSafely _).completes
      · exact .ret _
    · exact .ret _
  dsimp only
  split
  · exact .bind (.bind (.tryCatch (.await rfl) fun _ => .ret _) fun _ => .ret _) hrelease
  · exact .bind (.ret _) hrelease

theorem completes_complete {status : OperationResult} {message : Option String} :
    Completes o status (complete x o status message) := by
  unfold complete
  split
  · rename_i y h
    exact completes_completeOwned (executionOf_operationId h)
  · exact completes_completeUnowned

theorem worksOn_complete {status : OperationResult} {message : Option String} :
    WorksOn o (complete x o status message) := completes_complete.worksOn

theorem prepares_advancePhase {phase : OperationPhase} {message : Option String} :
    Prepares o (advancePhase x o phase message) :=
  .bind prepares_assertIfOwned fun _ => .bind (.await (by simp [Stmt.prepares])) fun _ => .ret _

theorem prepares_cancelled : Prepares o (cancelled x o) :=
  .bind prepares_assertIfOwned fun _ => .await (by simp [Stmt.prepares])

theorem prepares_renewalTick : Prepares y.operationId (renewalTick y) :=
  .tryCatch (prepares_renewExecution rfl) fun _ => .await rfl

theorem prepares_reportProgress {projectId : Id} {envName : EnvName} {message : String}
    {p : Async Unit} (hp : p ∈ reportProgress x o projectId envName message) : Prepares o p := by
  unfold reportProgress at hp
  split at hp
  · cases hp
  · simp only [List.map_cons, List.map_nil, List.mem_cons, List.not_mem_nil, or_false] at hp
    rcases hp with rfl | rfl | rfl
    · exact .ignoreError (.bind prepares_assertExecution fun _ =>
        .bind (.await (by simp [Stmt.prepares])) fun _ => .ret _)
    · exact .ignoreError (.bind prepares_assertExecution fun _ => prepares_advancePhase)
    · exact .ignoreError (.bind prepares_assertExecution fun _ =>
        .bind (.await (by simp [Stmt.prepares])) fun _ => .ret _)

/-! ## Delivery to an Agent -/

theorem prepares_liftExcept {α : Type} (r : Except Err α) : Prepares o (liftExcept r) := .ret _

section Gateway

variable {R : ∀ {α : Type}, Async α → Prop} (hR : Compositional R)
  (hquery : ∀ {γ : Type} (f : Db → Except Err γ), R (await (.query f)))
  (hroute : ∀ environmentId targetId allocationId hostname,
    R (await (.createRoute environmentId targetId allocationId hostname)))

include hR hquery hroute

theorem compose_reserve {platform : Platform} {environmentId : Id} :
    R (reserve platform environmentId) := by
  refine hR.bind (hquery _) fun found => ?_
  split
  · exact hR.ret _
  · split
    · exact hR.ret _
    · refine hR.bind (hquery _) fun existing => ?_
      split
      · exact hR.bind (hR.ret _) fun _ => hR.ret _
      · refine hR.bind (hR.ret _) fun hostname =>
          hR.tryCatch (hroute _ _ _ _) fun error => ?_
        refine hR.bind (hquery _) fun winner => ?_
        split
        · exact hR.ret _
        · exact hR.bind (hR.ret _) fun _ => hR.ret _

theorem compose_queueReconcile {platform : Platform} {environmentId : Id}
    {request : GatewayRouteReconcileRequest}
    (hqueue : ∀ route targetId allocation name,
      R (await (.queueRouteJob route targetId allocation name request))) :
    R (queueReconcile platform environmentId request) := by
  refine hR.bind (hR.ret _) fun _ => hR.bind (compose_reserve hR hquery hroute) fun route =>
    hR.bind (hquery _) fun (view, agent) => hR.bind (hR.ret _) fun binding =>
      hR.bind (hquery _) fun existing => ?_
  split
  · exact hR.ret _
  · refine hR.tryCatch (hqueue _ _ _ _) fun error => ?_
    split
    · refine hR.bind (hquery _) fun winner => ?_
      split
      · exact hR.ret _
      · exact hR.ret _
    · exact hR.ret _

end Gateway

theorem prepares_queueReconcile {platform : Platform} {environmentId : Id}
    {request : GatewayRouteReconcileRequest} :
    Prepares o (queueReconcile platform environmentId request) :=
  compose_queueReconcile (R := fun p => Prepares o p) compositional_only (fun _ => .await rfl)
    (fun _ _ _ _ => .await rfl) fun _ _ _ _ => .await rfl

theorem prepares_loadOperation (o' : Id) : Prepares o (loadOperation o') := by
  refine .bind (.await rfl) fun found => ?_
  split
  · exact .ret _
  · split
    · exact .ret _
    · exact .ret _

theorem prepares_queueDeployment {platform : Platform} {durable : Bool}
    {intent : AgentDeploymentIntent} : Prepares o (queueDeployment platform durable o intent) := by
  unfold queueDeployment
  split
  · exact .ret _
  · refine .bind (prepares_loadOperation _) fun v =>
      .bind (prepares_liftExcept _) fun (target, allocation) => ?_
    dsimp only
    split
    · refine .bind (.await rfl) fun row => ?_
      split
      · exact .await (by simp [Stmt.prepares])
      · exact .ret _
    · exact .ret _

theorem prepares_queueLifecycle {platform : Platform} {kind : JobKind}
    {intent : AgentDeploymentIntent} : Prepares o (queueLifecycle platform o kind intent) := by
  refine .bind (prepares_loadOperation _) fun v =>
    .bind (prepares_liftExcept _) fun (target, allocation) => .bind (.await rfl) fun row => ?_
  dsimp only
  split
  · split
    · refine .bind (.tryCatch (.bind prepares_queueReconcile fun _ => .ret _) fun error => ?_)
        fun _ => .await (by simp [Stmt.prepares])
      exact .bind (.await rfl) fun _ => .ret _
    · exact .ret _
  · split
    · exact .await (by simp [Stmt.prepares])
    · exact .ret _

theorem prepares_queueAgentLifecycle {api : Api} {view : EnvironmentView} {version : Option String}
    {artifact : Option BuildArtifact} {kind : JobKind} :
    Prepares o (queueAgentLifecycle api view version artifact kind o) := by
  unfold queueAgentLifecycle
  split
  · exact prepares_queueLifecycle
  · exact .ret _

/-! ## Execution of a deployment -/

theorem prepares_ensureAllocation {workspaceId targetId : Id} :
    Prepares o (ensureAllocation workspaceId targetId) := by
  refine .bind (.await rfl) fun existing => ?_
  split
  · exact .ret _
  · refine .bind (.await rfl) fun target => .bind (.await rfl) fun workspace =>
      .tryCatch (.await rfl) fun error => .bind (.await rfl) fun winner => ?_
    split
    · exact .ret _
    · exact .ret _

theorem prepares_assertAcceptsDeploy {allocationId environmentId : Id} {runtime : RuntimeKind} :
    Prepares o (assertAcceptsDeploy allocationId environmentId runtime) := by
  refine .bind (.await rfl) fun found => ?_
  split
  · exact .ret _
  · exact .bind (.await rfl) fun _ => prepares_liftExcept _

theorem prepares_testedImage {api : Api} {view : EnvironmentView} {version : String}
    {useRegistry : Bool} {operation : Option ExecutedOperation} :
    Prepares o (testedImage api view version useRegistry o operation) := by
  unfold testedImage
  split
  · exact .ret _
  · split
    · unfold githubImage
      split
      · exact .ret _
      · split
        · exact .ret _
        · refine .bind (.await rfl) fun available => ?_
          split
          · exact .ret _
          · exact .ret _
    · unfold giteaImage
      split
      · exact .ret _
      · exact .bind (.await (by simp [Stmt.prepares])) fun _ => .ret _

theorem prepares_deploymentAllocation {view : EnvironmentView} :
    Prepares o (deploymentAllocation view) := by
  unfold deploymentAllocation
  split
  · exact .ret _
  · exact .bind prepares_ensureAllocation fun _ =>
      .bind prepares_assertAcceptsDeploy fun _ => .ret _

theorem prepares_handOver {api : Api} {view : EnvironmentView} {useRegistry : Bool}
    {image : TestedImage} : Prepares o (handOver api view useRegistry image o) := by
  unfold handOver
  split
  · split
    · exact .bind prepares_queueDeployment fun _ => .ret _
    · exact .ret _
  · exact .ret _

theorem worksOn_publishResult {view : EnvironmentView} {version : String} {image : TestedImage}
    {result : DeployResult} : WorksOn o (publishResult view version image o x result) := by
  refine .bind prepares_cancelled.worksOn fun stopped => ?_
  split
  · exact .bind (.await rfl) fun _ => .bind (worksOn_await rfl) fun _ =>
      .bind worksOn_complete fun _ => .ret _
  · split
    · exact .ret _
    · exact .bind (worksOn_await rfl) fun _ => .ret _

theorem worksOn_deployDirect {view : EnvironmentView} {version : String} {image : TestedImage} :
    WorksOn o (deployDirect view version image o x) :=
  .bind (.await rfl) fun _ => .bind (.await rfl) fun _ => worksOn_publishResult

theorem worksOn_execute {api : Api} {projectId : Id} {envName : EnvName} {version : String}
    {useRegistry : Bool} : WorksOn o (execute api projectId envName version useRegistry o x) := by
  refine .bind prepares_advancePhase.worksOn fun _ => .bind (.await rfl) fun _ =>
    .bind (.await rfl) fun view => .bind (.await rfl) fun operation =>
      .bind prepares_testedImage.worksOn fun image =>
        .bind prepares_deploymentAllocation.worksOn fun allocation =>
          .bind (.await (by simp [Stmt.worksOn, Stmt.prepares])) fun _ =>
            .bind prepares_advancePhase.worksOn fun _ => ?_
  split
  · exact prepares_handOver.worksOn
  · exact worksOn_deployDirect

theorem worksOn_failInBackground {projectId : Id} {envName : EnvName} {error : Err} :
    WorksOn o (failInBackground projectId envName o x error) :=
  .bind prepares_assertExecution.worksOn fun _ =>
    .bind (.ignoreError (worksOn_await rfl)) fun _ => worksOn_complete

theorem worksOn_deployLeased {api : Api} {projectId : Id} {envName : EnvName} {version : String}
    {useRegistry : Bool} :
    WorksOn o (deployLeased api projectId envName version useRegistry o x) := by
  refine .bind worksOn_execute fun published => ?_
  split
  · exact worksOn_complete
  · exact .ret _

theorem worksOn_failDirectLifecycle {environmentId : Id} {status : DeployStatus} {error : Err} :
    WorksOn o (failDirectLifecycle x environmentId o status error) :=
  .bind prepares_assertExecution.worksOn fun _ => .bind (worksOn_await rfl) fun _ =>
    worksOn_complete

theorem worksOn_failQueuedLifecycle {environmentId : Id} {status : DeployStatus} {error : Err} :
    WorksOn o (failQueuedLifecycle environmentId o status error) :=
  .bind (worksOn_await rfl) fun _ => worksOn_complete

theorem worksOn_stopDirect {environmentId : Id} : WorksOn o (stopDirect environmentId o x) := by
  refine .bind (.tryCatch (.await rfl) fun error => .bind worksOn_failDirectLifecycle
    fun _ => .ret _) fun _ => .bind prepares_assertExecution.worksOn fun _ =>
      .bind (worksOn_await rfl) fun published => ?_
  split
  · exact worksOn_complete
  · exact .ret _

theorem worksOn_removeDirect {environment : Environment} :
    WorksOn o (removeDirect environment o x) := by
  refine .bind (.tryCatch (.await rfl) fun error => .bind worksOn_failDirectLifecycle
    fun _ => .ret _) fun _ => .bind prepares_assertExecution.worksOn fun _ =>
      .bind (worksOn_await rfl) fun published => ?_
  split
  · exact worksOn_complete
  · exact .ret _

theorem prepares_environmentContext {projectId : Id} {envName : EnvName} :
    Prepares o (environmentContext projectId envName) := by
  refine .bind (.await rfl) fun project => ?_
  split
  · exact .ret _
  · refine .bind (.await rfl) fun found => ?_
    split
    · exact .ret _
    · exact .bind (prepares_liftExcept _) fun _ => .ret _

theorem worksOn_startLeased {api : Api} {projectId : Id} {envName : EnvName} :
    WorksOn o (startLeased api projectId envName o x) := by
  refine .bind prepares_environmentContext.worksOn fun view => ?_
  split
  · exact prepares_queueAgentLifecycle.worksOn
  · refine .bind (.await rfl) fun result => .bind prepares_cancelled.worksOn fun stopped => ?_
    split
    · exact .bind (.await rfl) fun _ => .bind (worksOn_await rfl) fun _ =>
        worksOn_complete
    · exact .bind (worksOn_await rfl) fun _ => worksOn_complete

theorem worksOn_queueAgentRemoval {api : Api} {view : EnvironmentView} {version : Option String}
    {artifact : Option BuildArtifact} {status : DeployStatus} :
    WorksOn o (queueAgentRemoval api view version artifact o status) :=
  .tryCatch prepares_queueAgentLifecycle.worksOn fun _ =>
    .bind worksOn_failQueuedLifecycle fun _ => .ret _

/-- What `runWithExecutionLease` itself executes. -/
def Stmt.leases {β : Type} : Stmt β → Bool
  | .enterExecution .. | .claimExecution .. | .addExecution .. | .leaveExecution _
  | .releaseExecution .. | .readContext _ => true
  | _ => false

section Leases

variable {P : ∀ {γ : Type}, Stmt γ → Prop}

theorem only_throwIfLost (hlease : ∀ {γ : Type} (e : Stmt γ), e.leases = true → P e) :
    (throwIfLost y).Only P := by
  refine .bind (.await (hlease _ rfl)) fun context => ?_
  split
  · exact .ret _
  · exact .ret _

theorem only_leaveExecution (hlease : ∀ {γ : Type} (e : Stmt γ), e.leases = true → P e) :
    (leaveExecution y).Only P := by
  refine .bind (.await (hlease _ rfl)) fun release => ?_
  split
  · exact .ignoreError (.await (hlease _ rfl))
  · exact .ret _

theorem only_runWithExecutionLease {instanceId : Id} {task : Option Execution → Async Unit}
    (hlease : ∀ {γ : Type} (e : Stmt γ), e.leases = true → P e)
    (htask : ∀ x, (task (some x)).Only P) :
    (runWithExecutionLease instanceId none o task).Only P := by
  refine .bind (.await (hlease _ rfl)) fun _ => .bind (.await (hlease _ rfl)) fun claim => ?_
  split
  · exact .ret _
  · exact .bind (.await (hlease _ rfl)) fun contextId =>
      .ensure (.bind (htask _) fun _ => only_throwIfLost hlease) (only_leaveExecution hlease)

end Leases

end Tasks

end InitPad
