import InitPad.Deployment.Statement

/-!
# InitPad.Deployment.Effect

`Stmt.run`: the atomic effect of every statement, and the instance that lets programs over `Stmt`
be interleaved. A database statement whose input carries a fault fails and changes nothing.
-/

namespace InitPad

open Store Interleave

def executionLeaseMs : Nat := 90000
def legacyExecutionGraceMs : Nat := executionLeaseMs
def leaseMs : Nat := 30000

def DeploymentOperation.active (o : DeploymentOperation) : Bool :=
  o.status == .running || o.status == .cancelled

/-- Whether `claimExecution` may take the lease: it is free, already its own, or expired. -/
def DeploymentOperation.claimable (o : DeploymentOperation) (instanceId : Id) (clock : Time) :
    Bool :=
  o.active && o.finishedAt.isNone &&
    (o.executionOwner.isNone || o.executionOwner == some instanceId ||
      o.executionLeaseExpiresAt.any fun t => decide (t ≤ clock))

/-- A claim by the current owner keeps the generation. -/
def DeploymentOperation.claim (o : DeploymentOperation) (instanceId : Id) (clock : Time) :
    DeploymentOperation :=
  { o with
    executionOwner := some instanceId
    executionGeneration := if o.executionOwner = some instanceId then o.executionGeneration
      else o.executionGeneration + 1
    executionLeaseExpiresAt := some (clock + executionLeaseMs) }

/-- The two ways in which `recoverInterrupted` finds an operation abandoned. -/
def DeploymentOperation.interrupted (o : DeploymentOperation) (now : Time) : Bool :=
  o.executionLeaseExpiresAt.any (· ≤ now) ||
    (o.executionOwner.isNone && o.executionLeaseExpiresAt.isNone && o.kind != .ciRetry &&
      decide (o.createdAt + legacyExecutionGraceMs ≤ now))

/-- The terminal columns that every finishing write sets together. -/
def DeploymentOperation.finish (o : DeploymentOperation) (status : OperationResult)
    (message : Option String) (finishedAt : Time) : DeploymentOperation :=
  { o with
    status := status.status
    phase := terminalDeploymentPhase status message
    message := message
    finishedAt := some finishedAt }

/-- The terminal write of `complete`; a message that is not given keeps the column. -/
def DeploymentOperation.complete (o : DeploymentOperation) (status : OperationResult)
    (message : Option String) (finishedAt : Time) : DeploymentOperation :=
  { o.finish status message finishedAt with message := message <|> o.message }

def DeploymentOperation.releaseExecution (o : DeploymentOperation) : DeploymentOperation :=
  { o with executionOwner := none, executionLeaseExpiresAt := none }

def AgentJob.cancel (j : AgentJob) (message : String) (now : Time) : AgentJob :=
  { j with status := .cancelled, message := some message, finishedAt := some now }

def AgentJob.pending (j : AgentJob) : Bool :=
  j.status == .blocked || j.status == .queued || j.status == .leased

def JobStatus.waiting (s : JobStatus) : Bool := s == .queued || s == .leased

def Db.activeCredential (db : Db) (agent : AuthenticatedAgent) (targetId : Id) : Bool :=
  (db.targetAgent targetId).any fun a =>
    a.id == agent.id && a.disabledAt.isNone &&
      (a.credentialHash == some agent.credentialHash ||
        a.pendingCredentialHash == some agent.credentialHash)

/-- `boundLease`. -/
def World.boundLease (w : World) (agent : AuthenticatedAgent) (jobId : Id) (leaseToken : String)
    (j : AgentJob) : Bool :=
  j.id == jobId && j.targetId == agent.targetId && j.leasedByAgentId == some agent.id &&
    j.leaseTokenHash == some (w.hashToken leaseToken) &&
    w.db.activeCredential agent j.targetId

/-- `activeLease`. -/
def World.activeLease (w : World) (agent : AuthenticatedAgent) (jobId : Id) (leaseToken : String)
    (now : Time) (j : AgentJob) : Bool :=
  w.boundLease agent jobId leaseToken j && j.status == .leased &&
    j.leaseExpiresAt.any fun t => decide (now < t)

/-- The conditional update of `claimOnce`: the candidate is still as it was selected. -/
def World.claimableJob (w : World) (agent : AuthenticatedAgent) (jobId : Id) (status : JobStatus)
    (leaseTokenHash : Option String) (now : Time) (j : AgentJob) : Bool :=
  j.id == jobId && j.targetId == agent.targetId && w.db.activeCredential agent j.targetId &&
    if status = .queued then j.status == .queued
    else j.status == .leased && j.leaseExpiresAt.any (· ≤ now) &&
      j.leaseTokenHash == leaseTokenHash

def Db.credentialAgent (db : Db) (credentialHash : String) : Option AuthenticatedAgent :=
  match db.agents.findFirst? fun a => a.credentialHash == some credentialHash ||
      a.pendingCredentialHash == some credentialHash with
  | none => none
  | some a =>
    let generation := if a.pendingCredentialHash = some credentialHash
      then a.pendingCredentialGeneration else some a.credentialGeneration
    if a.disabledAt.isSome || generation.getD 0 == 0 then none
    else some ⟨a.id, a.targetId, credentialHash, a.protocolVersion⟩

def Db.leaseBinding (db : Db) (j : AgentJob) : LeaseBinding :=
  let operation := j.deploymentOperationId.bind db.operations.find?
  { job := j
    environment := operation.bind fun o => db.environments.find? o.environmentId
    artifact := operation.bind fun o => o.buildArtifactId.bind db.artifacts.find? }

namespace World

def changedEnvironments (w : World) (p : Environment → Bool) (d : Environment → Environment) :
    Except Err Nat × World :=
  (.ok (w.db.environments.count p), w.updateEnvironments p d)

def changedOperations (w : World) (p : DeploymentOperation → Bool)
    (d : DeploymentOperation → DeploymentOperation) : Except Err Nat × World :=
  (.ok (w.db.operations.count p), w.updateOperations p d)

def changedJobs (w : World) (p : AgentJob → Bool) (d : AgentJob → AgentJob) :
    Except Err Nat × World :=
  (.ok (w.db.agentJobs.count p), w.updateJobs p d)

/-- `update` by id: it fails, and changes nothing, when a row it names does not exist. -/
def requireRows (w : World) (rows : Bool) (w' : World) : Except Err Unit × World :=
  if rows then (.ok (), w') else (.error .recordNotFound, w)

def patchEnvironment (w : World) (p : Environment → Bool) (d : EnvironmentData) : World :=
  w.updateEnvironments p d.apply

end World

def holds (environmentId operationId : Id) (e : Environment) : Bool :=
  e.id == environmentId && e.activeOperationId == some operationId

def holdsNamed (projectId : Id) (name : EnvName) (operationId : Id) (e : Environment) : Bool :=
  e.projectId == projectId && e.name == name && e.activeOperationId == some operationId

def ExecutionFence.admits (fence : ExecutionFence) (o : DeploymentOperation) : Bool :=
  match fence with
  | .owned instanceId generation =>
    o.executionOwner == some instanceId && o.executionGeneration == generation
  | .unowned => o.executionOwner.isNone

/-- `@@unique([deploymentOperationId, operationStep])`. -/
def AgentJob.sameStep (j j' : AgentJob) : Bool :=
  j.deploymentOperationId.isSome && j.operationStep.isSome &&
    j.deploymentOperationId == j'.deploymentOperationId && j.operationStep == j'.operationStep

def World.insertJob (w : World) (job : AgentJob) : World :=
  { w with db := { w.db with
      agentJobs := w.db.agentJobs.insert job
      nextId := w.db.nextId + 1 } }

/-- `GatewayRoutesService.reconcileJob`. -/
def reconcileJob (routeId : Id) (job : AgentJob) (knownGeneration : Option Nat) :
    Except Err GatewayRouteReconcileJob :=
  match knownGeneration <|> job.payload.generation with
  | some (generation + 1) => .ok ⟨routeId, job.id, generation + 1, job.status⟩
  | _ => .error (.badRequest "Existing gateway route job has an invalid generation")

def kindStatusReason : OperationKind → String
  | .start => "Starting environment"
  | .stop => "Stopping environment"
  | .remove => "Removing deployment"
  | _ => "Preparing deployment"

def OperationKind.lifecycle : OperationKind → Bool
  | .start | .stop | .remove => true
  | _ => false

/-- The operation row that `begin` creates. -/
def World.newOperation (w : World) (view : EnvironmentView) (kind : OperationKind)
    (version : Option String) (buildArtifactId : Option Id) (correlationId : Id) :
    DeploymentOperation where
  id := w.db.nextId
  correlationId := correlationId
  environmentId := view.environment.id
  buildArtifactId := buildArtifactId
  kind := kind
  status := .running
  phase := .queued
  version := version
  message := some (if kind = .ciRetry then "Waiting for GitHub Actions build"
    else "Preparing deployment")
  executionOwner := none
  executionGeneration := 0
  executionLeaseExpiresAt := none
  targetIdSnapshot := view.environment.targetId
  targetName := (view.target.map (·.name)).getD view.environment.provider.text
  providerSnapshot := view.environment.provider
  createdAt := w.db.clock
  finishedAt := none

/-- Which rows the claim of `begin` updates: the environment, while its lock is free. -/
def claimable (environmentId : Id) (expected : Option ExpectedProductionState)
    (e : Environment) : Bool :=
  e.id == environmentId && e.activeOperationId.isNone && expected.all fun x =>
    e.targetId == x.targetId && e.allocationId == x.allocationId &&
      e.configRevision == x.configRevision

def claimData (kind : OperationKind) (operationId : Id) : EnvironmentData where
  activeOperationId := some (some operationId)
  status := some .deploying
  statusReason := some (some (kindStatusReason kind))
  deploymentRequired := if kind.lifecycle then none else some true

def cancelMessage : String := "Cancellation requested by user"

/-- The part of a request that a claimed lease resets, and its new owner. -/
def AgentJob.claim (j : AgentJob) (agentId : Id) (tokenHash : String) (now : Time) : AgentJob :=
  { j with
    status := .leased
    leasedByAgentId := some agentId
    leaseTokenHash := some tokenHash
    leasedAt := some now
    leaseExpiresAt := some (now + leaseMs)
    attempt := j.attempt + 1
    progressSequence := 0
    progressPercent := 0
    progressStage := .assigned
    message := some "Claimed by Agent"
    resultCode := none
    result := none
    finishedAt := none }

def AgentJob.complete (j : AgentJob) (dto : AgentJobCompleteDto) (now : Time) : AgentJob :=
  { j with
    status := if dto.succeeded then .succeeded else .failed
    progressPercent := if dto.succeeded then 100 else j.progressPercent
    progressStage := if dto.succeeded then .succeeded else .failed
    message := some dto.message
    resultCode := dto.resultCode
    result := dto.result
    leaseExpiresAt := none
    finishedAt := some now }

/-- The diagnostic row after its job completed. -/
def WorkloadDiagnostic.complete (d : WorkloadDiagnostic) (dto : AgentJobCompleteDto)
    (now : Time) : WorkloadDiagnostic :=
  match dto.succeeded, dto.result, dto.diagnostic with
  | true, some result, some diagnostic =>
    { d with
      status := .succeeded
      runtimeState := some result.state
      revision := result.revision
      exitCode := diagnostic.exitCode
      health := some diagnostic.health
      logs := diagnostic.logs
      message := some dto.message
      observedAt := some now
      finishedAt := some now }
  | _, _, _ =>
    { d with status := .failed, message := some dto.message, finishedAt := some now }

def WorkloadDiagnostic.current (jobId : Id) (d : WorkloadDiagnostic) : Bool :=
  d.currentJobId == some jobId && (d.status == .queued || d.status == .running)

/-- The route job that `queueReconcile` creates for `request`. -/
def routeJob (route : GatewayRoute) (generation : Nat) (targetId : Id)
    (allocation : TargetAllocation) (name : EnvName) (request : GatewayRouteReconcileRequest)
    (id correlationId : Id) (createdAt : Time) : AgentJob where
  id := id
  correlationId := request.correlationId.getD correlationId
  targetId := targetId
  allocationId := some allocation.id
  deploymentOperationId := request.deploymentOperationId
  operationStep := request.operationStep
  gatewayRouteId := some route.id
  leasedByAgentId := none
  dedupeKey := .gatewayRoute route.id request.requestId
  kind := .gatewayRoute
  protocolVersion := 1
  payload :=
    { routeId := some route.id
      generation := some generation
      desiredState := some request.desiredState
      hostname := some route.hostname
      allocationId := some allocation.id
      namespace_ := some allocation.namespace_
      projectSlug := some request.projectSlug
      environment := some name
      revision := some request.revision
      containerPort := some request.containerPort
      healthPath := some request.healthPath
      workloadSlot := request.workloadSlot
      activation := request.activation }
  status := .queued
  attempt := 0
  leaseTokenHash := none
  leasedAt := none
  leaseExpiresAt := none
  progressSequence := 0
  progressPercent := 0
  progressStage := .queued
  message := some "Waiting for Agent gateway reconcile"
  resultCode := none
  result := none
  createdAt := createdAt
  finishedAt := none

/-- The interactive transaction of `queueReconcile`. -/
def World.queueRouteJob (w : World) (route : GatewayRoute) (targetId : Id)
    (allocation : TargetAllocation) (name : EnvName) (request : GatewayRouteReconcileRequest)
    (i : Input) : Except Err GatewayRouteReconcileJob × World :=
  match w.db.jobWithKey (.gatewayRoute route.id request.requestId) with
  | some duplicate => (reconcileJob route.id duplicate none, w)
  | none =>
    match w.route? route.id with
    | none => (.error .recordNotFound, w)
    | some current =>
      let generation := current.generation + 1
      let job := routeJob route generation targetId allocation name request w.db.nextId
        i.correlationId w.db.clock
      if w.db.agentJobs.count job.sameStep ≠ 0 then (.error .uniqueViolation, w)
      else
        let superseded := w.updateJobs
          (fun j => j.gatewayRouteId == some route.id && j.status == .queued)
          fun j => { j.cancel "Superseded by a newer gateway route generation" i.now with
            progressStage := .cancelled }
        (reconcileJob route.id job (some generation),
          (superseded.insertJob job).updateRoutes (fun r => r.id == route.id) fun r =>
            { r with
              generation := generation
              desiredState := request.desiredState
              desiredRevision := request.revision
              reconcileJobId := some job.id })

/-- A call that leaves the control plane: it throws, or answers what the environment chose. -/
def external {β : Type} (i : Input) (answer : β) (w : World) : Except Err β × World :=
  match i.failure with
  | some message => (.error (.error message), w)
  | none => (.ok answer, w)

def lostExecution : Err := .conflict "Deployment execution lease was lost"

/-- The atomic effect of a statement. -/
def Stmt.run {β : Type} : Stmt β → Input → World → Except Err β × World
  | .query f, _, w => (f w.db, w)
  | .readClock, i, w => (.ok i.now, w)
  | .enterExecution instanceId operationId, _, w =>
    if w.localExecutions.contains (instanceId, operationId) then
      (.error (.conflict "Deployment operation is already executing in this API process"), w)
    else (.ok (), w)
  | .addExecution instanceId operationId generation, _, w =>
    (.ok w.db.nextId,
      { w with
        contexts := w.contexts.insert
          ⟨w.db.nextId, instanceId, operationId, generation, none, false, true⟩
        localExecutions := (instanceId, operationId) :: w.localExecutions
        db := { w.db with nextId := w.db.nextId + 1 } })
  | .leaveExecution contextId, _, w =>
    match w.contexts.find? contextId with
    | none => (.ok false, w)
    | some c =>
      (.ok (!c.completed),
        { w.updateContexts (fun x => x.id == contextId) fun x =>
            { x with live := false, completed := true } with
          localExecutions := w.localExecutions.filter (· != (c.instanceId, c.operationId)) })
  | .readContext contextId, _, w =>
    match w.contexts.find? contextId with
    | none => (.error lostExecution, w)
    | some c => (.ok c, w)
  | .setCompleted contextId completed, _, w =>
    (.ok (), w.updateContexts (fun x => x.id == contextId) fun x =>
      { x with completed := completed })
  | .setLost contextId lost, _, w =>
    (.ok (), w.updateContexts (fun x => x.id == contextId) fun x => { x with lost := some lost })
  | .beginClaim view kind version buildArtifactId expected, i, w =>
    match w.db.workspaces.find? view.project.workspaceId with
    | none => (.error (.notFound "Workspace not found"), w)
    | some workspace =>
      let used := w.db.runningOperations workspace.id + i.provisioningOperations
      if workspace.maxConcurrentOperations < used + 1 then
        (.error (.conflict s!"Workspace concurrent operation quota reached (max {workspace.maxConcurrentOperations})"), w)
      else
        let operation := w.newOperation view kind version buildArtifactId i.correlationId
        let created : World := { w with db := { w.db with
          operations := w.db.operations.insert operation
          nextId := w.db.nextId + 1 } }
        (.ok (operation, w.db.environments.count (claimable view.environment.id expected)),
          created.patchEnvironment (claimable view.environment.id expected)
            (claimData kind operation.id))
  | .cancelClaimed operationId environment message, i, w =>
    w.requireRows (w.op? operationId).isSome
      ((w.updateOperations (fun o => o.id == operationId) fun o =>
          o.finish .cancelled (some message) i.now).patchEnvironment
        (holds environment.id operationId)
        { activeOperationId := some none
          status := some environment.status
          statusReason := some environment.statusReason
          deploymentRequired := some environment.deploymentRequired })
  | .rejectBegin operationId, i, w =>
    w.requireRows (w.op? operationId).isSome
      (w.updateOperations (fun o => o.id == operationId) fun o =>
        o.finish .cancelled (some "Another operation is already active") i.now)
  | .recordAudit _, _, w => (.ok (), w)
  | .finishUnowned operationId status message, i, w =>
    w.changedOperations
      (fun o => o.id == operationId && o.executionOwner.isNone && o.finishedAt.isNone)
      fun o => o.complete status message i.now
  | .finishOwned instanceId generation operationId status message, i, w =>
    w.changedOperations
      (fun o => o.id == operationId && o.active && o.finishedAt.isNone &&
        (ExecutionFence.owned instanceId generation).admits o)
      fun o => (o.complete status message i.now).releaseExecution
  | .releaseLock operationId, _, w =>
    w.changedEnvironments (fun e => e.activeOperationId == some operationId)
      fun e => { e with activeOperationId := none }
  | .claimExecution instanceId operationId, _, w =>
    let claimed := fun (o : DeploymentOperation) =>
      o.id == operationId && o.claimable instanceId w.db.clock
    (.ok ((w.db.operations.findFirst? claimed).map fun o =>
        (o.claim instanceId w.db.clock).executionGeneration),
      w.updateOperations claimed (·.claim instanceId w.db.clock))
  | .renewExecution instanceId generation operationId, _, w =>
    w.changedOperations
      (fun o => o.id == operationId && (ExecutionFence.owned instanceId generation).admits o &&
        o.active && o.finishedAt.isNone &&
        o.executionLeaseExpiresAt.any fun t => decide (w.db.clock < t))
      fun o => { o with executionLeaseExpiresAt := some (w.db.clock + executionLeaseMs) }
  | .releaseExecution instanceId generation operationId, _, w =>
    w.changedOperations
      (fun o => o.id == operationId && (ExecutionFence.owned instanceId generation).admits o)
      DeploymentOperation.releaseExecution
  | .advancePhase operationId phase message fence, _, w =>
    w.changedOperations
      (fun o => o.id == operationId && o.status == .running && o.finishedAt.isNone &&
        (activeDeploymentPhasePredecessors phase).contains o.phase && fence.admits o)
      fun o => { o with phase := phase, message := message <|> o.message }
  | .readCancelled operationId, _, w =>
    (.ok ((w.op? operationId).all fun o => o.status == .cancelled), w)
  | .reportMessage instanceId generation operationId message, _, w =>
    w.changedOperations
      (fun o => o.id == operationId && o.status == .running &&
        (ExecutionFence.owned instanceId generation).admits o)
      fun o => { o with message := some message }
  | .reportStatusReason operationId projectId name message, _, w =>
    w.changedEnvironments (holdsNamed projectId name operationId)
      fun e => { e with statusReason := some message }
  | .recoverOperation operation now, i, w =>
    let cancelled := operation.status == .cancelled
    w.changedOperations
      (fun o => o.id == operation.id && o.status == operation.status && o.finishedAt.isNone &&
        o.executionOwner == operation.executionOwner &&
        o.executionGeneration == operation.executionGeneration &&
        o.interrupted now)
      fun o => { o.releaseExecution with
        status := if cancelled then .cancelled else .failed
        phase := if cancelled then .cancelled else .failed
        message := some (if cancelled then "Cancellation completed during API restart"
          else "Interrupted by API restart")
        finishedAt := some i.now }
  | .recoverEnvironment operationId cancelled, _, w =>
    w.changedEnvironments (fun e => e.activeOperationId == some operationId)
      (EnvironmentData.apply
        { activeOperationId := some none
          status := some (if cancelled then .empty else .failed)
          statusReason := some (if cancelled then none
            else some "Deployment was interrupted by an API restart. Deploy to retry.")
          version := if cancelled then some none else none
          buildArtifactId := if cancelled then some none else none
          url := if cancelled then some none else none
          deploymentRequired := if cancelled then some false else none })
  | .cancelCiRetry operationId environmentId, i, w =>
    w.requireRows ((w.op? operationId).isSome && (w.env? environmentId).isSome)
      ((w.updateOperations (fun o => o.id == operationId) fun o =>
          o.finish .cancelled (some cancelMessage) i.now).patchEnvironment
        (fun e => e.id == environmentId) emptyState)
  | .cancelAgentOperation operationId environmentId now, _, w =>
    w.requireRows ((w.op? operationId).isSome && (w.env? environmentId).isSome)
      (((w.updateJobs (fun j => j.deploymentOperationId == some operationId && j.pending) fun j =>
            { j.cancel cancelMessage now with leaseExpiresAt := none }).updateOperations
          (fun o => o.id == operationId) fun o =>
            o.finish .cancelled (some cancelMessage) now).patchEnvironment
        (fun e => e.id == environmentId)
        { activeOperationId := some none
          statusReason := some (some "Cancellation requested — cleaning up") })
  | .cancelDirect operationId environmentId, _, w =>
    w.requireRows ((w.op? operationId).isSome && (w.env? environmentId).isSome)
      ((w.updateOperations (fun o => o.id == operationId) fun o =>
          { o with status := .cancelled, phase := .cancelled,
                   message := some cancelMessage }).patchEnvironment
        (fun e => e.id == environmentId)
        { statusReason := some (some "Cancellation requested — cleaning up") })
  | .clearUnversioned environmentId, _, w =>
    w.requireRows (w.env? environmentId).isSome
      (w.patchEnvironment (fun e => e.id == environmentId) emptyState)
  | .cancelEnvironmentJobs environmentId now, _, w =>
    w.changedJobs
      (fun j => j.pending && ((j.deploymentOperationId.bind w.op?).any fun o =>
        o.environmentId == environmentId))
      fun j => { j.cancel "Target is no longer connected" now with
        leaseTokenHash := none, leaseExpiresAt := none, leasedByAgentId := none }
  | .clearLock environmentId _, _, w =>
    w.requireRows (w.env? environmentId).isSome
      (w.patchEnvironment (fun e => e.id == environmentId) { activeOperationId := some none })
  | .abandonEnvironment environmentId _ reason, _, w =>
    w.requireRows (w.env? environmentId).isSome
      (w.patchEnvironment (fun e => e.id == environmentId) (emptyState (some reason)))
  | .publishRemoved environmentId operationId message, _, w =>
    w.changedEnvironments (holds environmentId operationId)
      (EnvironmentData.apply
        { emptyState message with activeOperationId := some (some operationId) })
  | .publishStopped environmentId operationId, _, w =>
    w.changedEnvironments (holds environmentId operationId)
      (EnvironmentData.apply { status := some .stopped, statusReason := some none })
  | .failLifecycle environmentId operationId status message release, _, w =>
    w.changedEnvironments (holds environmentId operationId)
      (EnvironmentData.apply
        { status := some status
          statusReason := some (some message)
          activeOperationId := if release then some none else none })
  | .publishStarted projectId name operationId result, _, w =>
    w.changedEnvironments (holdsNamed projectId name operationId)
      (EnvironmentData.apply
        { status := some (if result.failed then .failed else .running)
          url := some (some result.url)
          statusReason := some (if result.failed then result.reason else none) })
  | .publishEmptied projectId name operationId warning, _, w =>
    w.changedEnvironments (holdsNamed projectId name operationId)
      (EnvironmentData.apply (emptyState (warning.map fun m => s!"Cleanup pending: {m}")))
  | .failBackground projectId name operationId message, _, w =>
    w.changedEnvironments (holdsNamed projectId name operationId)
      (EnvironmentData.apply
        { status := some .failed
          statusReason := some (some message)
          activeOperationId := some none })
  | .markDeploying projectId name operationId allocationId, _, w =>
    w.changedEnvironments (holdsNamed projectId name operationId)
      (EnvironmentData.apply
        { status := some .deploying
          statusReason := some none
          allocationId := allocationId.map some })
  | .publishDeployment projectId name operationId version buildArtifactId url allocation, i, w =>
    let expiry := environmentExpiry name allocation i.now
    w.changedEnvironments (holdsNamed projectId name operationId)
      (EnvironmentData.apply
        { status := some .running
          version := some (some version)
          buildArtifactId := some buildArtifactId
          url := some (some url)
          statusReason := some none
          deploymentRequired := some false
          expiresAt := some expiry.1
          expiryWarningAt := some expiry.2 })
  | .captureRegistryArtifact operationId, i, w =>
    match i.failure, w.db.artifacts.find? i.artifactId with
    | none, some artifact =>
      (.ok artifact, w.updateOperations (fun o => o.id == operationId) fun o =>
        { o with buildArtifactId := some artifact.id })
    | _, _ => (.error (.error "Registry artifact could not be captured"), w)
  | .createAllocation workspace target, _, w =>
    if (w.db.workspaceAllocation workspace.id target.id).isSome then (.error .uniqueViolation, w)
    else
      let allocation : TargetAllocation :=
        { id := w.db.nextId
          targetId := target.id
          workspaceId := workspace.id
          namespace_ := workspace.slug
          publicUrl := allocationPublicUrl target workspace.slug
          capabilities := target.capabilities
          active := true
          maxEnvironments := 50
          cpuLimitMillicores := 1000
          memoryLimitMb := 512
          pidsLimit := 256
          devTtlHours := none
          testTtlHours := none
          updatedAt := w.db.clock }
      (.ok allocation, { w with db := { w.db with
        allocations := w.db.allocations.insert allocation
        nextId := w.db.nextId + 1 } })
  | .teardownPending environmentId warning, _, w =>
    w.requireRows (w.env? environmentId).isSome
      (w.patchEnvironment (fun e => e.id == environmentId)
        { status := some .empty
          version := some none
          buildArtifactId := some none
          url := some none
          statusReason := some (some s!"Cleanup pending: {warning}") })
  | .bindEnvironment environmentId targetId allocationId provider movingAway targetChanged, _, w =>
    w.requireRows (w.env? environmentId).isSome
      (w.updateEnvironments (fun e => e.id == environmentId) fun e =>
        { e with
          targetId := some targetId
          allocationId := some allocationId
          provider := provider
          status := if movingAway then .empty else e.status
          url := if movingAway then none else e.url
          statusReason := if movingAway then none else e.statusReason
          deploymentRequired := if targetChanged then true else e.deploymentRequired })
  | .claimExpiry environmentId expiresAt, _, w =>
    w.changedEnvironments
      (fun e => e.id == environmentId && (e.name == .dev || e.name == .test) &&
        e.activeOperationId.isNone && e.expiresAt == some expiresAt)
      (EnvironmentData.apply { expiresAt := some none, expiryWarningAt := some none })
  | .rescheduleExpiry environmentId now, _, w =>
    w.changedEnvironments (fun e => e.id == environmentId && e.expiresAt.isNone)
      (EnvironmentData.apply
        { expiresAt := some (some (now + 5 * 60000)), expiryWarningAt := some (some now) })
  | .upsertJob job, _, w =>
    match w.db.jobWithKey job.dedupeKey with
    | some existing => (.ok existing, w)
    | none =>
      let created := { job with id := w.db.nextId, createdAt := w.db.clock }
      if w.db.agentJobs.count created.sameStep ≠ 0 then (.error .uniqueViolation, w)
      else (.ok created, w.insertJob created)
  | .cancelBlockedJob jobId, i, w =>
    w.changedJobs (fun j => j.id == jobId && j.status == .blocked)
      fun j => { j.cancel "Gateway route could not be queued" i.now with
        progressStage := .cancelled }
  | .publishQueued operationId environmentId allocationId removing, _, w =>
    (.ok (), (w.updateOperations (fun o => o.id == operationId && o.status == .running)
        fun o => { o with message := some "Waiting for Agent" }).patchEnvironment
      (holds environmentId operationId)
      { status := some .deploying
        statusReason := some (some "Waiting for Agent")
        allocationId := some (some allocationId)
        deploymentRequired := if removing then some false else none })
  | .createRoute environmentId targetId allocationId hostname, _, w =>
    if w.db.gatewayRoutes.count (fun r => r.environmentId == environmentId ||
        r.hostname == hostname) ≠ 0 then (.error .uniqueViolation, w)
    else
      let route : GatewayRoute :=
        ⟨w.db.nextId, environmentId, targetId, allocationId, hostname, s!"https://{hostname}",
          .reserved, none, .absent, none, 0, 0, none, none, none⟩
      (.ok route, { w with db := { w.db with
        gatewayRoutes := w.db.gatewayRoutes.insert route
        nextId := w.db.nextId + 1 } })
  | .queueRouteJob route targetId allocation name request, i, w =>
    w.queueRouteJob route targetId allocation name request i
  | .authenticate credential, _, w =>
    match w.db.credentialAgent (w.hashToken credential) with
    | some agent => (.ok agent, w)
    | none => (.error (.unauthorized "Invalid Agent credential"), w)
  | .findLease agent jobId leaseToken activeAt, _, w =>
    let bound := fun (j : AgentJob) => match activeAt with
      | some now => w.activeLease agent jobId leaseToken now j
      | none => w.boundLease agent jobId leaseToken j
    (.ok ((w.db.agentJobs.findFirst? bound).map w.db.leaseBinding), w)
  | .claimJob agent jobId status leaseTokenHash now, i, w =>
    let claimed := w.claimableJob agent jobId status leaseTokenHash now
    (.ok (if w.db.agentJobs.count claimed = 1 then some i.leaseToken else none),
      w.updateJobs claimed fun j => j.claim agent.id (w.hashToken i.leaseToken) now)
  | .renewJob agent jobId leaseToken now, _, w =>
    w.changedJobs (w.activeLease agent jobId leaseToken now)
      fun j => { j with leaseExpiresAt := some (now + leaseMs) }
  | .progressJob agent jobId leaseToken now sequence percent stage message, _, w =>
    w.changedJobs
      (fun j => w.activeLease agent jobId leaseToken now j && decide (j.progressSequence < sequence))
      fun j => { j with
        progressSequence := sequence
        progressPercent := percent
        progressStage := stage
        message := some message }
  | .completeJob agent jobId leaseToken now diagnosticJob dto, _, w =>
    let finished := w.db.agentJobs.count (w.activeLease agent jobId leaseToken now)
    let completed := w.updateJobs (w.activeLease agent jobId leaseToken now) (·.complete dto now)
    let published := if finished = 1 ∧ dto.gatewayCaSha256.isSome ∧ dto.succeeded then
        completed.updateTargets (fun t => t.gatewayPreflightJobId == some jobId)
          fun t => { t with gatewayCaSha256 := dto.gatewayCaSha256 }
      else completed
    (.ok finished, if finished = 1 ∧ diagnosticJob then
        published.updateDiagnostics (WorkloadDiagnostic.current jobId) (·.complete dto now)
      else published)
  | .failJob agent jobId leaseToken now message, _, w =>
    w.changedJobs (w.activeLease agent jobId leaseToken now) fun j => { j with
      status := .failed
      progressStage := .failed
      message := some (String.ofList (message.toList.take 500))
      resultCode := some "delivery_invalid"
      result := none
      leaseExpiresAt := none
      finishedAt := some now }
  | .markDiagnosticRunning jobId message, _, w =>
    (.ok (w.db.diagnostics.count (WorkloadDiagnostic.current jobId)),
      w.updateDiagnostics (WorkloadDiagnostic.current jobId) fun d =>
        { d with status := .running, message := some message })
  | .mirrorDeploymentProgress operationId phase message _, _, w =>
    (.ok (), (((w.updateOperations (fun o => o.id == operationId && o.status == .running)
          fun o => { o with message := some message }).updateOperations
        (fun o => o.id == operationId && o.status == .running && o.finishedAt.isNone &&
          (activeDeploymentPhasePredecessors phase).contains o.phase)
        fun o => { o with phase := phase }).patchEnvironment
      (fun e => e.activeOperationId == some operationId)
      { statusReason := some (some message) }))
  | .mirrorGatewayPreflight targetId jobId, _, w =>
    let current := fun (t : Target) => t.id == targetId && t.gatewayPreflightJobId == some jobId
    (.ok (w.db.targets.count current),
      w.updateTargets current fun t => { t with gatewayPreflightStatus := .running })
  | .advanceDeploymentPhase operationId phase message, _, w =>
    w.changedOperations
      (fun o => o.id == operationId && o.status == .running && o.finishedAt.isNone &&
        (activeDeploymentPhasePredecessors phase).contains o.phase)
      fun o => { o with phase := phase, message := some message }
  | .projectPreflight targetId jobId succeeded message finishedAt, _, w =>
    let current := fun (t : Target) => t.id == targetId && t.gatewayPreflightJobId == some jobId
    (.ok (w.db.targets.count current), w.updateTargets current fun t => { t with
      gatewayPreflightStatus := if succeeded then .passed else .failed
      gatewayPreflightAt := some finishedAt
      gatewayPreflightError := if succeeded then none
        else some (message.getD "Gateway preflight failed") })
  | .observeRoute routeId generation jobId state revision now, _, w =>
    let current := fun (r : GatewayRoute) =>
      r.id == routeId && r.generation == generation && r.reconcileJobId == some jobId
    (.ok (w.db.gatewayRoutes.count current), w.updateRoutes current fun r => { r with
      observedState := state
      observedRevision := if state = .absent then none else revision
      observedGeneration := generation
      reconcileJobId := none
      lastError := none
      reconciledAt := some now })
  | .failRoute routeId generation jobId message now, _, w =>
    let current := fun (r : GatewayRoute) =>
      r.id == routeId && r.generation == generation && r.reconcileJobId == some jobId
    (.ok (w.db.gatewayRoutes.count current), w.updateRoutes current fun r => { r with
      reconcileJobId := none
      lastError := some (String.ofList (message.toList.take 500))
      reconciledAt := some now })
  | .finishProjection operationId environmentId status message data now, _, w =>
    (.ok (), (w.patchEnvironment (holds environmentId operationId)
        { data with activeOperationId := some none }).updateOperations
      (fun o => o.id == operationId && o.status == .running && o.finishedAt.isNone)
      fun o => o.finish status message now)
  | .failManagedOperation operationId environmentId message data now, _, w =>
    (.ok (), ((w.updateJobs
          (fun j => j.deploymentOperationId == some operationId &&
            (j.status == .blocked || j.status == .queued))
          fun j => { j.cancel "Cancelled because another workflow step failed" now with
            progressStage := .cancelled }).patchEnvironment
        (holds environmentId operationId)
        { data with activeOperationId := some none }).updateOperations
      (fun o => o.id == operationId && o.status == .running && o.finishedAt.isNone)
      fun o => o.finish .failed (some message) now)
  | .unblockWorkload operationId message, _, w =>
    w.changedJobs
      (fun j => j.deploymentOperationId == some operationId && j.operationStep == some 2 &&
        j.status == .blocked)
      fun j => { j with status := .queued, progressStage := .queued, message := some message }
  | .publishManagedProgress operationId environmentId message, _, w =>
    (.ok (), (w.updateOperations
        (fun o => o.id == operationId && o.status == .running && o.finishedAt.isNone)
        fun o => { o with phase := .verifying, message := some message }).patchEnvironment
      (holds environmentId operationId) { statusReason := some (some message) })
  | .callDeploy _ _, i, w => external i i.deployResult w
  | .callStart _, i, w => external i i.deployResult w
  | .callStop _, i, w => external i () w
  | .callTeardown _, i, w => external i (i.teardownWarning.filter fun m => !m.isEmpty) w
  | .prepareDeployment _, i, w => external i () w
  | .ensureImageAvailable _, i, w => external i i.objectSize.isSome w
  | .readArtifactObject _, i, w => external i i.objectSize w
  | .decryptConfig _, i, w => external i () w

/-- The statements of one process, which no database fault can reach. -/
def Stmt.inProcess {β : Type} : Stmt β → Bool
  | .readClock | .enterExecution .. | .addExecution .. | .leaveExecution .. | .readContext ..
  | .setCompleted .. | .setLost .. | .callDeploy .. | .callStart .. | .callStop ..
  | .callTeardown .. | .prepareDeployment .. | .ensureImageAvailable .. | .readArtifactObject ..
  | .decryptConfig .. | .captureRegistryArtifact .. => true
  | _ => false

instance : Semantics Stmt Input World Err where
  exec e i w := if i.fault && !e.inProcess then (.error .databaseFault, w) else e.run i (w.tick i.dbNow)

theorem exec_eq {β : Type} (e : Stmt β) (i : Input) (w : World) :
    exec e i w =
      if i.fault && !e.inProcess then (.error .databaseFault, w) else e.run i (w.tick i.dbNow) := rfl

end InitPad
