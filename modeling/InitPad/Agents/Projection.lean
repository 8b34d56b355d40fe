import InitPad.Agents.Leases
import InitPad.Deployment.GatewayRoutes

/-!
# InitPad.Agents.Projection

How the result of a terminal Agent job reaches its target, its gateway route, its operation and its
environment (`reconcileGatewayPreflight`, `reconcileGatewayRoute`, `reconcileTerminalJob` of
`AgentJobsService`). A managed gateway runs two steps: the projection of the first job queues or
releases the second one.
-/

namespace InitPad

open Store Interleave Prog

def JobStatus.terminal (s : JobStatus) : Bool := s == .succeeded || s == .failed

def reconcileGatewayPreflight (jobId : Id) : Async Unit := do
  let found ← await (.query fun db => .ok (db.agentJobs.find? jobId))
  match found with
  | none => pure ()
  | some job =>
    if job.kind = .gatewayPreflight ∧ job.status.terminal then do
      let now ← await .readClock
      let _ ← await (.projectPreflight job.targetId job.id (job.status == .succeeded) job.message
        (job.finishedAt.getD now))

/-- The fields of a route job's payload that its projection needs. -/
def routeIntent (payload : JobPayload) : Option (Nat × RouteState × Option String) :=
  match payload.generation, payload.desiredState, payload.revision with
  | some generation, some desiredState, some revision =>
    if 1 ≤ generation ∧
        (desiredState = .active ∨ desiredState = .stopped ∨ desiredState = .absent) then
      some (generation, desiredState, revision)
    else none
  | _, _, _ => none

def reconcileGatewayRoute (jobId : Id) : Async Unit := do
  let found ← await (.query fun db => .ok (db.agentJobs.find? jobId))
  match found with
  | none => pure ()
  | some job =>
    match job.gatewayRouteId, routeIntent job.payload with
    | some routeId, some (generation, desiredState, revision) =>
      if job.kind = .gatewayRoute ∧ job.status.terminal then do
        let clock ← await .readClock
        let now := job.finishedAt.getD clock
        if job.status = .succeeded then
          let _ ← await (.observeRoute routeId generation job.id desiredState revision now)
        else
          let _ ← await (.failRoute routeId generation job.id
            (job.message.getD "Gateway route reconcile failed") now)
    | _, _ => pure ()

/-! ## Projection to the operation and its environment -/

/-- A terminal job with its operation, as `reconcileTerminalJobProjection` includes them. -/
structure TerminalView where
  job : AgentJob
  operation : DeploymentOperation
  environment : Environment
  target : Option Target
  route : Option GatewayRoute
  allocation : Option TargetAllocation

def Db.terminalView (db : Db) (jobId : Id) : Option TerminalView :=
  (db.agentJobs.find? jobId).bind fun job =>
    (job.deploymentOperationId.bind db.operations.find?).bind fun operation =>
      (db.environments.find? operation.environmentId).map fun environment =>
        { job := job
          operation := operation
          environment := environment
          target := db.environmentTarget environment
          route := db.environmentRoute environment.id
          allocation := db.environmentAllocation environment }

/-- `jobResult`: a stored result is used only when its port and slot are well formed. -/
def jobResult (value : Option JobResult) : Option JobResult :=
  value.filter fun r =>
    r.hostPort.all (fun port => decide (1 ≤ port) && decide (port ≤ 65535)) &&
      r.workloadSlot.all isWorkloadSlot

def workloadUrl (platform : Platform) (publicUrl : Option String) (hostPort : Nat) :
    Except Err String :=
  match publicUrl.filter fun url => !url.isEmpty with
  | none => .error (.badRequest "Agent target has no public URL")
  | some url => platform.urlWithPort url hostPort

def clip (n : Nat) (s : String) : String := String.ofList (s.toList.take n)

/-- The environment after a deployment of `operation` at `url`. -/
def deployedState (v : TerminalView) (url : String) (now : Time) : EnvironmentData :=
  let expiry := environmentExpiry v.environment.name v.allocation now
  { status := some .running
    version := some v.operation.version
    buildArtifactId := some v.operation.buildArtifactId
    url := some (some url)
    statusReason := some none
    deploymentRequired := some false
    expiresAt := some expiry.1
    expiryWarningAt := some expiry.2 }

def runningState (url : String) : EnvironmentData where
  status := some .running
  url := some (some url)
  statusReason := some none

def stoppedState : EnvironmentData where
  status := some .stopped
  statusReason := some none

def removedState : EnvironmentData where
  status := some .empty
  version := some none
  buildArtifactId := some none
  url := some none
  statusReason := some none
  deploymentRequired := some false
  expiresAt := some none
  expiryWarningAt := some none

def finishLifecycle (v : TerminalView) (data : EnvironmentData) : Async Unit := do
  let now ← await .readClock
  await (.finishProjection v.operation.id v.operation.environmentId .succeeded v.job.message data
    now)

def failProjection (v : TerminalView) : Async Unit := do
  let now ← await .readClock
  let reason := if v.job.status = .failed
    then (v.job.message.filter fun m => !m.isEmpty).getD "Agent deployment failed"
    else "Agent returned an invalid deployment result"
  await (.finishProjection v.operation.id v.operation.environmentId .failed (some reason)
    { status := some .failed
      statusReason := some (some reason)
      deploymentRequired := some true } now)

def reconcileDirectTerminalJob (platform : Platform) (v : TerminalView) : Async Unit :=
  let succeeded := v.job.status == .succeeded
  match v.job.kind, (jobResult v.job.result).filter fun _ => succeeded with
  | .deploy, some ⟨.running, revision, some hostPort, _⟩ =>
    if revision = v.operation.version ∧ revision.isSome then do
      let url ← .ret (workloadUrl platform (v.target.bind (·.publicUrl)) hostPort)
      let now ← await .readClock
      await (.finishProjection v.operation.id v.operation.environmentId .succeeded v.job.message
        (deployedState v url now) now)
    else failProjection v
  | .start, some ⟨.running, revision, some hostPort, _⟩ =>
    if revision = v.operation.version ∧ revision.isSome then do
      let url ← .ret (workloadUrl platform (v.target.bind (·.publicUrl)) hostPort)
      finishLifecycle v (runningState url)
    else failProjection v
  | .stop, some ⟨.stopped, revision, _, _⟩ =>
    if revision = v.operation.version ∧ revision.isSome then finishLifecycle v stoppedState
    else failProjection v
  | .remove, some ⟨.missing, _, _, _⟩ => finishLifecycle v removedState
  | _, _ => failProjection v

/-! ## The managed workflow -/

inductive RouteRollback where
  | serving | stopped | unknown
  deriving DecidableEq

def previousStillServing (v : TerminalView) (rollback : Option RouteRollback) : Option GatewayRoute :=
  v.route.filter fun r =>
    r.observedState == .active && r.observedRevision.any (fun s => !s.isEmpty) &&
      r.observedRevision == v.environment.version &&
      (rollback.isNone || rollback == some .serving)

def previousStillStopped (v : TerminalView) (rollback : Option RouteRollback) : Option GatewayRoute :=
  v.route.filter fun r =>
    v.operation.kind == .start && r.observedState == .stopped &&
      r.observedRevision.any (fun s => !s.isEmpty) &&
      r.observedRevision == v.environment.version &&
      (rollback.isNone || rollback == some .stopped)

/-- What `failManagedOperation` writes: the environment's state and the operation's message. -/
def managedFailure (v : TerminalView) (reason : String) (rollback : Option RouteRollback) :
    EnvironmentData × String :=
  let message := clip 500 reason
  match previousStillServing v rollback, previousStillStopped v rollback with
  | some route, _ =>
    let revision := clip 12 (route.observedRevision.getD "")
    let preserved := clip 500 s!"Deployment failed; revision {revision} remains online. {message}"
    ({ status := some .running
       url := some (some route.publicUrl)
       statusReason := some (some preserved)
       deploymentRequired := some (!v.operation.kind.lifecycle) }, preserved)
  | none, some route =>
    let preserved := clip 500
      s!"Start failed; the previous revision remains stopped. {message}"
    ({ status := some .stopped
       url := some (some route.publicUrl)
       statusReason := some (some preserved)
       deploymentRequired := some false }, preserved)
  | none, none =>
    ({ status := some .failed
       statusReason := some (some message)
       deploymentRequired := some true }, message)

def failManagedOperation (v : TerminalView) (reason : String) (rollback : Option RouteRollback) :
    Async Unit := do
  let now ← await .readClock
  let (data, message) := managedFailure v reason rollback
  await (.failManagedOperation v.operation.id v.operation.environmentId message data now)

def publishManagedProgress (v : TerminalView) (message : String) : Async Unit :=
  await (.publishManagedProgress v.operation.id v.operation.environmentId message)

def cleanupMessage : String := "Gateway route updated; waiting for Agent workload cleanup"
def workloadReadyMessage : String := "Workload is ready; waiting for gateway route"

def routeRollback (job : AgentJob) (reason : String) : Option RouteRollback :=
  if job.kind = .gatewayRoute then
    if containsText reason "previous serving route restored" then some .serving
    else if containsText reason "previous gateway state restored" then some .stopped
    else some .unknown
  else none

/-- Step 1 of a managed stop or remove: the route is down, release the workload job. `follow`
projects a step that was already terminal. -/
def reconcileTeardownRoute (follow : Id → Async Unit) (v : TerminalView) : Async Unit :=
  if v.job.kind ≠ .gatewayRoute then
    failManagedOperation v "Managed teardown did not remove its gateway route first" none
  else do
    let next ← await (.unblockWorkload v.operation.id cleanupMessage)
    if next = 0 then
      let existing ← await (.query fun db => .ok (db.agentJobs.findFirst? fun j =>
        j.deploymentOperationId == some v.operation.id && j.operationStep == some 2))
      match existing with
      | none => failManagedOperation v "Managed teardown workload step is missing" none
      | some job =>
        if job.status = .succeeded then follow job.id
        else if job.status.waiting then pure ()
        else failManagedOperation v "Managed teardown workload step is missing" none
    else publishManagedProgress v cleanupMessage

/-- The request for step 2 of a managed deployment or start, if the result of step 1 allows it. -/
def activationRequest (v : TerminalView) : Option GatewayRouteReconcileRequest :=
  match jobResult v.job.result, v.job.payload.projectSlug, v.job.payload.containerPort,
      v.job.payload.healthPath with
  | some result, some projectSlug, some containerPort, some healthPath =>
    if (v.job.kind = .deploy ∨ v.job.kind = .start) ∧ result.state = .running ∧
        v.operation.version.any (fun s => !s.isEmpty) ∧ result.revision = v.operation.version ∧
        result.workloadSlot.isSome then
      some
        { requestId := v.operation.id
          desiredState := .active
          revision := v.operation.version
          projectSlug := projectSlug
          containerPort := containerPort
          healthPath := healthPath
          workloadSlot := result.workloadSlot
          activation := some (if v.operation.kind = .start then .start else .deploy)
          deploymentOperationId := some v.operation.id
          operationStep := some 2
          correlationId := some v.operation.correlationId }
    else none
  | _, _, _, _ => none

def reconcileManagedWorkload (platform : Platform) (follow : Id → Async Unit) (v : TerminalView) :
    Async Unit :=
  match activationRequest v with
  | none => failManagedOperation v "Agent returned an invalid managed workload result" none
  | some request =>
    tryCatch
      (do
        let routeJob ← queueReconcile platform v.operation.environmentId request
        publishManagedProgress v workloadReadyMessage
        if routeJob.status = .succeeded then
          reconcileGatewayRoute routeJob.jobId
          follow routeJob.jobId)
      fun error => failManagedOperation v error.message none

def reconcileTeardownWorkload (v : TerminalView) : Async Unit :=
  match v.operation.kind, v.job.kind, jobResult v.job.result with
  | .stop, .stop, some ⟨.stopped, revision, _, _⟩ =>
    if revision = v.operation.version ∧ revision.isSome then finishLifecycle v stoppedState
    else failManagedOperation v "Agent returned an invalid managed teardown result" none
  | .remove, .remove, some ⟨.missing, _, _, _⟩ => finishLifecycle v removedState
  | _, _, _ => failManagedOperation v "Agent returned an invalid managed teardown result" none

/-- Whether the gateway serves what the operation asked for. -/
def publishedRoute (v : TerminalView) : Option GatewayRoute :=
  v.route.filter fun r =>
    v.job.kind == .gatewayRoute && r.observedState == .active &&
      r.observedRevision == v.operation.version &&
      v.job.payload.generation == some r.observedGeneration

def reconcileActivatedRoute (v : TerminalView) : Async Unit :=
  match publishedRoute v with
  | none => failManagedOperation v "Gateway did not publish the requested workload revision"
      (some .unknown)
  | some route =>
    if v.operation.kind = .start then finishLifecycle v (runningState route.publicUrl)
    else do
      let now ← await .readClock
      await (.finishProjection v.operation.id v.operation.environmentId .succeeded v.job.message
        (deployedState v route.publicUrl now) now)

def OperationKind.teardown : OperationKind → Bool
  | .stop | .remove => true
  | _ => false

def reconcileManagedTerminalJob (platform : Platform) (follow : Id → Async Unit)
    (v : TerminalView) : Async Unit :=
  if v.job.status = .failed then
    let reason := (v.job.message.filter fun m => !m.isEmpty).getD "Agent operation failed"
    failManagedOperation v reason (routeRollback v.job reason)
  else
    match v.job.operationStep with
    | some 1 =>
      if v.operation.kind.teardown then reconcileTeardownRoute follow v
      else reconcileManagedWorkload platform follow v
    | some 2 =>
      if v.operation.kind.teardown then reconcileTeardownWorkload v
      else reconcileActivatedRoute v
    | _ => failManagedOperation v "Agent returned an invalid managed gateway workflow step" none

def reconcileTerminalJobProjection (platform : Platform) (follow : Id → Async Unit) (jobId : Id) :
    Async Unit := do
  let found ← await (.query fun db => .ok (db.terminalView jobId))
  match found with
  | none => pure ()
  | some v =>
    if v.job.status.terminal ∧ v.operation.status = .running ∧ v.operation.finishedAt = none then
      if v.target.any fun t => t.routingMode == .managedGateway then
        reconcileManagedTerminalJob platform follow v
      else reconcileDirectTerminalJob platform v

def recordJobResult (jobId : Id) : Async Unit := ignoreError do
  let found ← await (.query fun db => .ok
    ((db.agentJobs.find? jobId).bind (·.deploymentOperationId)))
  match found with
  | none => pure ()
  | some operationId => await (.recordAudit operationId)

def reconcileTerminalWith (platform : Platform) (follow : Id → Async Unit) (jobId : Id) :
    Async Unit := do
  reconcileTerminalJobProjection platform follow jobId
  recordJobResult jobId

/-- The projection of the second step, which follows up nothing. -/
def reconcileFinalStep (platform : Platform) : Id → Async Unit :=
  reconcileTerminalWith platform fun _ => pure ()

/-- `reconcileTerminalJob`. The workflow has two steps, so the recursion of the code is one
unfolding deep: what a first step follows up is a second step. -/
def reconcileTerminalJob (platform : Platform) : Id → Async Unit :=
  reconcileTerminalWith platform (reconcileFinalStep platform)

end InitPad
