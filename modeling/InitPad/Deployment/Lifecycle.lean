import InitPad.Deployment.AgentDelivery

/-!
# InitPad.Deployment.Lifecycle

`ProjectEnvironmentLifecycle`: start, stop and removal of one environment. A request and the
background task it leaves behind (`void this.startInBackground(...)`) are one thread: the request
has nothing left to do once the task is started.
-/

namespace InitPad

open Store Interleave Prog

structure Api where
  instanceId : Id
  platform : Platform
  saas : Bool
  artifactStoreConfigured : Bool
  artifactStoreDurable : Bool

def assertManaged (target : Option Target) : Except Err Unit :=
  rejectUnless (!unmanagedTarget target)
    "Target is not active; reconnect it before managing this environment."

/-- `context`: the project and the environment, on a target that still accepts commands. -/
def environmentContext (projectId : Id) (envName : EnvName) : Async EnvironmentView := do
  let project ← await (.query fun db => .ok (db.projects.find? projectId))
  if project.isNone then throw .recordNotFound
  else
    let found ← await (.query fun db => .ok (db.findEnvironmentView projectId envName))
    match found with
    | none => throw .recordNotFound
    | some view =>
      liftExcept (assertManaged view.target)
      pure view

def EnvironmentView.agentBacked (view : EnvironmentView) : Bool :=
  isAgentBacked view.environment.provider view.target

def queueAgentLifecycle (api : Api) (view : EnvironmentView) (version : Option String)
    (artifact : Option BuildArtifact) (kind : JobKind) (operationId : Id) : Async Unit :=
  match version, deployedImageRef api.platform view.project version artifact with
  | some _, some imageRef =>
    queueLifecycle api.platform operationId kind
      { projectSlug := workloadKey view.project
        imageRef := imageRef
        containerPort := view.project.template.port.getD 8080
        healthPath := view.project.template.healthPath.getD "/health" }
  | _, _ => throw (.badRequest "Agent operation requires a verified deployed image")

def failQueuedLifecycle (environmentId operationId : Id) (status : DeployStatus) (error : Err) :
    Async Unit := do
  let _ ← await (.failLifecycle environmentId operationId status error.message true)
  complete none operationId .failed (some error.message)

def failDirectLifecycle (x : Option Execution) (environmentId operationId : Id)
    (status : DeployStatus) (error : Err) : Async Unit := do
  assertExecution x operationId
  let _ ← await (.failLifecycle environmentId operationId status error.message false)
  complete x operationId .failed (some error.message)

/-- The leased part of a direct `stop`. -/
def stopDirect (environmentId operationId : Id) (x : Option Execution) : Async Unit := do
  tryCatch (await (.callStop operationId)) fun error => do
    failDirectLifecycle x environmentId operationId .running error
    throw error
  assertExecution x operationId
  let published ← await (.publishStopped environmentId operationId)
  if published = 1 then
    complete x operationId .succeeded (some "Environment stopped")
  else throw (.error "Stop operation lost its environment lock")

def stop (api : Api) (projectId : Id) (envName : EnvName) : Async Unit := do
  let view ← environmentContext projectId envName
  let environment := view.environment
  if environment.activeOperationId.isSome then
    throw (.badRequest "Environment has an active operation")
  else if environment.status ≠ .running then throw (.badRequest "Environment is not running")
  else
    let operationId ← begin projectId envName .stop environment.version
      environment.buildArtifactId none
    if view.agentBacked then
      tryCatch (queueAgentLifecycle api view environment.version view.artifact .stop operationId)
        fun error => do
          failQueuedLifecycle environment.id operationId .running error
          throw error
    else
      runWithExecutionLease api.instanceId none operationId (stopDirect environment.id operationId)

/-- The leased part of `startInBackground`, before its own error handling. -/
def startLeased (api : Api) (projectId : Id) (envName : EnvName) (operationId : Id)
    (x : Option Execution) : Async Unit := do
  let view ← environmentContext projectId envName
  if view.agentBacked then
    queueAgentLifecycle api view view.environment.version view.artifact .start operationId
  else
    let result ← await (.callStart operationId)
    let stopped ← cancelled x operationId
    if stopped then
      let warning ← await (.callTeardown view.environment.id)
      let _ ← await (.publishEmptied projectId envName operationId warning)
      complete x operationId .cancelled (some "Cancelled by user")
    else
      let _ ← await (.publishStarted projectId envName operationId result)
      complete x operationId (if result.failed then .failed else .succeeded) result.reason

/-- The `catch` block shared by `startInBackground` and `deployEnvInBackground`. -/
def failInBackground (projectId : Id) (envName : EnvName) (operationId : Id)
    (x : Option Execution) (error : Err) : Async Unit := do
  assertExecution x operationId
  ignoreError (await (.failBackground projectId envName operationId error.message))
  complete x operationId .failed (some error.message)

def startInBackground (api : Api) (projectId : Id) (envName : EnvName) (operationId : Id) :
    Async Unit :=
  -- A worker without the execution fence must leave durable state untouched.
  ignoreError (runWithExecutionLease api.instanceId none operationId fun x =>
    tryCatch (startLeased api projectId envName operationId x)
      (failInBackground projectId envName operationId x))

def start (api : Api) (projectId : Id) (envName : EnvName) : Async Unit := do
  let found ← await (.query fun db => .ok (db.findEnvironmentView projectId envName))
  match found with
  | none => throw .recordNotFound
  | some view =>
    liftExcept (assertManaged view.target)
    if view.environment.version.isNone then
      throw (.badRequest "Environment has nothing to start")
    else if view.environment.status ≠ .stopped then
      throw (.badRequest "Environment is not stopped")
    else
      let operationId ← begin projectId envName .start view.environment.version none none
      startInBackground api projectId envName operationId

/-! ## Removal -/

def abandonReason (target : Option Target) : String :=
  let name := (target.map (·.name)).getD ""
  let state := (target.map (·.managementState.text)).getD ""
  s!"Cleanup pending: target '{name}' is {state}; the deployment was released in InitPad but may still run on that server."

/-- `abandonOnUnmanagedTarget`: releases the record of a deployment whose target accepts no
commands. The result says whether the removal is done. -/
def abandonOnUnmanagedTarget (projectId : Id) (envName : EnvName) : Async Bool := do
  let found ← await (.query fun db => .ok (db.findEnvironmentView projectId envName))
  match found with
  | none => throw .recordNotFound
  | some view =>
    let environment := view.environment
    if !unmanagedTarget view.target then pure false
    else if environment.status = .empty ∧ environment.version.isNone ∧
        environment.activeOperationId.isNone then pure true
    else
      let now ← await .readClock
      let unfinished ← await (.query fun db => .ok <| (db.operations.findMany fun o =>
        o.environmentId == environment.id && o.finishedAt.isNone).map (·.id))
      let _ ← await (.cancelEnvironmentJobs environment.id now)
      forEach (fun operationId => complete none operationId .cancelled
        (some "Target is no longer connected")) unfinished
      -- Release the lock of the cancelled operation so the remove record can claim it.
      await (.clearLock environment.id environment.activeOperationId)
      let operationId ← begin projectId envName .remove environment.version
        environment.buildArtifactId none
      await (.abandonEnvironment environment.id operationId (abandonReason view.target))
      complete none operationId .succeeded (some (abandonReason view.target))
      pure true

/-- Queue the Agent's removal job for a claimed operation; on failure the environment gets
`status` back. -/
def queueAgentRemoval (api : Api) (view : EnvironmentView) (version : Option String)
    (artifact : Option BuildArtifact) (operationId : Id) (status : DeployStatus) : Async Unit :=
  tryCatch (queueAgentLifecycle api view version artifact .remove operationId) fun error => do
    failQueuedLifecycle view.environment.id operationId status error
    throw error

def cancelAgentBacked (api : Api) (projectId : Id) (envName : EnvName) (view : EnvironmentView)
    (operation : DeploymentOperation) (artifact : Option BuildArtifact) : Async Unit := do
  let now ← await .readClock
  await (.cancelAgentOperation operation.id view.environment.id now)
  complete none operation.id .cancelled (some cancelMessage)
  let cleanupVersion := operation.version <|> view.environment.version
  if cleanupVersion.isNone then
    throw (.badRequest "Cancelled Agent deployment has no revision to clean up")
  else
    let operationId ← begin projectId envName .remove cleanupVersion
      (operation.buildArtifactId <|> view.environment.buildArtifactId) none
    queueAgentRemoval api view cleanupVersion (artifact <|> view.artifact) operationId .failed

/-- `remove` while the environment is locked: cancel the operation that holds the lock. -/
def cancelActive (api : Api) (projectId : Id) (envName : EnvName) (view : EnvironmentView)
    (activeOperationId : Id) : Async Unit := do
  let found ← await (.query fun db => .ok <|
    (db.operations.find? activeOperationId).map fun o =>
      (o, db.operationJobs o.id, o.buildArtifactId.bind db.artifacts.find?))
  match found with
  | some (operation, agentJobs, artifact) =>
    if operation.kind = .ciRetry then
      await (.cancelCiRetry operation.id view.environment.id)
      complete none operation.id .cancelled (some cancelMessage)
    else if !agentJobs.isEmpty && view.agentBacked then
      cancelAgentBacked api projectId envName view operation artifact
    else await (.cancelDirect activeOperationId view.environment.id)
  | none => await (.cancelDirect activeOperationId view.environment.id)

def removeDirect (environment : Environment) (operationId : Id) (x : Option Execution) :
    Async Unit := do
  let teardown ← tryCatch (await (.callTeardown environment.id)) fun error => do
    failDirectLifecycle x environment.id operationId environment.status error
    throw error
  assertExecution x operationId
  let message := teardown.map fun warning => s!"Cleanup pending: {warning}"
  let published ← await (.publishRemoved environment.id operationId message)
  if published = 1 then
    complete x operationId .succeeded (message <|> some "Deployment removed")
  else throw (.error "Remove operation lost its environment lock")

/-- `remove` while the environment is free. -/
def removeIdle (api : Api) (projectId : Id) (envName : EnvName) (view : EnvironmentView) :
    Async Unit := do
  let environment := view.environment
  if view.agentBacked && environment.version.isNone then
    await (.clearUnversioned environment.id)
  else
    let operationId ← begin projectId envName .remove environment.version
      environment.buildArtifactId none
    if view.agentBacked then
      queueAgentRemoval api view environment.version view.artifact operationId environment.status
    else
      runWithExecutionLease api.instanceId none operationId (removeDirect environment operationId)

def remove (api : Api) (projectId : Id) (envName : EnvName) : Async Unit := do
  let abandoned ← abandonOnUnmanagedTarget projectId envName
  if abandoned then pure ()
  else
    let view ← environmentContext projectId envName
    match view.environment.activeOperationId with
    | some activeOperationId => cancelActive api projectId envName view activeOperationId
    | none => removeIdle api projectId envName view

end InitPad
