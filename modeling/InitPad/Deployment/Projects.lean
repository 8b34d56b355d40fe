import InitPad.Deployment.Executor
import Mathlib.Data.List.Sort

/-!
# InitPad.Deployment.Projects

The parts of `ProjectsService` that change an environment behind its own requests: background
deployments, moving an environment to another target, and the expiry of dev and test workloads.
-/

namespace InitPad

open Store Interleave Prog

def deployLeased (api : Api) (projectId : Id) (envName : EnvName) (version : String)
    (useRegistry : Bool) (operationId : Id) (x : Option Execution) : Async Unit := do
  let published ← execute api projectId envName version useRegistry operationId x
  if published then complete x operationId .succeeded none

def deployEnvInBackground (api : Api) (projectId : Id) (envName : EnvName) (version : String)
    (useRegistry : Bool) (operationId : Id) : Async Unit :=
  -- A worker that cannot prove its execution fence publishes nothing.
  ignoreError (runWithExecutionLease api.instanceId none operationId fun x =>
    tryCatch (deployLeased api projectId envName version useRegistry operationId x)
      (failInBackground projectId envName operationId x))

def scheduleDeployment (api : Api) (projectId : Id) (envName : EnvName) (version : String)
    (useRegistry : Bool) (kind : OperationKind) (buildArtifactId : Option Id)
    (expected : Option ExpectedProductionState) : Async Unit := do
  let operationId ← begin projectId envName kind (some version) buildArtifactId expected
  deployEnvInBackground api projectId envName version useRegistry operationId

def tearDownBeforeMove (view : EnvironmentView) : Async Unit := do
  if view.target.any fun t => t.scope == .user && t.kind == .docker then
    throw (.badRequest
      s!"Remove the Agent-managed '{view.environment.name.text}' deployment before changing its target.")
  else
    let teardown ← await (.callTeardown view.environment.id)
    match teardown with
    | none => pure ()
    | some warning =>
      await (.teardownPending view.environment.id warning)
      throw (.badRequest
        s!"Public deployment was removed, but the target cannot be changed until cleanup finishes: {warning}")

/-- The target of `bindTarget`, checked against the template. -/
def bindableTarget (api : Api) (project : Project) (targetId : Id) : Async Target := do
  let entities ← await (.query fun db => .ok (db.listEntities api.saas project.workspaceId))
  match entities.find? fun entity => entity.1.id == targetId with
  | none => throw (.notFound s!"Target '{targetId}' not found")
  | some (target, agent) =>
    liftExcept (assertUsable api target agent project.template)
    pure target

def bindTarget (api : Api) (projectId : Id) (envName : EnvName) (targetId : Id) : Async Unit := do
  let project ← readProject projectId
  let found ← await (.query fun db => .ok (db.findEnvironmentView projectId envName))
  match found with
  | none => throw (.notFound s!"Environment '{envName.text}' not found")
  | some view =>
    let environment := view.environment
    if environment.activeOperationId.isSome then
      throw (.badRequest
        s!"Environment '{envName.text}' is busy. Cancel or wait for its current operation first.")
    else
      let target ← bindableTarget api project targetId
      let allocation ← ensureAllocation project.workspaceId target.id
      assertAcceptsDeploy allocation.id environment.id (templateRuntime project.template)
      let targetChanged := environment.targetId != some target.id
      if targetChanged && environment.status == .empty &&
          environment.statusReason.any fun reason => !reason.isEmpty then
        throw (.badRequest
          s!"Environment '{envName.text}' still has pending cleanup. Finish it before changing target.")
      else
        let movingAway := environment.targetId.isSome && targetChanged &&
          environment.status != .empty
        if movingAway then tearDownBeforeMove view
        await (.bindEnvironment environment.id target.id allocation.id target.kind movingAway
          targetChanged)

def expired (now : Time) (e : Environment) : Bool :=
  (e.name == .dev || e.name == .test) && (e.status == .running || e.status == .stopped) &&
    e.activeOperationId.isNone && e.expiresAt.any (· ≤ now)

/-- The candidates of one sweep: the 25 that expired first. -/
def Db.expiredEnvironments (db : Db) (now : Time) : List Environment :=
  ((db.environments.findMany (expired now)).insertionSort fun e e' =>
    e.expiresAt.getD 0 ≤ e'.expiresAt.getD 0).take 25

/-- Tear down one claimed environment, or schedule another attempt. -/
def removeExpired (api : Api) (now : Time) (environment : Environment) : Async Unit :=
  tryCatch
    (do
      await (.recordAudit environment.id)
      remove api environment.projectId environment.name)
    fun _ => do
      let _ ← await (.rescheduleExpiry environment.id now)
      ignoreError (await (.recordAudit environment.id))

def expireOne (api : Api) (now : Time) (environment : Environment) : Async Nat :=
  match environment.expiresAt with
  | none => pure 0
  | some expiresAt =>
    if environment.name = .prod then pure 0
    else do
      let claimed ← await (.claimExpiry environment.id expiresAt)
      if claimed = 1 then
        removeExpired api now environment
        pure 1
      else pure 0

def expireEach (api : Api) (now : Time) : List Environment → Async Nat
  | [] => pure 0
  | environment :: rest => do
    let claimed ← expireOne api now environment
    let others ← expireEach api now rest
    pure (claimed + others)

def runEnvironmentExpiry (api : Api) (now : Time) : Async Nat := do
  let candidates ← await (.query fun db => .ok (db.expiredEnvironments now))
  expireEach api now candidates

end InitPad
