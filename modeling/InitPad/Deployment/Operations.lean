import InitPad.Deployment.Effect

/-!
# InitPad.Deployment.Operations

`ProjectDeploymentOperations`: the durable operation lock and the execution lease. The store of
`AsyncLocalStorage` is the explicit argument `x`, the context that the current task runs in.
Logging is left out.
-/

namespace InitPad

open Store Interleave Prog

/-- An `async` function of the control plane. -/
abbrev Async (α : Type) := Prog Stmt Err α

/-- The immutable part of the `ExecutionContext` that a task carries; `lost` and `completed` live
in `World.contexts`. -/
structure Execution where
  contextId : Id
  instanceId : Id
  operationId : Id
  generation : Nat
  deriving DecidableEq

/-- `this.execution.getStore()`, when it is the context of `operationId`. -/
def executionOf (x : Option Execution) (operationId : Id) : Option Execution :=
  x.filter fun x => x.operationId == operationId

def ExecutionFence.ofExecution : Option Execution → ExecutionFence
  | some x => .owned x.instanceId x.generation
  | none => .unowned

def recordResultSafely (operationId : Id) : Async Unit :=
  ignoreError (await (.recordAudit operationId))

def recoverOne (now : Time) (entry : DeploymentOperation × List AgentJob) : Async Unit := do
  let (operation, agentJobs) := entry
  -- Agent jobs are durable; their lease and terminal replay own the recovery.
  if agentJobs.isEmpty then
    let claimed ← await (.recoverOperation operation now)
    if claimed = 1 then
      let _ ← await (.recoverEnvironment operation.id (operation.status == .cancelled))
      recordResultSafely operation.id

def recoverInterrupted : Async Unit := ignoreError do
  let now ← await .readClock
  let interrupted ← await (.query fun db => .ok <|
    (db.operations.findMany fun o => o.active && o.finishedAt.isNone && o.interrupted now).map
      fun o => (o, db.operationJobs o.id))
  forEach (recoverOne now) interrupted

def renewExecution (x : Execution) : Async Unit := do
  let context ← await (.readContext x.contextId)
  match context.lost with
  | some lost => throw lost
  | none =>
    if context.completed then pure ()
    else
      let rows ← await (.renewExecution x.instanceId x.generation x.operationId)
      if rows = 1 then pure ()
      else
        await (.setLost x.contextId lostExecution)
        throw lostExecution

/-- One tick of the renewal timer of `runWithExecutionLease`. -/
def renewalTick (x : Execution) : Async Unit :=
  tryCatch (renewExecution x) fun error => await (.setLost x.contextId error)

def throwIfLost (x : Execution) : Async Unit := do
  let context ← await (.readContext x.contextId)
  match context.lost with
  | some lost => throw lost
  | none => pure ()

def assertExecution (x : Option Execution) (operationId : Id) : Async Unit :=
  match executionOf x operationId with
  | none => throw (.conflict "Deployment execution lease is not held by this task")
  | some x => do
    throwIfLost x
    renewExecution x
    throwIfLost x

/-- The assertion that `advancePhase` and `cancelled` make when they run under the lease. -/
def assertIfOwned (x : Option Execution) (operationId : Id) : Async Unit :=
  match executionOf x operationId with
  | none => pure ()
  | some _ => assertExecution x operationId

def leaveExecution (x : Execution) : Async Unit := do
  let release ← await (.leaveExecution x.contextId)
  if release then
    ignoreError (await (.releaseExecution x.instanceId x.generation x.operationId))

/-- The body of `runWithExecutionLease` once the claim has succeeded. -/
def runClaimed (x : Execution) (task : Option Execution → Async Unit) : Async Unit :=
  ensure (do task (some x); throwIfLost x) (leaveExecution x)

def runWithExecutionLease (instanceId : Id) (x : Option Execution) (operationId : Id)
    (task : Option Execution → Async Unit) : Async Unit :=
  match executionOf x operationId with
  | some _ => do
    assertExecution x operationId
    task x
  | none => do
    await (.enterExecution instanceId operationId)
    let claim ← await (.claimExecution instanceId operationId)
    match claim with
    | none => throw (.conflict "Deployment operation is owned by another API process")
    | some generation =>
      let contextId ← await (.addExecution instanceId operationId generation)
      runClaimed ⟨contextId, instanceId, operationId, generation⟩ task

def ExpectedProductionState.matches (expected : ExpectedProductionState) (e : Environment)
    (target : Option Target) (allocation : Option TargetAllocation) : Bool :=
  e.targetId == expected.targetId && e.allocationId == expected.allocationId &&
    e.configRevision == expected.configRevision &&
    target.map (·.updatedAt) == expected.targetRevision &&
    allocation.map (·.updatedAt) == expected.allocationRevision

def Db.findEnvironmentView (db : Db) (projectId : Id) (name : EnvName) : Option EnvironmentView :=
  (db.environmentNamed projectId name).bind db.environmentView

def recheckExpectedState (operationId : Id) (environment : Environment) :
    Option ExpectedProductionState → Async Unit
  | none => pure ()
  | some expected => do
    let same ← await (.query fun db => .ok <|
      (db.environments.find? environment.id).any fun e =>
        expected.matches e (db.environmentTarget e) (db.environmentAllocation e))
    if same then pure ()
    else
      await (.cancelClaimed operationId environment
        "Approved production state changed before deployment started")
      throw (.conflict
        "Production target changed while approval was being applied. Create a new request.")

def begin (projectId : Id) (envName : EnvName) (kind : OperationKind) (version : Option String)
    (buildArtifactId : Option Id) (expected : Option ExpectedProductionState) : Async Id := do
  let found ← await (.query fun db => .ok (db.findEnvironmentView projectId envName))
  match found with
  | none => throw (.notFound "Environment not found")
  | some view =>
    let environment := view.environment
    if expected.any fun x => !x.matches environment view.target view.allocation then
      throw (.conflict
        "Artifact, target, or production configuration changed. Create a new production request.")
    else
      let (operation, claimed) ← await (.beginClaim view kind version buildArtifactId expected)
      if claimed = 1 then
        recheckExpectedState operation.id environment expected
        tryCatch (await (.recordAudit operation.id)) fun error => do
          await (.cancelClaimed operation.id environment
            "Deployment could not be recorded in the audit log")
          throw error
        pure operation.id
      else
        await (.rejectBegin operation.id)
        throw (.badRequest "Environment already has an active operation")

def completeOwned (x : Execution) (status : OperationResult) (message : Option String) :
    Async Unit := do
  assertExecution (some x) x.operationId
  await (.setCompleted x.contextId true)
  let changed ← tryCatch
    (await (.finishOwned x.instanceId x.generation x.operationId status message))
    fun error => do
      await (.setCompleted x.contextId false)
      throw error
  if changed = 1 then
    let _ ← await (.releaseLock x.operationId)
    let _ ← await (.query fun db => .ok (db.operations.find? x.operationId))
    recordResultSafely x.operationId
  else
    let lost := Err.conflict "Deployment completion lost its execution fence"
    await (.setCompleted x.contextId false)
    await (.setLost x.contextId lost)
    throw lost

/-- Whether `complete` may release the lock after its terminal write changed no row: only a replay
of the same result does. -/
def completedBefore (operationId : Id) (status : OperationResult) : Async Bool := do
  let existing ← tryCatch
    (await (.query fun db => .ok (db.operations.find? operationId)))
    fun _ => pure none
  pure (existing.any fun o =>
    o.executionOwner.isNone && o.status == status.status && o.finishedAt.isSome)

def completeUnowned (operationId : Id) (status : OperationResult) (message : Option String) :
    Async Unit := do
  let changed ← tryCatch (some <$> await (.finishUnowned operationId status message))
    fun _ => pure none
  let proceed ← if changed = some 0 then completedBefore operationId status else pure true
  if proceed then
    let _ ← await (.releaseLock operationId)
    if changed.isSome then
      ignoreError (await (.query fun db => .ok (db.operations.find? operationId)))
      recordResultSafely operationId

def complete (x : Option Execution) (operationId : Id) (status : OperationResult)
    (message : Option String) : Async Unit :=
  match executionOf x operationId with
  | some x => completeOwned x status message
  | none => completeUnowned operationId status message

def advancePhase (x : Option Execution) (operationId : Id) (phase : OperationPhase)
    (message : Option String) : Async Unit := do
  assertIfOwned x operationId
  let _ ← await (.advancePhase operationId phase message
    (.ofExecution (executionOf x operationId)))

def cancelled (x : Option Execution) (operationId : Id) : Async Bool := do
  assertIfOwned x operationId
  await (.readCancelled operationId)

/-- The fire-and-forget chain of `reportProgress`. After one assertion the code runs three writes
in parallel; here each is a thread that makes the assertion, which only renews the lease. -/
def reportProgress (x : Option Execution) (operationId projectId : Id) (envName : EnvName)
    (message : String) : List (Async Unit) :=
  match executionOf x operationId with
  | none => []
  | some execution =>
    let phase : OperationPhase :=
      if containsText (message.map Char.toLower) "verifying deployment" then .verifying
      else .running
    let writes : List (Async Unit) :=
      [do let _ ← await (.reportMessage execution.instanceId execution.generation operationId
            message),
        advancePhase x operationId phase none,
        do let _ ← await (.reportStatusReason operationId projectId envName message)]
    writes.map fun write => ignoreError do
      assertExecution x operationId
      write

end InitPad
