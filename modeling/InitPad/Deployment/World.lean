import InitPad.Deployment.Types
import InitPad.Interleave.Contract

/-!
# InitPad.Deployment.World

The state that concurrent requests share: the database, and the memory of the API processes
(`ExecutionContext` records and the `localExecutions` set, of all processes together). `Input` is
what a statement takes from outside: clock readings, the answer of a deployment provider, a
generated token, or a fault that makes the statement fail without effect.
-/

namespace InitPad

open Store

/-- Exceptions, by the NestJS class that the API throws. -/
inductive Err where
  | badRequest (message : String)
  | conflict (message : String)
  | notFound (message : String)
  | unauthorized (message : String)
  | forbidden (message : String)
  | error (message : String)
  | recordNotFound
  | uniqueViolation
  | databaseFault
  deriving DecidableEq

def Err.message : Err → String
  | .badRequest m | .conflict m | .notFound m | .unauthorized m | .forbidden m | .error m => m
  | .recordNotFound => "No record was found"
  | .uniqueViolation => "Unique constraint failed"
  | .databaseFault => "Database statement failed"

/-- Functions of the runtime and its configuration: `URL`, the keyed digest, the registry host. -/
structure Platform where
  registryHost : String
  configFingerprint : List AppConfigVar → String
  urlWithPort : String → Nat → Except Err String
  gatewayHostname : String → EnvName → Id → Option String → Option String → Except Err String

structure Db where
  workspaces : Table Workspace := {}
  projects : Table Project := {}
  artifacts : Table BuildArtifact := {}
  agents : Table Agent := {}
  targets : Table Target := {}
  allocations : Table TargetAllocation := {}
  environments : Table Environment := {}
  operations : Table DeploymentOperation := {}
  agentJobs : Table AgentJob := {}
  gatewayRoutes : Table GatewayRoute := {}
  diagnostics : Table WorkloadDiagnostic := {}
  /-- The next fresh UUID. -/
  nextId : Id := 0
  /-- `CURRENT_TIMESTAMP`. -/
  clock : Time := 0

/-- `ExecutionContext`. `live` holds from `localExecutions.add` to the `finally` block. -/
structure Context where
  id : Id
  instanceId : Id
  operationId : Id
  generation : Nat
  lost : Option Err
  completed : Bool
  live : Bool
  deriving DecidableEq

instance : Keyed Context Id := ⟨Context.id⟩

structure World where
  db : Db
  contexts : Table Context := {}
  localExecutions : List (Id × Id) := []
  /-- `hashToken`: the digest under which credentials and lease tokens are stored. -/
  hashToken : String → String

structure DeployResult where
  failed : Bool := false
  url : String := ""
  reason : Option String := none
  deriving DecidableEq

structure Input where
  /-- A reading of the clock of the API process. -/
  now : Time := 0
  dbNow : Time := 0
  fault : Bool := false
  /-- The external call throws with this message. -/
  failure : Option String := none
  deployResult : DeployResult := {}
  teardownWarning : Option String := none
  artifactId : Id := 0
  correlationId : Id := 0
  leaseToken : String := ""
  objectSize : Option Nat := none
  provisioningOperations : Nat := 0

namespace Db

def environmentTarget (db : Db) (e : Environment) : Option Target :=
  e.targetId.bind db.targets.find?

def environmentAllocation (db : Db) (e : Environment) : Option TargetAllocation :=
  e.allocationId.bind db.allocations.find?

def environmentArtifact (db : Db) (e : Environment) : Option BuildArtifact :=
  e.buildArtifactId.bind db.artifacts.find?

def environmentProject (db : Db) (e : Environment) : Option Project :=
  db.projects.find? e.projectId

def environmentNamed (db : Db) (projectId : Id) (name : EnvName) : Option Environment :=
  db.environments.findFirst? fun e => e.projectId == projectId && e.name == name

def operationJobs (db : Db) (operationId : Id) : List AgentJob :=
  db.agentJobs.findMany fun j => j.deploymentOperationId == some operationId

def environmentRoute (db : Db) (environmentId : Id) : Option GatewayRoute :=
  db.gatewayRoutes.findFirst? fun r => r.environmentId == environmentId

def targetAgent (db : Db) (targetId : Id) : Option Agent :=
  db.agents.findFirst? fun a => a.targetId == targetId

def workspaceAllocation (db : Db) (workspaceId targetId : Id) : Option TargetAllocation :=
  db.allocations.findFirst? fun a => a.workspaceId == workspaceId && a.targetId == targetId

def jobWithKey (db : Db) (k : DedupeKey) : Option AgentJob :=
  db.agentJobs.findFirst? fun j => j.dedupeKey == k

/-- `deploymentOperation.count` of `assertAvailable`: running operations of the workspace. -/
def runningOperations (db : Db) (workspaceId : Id) : Nat :=
  db.operations.count fun o => o.status == .running &&
    ((db.environments.find? o.environmentId).bind db.environmentProject).any fun p =>
      p.workspaceId == workspaceId

end Db

namespace World

def env? (w : World) (id : Id) : Option Environment := w.db.environments.find? id

def op? (w : World) (id : Id) : Option DeploymentOperation := w.db.operations.find? id

def job? (w : World) (id : Id) : Option AgentJob := w.db.agentJobs.find? id

def route? (w : World) (id : Id) : Option GatewayRoute := w.db.gatewayRoutes.find? id

/-- `Environment.activeOperationId`. -/
def lock (w : World) (environmentId : Id) : Option Id :=
  (w.env? environmentId).bind (·.activeOperationId)

def updateEnvironments (w : World) (p : Environment → Bool) (d : Environment → Environment) :
    World :=
  { w with db := { w.db with environments := w.db.environments.updateMany p d } }

def updateOperations (w : World) (p : DeploymentOperation → Bool)
    (d : DeploymentOperation → DeploymentOperation) : World :=
  { w with db := { w.db with operations := w.db.operations.updateMany p d } }

def updateJobs (w : World) (p : AgentJob → Bool) (d : AgentJob → AgentJob) : World :=
  { w with db := { w.db with agentJobs := w.db.agentJobs.updateMany p d } }

def updateRoutes (w : World) (p : GatewayRoute → Bool) (d : GatewayRoute → GatewayRoute) :
    World :=
  { w with db := { w.db with gatewayRoutes := w.db.gatewayRoutes.updateMany p d } }

def updateTargets (w : World) (p : Target → Bool) (d : Target → Target) : World :=
  { w with db := { w.db with targets := w.db.targets.updateMany p d } }

def updateDiagnostics (w : World) (p : WorkloadDiagnostic → Bool)
    (d : WorkloadDiagnostic → WorkloadDiagnostic) : World :=
  { w with db := { w.db with diagnostics := w.db.diagnostics.updateMany p d } }

def updateContexts (w : World) (p : Context → Bool) (d : Context → Context) : World :=
  { w with contexts := w.contexts.updateMany p d }

/-- The database clock never goes back. -/
def tick (w : World) (dbNow : Time) : World :=
  { w with db := { w.db with clock := max w.db.clock dbNow } }

end World

end InitPad
