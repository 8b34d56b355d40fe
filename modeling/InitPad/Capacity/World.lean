import InitPad.Provisioning.World
import InitPad.Store.Totals

/-!
# InitPad.Capacity.World

The rows that count against the limits of a workspace, and the bindings of environments to target
allocations. A foreign key carries those columns of its row that never change, so that counting
needs no join. The deletion of a row deletes the rows below it.

`serializableCapacityTransaction` is one atomic step, with its `assertAvailable` inside. What other
tables answer (the targets on offer, pending production requests) is an input of the statement.
-/

namespace InitPad.Capacity

open Interleave Store
open Provisioning (InstanceId)

structure ProjectKey where
  id : Id
  workspaceId : Id
  deriving DecidableEq

structure AllocationKey where
  id : Id
  workspaceId : Id
  targetId : Id
  deriving DecidableEq

structure EnvironmentKey where
  id : Id
  project : ProjectKey
  deriving DecidableEq

/-! ## Rows -/

/-- `WorkspaceCapacityResource` -/
inductive Resource where
  | projects | members | targets | concurrentOperations | artifactBytes
  deriving DecidableEq

/-- `RESOURCE_LABELS` -/
def Resource.label : Resource → String
  | .projects => "project"
  | .members => "member"
  | .targets => "deployment server"
  | .concurrentOperations => "concurrent operation"
  | .artifactBytes => "artifact storage"

structure Limits where
  maxProjects : Nat
  maxMembers : Nat
  maxTargets : Nat
  maxConcurrentOperations : Nat
  maxArtifactBytes : Nat
  deriving DecidableEq

def Limits.of (limits : Limits) : Resource → Nat
  | .projects => limits.maxProjects
  | .members => limits.maxMembers
  | .targets => limits.maxTargets
  | .concurrentOperations => limits.maxConcurrentOperations
  | .artifactBytes => limits.maxArtifactBytes

structure Workspace where
  id : Id
  limits : Limits
  deriving DecidableEq

structure Member where
  workspaceId : Id
  userId : Id
  deriving DecidableEq

structure Target where
  id : Id
  capabilities : List RuntimeKind
  deriving DecidableEq

structure Allocation where
  key : AllocationKey
  capabilities : List RuntimeKind
  active : Bool
  maxEnvironments : Nat
  deriving DecidableEq

structure Project where
  key : ProjectKey
  pipelinePreset : PipelinePreset
  deriving DecidableEq

structure Deployed where
  status : DeployStatus
  version : Option String
  url : Option String
  buildArtifactId : Option Id
  statusReason : Option String
  deriving DecidableEq

structure Environment where
  key : EnvironmentKey
  name : EnvName
  order : Nat
  targetId : Option Id
  allocation : Option AllocationKey
  deployed : Deployed
  activeOperationId : Option Id
  deriving DecidableEq

structure DeploymentOperation where
  id : Id
  environment : EnvironmentKey
  status : InitPad.OperationStatus
  deriving DecidableEq

structure ProvisioningOperation where
  id : Id
  workspaceId : Id
  status : Provisioning.OperationStatus
  leaseOwner : Option InstanceId
  deriving DecidableEq

inductive ArtifactStatus where
  | accepted | ingesting | available | failed
  deriving DecidableEq

/-- `sourceProvider` and `providerArtifactId` -/
structure ArtifactIdentity where
  sourceProvider : String
  providerArtifactId : String
  deriving DecidableEq

structure BuildArtifact where
  identity : ArtifactIdentity
  project : ProjectKey
  commitSha : String
  digest : String
  sizeBytes : Nat
  status : ArtifactStatus
  ingestionOwner : Option InstanceId
  ingestionGeneration : Nat
  deriving DecidableEq

instance : Keyed Workspace Id := ⟨Workspace.id⟩
instance : Keyed Member (Id × Id) := ⟨fun m => (m.workspaceId, m.userId)⟩
instance : Keyed Target Id := ⟨Target.id⟩
instance : Keyed Allocation AllocationKey := ⟨Allocation.key⟩
instance : Keyed Project ProjectKey := ⟨Project.key⟩
instance : Keyed Environment EnvironmentKey := ⟨Environment.key⟩
instance : Keyed DeploymentOperation Id := ⟨DeploymentOperation.id⟩
instance : Keyed ProvisioningOperation Id := ⟨ProvisioningOperation.id⟩
instance : Keyed BuildArtifact ArtifactIdentity := ⟨BuildArtifact.identity⟩

structure World where
  workspaces : Table Workspace
  members : Table Member
  targets : Table Target
  allocations : Table Allocation
  projects : Table Project
  environments : Table Environment
  deploymentOperations : Table DeploymentOperation
  provisioningOperations : Table ProvisioningOperation
  artifacts : Table BuildArtifact
  /-- The next id that `@default(uuid())` gives. -/
  nextId : Id

namespace World

variable (w : World)

def allocationOf (workspaceId targetId : Id) : Option Allocation :=
  w.allocations.findFirst? fun a => a.key.workspaceId = workspaceId && a.key.targetId = targetId

/-- `projectId_name` -/
def isEnvironment (project : ProjectKey) (name : EnvName) (e : Environment) : Bool :=
  e.key.project = project && e.name = name

def environmentOf (project : ProjectKey) (name : EnvName) : Option Environment :=
  w.environments.findFirst? (isEnvironment project name)

def bound (allocation : AllocationKey) : Nat :=
  w.environments.count fun e => e.allocation = some allocation

/-- The id for one new row, and the world in which it is used up. -/
def fresh : World := { w with nextId := w.nextId + 1 }

/-! ## Capacity -/

/-- `ACTIVE_PROVISIONING_STATUSES` -/
def activeProvisioning : Provisioning.OperationStatus → Bool
  | .running | .retrying | .cleaning => true
  | _ => false

/-- `RESERVED_ARTIFACT_STATUSES` -/
def reservedArtifact : ArtifactStatus → Bool
  | .accepted | .ingesting | .available => true
  | .failed => false

def runningIn (workspaceId : Id) (o : DeploymentOperation) : Bool :=
  o.status = .running && o.environment.project.workspaceId = workspaceId

def activeIn (workspaceId : Id) (excludedProvisioningId : Option Id) (o : ProvisioningOperation) :
    Bool :=
  o.workspaceId = workspaceId && activeProvisioning o.status &&
    excludedProvisioningId.all (o.id ≠ ·)

def reservedBytes (workspaceId : Id) (a : BuildArtifact) : Nat :=
  if a.project.workspaceId = workspaceId && reservedArtifact a.status then a.sizeBytes else 0

/-- The queries of `assertAvailable`; without an excluded operation, those of `snapshot`. -/
def used (workspaceId : Id) (excludedProvisioningId : Option Id) : Resource → Nat
  | .projects => w.projects.count fun p => p.key.workspaceId = workspaceId
  | .members => w.members.count fun m => m.workspaceId = workspaceId
  | .targets => w.allocations.count fun a => a.key.workspaceId = workspaceId
  | .concurrentOperations => w.deploymentOperations.count (runningIn workspaceId) +
      w.provisioningOperations.count (activeIn workspaceId excludedProvisioningId)
  | .artifactBytes => w.artifacts.sum (reservedBytes workspaceId)

/-- The usage that `snapshot` reports. -/
def usage (workspaceId : Id) (resource : Resource) : Nat := w.used workspaceId none resource

section

variable {workspaceId : Id} {excludedProvisioningId : Option Id}

@[simp] theorem usage_projects : w.usage workspaceId .projects =
    w.projects.count fun p => p.key.workspaceId = workspaceId := rfl

@[simp] theorem usage_members : w.usage workspaceId .members =
    w.members.count fun m => m.workspaceId = workspaceId := rfl

@[simp] theorem usage_targets : w.usage workspaceId .targets =
    w.allocations.count fun a => a.key.workspaceId = workspaceId := rfl

@[simp] theorem used_concurrentOperations :
    w.used workspaceId excludedProvisioningId .concurrentOperations =
      w.deploymentOperations.count (runningIn workspaceId) +
        w.provisioningOperations.count (activeIn workspaceId excludedProvisioningId) := rfl

@[simp] theorem usage_concurrentOperations : w.usage workspaceId .concurrentOperations =
    w.deploymentOperations.count (runningIn workspaceId) +
      w.provisioningOperations.count (activeIn workspaceId none) := rfl

@[simp] theorem usage_artifactBytes : w.usage workspaceId .artifactBytes =
    w.artifacts.sum (reservedBytes workspaceId) := rfl

end

def limit (workspaceId : Id) (resource : Resource) : Option Nat :=
  (w.workspaces.find? workspaceId).map fun workspace => workspace.limits.of resource

end World

inductive Failure where
  /-- `P2034` -/
  | serializationConflict
  | message (text : String)
  deriving DecidableEq

def quotaMessage (resource : Resource) (used limit : Nat) : String :=
  if resource = .artifactBytes then
    "Workspace " ++ resource.label ++ " quota exceeded (" ++ toString used ++ " of " ++
      toString limit ++ " bytes used)"
  else "Workspace " ++ resource.label ++ " quota reached (max " ++ toString limit ++ ")"

def assertAvailable (w : World) (workspaceId : Id) (resource : Resource) (additional : Nat)
    (excludedProvisioningId : Option Id) : Except Failure Unit :=
  match w.limit workspaceId resource with
  | none => .error (.message "Workspace not found")
  | some limit =>
    let used := w.used workspaceId excludedProvisioningId resource
    if limit < used + additional then .error (.message (quotaMessage resource used limit))
    else .ok ()

/-- `if (condition) throw ...` -/
def failIf (condition : Bool) (text : String) : Except Failure Unit :=
  if condition then .error (.message text) else .ok ()

/-- The row, or `RecordNotFound`. -/
def found {α : Type} (row : Option α) : Except Failure α :=
  match row with
  | some a => .ok a
  | none => .error (.message "Record not found")

end InitPad.Capacity
