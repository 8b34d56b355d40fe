import InitPad.Capacity.Statement

/-!
# InitPad.Capacity.Service

The calls that create, move or release what a workspace is limited in. An awaited step that only
refuses or reaches an external system is an `aside`; so is every `assertAvailable` outside a
transaction, which the transaction repeats.
-/

namespace InitPad.Capacity

open Interleave Store
open Prog (await refuseIf)
open Provisioning (InstanceId)

def SERIALIZABLE_RETRIES : Nat := 3

def retrySerializable {α : Type} (e : Stmt α) : Nat → CapacityCall α
  | 0 => throw (.message "Capacity transaction retry exhausted")
  | attempts + 1 => tryCatch (await e) fun failure =>
    if failure ≠ .serializationConflict || attempts = 0 then throw failure
    else retrySerializable e attempts

/-- `serializableCapacityTransaction` -/
def serializable {α : Type} (e : Stmt α) : CapacityCall α :=
  retrySerializable e SERIALIZABLE_RETRIES

def refuse (condition : Bool) (text : String) : CapacityCall Unit :=
  refuseIf condition (.message text)

def attach (workspaceId userId : Id) : CapacityCall Unit := do
  serializable (.attachMember workspaceId userId)
  tryCatch (await (.aside "syncRepositoryAccess")) fun failure => do
    (await (.aside "revokeRepositoryAccess")).ignoreError
    await (.deleteMember workspaceId userId)
    throw failure

def removeMember (workspaceId userId : Id) : CapacityCall Unit := do
  await (.aside "permission and revokeRepositoryAccess")
  tryCatch (await (.deleteMember workspaceId userId)) fun failure => do
    (await (.aside "syncRepositoryAccess")).ignoreError
    throw failure
  await (.aside "audit workspace.member_removed")

/-! ## Targets and allocations -/

/-- `TargetsService.create` -/
def registerTarget (workspaceId : Id) (capabilities : List RuntimeKind) : CapacityCall Unit := do
  await (.aside "permission, endpoint, name and capacity")
  let _ ← serializable (.createTarget workspaceId capabilities)
  await (.aside "audit target.created and allocation.created")

/-- `TargetAllocationsService.create` -/
def allocate (workspaceId targetId : Id) (capabilities : List RuntimeKind)
    (maxEnvironments : Option Nat) : CapacityCall Unit := do
  await (.aside "permission, server and capacity")
  let _ ← serializable (.createAllocation workspaceId targetId capabilities maxEnvironments)
  await (.aside "audit allocation.created")

/-- `TargetAllocationsService.update` -/
def editAllocation (allocation : AllocationKey) (patch : AllocationPatch) : CapacityCall Unit := do
  await (.aside "permission")
  let activeOperations ← await (.query fun w => .ok (w.environments.count fun e =>
    e.allocation = some allocation && e.activeOperationId.isSome))
  refuse (0 < activeOperations) "Workspace access has deployment operations in progress."
  await (.updateAllocation allocation patch)
  await (.aside "expiry of its environments and audit allocation.updated")

/-- `TargetAllocationsService.remove` -/
def removeAllocation (allocation : AllocationKey) : CapacityCall Unit := do
  await (.aside "permission")
  let inUse ← await (.countEnvironments allocation)
  refuse (0 < inUse) "Workspace access is used by environments. Move them first."
  await (.deleteAllocation allocation)
  await (.aside "audit allocation.deleted")

/-- `TargetsService.remove` -/
def removeTarget (targetId : Id) : CapacityCall Unit := do
  await (.aside "permission")
  let deployed ← await (.query fun w => .ok (w.environments.count fun e =>
    e.targetId = some targetId && (e.deployed.status ≠ .empty || e.deployed.version.isSome ||
      e.activeOperationId.isSome)))
  refuse (0 < deployed) "Release the deployments still recorded on this server first"
  await (.deleteTarget targetId)

def lifecycleTest (workspaceId targetId : Id) : CapacityCall Unit := do
  let target ← await (.query fun w => found (w.targets.find? targetId))
  await (.aside "Agent of the target")
  let _ ← await (.upsertAllocation workspaceId targetId target.capabilities)
  await (.aside "lifecycle job")

/-- The `create` of `ensureAllocation`, and the winner of a race for the unique key. -/
def createMissing (workspaceId targetId : Id) : CapacityCall Allocation := do
  let target ← await (.query fun w => found (w.targets.find? targetId))
  let _ ← await (.query fun w => found (w.workspaces.find? workspaceId))
  tryCatch (await (.createDefault workspaceId targetId target.capabilities)) fun failure => do
    let winner ← await (.findAllocation workspaceId targetId)
    match winner with
    | some allocation => return allocation
    | none => throw failure

def ensureAllocation (workspaceId targetId : Id) : CapacityCall Allocation := do
  let existing ← await (.findAllocation workspaceId targetId)
  match existing with
  | some allocation => return allocation
  | none => createMissing workspaceId targetId

/-- One target of `prepareAllocations`, for `planned` environments. -/
def prepareOne (workspaceId : Id) (requiredRuntime : RuntimeKind) (targetId : Id) (planned : Nat) :
    CapacityCall AllocationKey := do
  let allocation ← ensureAllocation workspaceId targetId
  refuse (!allocation.active) "Workspace access is paused."
  refuse (!allocation.capabilities.contains requiredRuntime)
    "Workspace access does not allow applications of this runtime."
  let currentCount ← await (.countEnvironments allocation.key)
  refuse (allocation.maxEnvironments < currentCount + planned)
    "Workspace access quota would be exceeded"
  return allocation.key

def prepareTargets (workspaceId : Id) (requiredRuntime : RuntimeKind) :
    List (Id × Nat) → CapacityCall (List (Id × AllocationKey))
  | [] => return []
  | (targetId, planned) :: rest => do
    let allocation ← prepareOne workspaceId requiredRuntime targetId planned
    let others ← prepareTargets workspaceId requiredRuntime rest
    return (targetId, allocation) :: others

def grouped (environments : List (EnvName × Id)) : List (Id × Nat) :=
  (environments.map Prod.snd).eraseDups.map fun targetId =>
    (targetId, environments.countP fun e => e.2 = targetId)

def prepareAllocations (workspaceId : Id) (environments : List (EnvName × Id))
    (requiredRuntime : RuntimeKind) : CapacityCall (List ResolvedEnvironmentTarget) := do
  let allocationIds ← prepareTargets workspaceId requiredRuntime (grouped environments)
  return environments.filterMap fun e =>
    (allocationIds.lookup e.2).map fun allocation => ⟨e.1, e.2, allocation⟩

/-- What `assertAcceptsDeploy` says of the allocation it has read. -/
def acceptsDeploy (allocation : Allocation) (requiredRuntime : RuntimeKind) :
    CapacityCall Unit := do
  refuse (!allocation.active)
    "Workspace access to this server is paused; new deployments are disabled."
  refuse (!allocation.capabilities.contains requiredRuntime)
    "Workspace access to this server does not allow applications of this runtime."

def assertAcceptsDeploy (allocation : AllocationKey) (environment : EnvironmentKey)
    (requiredRuntime : RuntimeKind) : CapacityCall Unit := do
  let row ← await (.findForDeploy allocation)
  match row with
  | none => pure ()
  | some (current, environments) => do
    acceptsDeploy current requiredRuntime
    let alreadyBound ← await (.countBound environment allocation)
    refuse (alreadyBound = 0 && current.maxEnvironments ≤ environments)
      "Workspace access quota reached"

/-! ## Provisioning -/

/-- `ProvisioningService.start` -/
def start (workspaceId : Id) (instance_ : InstanceId) (retryOfId : Option Id) :
    CapacityCall Id := do
  let operationId ← serializable (.startProvisioning workspaceId instance_ retryOfId)
  tryCatch (await (.aside "audit provisioning requested")) fun failure => do
    (await (.endProvisioning operationId none none .failed)).ignoreError
    throw failure
  return operationId

structure ProjectDto where
  pipelinePreset : PipelinePreset
  runtime : RuntimeKind
  deriving DecidableEq

def createRecord (workspaceId : Id) (dto : ProjectDto) (deployed : EnvName → Deployed)
    (envTargets : List ResolvedEnvironmentTarget) (followUp : String) :
    CapacityCall ProjectKey := do
  let created ← serializable (.createProject workspaceId dto.pipelinePreset envTargets deployed)
  tryCatch (await (.aside followUp)) fun failure => do
    (await (.deleteProject created)).ignoreError
    throw failure
  return created

def createInternal (workspaceId : Id) (dto : ProjectDto) : CapacityCall Unit := do
  await (.aside "permission, CI callback, name and capacity")
  let resolvedTargets ← await (.resolveTargets (pipelineStages dto.pipelinePreset))
  let envTargets ← prepareAllocations workspaceId resolvedTargets dto.runtime
  await (.aside "repository and collaborators")
  let _ ← createRecord workspaceId dto waitingForCi envTargets "bind the project"

def compensate (created : ProjectKey) : CapacityCall Unit := do
  await (.aside "compensations")
  await (.deleteProject created)

def importInternal (workspaceId : Id) (dto : ProjectDto) : CapacityCall Unit := do
  await (.aside "repository, name, workflow and capacity")
  let resolvedTargets ← await (.resolveTargets (pipelineStages dto.pipelinePreset))
  let envTargets ← prepareAllocations workspaceId resolvedTargets dto.runtime
  let created ←
    createRecord workspaceId dto (fun _ => emptyEnvironment) envTargets "bind the project"
  tryCatch (await (.aside "secrets and collaborators")) fun failure => do
    (compensate created).ignoreError
    throw failure

/-- `create` and `importExisting`. -/
inductive ProvisioningKind where
  | create | importExisting
  deriving DecidableEq

def ProvisioningKind.work (workspaceId : Id) (dto : ProjectDto) :
    ProvisioningKind → CapacityCall Unit
  | .create => createInternal workspaceId dto
  | .importExisting => importInternal workspaceId dto

def provision (kind : ProvisioningKind) (workspaceId : Id) (instance_ : InstanceId)
    (dto : ProjectDto) (retryOfId : Option Id) : CapacityCall Unit := do
  await (.aside "workspace of the owner")
  let op ← start workspaceId instance_ retryOfId
  tryCatch (do
      kind.work workspaceId dto
      (await (.endProvisioning op none none .succeeded)).ignoreError) fun failure => do
    (await (.endProvisioning op none none .failed)).ignoreError
    throw failure

def claim (instance_ : InstanceId) (id : Id) (claim : Claim) (text : String) :
    CapacityCall Unit := do
  let changed ← await (.claimProvisioning instance_ id claim)
  refuse (changed ≠ 1) text

def retryProvisioning (kind : ProvisioningKind) (instance_ : InstanceId) (dto : ProjectDto)
    (id : Id) : CapacityCall Unit := do
  let operation ← await (.query fun w => found (w.provisioningOperations.find? id))
  await (.aside "permission, request and effects")
  refuse (!claimable operation) "Finish the required cleanup before retrying this operation"
  claim instance_ id .retrying "This provisioning operation is no longer retryable"
  tryCatch (provision kind operation.workspaceId instance_ dto (some id)) fun failure => do
    (await (.endProvisioning id (some [.retrying]) (some instance_) .failed)).ignoreError
    throw failure

def cleanupProvisioning (instance_ : InstanceId) (id : Id) : CapacityCall Unit := do
  let operation ← await (.query fun w => found (w.provisioningOperations.find? id))
  await (.aside "permission and effects")
  refuse (!claimable operation) "This provisioning operation has no pending cleanup"
  claim instance_ id .cleaning "This provisioning cleanup is already running"
  tryCatch (do
      await (.aside "cleanupProvisioningEffects")
      await (.endProvisioning id none none .failed)) fun failure => do
    (await (.endProvisioning id (some [.cleaning]) (some instance_) .failed)).ignoreError
    throw failure

/-- `reconcileStale`, for one operation whose lease has expired. -/
def reconcileStale (id : Id) : CapacityCall Unit := do
  await (.aside "expired leases")
  await (.endProvisioning id (some [.running, .retrying, .cleaning]) none .interrupted)

/-! ## Environments -/

/-- The part of `begin` after the transaction. -/
def claimed (environment : Environment) (operation : Id × Bool) : CapacityCall Id :=
  if operation.2 then do
    tryCatch (await (.aside "expected state and audit deployment requested")) fun failure => do
      await (.endOperation operation.1 .cancelled (some environment.deployed))
      throw failure
    return operation.1
  else do
    await (.endOperation operation.1 .cancelled none)
    throw (.message "Another operation is already active")

/-- `begin` -/
def begin_ (project : ProjectKey) (envName : EnvName) (reason : String) : CapacityCall Id := do
  let environment ← await (.query fun w => found (w.environmentOf project envName))
  await (.aside "expected production state")
  let operation ← serializable (.beginOperation environment.key reason)
  claimed environment operation

/-- A deployment, a removal or an expiry: `work` is what the target does, and `deployed` what is
recorded of it. -/
def runOperation (project : ProjectKey) (envName : EnvName) (reason work : String)
    (deployed : Deployed) : CapacityCall Unit := do
  let operationId ← begin_ project envName reason
  tryCatch (do
      await (.aside work)
      await (.endOperation operationId .succeeded (some deployed))) fun _ =>
    await (.endOperation operationId .failed none)

/-- `updatePipelinePreset` to another preset, with what has been read of the project. -/
def changeStages (row : Project) (environments : List Environment) (nextPreset : PipelinePreset)
    (runtime : RuntimeKind) : CapacityCall Unit := do
  let active ← await (.query fun w => .ok (busy w row.key))
  refuse active "The pipeline preset cannot change while a project operation is running"
  await (.aside "pending production request and requested stages")
  let currentStages := pipelineStages row.pipelinePreset
  let nextStages := pipelineStages nextPreset
  refuse (environments.any fun e =>
    occupied e && currentStages.contains e.name && !nextStages.contains e.name)
    "Environment is not empty."
  let resolvedAdded ← await (.resolveTargets (nextStages.filter (!currentStages.contains ·)))
  let addedTargets ← prepareAllocations row.key.workspaceId resolvedAdded runtime
  await (.changePreset
    { project := row.key
      currentPreset := row.pipelinePreset
      nextPreset
      environments
      addedTargets })
  await (.aside "audit project.pipeline_preset_changed")

def updatePipelinePreset (project : ProjectKey) (nextPreset : PipelinePreset)
    (runtime : RuntimeKind) : CapacityCall Unit := do
  await (.aside "permission")
  let (row, environments) ← await (.query fun w => (found (w.projects.find? project)).map fun row =>
    (row, w.environments.findMany fun e => e.key.project = row.key))
  if row.pipelinePreset = nextPreset then pure ()
  else changeStages row environments nextPreset runtime

def tearDown (movingAway : Bool) (environment : Environment) : CapacityCall Unit :=
  if movingAway then do
    await (.aside "no Agent-managed deployment")
    tryCatch (await (.aside "teardown")) fun failure => do
      await (.updateEnvironment environment.key { emptyEnvironment with
        statusReason := some "Cleanup pending" })
      throw failure
  else pure ()

def bindTarget (project : ProjectKey) (envName : EnvName) (targetId : Id) (runtime : RuntimeKind) :
    CapacityCall Unit := do
  let row ← await (.query fun w => found (w.projects.find? project))
  let env ← await (.query fun w => found (w.environmentOf project envName))
  refuse env.activeOperationId.isSome "Environment is busy."
  await (.aside "listEntities and assertUsable")
  let allocation ← ensureAllocation row.key.workspaceId targetId
  assertAcceptsDeploy allocation.key env.key runtime
  let targetChanged := decide (env.targetId ≠ some targetId)
  refuse (targetChanged && env.deployed.status = .empty && env.deployed.statusReason.isSome)
    "Environment still has pending cleanup."
  let movingAway := env.targetId.isSome && targetChanged && decide (env.deployed.status ≠ .empty)
  tearDown movingAway env
  await (.bindEnvironment
    { project, name := envName, targetId, allocation := allocation.key, movingAway })

def removeProject (project : ProjectKey) : CapacityCall Unit := do
  await (.aside "permission and teardown")
  await (.deleteProject project)

/-- The execution of an ingestion or a capture, under its lease. -/
def ingest (instance_ : InstanceId) (project : ProjectKey) (identity : ArtifactIdentity) :
    CapacityCall Unit := do
  let generation ← await (.claimArtifact instance_ project identity)
  match generation with
  | none => pure ()
  | some generation =>
    tryCatch (do
        await (.aside "download, verification and upload")
        await (.endArtifact instance_ generation identity true)) fun _ =>
      await (.endArtifact instance_ generation identity false)

/-- `queue`: accept, then ingest. -/
def queueArtifact (instance_ : InstanceId) (project : ProjectKey) (artifact : ScmBuildArtifact) :
    CapacityCall Unit := do
  let _ ← await (.query fun w => found (w.projects.find? project))
  serializable (.acceptArtifact project artifact)
  ingest instance_ project artifact.identity

/-- `capture`: reserve, where another replica may win the race, then ingest. -/
def captureArtifact (instance_ : InstanceId) (project : ProjectKey) (artifact : ScmBuildArtifact)
    (reopen : Bool) : CapacityCall Unit := do
  tryCatch (serializable (.reserveArtifact project artifact reopen)) fun failure => do
    let winner ← await (.query fun w => .ok (w.artifacts.find? artifact.identity))
    refuseIf (winner.all fun a => a.project ≠ project || a.commitSha ≠ artifact.commitSha ||
      a.digest ≠ artifact.digest || a.sizeBytes ≠ artifact.sizeBytes) failure
  ingest instance_ project artifact.identity

def releaseArtifact (identity : ArtifactIdentity) : CapacityCall Unit := do
  await (.aside "references and object")
  await (.failArtifact identity)

/-- Every call of this file. -/
inductive Request : CapacityCall Unit → Prop where
  | updateCapacity (workspaceId : Id) (limits : Limits) :
    Request (await (.updateCapacity workspaceId limits))
  | attach (workspaceId userId : Id) : Request (attach workspaceId userId)
  | removeMember (workspaceId userId : Id) : Request (removeMember workspaceId userId)
  | registerTarget (workspaceId : Id) (capabilities : List RuntimeKind) :
    Request (registerTarget workspaceId capabilities)
  | allocate (workspaceId targetId : Id) (capabilities : List RuntimeKind)
    (maxEnvironments : Option Nat) :
    Request (allocate workspaceId targetId capabilities maxEnvironments)
  | editAllocation (allocation : AllocationKey) (patch : AllocationPatch) :
    Request (editAllocation allocation patch)
  | removeAllocation (allocation : AllocationKey) : Request (removeAllocation allocation)
  | removeTarget (targetId : Id) : Request (removeTarget targetId)
  | lifecycleTest (workspaceId targetId : Id) : Request (lifecycleTest workspaceId targetId)
  | provision (kind : ProvisioningKind) (workspaceId : Id) (instance_ : InstanceId)
    (dto : ProjectDto) : Request (provision kind workspaceId instance_ dto none)
  | retryProvisioning (kind : ProvisioningKind) (instance_ : InstanceId) (dto : ProjectDto)
    (id : Id) : Request (retryProvisioning kind instance_ dto id)
  | cleanupProvisioning (instance_ : InstanceId) (id : Id) :
    Request (cleanupProvisioning instance_ id)
  | reconcileStale (id : Id) : Request (reconcileStale id)
  | runOperation (project : ProjectKey) (envName : EnvName) (reason work : String)
    (deployed : Deployed) : Request (runOperation project envName reason work deployed)
  | updatePipelinePreset (project : ProjectKey) (nextPreset : PipelinePreset)
    (runtime : RuntimeKind) : Request (updatePipelinePreset project nextPreset runtime)
  | bindTarget (project : ProjectKey) (envName : EnvName) (targetId : Id) (runtime : RuntimeKind) :
    Request (bindTarget project envName targetId runtime)
  | removeProject (project : ProjectKey) : Request (removeProject project)
  | queueArtifact (instance_ : InstanceId) (project : ProjectKey) (artifact : ScmBuildArtifact) :
    Request (queueArtifact instance_ project artifact)
  | captureArtifact (instance_ : InstanceId) (project : ProjectKey) (artifact : ScmBuildArtifact)
    (reopen : Bool) : Request (captureArtifact instance_ project artifact reopen)
  | releaseArtifact (identity : ArtifactIdentity) : Request (releaseArtifact identity)

end InitPad.Capacity
