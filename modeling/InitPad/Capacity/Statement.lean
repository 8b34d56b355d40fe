import InitPad.Capacity.World

/-!
# InitPad.Capacity.Statement

The queries and transactions, each one atomic step. A transaction that throws changes nothing. A
statement whose answer is lost may have been carried out.
-/

namespace InitPad.Capacity

open Interleave Store
open Provisioning (InstanceId)

/-! ## Members, targets and allocations -/

def attachMember (workspaceId userId : Id) (w : World) : Except Failure (Unit × World) := do
  assertAvailable w workspaceId .members 1 none
  failIf (w.members.find? (workspaceId, userId)).isSome "Unique constraint failed"
  return ((), { w with members := w.members.insert ⟨workspaceId, userId⟩ })

def deleteMember (workspaceId userId : Id) (w : World) : Except Failure (Unit × World) := do
  let _ ← found (w.members.find? (workspaceId, userId))
  return ((), { w with members := w.members.deleteMany fun m =>
    m.workspaceId = workspaceId && m.userId = userId })

/-- The allocation that `ensureAllocation` and the lifecycle test create with the defaults. -/
def insertAllocation (workspaceId targetId : Id) (capabilities : List RuntimeKind)
    (maxEnvironments : Nat) (w : World) : Except Failure (Allocation × World) := do
  let _ ← found (w.workspaces.find? workspaceId)
  let _ ← found (w.targets.find? targetId)
  failIf (w.allocationOf workspaceId targetId).isSome "Unique constraint failed"
  let allocation : Allocation :=
    { key := ⟨w.nextId, workspaceId, targetId⟩, capabilities, active := true, maxEnvironments }
  return (allocation, { w.fresh with allocations := w.allocations.insert allocation })

/-- `@default(50)` of `maxEnvironments` -/
def DEFAULT_ENVIRONMENTS : Nat := 50

def upsertAllocation (workspaceId targetId : Id) (capabilities : List RuntimeKind) (w : World) :
    Except Failure (Allocation × World) :=
  match w.allocationOf workspaceId targetId with
  | some allocation => .ok (allocation, w)
  | none => insertAllocation workspaceId targetId capabilities DEFAULT_ENVIRONMENTS w

/-- `TargetsService.create`: the target with its first allocation -/
def createTarget (workspaceId : Id) (capabilities : List RuntimeKind) (w : World) :
    Except Failure (Allocation × World) := do
  assertAvailable w workspaceId .targets 1 none
  insertAllocation workspaceId w.nextId capabilities DEFAULT_ENVIRONMENTS
    { w.fresh with targets := w.targets.insert ⟨w.nextId, capabilities⟩ }

/-- `TargetAllocationsService.create` -/
def createAllocation (workspaceId targetId : Id) (capabilities : List RuntimeKind)
    (maxEnvironments : Option Nat) (w : World) : Except Failure (Allocation × World) := do
  assertAvailable w workspaceId .targets 1 none
  insertAllocation workspaceId targetId capabilities
    (maxEnvironments.getD DEFAULT_ENVIRONMENTS) w

structure AllocationPatch where
  capabilities : Option (List RuntimeKind) := none
  active : Option Bool := none
  maxEnvironments : Option Nat := none
  deriving DecidableEq

def AllocationPatch.apply (patch : AllocationPatch) (allocation : Allocation) : Allocation where
  key := allocation.key
  capabilities := patch.capabilities.getD allocation.capabilities
  active := patch.active.getD allocation.active
  maxEnvironments := patch.maxEnvironments.getD allocation.maxEnvironments

def updateAllocation (allocation : AllocationKey) (patch : AllocationPatch) (w : World) :
    Except Failure (Unit × World) := do
  let _ ← found (w.allocations.find? allocation)
  return ((), { w with allocations := w.allocations.update allocation patch.apply })

/-- The environments of deleted allocations keep no reference to them. -/
def unbindWhere (w : World) (gone : AllocationKey → Bool) : World :=
  { w with environments := w.environments.updateMany (fun e => e.allocation.any gone) fun e =>
      { e with allocation := none } }

def deleteAllocation (allocation : AllocationKey) (w : World) : Except Failure (Unit × World) := do
  let _ ← found (w.allocations.find? allocation)
  return ((), { unbindWhere w (· = allocation) with
    allocations := w.allocations.deleteMany (·.key = allocation) })

/-- `deleteTarget`: its environments lose target and allocation, its allocations go with it. -/
def deleteTarget (targetId : Id) (w : World) : Except Failure (Unit × World) := do
  let _ ← found (w.targets.find? targetId)
  let w := { w with environments := w.environments.updateMany (·.targetId = some targetId) fun e =>
    { e with targetId := none, allocation := none } }
  return ((), { unbindWhere w (·.targetId = targetId) with
    targets := w.targets.deleteMany (·.id = targetId)
    allocations := w.allocations.deleteMany (·.key.targetId = targetId) })

/-! ## Projects and environments -/

structure ResolvedEnvironmentTarget where
  name : EnvName
  targetId : Id
  allocation : AllocationKey
  deriving DecidableEq

/-- The foreign keys of a bound environment. -/
def checkBinding (w : World) (targetId : Id) (allocation : AllocationKey) :
    Except Failure Unit := do
  let _ ← found (w.targets.find? targetId)
  let _ ← found (w.allocations.find? allocation)
  return ()

def emptyEnvironment : Deployed := ⟨.empty, none, none, none, none⟩

def CI_WAITING_REASON : String := "Waiting for an available CI runner"

/-- The environments of a created project; those of an imported one are empty. -/
def waitingForCi (name : EnvName) : Deployed :=
  if name = .dev then
    { emptyEnvironment with status := .deploying, statusReason := some CI_WAITING_REASON }
  else emptyEnvironment

def newEnvironments (project : ProjectKey) (deployed : EnvName → Deployed) :
    Nat → List ResolvedEnvironmentTarget → List Environment
  | _, [] => []
  | order, r :: rest =>
    { key := ⟨project.id + 1 + order, project⟩
      name := r.name
      order
      targetId := some r.targetId
      allocation := some r.allocation
      deployed := deployed r.name
      activeOperationId := none } :: newEnvironments project deployed (order + 1) rest

/-- The project record with its environments, in `createInternal` and `importExisting`. -/
def createProject (workspaceId : Id) (pipelinePreset : PipelinePreset)
    (envTargets : List ResolvedEnvironmentTarget) (deployed : EnvName → Deployed) (w : World) :
    Except Failure (ProjectKey × World) := do
  assertAvailable w workspaceId .projects 1 none
  envTargets.forM fun r => checkBinding w r.targetId r.allocation
  let project : ProjectKey := ⟨w.nextId, workspaceId⟩
  return (project, { w with
    projects := w.projects.insert ⟨project, pipelinePreset⟩
    environments := w.environments.insertMany (newEnvironments project deployed 0 envTargets)
    nextId := w.nextId + 1 + envTargets.length })

def deleteProject (project : ProjectKey) (w : World) : Except Failure (Unit × World) := do
  let _ ← found (w.projects.find? project)
  return ((), { w with
    projects := w.projects.deleteMany (·.key = project)
    environments := w.environments.deleteMany (·.key.project = project)
    deploymentOperations := w.deploymentOperations.deleteMany (·.environment.project = project)
    artifacts := w.artifacts.deleteMany (·.project = project) })

/-- `pipelineStages` -/
def pipelineStages : PipelinePreset → List EnvName
  | .devTestProd => [.dev, .test, .prod]
  | .devProd => [.dev, .prod]
  | .prodOnly => [.prod]

structure PresetChange where
  project : ProjectKey
  currentPreset : PipelinePreset
  nextPreset : PipelinePreset
  /-- The environments that were read before the transaction. -/
  environments : List Environment
  addedTargets : List ResolvedEnvironmentTarget

namespace PresetChange

variable (change : PresetChange)

def removed : List EnvName :=
  (pipelineStages change.currentPreset).filter (!(pipelineStages change.nextPreset).contains ·)

def placeStage (order : Nat) (name : EnvName) (w : World) : Except Failure World :=
  match change.environments.find? fun e => e.name = name && !change.removed.contains name with
  | some existing => do
    let _ ← found (w.environments.find? existing.key)
    return { w with environments := w.environments.update existing.key ({ · with order }) }
  | none =>
    match change.addedTargets.find? (·.name = name) with
    | none => .error (.message "Target for added environment was not resolved")
    | some resolved => do
      checkBinding w resolved.targetId resolved.allocation
      failIf (w.environmentOf change.project name).isSome "Unique constraint failed"
      return { w.fresh with
        environments := w.environments.insert
          { key := ⟨w.nextId, change.project⟩
            name
            order
            targetId := some resolved.targetId
            allocation := some resolved.allocation
            deployed := emptyEnvironment
            activeOperationId := none } }

def placeStages : Nat → List EnvName → World → Except Failure World
  | _, [], w => .ok w
  | order, name :: names, w => do
    let w ← change.placeStage order name w
    placeStages (order + 1) names w

def removeStages (w : World) : World :=
  { w with
    environments := w.environments.deleteMany fun e =>
      e.key.project = change.project && change.removed.contains e.name
    deploymentOperations := w.deploymentOperations.deleteMany fun o =>
      o.environment.project = change.project && w.environments.rows.any fun e =>
        e.key = o.environment && change.removed.contains e.name }

end PresetChange

def busy (w : World) (project : ProjectKey) : Bool :=
  0 < w.deploymentOperations.count (fun o =>
      o.environment.project = project && o.status = .running) ||
    w.environments.rows.any fun e => e.key.project = project && e.activeOperationId.isSome

def occupied (e : Environment) : Bool :=
  e.deployed ≠ emptyEnvironment || e.activeOperationId.isSome

/-- The transaction of `updatePipelinePreset`. -/
def changePreset (pendingProduction : Bool) (change : PresetChange) (w : World) :
    Except Failure (Unit × World) := do
  let current ← found (w.projects.find? change.project)
  failIf (current.pipelinePreset ≠ change.currentPreset)
    "The pipeline preset changed concurrently; reload and retry"
  failIf (busy w change.project)
    "The pipeline preset cannot change while a project operation is running"
  failIf pendingProduction
    "Resolve or cancel the pending production request before changing the pipeline preset"
  failIf (change.removed.any fun stage => (w.environmentOf change.project stage).any occupied)
    ("Environment is not empty. Remove its deployment and finish any pending cleanup " ++
      "before changing the pipeline preset.")
  let w ← change.placeStages 0 (pipelineStages change.nextPreset) (change.removeStages w)
  return ((), { w with
    projects := w.projects.update change.project ({ · with pipelinePreset := change.nextPreset }) })

/-- What `bindTarget` writes. -/
structure Binding where
  project : ProjectKey
  name : EnvName
  targetId : Id
  allocation : AllocationKey
  movingAway : Bool

def Binding.apply (binding : Binding) (e : Environment) : Environment :=
  { e with
    targetId := some binding.targetId
    allocation := some binding.allocation
    deployed := if binding.movingAway then
        { e.deployed with status := .empty, url := none, statusReason := none }
      else e.deployed }

def bindEnvironment (binding : Binding) (w : World) : Except Failure (Unit × World) := do
  let _ ← found (w.environmentOf binding.project binding.name)
  checkBinding w binding.targetId binding.allocation
  return ((), { w with
    environments := w.environments.updateFirst
      (World.isEnvironment binding.project binding.name) binding.apply })

/-- A deployment, its removal or its expiry: anything that leaves the binding alone. -/
def updateEnvironment (environment : EnvironmentKey) (deployed : Deployed) (w : World) :
    Except Failure (Unit × World) :=
  .ok ((), { w with environments := w.environments.update environment ({ · with deployed }) })

/-! ## Operations -/

/-- `begin`: the operation, and whether it holds the environment. `asExpected` says that the
environment is still in the production state that the caller expects. -/
def beginOperation (asExpected : Bool) (environment : EnvironmentKey) (reason : String)
    (w : World) : Except Failure ((Id × Bool) × World) := do
  assertAvailable w environment.project.workspaceId .concurrentOperations 1 none
  let current ← found (w.environments.find? environment)
  let operations := w.deploymentOperations.insert ⟨w.nextId, environment, .running⟩
  if current.activeOperationId = none && asExpected then
    return ((w.nextId, true), { w.fresh with
      deploymentOperations := operations
      environments := w.environments.update environment fun e =>
        { e with
          activeOperationId := some w.nextId
          deployed := { e.deployed with status := .deploying, statusReason := some reason } } })
  else return ((w.nextId, false), { w.fresh with deploymentOperations := operations })

def endOperation (id : Id) (result : OperationResult) (deployed : Option Deployed) (w : World) :
    Except Failure (Unit × World) :=
  let status : InitPad.OperationStatus := match result with
    | .succeeded => .succeeded
    | .failed => .failed
    | .cancelled => .cancelled
  .ok ((), { w with
    deploymentOperations := w.deploymentOperations.update id ({ · with status })
    environments := w.environments.updateMany (·.activeOperationId = some id) fun e =>
      { e with activeOperationId := none, deployed := deployed.getD e.deployed } })

def retriedBy (instance_ : InstanceId) (o : ProvisioningOperation) : Bool :=
  o.status = .retrying && o.leaseOwner = some instance_

def startProvisioning (workspaceId : Id) (instance_ : InstanceId) (retryOfId : Option Id)
    (w : World) : Except Failure (Id × World) := do
  assertAvailable w workspaceId .concurrentOperations 1 retryOfId
  let operations :=
    w.provisioningOperations.insert ⟨w.nextId, workspaceId, .running, some instance_⟩
  match retryOfId with
  | none => return (w.nextId, { w.fresh with provisioningOperations := operations })
  | some previousId =>
    failIf (!(w.provisioningOperations.find? previousId).any (retriedBy instance_))
      "Retry ownership was lost"
    return (w.nextId, { w.fresh with
      provisioningOperations := operations.update previousId
        ({ · with status := .retried, leaseOwner := none }) })

/-- What a process makes of a failed or interrupted operation. -/
inductive Claim where
  | retrying | cleaning
  deriving DecidableEq

def Claim.status : Claim → Provisioning.OperationStatus
  | .retrying => .retrying
  | .cleaning => .cleaning

def claimable (o : ProvisioningOperation) : Bool := o.status = .failed || o.status = .interrupted

/-- `claimRetry` and `claimCleanup` -/
def claimProvisioning (instance_ : InstanceId) (id : Id) (claim : Claim) (w : World) :
    Except Failure (Nat × World) :=
  if (w.provisioningOperations.find? id).any claimable then
    .ok (1, { w with
      provisioningOperations := w.provisioningOperations.update id
        ({ · with status := claim.status, leaseOwner := some instance_ }) })
  else .ok (0, w)

/-- An ended operation is not active: the writes of `succeed`, `fail`, `cleanupFinished`, of the
releases and of `reconcileStale`. -/
inductive Ended where
  | succeeded | failed | interrupted
  deriving DecidableEq

def Ended.status : Ended → Provisioning.OperationStatus
  | .succeeded => .succeeded
  | .failed => .failed
  | .interrupted => .interrupted

def endProvisioning (id : Id) (statuses : Option (List Provisioning.OperationStatus))
    (leaseOwner : Option InstanceId) (ended : Ended) (w : World) : Except Failure (Unit × World) :=
  .ok ((), { w with
    provisioningOperations := w.provisioningOperations.update id fun o =>
      if statuses.all (·.contains o.status) && leaseOwner.all (some · = o.leaseOwner) then
        { o with status := ended.status, leaseOwner := none }
      else o })

/-! ## Artifacts -/

structure ScmBuildArtifact where
  identity : ArtifactIdentity
  commitSha : String
  digest : String
  sizeBytes : Nat
  deriving DecidableEq

def ScmBuildArtifact.row (artifact : ScmBuildArtifact) (project : ProjectKey) : BuildArtifact where
  identity := artifact.identity
  project := project
  commitSha := artifact.commitSha
  digest := artifact.digest
  sizeBytes := artifact.sizeBytes
  status := .accepted
  ingestionOwner := none
  ingestionGeneration := 0

def accepted (a : BuildArtifact) : BuildArtifact :=
  { a with status := .accepted, ingestionOwner := none }

/-- A row that counts already is not checked again. -/
def recheckBytes (project : ProjectKey) (existing : BuildArtifact) (w : World) :
    Except Failure Unit :=
  if World.reservedArtifact existing.status then .ok ()
  else assertAvailable w project.workspaceId .artifactBytes existing.sizeBytes none

/-- `accept`; the caller has read the workspace of the project. -/
def acceptArtifact (project : ProjectKey) (artifact : ScmBuildArtifact) (w : World) :
    Except Failure (Unit × World) :=
  match w.artifacts.find? artifact.identity with
  | some existing => do
    failIf (existing.project ≠ project ||
        existing.commitSha.toLower ≠ artifact.commitSha.toLower)
      "Build artifact is already bound to another deployment"
    recheckBytes project existing w
    return ((), { w with artifacts := w.artifacts.update artifact.identity accepted })
  | none => do
    assertAvailable w project.workspaceId .artifactBytes artifact.sizeBytes none
    return ((), { w with artifacts := w.artifacts.insert (artifact.row project) })

/-- `reserve`; `reopen` says that the row is the unchanged one whose object was found missing. -/
def reserveArtifact (project : ProjectKey) (artifact : ScmBuildArtifact) (reopen : Bool)
    (w : World) : Except Failure (Unit × World) :=
  match w.artifacts.find? artifact.identity with
  | some current => do
    failIf (current.project ≠ project || current.commitSha ≠ artifact.commitSha)
      "Registry artifact identity is already bound to another project"
    failIf (current.digest ≠ artifact.digest || current.sizeBytes ≠ artifact.sizeBytes)
      "Registry image bytes changed for an existing immutable commit"
    if current.status = .accepted || current.status = .ingesting ||
        current.status = .available && !reopen then
      return ((), w)
    else
      assertAvailable w project.workspaceId .artifactBytes
        (if current.status = .available then 0 else artifact.sizeBytes) none
      return ((), { w with artifacts := w.artifacts.update artifact.identity accepted })
  | none => do
    assertAvailable w project.workspaceId .artifactBytes artifact.sizeBytes none
    return ((), { w with artifacts := w.artifacts.insert (artifact.row project) })

/-- The row that `claim` of the execution lease takes over. -/
def ingestible (project : ProjectKey) (a : BuildArtifact) : Bool :=
  a.project = project && (a.status = .accepted || a.status = .failed) && a.ingestionOwner = none

/-- `claim` of the execution lease: the generation it runs under. -/
def claimArtifact (instance_ : InstanceId) (project : ProjectKey) (identity : ArtifactIdentity)
    (w : World) : Except Failure (Option Nat × World) :=
  match (w.artifacts.find? identity).filter (ingestible project) with
  | none => .ok (none, w)
  | some a => .ok (some (a.ingestionGeneration + 1), { w with
      artifacts := w.artifacts.update identity fun a =>
        { a with
          status := .ingesting
          ingestionOwner := some instance_
          ingestionGeneration := a.ingestionGeneration + 1 } })

/-- The publication or the failure of an execution, behind its `fence`. -/
def endArtifact (instance_ : InstanceId) (generation : Nat) (identity : ArtifactIdentity)
    (published : Bool) (w : World) : Except Failure (Unit × World) :=
  .ok ((), { w with
    artifacts := w.artifacts.update identity fun a =>
      if a.status = .ingesting && a.ingestionOwner = some instance_ &&
          a.ingestionGeneration = generation then
        { a with
          status := if published then .available else .failed
          ingestionOwner := none }
      else a })

/-- The artifact is given up: by retention, by recovery or with its release. -/
def failArtifact (identity : ArtifactIdentity) (w : World) : Except Failure (Unit × World) :=
  .ok ((), { w with artifacts := w.artifacts.update identity ({ · with status := .failed }) })

def updateCapacity (workspaceId : Id) (limits : Limits) (w : World) :
    Except Failure (Unit × World) := do
  let _ ← found (w.workspaces.find? workspaceId)
  return ((), { w with workspaces := w.workspaces.update workspaceId ({ · with limits }) })

/-! ## Statements -/

inductive Stmt : Type → Type 1 where
  | aside (what : String) : Stmt Unit
  /-- A query whose answer decides nothing about capacity. -/
  | query {β : Type} (read : World → Except Failure β) : Stmt β
  /-- The targets that `resolveTarget` chooses for the stages. -/
  | resolveTargets (stages : List EnvName) : Stmt (List (EnvName × Id))
  | updateCapacity (workspaceId : Id) (limits : Limits) : Stmt Unit
  | attachMember (workspaceId userId : Id) : Stmt Unit
  | deleteMember (workspaceId userId : Id) : Stmt Unit
  -- targets and allocations
  | findAllocation (workspaceId targetId : Id) : Stmt (Option Allocation)
  | findForDeploy (allocation : AllocationKey) : Stmt (Option (Allocation × Nat))
  | countEnvironments (allocation : AllocationKey) : Stmt Nat
  | countBound (environment : EnvironmentKey) (allocation : AllocationKey) : Stmt Nat
  | createTarget (workspaceId : Id) (capabilities : List RuntimeKind) : Stmt Allocation
  | createAllocation (workspaceId targetId : Id) (capabilities : List RuntimeKind)
    (maxEnvironments : Option Nat) : Stmt Allocation
  /-- The `create` of `ensureAllocation`. -/
  | createDefault (workspaceId targetId : Id) (capabilities : List RuntimeKind) : Stmt Allocation
  | upsertAllocation (workspaceId targetId : Id) (capabilities : List RuntimeKind) : Stmt Allocation
  | updateAllocation (allocation : AllocationKey) (patch : AllocationPatch) : Stmt Unit
  | deleteAllocation (allocation : AllocationKey) : Stmt Unit
  | deleteTarget (targetId : Id) : Stmt Unit
  -- projects and environments
  | createProject (workspaceId : Id) (pipelinePreset : PipelinePreset)
    (envTargets : List ResolvedEnvironmentTarget) (deployed : EnvName → Deployed) : Stmt ProjectKey
  | deleteProject (project : ProjectKey) : Stmt Unit
  | changePreset (change : PresetChange) : Stmt Unit
  | bindEnvironment (binding : Binding) : Stmt Unit
  | updateEnvironment (environment : EnvironmentKey) (deployed : Deployed) : Stmt Unit
  -- operations
  | beginOperation (environment : EnvironmentKey) (reason : String) : Stmt (Id × Bool)
  | endOperation (id : Id) (result : OperationResult) (deployed : Option Deployed) : Stmt Unit
  | startProvisioning (workspaceId : Id) (instance_ : InstanceId) (retryOfId : Option Id) : Stmt Id
  | claimProvisioning (instance_ : InstanceId) (id : Id) (claim : Claim) : Stmt Nat
  | endProvisioning (id : Id) (statuses : Option (List Provisioning.OperationStatus))
    (leaseOwner : Option InstanceId) (ended : Ended) : Stmt Unit
  -- artifacts
  | acceptArtifact (project : ProjectKey) (artifact : ScmBuildArtifact) : Stmt Unit
  | reserveArtifact (project : ProjectKey) (artifact : ScmBuildArtifact) (reopen : Bool) : Stmt Unit
  | claimArtifact (instance_ : InstanceId) (project : ProjectKey) (identity : ArtifactIdentity) :
    Stmt (Option Nat)
  | endArtifact (instance_ : InstanceId) (generation : Nat) (identity : ArtifactIdentity)
    (published : Bool) : Stmt Unit
  | failArtifact (identity : ArtifactIdentity) : Stmt Unit

structure Fault where
  failure : Failure
  carriedOut : Bool
  deriving DecidableEq

/-- What the environment of a statement decides. -/
structure CapacityInput where
  fault : Option Fault := none
  offer : EnvName → Id := fun _ => 0
  pendingProduction : Bool := false
  asExpected : Bool := true

def Stmt.run {β : Type} (e : Stmt β) (i : CapacityInput) (w : World) :
    Except Failure (β × World) :=
  match e with
  | .aside _ => .ok ((), w)
  | .query read => (read w).map (·, w)
  | .resolveTargets stages => .ok (stages.map fun name => (name, i.offer name), w)
  | .updateCapacity workspaceId limits => Capacity.updateCapacity workspaceId limits w
  | .attachMember workspaceId userId => Capacity.attachMember workspaceId userId w
  | .deleteMember workspaceId userId => Capacity.deleteMember workspaceId userId w
  | .findAllocation workspaceId targetId => .ok (w.allocationOf workspaceId targetId, w)
  | .findForDeploy allocation =>
    .ok ((w.allocations.find? allocation).map (·, w.bound allocation), w)
  | .countEnvironments allocation => .ok (w.bound allocation, w)
  | .countBound environment allocation =>
    .ok (w.environments.count fun e => e.key = environment && e.allocation = some allocation, w)
  | .createTarget workspaceId capabilities => Capacity.createTarget workspaceId capabilities w
  | .createAllocation workspaceId targetId capabilities maxEnvironments =>
    Capacity.createAllocation workspaceId targetId capabilities maxEnvironments w
  | .createDefault workspaceId targetId capabilities =>
    insertAllocation workspaceId targetId capabilities DEFAULT_ENVIRONMENTS w
  | .upsertAllocation workspaceId targetId capabilities =>
    Capacity.upsertAllocation workspaceId targetId capabilities w
  | .updateAllocation allocation patch => Capacity.updateAllocation allocation patch w
  | .deleteAllocation allocation => Capacity.deleteAllocation allocation w
  | .deleteTarget targetId => Capacity.deleteTarget targetId w
  | .createProject workspaceId pipelinePreset envTargets deployed =>
    Capacity.createProject workspaceId pipelinePreset envTargets deployed w
  | .deleteProject project => Capacity.deleteProject project w
  | .changePreset change => Capacity.changePreset i.pendingProduction change w
  | .bindEnvironment binding => Capacity.bindEnvironment binding w
  | .updateEnvironment environment deployed => Capacity.updateEnvironment environment deployed w
  | .beginOperation environment reason =>
    Capacity.beginOperation i.asExpected environment reason w
  | .endOperation id result deployed => Capacity.endOperation id result deployed w
  | .startProvisioning workspaceId instance_ retryOfId =>
    Capacity.startProvisioning workspaceId instance_ retryOfId w
  | .claimProvisioning instance_ id claim => Capacity.claimProvisioning instance_ id claim w
  | .endProvisioning id statuses leaseOwner ended =>
    Capacity.endProvisioning id statuses leaseOwner ended w
  | .acceptArtifact project artifact => Capacity.acceptArtifact project artifact w
  | .reserveArtifact project artifact reopen => Capacity.reserveArtifact project artifact reopen w
  | .claimArtifact instance_ project identity => Capacity.claimArtifact instance_ project identity w
  | .endArtifact instance_ generation identity published =>
    Capacity.endArtifact instance_ generation identity published w
  | .failArtifact identity => Capacity.failArtifact identity w

/-- The answer and the next world of a statement that is carried out. -/
def commit {β : Type} (r : Except Failure (β × World)) (w : World) : Except Failure β × World :=
  match r with
  | .ok (b, w') => (.ok b, w')
  | .error failure => (.error failure, w)

instance : Semantics Stmt CapacityInput World Failure where
  exec e i w :=
    match i.fault with
    | some fault =>
      (.error fault.failure, if fault.carriedOut then (commit (e.run i w) w).2 else w)
    | none => commit (e.run i w) w

abbrev CapacityCall (α : Type) : Type 1 := Prog Stmt Failure α

end InitPad.Capacity
