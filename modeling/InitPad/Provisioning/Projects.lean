import InitPad.Provisioning.Scm
import InitPad.Provisioning.Service

/-!
# InitPad.Provisioning.Projects

The calls of `ProjectsService` that provision a project: `create`, `importExisting`,
`retryProvisioning` and `cleanupProvisioning`. The generated checkout on the local disk and the
environment rows of the project are left out; the validations before the first effect are one step
each.
-/

namespace InitPad.Provisioning

open Interleave
open Prog (await)

structure ProvisioningRetry where
  retryOfId : Id
  attempt : Nat

/-- `.catch(() => undefined)` -/
abbrev quietly (p : Provision Unit) : Provision Unit := p.ignoreError

def refuseIf (condition : Bool) (message : String) : Provision Unit :=
  if condition then throw message else pure ()

/-- The body of a `try` whose `catch` needs what was known so far. -/
def attempt {α : Type} (p : Provision α) : Provision (Except String α) :=
  tryCatch (do
    let a ← p
    return .ok a) fun error => return .error error

def repositoryMetadata (repository : ScmRepositoryRef) : EffectMetadata where
  provider := some repository.key.provider
  owner := some repository.key.owner
  name := some repository.key.name
  repositoryId := repository.repositoryId

def journaled (instance_ : InstanceId) (operationId : Id) (key : EffectKey) (body : Provision Unit) :
    Provision Unit :=
  tryCatch (do
    body
    completeEffect instance_ operationId key none) fun error => do
      quietly (failEffect operationId key)
      throw error

/-! ## Create -/

def compensateAll (operationId : Id) (keys : List EffectKey) : Provision Unit :=
  Prog.forEach (fun key => quietly (compensateEffect operationId key)) keys

def compensationFailedAll (operationId : Id) (keys : List EffectKey) : Provision Unit :=
  Prog.forEach (fun key => quietly (compensationFailed operationId key)) keys

def rollbackRepository (operationId : Id) (repository : ScmRepositoryRef)
    (repositoryEffects : List EffectKey) : Provision Unit :=
  tryCatch (do
    deleteRepo repository
    compensateAll operationId repositoryEffects.reverse) fun _ =>
      compensationFailedAll operationId repositoryEffects

/-- `repo` is known when the provider call succeeded and the journal failed. -/
def undoRepository (operationId : Id) : Option ScmRepositoryRef → Provision Unit
  | none => pure ()
  | some repository =>
    tryCatch (do
      deleteRepo repository
      quietly (compensateEffect operationId .repositoryCreate)) fun _ =>
        quietly (compensationFailed operationId .repositoryCreate)

def failRepository {α : Type} (operationId : Id) (repo : Option ScmRepositoryRef)
    (error : String) : Provision α := do
  quietly (failEffect operationId .repositoryCreate)
  undoRepository operationId repo
  throw ("Repository could not be created: " ++ error)

def createRepository (instance_ : InstanceId) (operationId : Id) (key : RepositoryKey) :
    Provision ScmRepositoryRef := do
  planEffect operationId .repositoryCreate (repositoryMetadata ⟨key, none⟩)
  beginEffect instance_ operationId .repositoryCreate
  match ← attempt (provision key) with
  | .error error => failRepository operationId none error
  | .ok repository =>
    let completed ← attempt (completeEffect instance_ operationId .repositoryCreate
      (some (repositoryMetadata repository)))
    match completed with
    | .error error => failRepository operationId (some repository) error
    | .ok _ => return repository

def addCollaborators (instance_ : InstanceId) (operationId : Id) (repository : ScmRepositoryRef) :
    List Member → List EffectKey → Provision (List EffectKey × Option String)
  | [], keys => return (keys, none)
  | collaborator :: rest, keys => do
    let effect := EffectKey.collaborator collaborator.userId
    let begun ← attempt (do
      let username ← await (.collaboratorUsername collaborator.userId)
      planEffect operationId effect { username := some username }
      beginEffect instance_ operationId effect
      return username)
    match begun with
    | .error error => return (keys, some error)
    | .ok username =>
      let granted ← attempt (journaled instance_ operationId effect
        (setCollaborator repository username collaborator.role))
      match granted with
      | .error error => return (keys ++ [effect], some error)
      | .ok _ => addCollaborators instance_ operationId repository rest (keys ++ [effect])

def addMembers (instance_ : InstanceId) (operationId workspaceId ownerId : Id)
    (repository : ScmRepositoryRef) : Provision (List EffectKey × Option String) := do
  match ← attempt (await (.workspaceMembers workspaceId ownerId)) with
  | .error error => return ([.repositoryCreate], some error)
  | .ok collaborators =>
    addCollaborators instance_ operationId repository collaborators [.repositoryCreate]

def mirrorCollaborators (instance_ : InstanceId) (operationId workspaceId ownerId : Id)
    (repository : ScmRepositoryRef) : Provision (List EffectKey) := do
  match ← addMembers instance_ operationId workspaceId ownerId repository with
  | (repositoryEffects, none) => return repositoryEffects
  | (repositoryEffects, some error) => do
    rollbackRepository operationId repository repositoryEffects
    throw ("Repository collaborators could not be configured: " ++ error)

def removeProject (instance_ : InstanceId) (operationId projectId : Id) : Provision Unit := do
  await (.deleteProject projectId)
  unbindProject instance_ operationId

def removeCreated (instance_ : InstanceId) (operationId : Id) :
    Option Id → Provision (Except String Unit)
  | none => return .ok ()
  | some projectId => attempt (removeProject instance_ operationId projectId)

def compensateProject (operationId : Id) : Except String Unit → Provision Unit
  | .error _ => quietly (compensationFailed operationId .projectRecord)
  | .ok _ => quietly (compensateEffect operationId .projectRecord)

def failProject {α : Type} (instance_ : InstanceId) (operationId : Id)
    (repository : ScmRepositoryRef) (repositoryEffects : List EffectKey) (created : Option Id)
    (error : String) : Provision α := do
  quietly (failEffect operationId .projectRecord)
  let removed ← removeCreated instance_ operationId created
  rollbackRepository operationId repository repositoryEffects
  compensateProject operationId removed
  throw error

def recordProject (instance_ : InstanceId) (operationId : Id) (data : NewProject)
    (repositoryEffects : List EffectKey) : Provision Id := do
  let inserted ← attempt (do
    planEffect operationId .projectRecord {}
    beginEffect instance_ operationId .projectRecord
    await (.createProject data))
  match inserted with
  | .error error =>
    failProject instance_ operationId data.repository repositoryEffects none error
  | .ok projectId =>
    let recorded ← attempt (do
      bindProject instance_ operationId projectId
      completeEffect instance_ operationId .projectRecord none)
    match recorded with
    | .error error =>
      failProject instance_ operationId data.repository repositoryEffects (some projectId) error
    | .ok _ => return projectId

/-- `createInternal` behind the choice of the owner. -/
def createProject (instance_ : InstanceId) (request : ProvisioningRequest)
    (ownerId workspaceId operationId : Id) (context : ScmKind × String) : Provision Id := do
  await (.aside "targets, allocations and scaffold")
  let repository ← createRepository instance_ operationId ⟨context.1, context.2, request.name⟩
  let repositoryEffects ←
    mirrorCollaborators instance_ operationId workspaceId ownerId repository
  let projectId ← recordProject instance_ operationId ⟨workspaceId, request.name, repository⟩
    repositoryEffects
  await (.aside "read the project")
  return projectId

def createInternal (instance_ : InstanceId) (request : ProvisioningRequest)
    (ownerId workspaceId operationId : Id) : Provision Id := do
  await (.aside "require write access and a CI callback")
  refuseIf (← await (.projectNamed workspaceId request.name))
    ("This workspace already has a project named '" ++ request.name ++ "'")
  await (.aside "capacity, template and stages")
  let context ← await (.createContext ownerId)
  createProject instance_ request ownerId workspaceId operationId context

def newOperation (kind : ProvisioningKind) (request : ProvisioningRequest)
    (ownerId workspaceId : Id) (retry : Option ProvisioningRetry) : NewOperation where
  workspaceId := workspaceId
  kind := kind
  requestedById := ownerId
  request := request
  retryOfId := retry.map (·.retryOfId)
  attempt := (retry.map (·.attempt)).getD 1

def create (instance_ : InstanceId) (request : ProvisioningRequest) (ownerId workspaceId : Id)
    (retry : Option ProvisioningRetry) : Provision Id := do
  await (.aside "resolve the workspace")
  let operationId ← start instance_ (newOperation .create request ownerId workspaceId retry)
  tryCatch (do
    let projectId ← createInternal instance_ request ownerId workspaceId operationId
    succeed instance_ operationId (some projectId)
    return projectId) fun error => do
      fail instance_ operationId
      throw error

/-! ## Import -/

def undoImportedProject (instance_ : InstanceId) (operationId : Id) : Option Id → Provision Unit
  | none => pure ()
  | some projectId =>
    tryCatch (do
      await (.deleteProject projectId)
      unbindProject instance_ operationId
      quietly (compensateEffect operationId .projectRecord)) fun _ =>
        quietly (compensationFailed operationId .projectRecord)

def failImportedProject {α : Type} (instance_ : InstanceId) (operationId : Id)
    (created : Option Id) (error : String) : Provision α := do
  quietly (failEffect operationId .projectRecord)
  undoImportedProject instance_ operationId created
  throw error

def importProject (instance_ : InstanceId) (operationId : Id) (data : NewProject) :
    Provision Id := do
  planEffect operationId .projectRecord {}
  beginEffect instance_ operationId .projectRecord
  match ← attempt (await (.createProject data)) with
  | .error error => failImportedProject instance_ operationId none error
  | .ok projectId =>
    let recorded ← attempt (do
      bindProject instance_ operationId projectId
      completeEffect instance_ operationId .projectRecord none)
    match recorded with
    | .error error => failImportedProject instance_ operationId (some projectId) error
    | .ok _ => return projectId

/-- How an effect on an imported repository is taken back. -/
inductive Compensation where
  | secrets
  | collaborator (userId : Id) (username : String) (previousAccess : Option String)

def Compensation.key : Compensation → EffectKey
  | .secrets => .secretsInitpad
  | .collaborator userId _ _ => .collaborator userId

def Compensation.run (repository : ScmRepositoryRef) : Compensation → Provision Unit
  | .secrets => removeRepoSecrets repository
  | .collaborator _ username previousAccess =>
    restoreCollaboratorAccess repository username previousAccess

/-- The compensations registered so far, and the error that ended the loop. -/
def grantCollaborators (instance_ : InstanceId) (operationId : Id)
    (repository : ScmRepositoryRef) :
    List Member → List Compensation → Provision (List Compensation × Option String)
  | [], compensations => return (compensations, none)
  | collaborator :: rest, compensations => do
    let effect := EffectKey.collaborator collaborator.userId
    let begun ← attempt (do
      let username ← await (.collaboratorUsername collaborator.userId)
      let previousAccess ← getCollaboratorAccess repository username
      planEffect operationId effect { username := some username, previousAccess }
      beginEffect instance_ operationId effect
      return (username, previousAccess))
    match begun with
    | .error error => return (compensations, some error)
    | .ok (username, previousAccess) =>
      let registered :=
        compensations ++ [.collaborator collaborator.userId username previousAccess]
      let granted ← attempt (journaled instance_ operationId effect
        (setCollaborator repository username collaborator.role))
      match granted with
      | .error error => return (registered, some error)
      | .ok _ => grantCollaborators instance_ operationId repository rest registered

def configureImport (instance_ : InstanceId) (operationId workspaceId ownerId : Id)
    (repository : ScmRepositoryRef) : Provision (List Compensation × Option String) := do
  let begun ← attempt (do
    planEffect operationId .secretsInitpad {}
    beginEffect instance_ operationId .secretsInitpad)
  match begun with
  | .error error => return ([], some error)
  | .ok _ =>
    -- registered before the call: a provider can fail after writing only some secrets
    let configured ← attempt (do
      journaled instance_ operationId .secretsInitpad (configureRepoSecrets repository)
      await (.workspaceMembers workspaceId ownerId))
    match configured with
    | .error error => return ([.secrets], some error)
    | .ok collaborators =>
      grantCollaborators instance_ operationId repository collaborators [.secrets]

/-- Whether every compensation succeeded. -/
def compensateImport (operationId : Id) (repository : ScmRepositoryRef) :
    List Compensation → Provision Bool
  | [] => return true
  | compensation :: rest => do
    let compensated ← attempt (do
      compensation.run repository
      compensateEffect operationId compensation.key)
    match compensated with
    | .error _ => do
      quietly (compensationFailed operationId compensation.key)
      let _ ← compensateImport operationId repository rest
      return false
    | .ok _ => compensateImport operationId repository rest

def rollbackImport (instance_ : InstanceId) (operationId projectId : Id)
    (repository : ScmRepositoryRef) (compensations : List Compensation) : Provision Unit := do
  if ← compensateImport operationId repository compensations.reverse then
    tryCatch (do
      await (.deleteProject projectId)
      unbindProject instance_ operationId
      compensateEffect operationId .projectRecord) fun _ =>
        quietly (compensationFailed operationId .projectRecord)
  else pure ()

def importInternal (instance_ : InstanceId) (request : ProvisioningRequest)
    (ownerId workspaceId operationId : Id) : Provision Id := do
  await (.aside "template")
  step instance_ operationId
  let repository ← await (.findRepository request.repositoryId)
  await (.aside "the repository is not empty and has a valid name")
  refuseIf (← await (.projectNamed workspaceId repository.key.name))
    ("This workspace already has a project named '" ++ repository.key.name ++ "'")
  refuseIf (← await (.projectOf repository.key.provider repository.repositoryId))
    ("Repository '" ++ repository.key.name ++ "' is already connected to InitPad")
  await (.aside "Dockerfile, workflow, capacity, targets and allocations")
  let projectId ←
    importProject instance_ operationId ⟨workspaceId, repository.key.name, repository⟩
  step instance_ operationId
  match ← configureImport instance_ operationId workspaceId ownerId repository with
  | (compensations, some error) => do
    rollbackImport instance_ operationId projectId repository compensations
    throw ("Import failed while configuring the repository: " ++ error)
  | (_, none) => do
    succeed instance_ operationId (some projectId)
    await (.aside "read the project")
    return projectId

def importExisting (instance_ : InstanceId) (request : ProvisioningRequest)
    (ownerId workspaceId : Id) (retry : Option ProvisioningRetry) : Provision Id := do
  await (.aside "resolve the workspace, write access and a CI callback")
  let operationId ← start instance_ (newOperation .importRepo request ownerId workspaceId retry)
  tryCatch (importInternal instance_ request ownerId workspaceId operationId) fun error => do
    fail instance_ operationId
    throw error

/-! ## Retry and cleanup -/

def retryProvisioning (instance_ : InstanceId) (operationId userId : Id) : Provision Id := do
  let ⟨operation, effects⟩ ← record operationId
  await (.aside "require write access")
  refuseIf (!isRetryable ⟨operation, effects⟩ userId)
    (if operation.attempt ≥ 5 then
      "This provisioning operation reached the maximum of five attempts"
    else "Finish the required cleanup before retrying this provisioning operation")
  match operation.request with
  | none => throw "This legacy provisioning operation has no retryable request"
  | some request => do
    claimRetry instance_ operation.id
    let retry : ProvisioningRetry := ⟨operation.id, operation.attempt + 1⟩
    tryCatch (match operation.kind with
      | .create => create instance_ request userId operation.workspaceId (some retry)
      | .importRepo =>
        importExisting instance_ request userId operation.workspaceId (some retry)) fun error => do
      quietly (releaseRetry instance_ operation.id)
      throw error

/-- An effect and the action that takes it back; whether both are done. -/
def compensate (operationId : Id) (key : EffectKey) (action : Provision Unit) :
    Provision Bool :=
  tryCatch (do
    action
    compensateEffect operationId key
    return true) fun _ => do
      quietly (compensationFailed operationId key)
      return false

def repositoryFromEffect (metadata : EffectMetadata) : Option ScmRepositoryRef :=
  match metadata.provider, metadata.owner, metadata.name with
  | some provider, some owner, some name =>
    if owner = "" || name = "" then none
    else some ⟨⟨provider, owner, name⟩, metadata.repositoryId⟩
  | _, _, _ => none

/-- An effect on an imported repository; whether it is taken back. -/
def cleanupEffect (operationId : Id) (repository : ScmRepositoryRef) (effect : Effect) :
    Provision Bool :=
  match effect.key.kind, effect.metadata.username with
  | .collaborator, none => return false
  | .collaborator, some username =>
    if username = "" then return false
    else compensate operationId effect.key
      (restoreCollaboratorAccess repository username effect.metadata.previousAccess)
  | .secrets, _ => compensate operationId effect.key (removeRepoSecrets repository)
  | _, _ => return true

/-- The effects on an imported repository, in order; whether all are taken back. -/
def cleanupExternal (operationId : Id) (repository : ScmRepositoryRef) :
    List Effect → Provision Bool
  | [] => return true
  | effect :: rest => do
    let done ← cleanupEffect operationId repository effect
    let others ← cleanupExternal operationId repository rest
    return done && others

def externalEffects (effects : List Effect) : List Effect :=
  effects.filter fun effect =>
    (effect.key.kind = .collaborator || effect.key.kind = .secrets) && effect.status.needsCleanup

def cleanupImport (operationId : Id) (effects : List Effect) (project : Option Project) :
    Provision Bool :=
  match project with
  | none =>
    if externalEffects effects ≠ [] then
      throw ("The imported project record is missing; external cleanup cannot be proven safe " ++
        "automatically")
    else return true
  | some project =>
    cleanupExternal operationId project.repository (externalEffects effects).reverse

/-- Marks the effects of a deleted repository; whether all could be marked. -/
def compensateEach (operationId : Id) : List Effect → Provision Bool
  | [] => return true
  | effect :: rest => do
    let done ← compensate operationId effect.key (pure ())
    let others ← compensateEach operationId rest
    return done && others

def repositoryEffects (effects : List Effect) : List Effect :=
  effects.filter fun effect =>
    (effect.key.kind = .repository || effect.key.kind = .collaborator) &&
      effect.status.needsCleanup

def createdRepository (effects : List Effect) (project : Option Project) :
    Option ScmRepositoryRef :=
  match project with
  | some project => some project.repository
  | none => (effects.find? (·.key.kind = .repository)).bind fun effect =>
    repositoryFromEffect effect.metadata

def cleanupCreate (operationId : Id) (effects : List Effect) (project : Option Project) :
    Provision Bool :=
  if repositoryEffects effects = [] then return true
  else match createdRepository effects project with
    | none =>
      throw "The created repository identity is incomplete; remove it in the SCM before retrying"
    | some repository => do
      await (.aside "actor for the repository")
      match ← attempt (deleteRepo repository) with
      | .ok _ => compensateEach operationId (repositoryEffects effects).reverse
      | .error _ => do
        compensationFailedAll operationId ((repositoryEffects effects).map (·.key))
        return false

def cleanupProject (instance_ : InstanceId) (operationId : Id) (effects : List Effect)
    (project : Option Project) : Provision Bool :=
  match project, effects.find? (·.key.kind = .project) with
  | some project, some effect =>
    compensate operationId effect.key (removeProject instance_ operationId project.id)
  | some project, none => succeeded (removeProject instance_ operationId project.id)
  | none, some effect =>
    if effect.status.needsCleanup then do
      if ← succeeded (compensateEffect operationId effect.key) then
        succeeded (unbindProject instance_ operationId)
      else return false
    else return true
  | none, none => return true

def operationProject (operation : Operation) : Provision (Option Project) :=
  match operation.projectId with
  | none => return none
  | some projectId => await (.findProject projectId)

def cleanupRepository (operation : Operation) (effects : List Effect) (project : Option Project) :
    Provision Bool :=
  match operation.kind with
  | .importRepo => cleanupImport operation.id effects project
  | .create => cleanupCreate operation.id effects project

/-- The project row goes last, when everything else is taken back. -/
def cleanupRecord (instance_ : InstanceId) (operationId : Id) (effects : List Effect)
    (project : Option Project) : Bool → Provision Bool
  | true => cleanupProject instance_ operationId effects project
  | false => return false

def cleanupProvisioningEffects (instance_ : InstanceId) (operation : Operation)
    (effects : List Effect) : Provision Unit := do
  let project ← operationProject operation
  let external ← cleanupRepository operation effects project
  let clean ← cleanupRecord instance_ operation.id effects project external
  refuseIf (!clean) "Provisioning cleanup is still incomplete"
  cleanupFinished instance_ operation.id

def cleanupProvisioning (instance_ : InstanceId) (operationId : Id) : Provision Unit := do
  let ⟨operation, effects⟩ ← record operationId
  await (.aside "require maintain access")
  refuseIf (!needsCleanup ⟨operation, effects⟩)
    "This provisioning operation has no pending cleanup"
  claimCleanup instance_ operation.id
  tryCatch (cleanupProvisioningEffects instance_ operation effects) fun error => do
    quietly (releaseCleanup instance_ operation.id)
    throw error

end InitPad.Provisioning
