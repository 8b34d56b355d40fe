import InitPad.Deployment.Types
import InitPad.Interleave.Run

/-!
# InitPad.Provisioning.World

What the provisioning of a project works on: the operations with their effect journal, the project
rows, and the repositories of the SCM. A statement is one database query or transaction, or one
request to the SCM. `aside` is an awaited step that reads or writes nothing which is modelled here
and can only refuse: an authorization, a capacity check, a token, an audit record.

A database statement that fails has no effect; a request that fails may have been carried out. Ids
stand for UUIDs. Texts that are only shown (`message`, `step`, `finishedAt`) are left out.
-/

namespace InitPad.Provisioning

open Interleave Store

/-- The `instanceId` of an API process. -/
abbrev InstanceId := Nat

/-! ## Rows -/

inductive ProvisioningKind where
  | create | importRepo
  deriving DecidableEq

inductive OperationStatus where
  | running | succeeded | failed | interrupted | retrying | retried | cleaning
  deriving DecidableEq

inductive EffectKind where
  | repository | collaborator | secrets | project
  deriving DecidableEq

inductive EffectStatus where
  | planned | applying | applied | failed | compensated | compensationFailed
  | reconciliationRequired
  deriving DecidableEq

/-- The keys that `createInternal` and `importExisting` plan effects under. -/
inductive EffectKey where
  | repositoryCreate
  | collaborator (userId : Id)
  | secretsInitpad
  | projectRecord
  deriving DecidableEq

def EffectKey.kind : EffectKey → EffectKind
  | .repositoryCreate => .repository
  | .collaborator _ => .collaborator
  | .secretsInitpad => .secrets
  | .projectRecord => .project

def EffectKey.text : EffectKey → String
  | .repositoryCreate => "repository:create"
  | .collaborator userId => "collaborator:" ++ toString userId
  | .secretsInitpad => "secrets:initpad"
  | .projectRecord => "project:record"

/-- The coordinates that a repository is addressed by. -/
structure RepositoryKey where
  provider : ScmKind
  owner : String
  name : String
  deriving DecidableEq

structure ScmRepositoryRef where
  key : RepositoryKey
  repositoryId : Option Id
  deriving DecidableEq

structure EffectMetadata where
  provider : Option ScmKind := none
  owner : Option String := none
  name : Option String := none
  repositoryId : Option Id := none
  username : Option String := none
  previousAccess : Option String := none
  deriving DecidableEq

structure Effect where
  operationId : Id
  key : EffectKey
  status : EffectStatus
  metadata : EffectMetadata
  deriving DecidableEq

/-- The fields of `CreateProjectDto` and `ImportProjectDto` that decide which repository is meant. -/
structure ProvisioningRequest where
  name : String
  repositoryId : Id
  deriving DecidableEq

structure Operation where
  id : Id
  workspaceId : Id
  kind : ProvisioningKind
  status : OperationStatus
  projectId : Option Id
  requestedById : Option Id
  request : Option ProvisioningRequest
  retryOfId : Option Id
  attempt : Nat
  leaseOwner : Option InstanceId
  leaseExpiresAt : Option Time
  createdAt : Time
  deriving DecidableEq

structure Project where
  id : Id
  workspaceId : Id
  name : String
  repository : ScmRepositoryRef
  deriving DecidableEq

structure Member where
  workspaceId : Id
  userId : Id
  role : String
  deriving DecidableEq

structure Repository where
  key : RepositoryKey
  id : Id
  secrets : List String
  collaborators : List (String × String)
  deriving DecidableEq

instance : Keyed Operation Id := ⟨Operation.id⟩
instance : Keyed Effect (Id × EffectKey) := ⟨fun e => (e.operationId, e.key)⟩
instance : Keyed Project Id := ⟨Project.id⟩
instance : Keyed Repository RepositoryKey := ⟨Repository.key⟩

structure World where
  now : Time
  operations : Table Operation
  effects : Table Effect
  projects : Table Project
  members : List Member
  repositories : Table Repository
  /-- What `createContext` answers: the provider of the edition, and the account of the owner. -/
  context : Id → ScmKind × String
  /-- The SCM account of a user, if it is linked. -/
  username : Id → Option String
  nextOperation : Id
  nextProject : Id
  nextRepository : Id

/-! ## Statements -/

structure NewOperation where
  workspaceId : Id
  kind : ProvisioningKind
  requestedById : Id
  request : ProvisioningRequest
  retryOfId : Option Id
  attempt : Nat
  deriving DecidableEq

/-- What `data` says about `leaseOwner` and `leaseExpiresAt`. -/
inductive LeaseChange where
  | keep | clear | renew
  | take (owner : InstanceId)
  deriving DecidableEq

structure OperationPatch where
  status : Option OperationStatus := none
  projectId : Option (Option Id) := none
  lease : LeaseChange := .keep
  deriving DecidableEq

structure OperationFilter where
  id : Id
  status : List OperationStatus
  leaseOwner : Option InstanceId := none
  /-- The lease has expired at this time. -/
  staleAt : Option Time := none
  deriving DecidableEq

structure NewProject where
  workspaceId : Id
  name : String
  repository : ScmRepositoryRef
  deriving DecidableEq

inductive CreateResponse where
  | created (id : Option Id)
  | exists
  deriving DecidableEq

inductive Stmt : Type → Type 1 where
  | aside (what : String) : Stmt Unit
  | currentTime : Stmt Time
  | createContext (userId : Id) : Stmt (ScmKind × String)
  -- provisioning operations
  | createOperation (instance_ : InstanceId) (data : NewOperation) : Stmt Id
  | updateOperation (instance_ : InstanceId) (id : Id) (patch : OperationPatch) : Stmt Unit
  | updateOperations (filter : OperationFilter) (patch : OperationPatch) : Stmt Nat
  | findOperation (id : Id) : Stmt (Option (Operation × List Effect))
  | staleOperations (now : Time) : Stmt (List Id)
  -- the effect journal
  | createEffect (effect : Effect) : Stmt Unit
  | updateEffect (operationId : Id) (key : EffectKey) (from_ : List EffectStatus)
      (status : EffectStatus) (metadata : Option EffectMetadata) : Stmt Nat
  | interruptEffects (operationId : Id) : Stmt Nat
  -- projects
  | projectNamed (workspaceId : Id) (name : String) : Stmt Bool
  | projectOf (provider : ScmKind) (repositoryId : Option Id) : Stmt Bool
  | findProject (id : Id) : Stmt (Option Project)
  | createProject (data : NewProject) : Stmt Id
  | deleteProject (id : Id) : Stmt Unit
  | workspaceMembers (workspaceId ownerId : Id) : Stmt (List Member)
  | collaboratorUsername (userId : Id) : Stmt String
  -- the SCM
  | findRepository (id : Id) : Stmt ScmRepositoryRef
  | createRepository (key : RepositoryKey) : Stmt CreateResponse
  | readRepository (key : RepositoryKey) : Stmt Id
  | deleteRepository (key : RepositoryKey) : Stmt Unit
  | push (key : RepositoryKey) : Stmt Unit
  | putSecret (key : RepositoryKey) (secret : String) : Stmt Unit
  | deleteSecret (key : RepositoryKey) (secret : String) : Stmt Unit
  | collaboratorAccess (key : RepositoryKey) (username : String) : Stmt (Option String)
  | setCollaborator (key : RepositoryKey) (username permission : String) : Stmt Unit
  | removeCollaborator (key : RepositoryKey) (username : String) : Stmt Unit

/-! ## What a statement does -/

structure Fault where
  message : String
  carriedOut : Bool
  deriving DecidableEq

structure ProvisioningInput where
  /-- The time since the last statement. -/
  elapsed : Nat := 0
  fault : Option Fault := none
  /-- The SCM answers with a body that cannot be used. -/
  unreadable : Bool := false

def LEASE_MS : Nat := 5 * 60 * 1000

def LeaseChange.apply (now : Time) (op : Operation) : LeaseChange → Operation
  | .keep => op
  | .clear => { op with leaseOwner := none, leaseExpiresAt := none }
  | .renew => { op with leaseExpiresAt := some (now + LEASE_MS) }
  | .take owner => { op with leaseOwner := some owner, leaseExpiresAt := some (now + LEASE_MS) }

def OperationPatch.apply (now : Time) (patch : OperationPatch) (op : Operation) : Operation :=
  patch.lease.apply now
    { op with
      status := patch.status.getD op.status
      projectId := patch.projectId.getD op.projectId }

/-- `OR: [{ leaseExpiresAt: { lt: now } }, { leaseExpiresAt: null, createdAt: { lt: legacyCutoff } }]` -/
def Operation.stale (now : Time) (op : Operation) : Bool :=
  match op.leaseExpiresAt with
  | some expiry => expiry < now
  | none => op.createdAt < now - LEASE_MS

def OperationFilter.selects (filter : OperationFilter) (op : Operation) : Bool :=
  op.id = filter.id && filter.status.contains op.status &&
    filter.leaseOwner.all (fun owner => op.leaseOwner = some owner) &&
    filter.staleAt.all fun now => op.stale now

def leased : List OperationStatus := [.running, .cleaning, .retrying]

def NewOperation.row (data : NewOperation) (instance_ : InstanceId) (w : World) : Operation where
  id := w.nextOperation
  workspaceId := data.workspaceId
  kind := data.kind
  status := .running
  projectId := none
  requestedById := some data.requestedById
  request := some data.request
  retryOfId := data.retryOfId
  attempt := data.attempt
  leaseOwner := some instance_
  leaseExpiresAt := some (w.now + LEASE_MS)
  createdAt := w.now

def World.updateOperations (w : World) (p : Operation → Bool) (patch : OperationPatch) : World :=
  { w with operations := w.operations.updateMany p (patch.apply w.now) }

def World.updateRepository (w : World) (k : RepositoryKey) (f : Repository → Repository) : World :=
  { w with repositories := w.repositories.updateMany (fun r => r.key = k) f }

/-- The repository with these coordinates is changed, if there is one. -/
def World.request (w : World) (k : RepositoryKey) (message : String)
    (f : Repository → Repository) : Except String Unit × World :=
  if (w.repositories.find? k).isSome then (.ok (), w.updateRepository k f)
  else (.error (message ++ " (HTTP 404)"), w)

def Repository.putSecret (secret : String) (r : Repository) : Repository :=
  { r with secrets := secret :: r.secrets.filter (· ≠ secret) }

def Repository.deleteSecret (secret : String) (r : Repository) : Repository :=
  { r with secrets := r.secrets.filter (· ≠ secret) }

def Repository.removeCollaborator (username : String) (r : Repository) : Repository :=
  { r with collaborators := r.collaborators.filter fun c => c.1 ≠ username }

def Repository.setCollaborator (username permission : String) (r : Repository) : Repository :=
  { r with
    collaborators := (username, permission) :: r.collaborators.filter fun c => c.1 ≠ username }

/-- The transaction of `start`: a retry takes the place of the attempt that its process has claimed. -/
def World.createOperation (w : World) (instance_ : InstanceId) (data : NewOperation) :
    Except String Id × World :=
  let op := data.row instance_ w
  let created :=
    { w with operations := w.operations.insert op, nextOperation := w.nextOperation + 1 }
  match data.retryOfId with
  | none => (.ok op.id, created)
  | some previous =>
    let claimed : OperationFilter :=
      { id := previous, status := [.retrying], leaseOwner := some instance_ }
    if w.operations.count claimed.selects = 1 then
      (.ok op.id, created.updateOperations claimed.selects { status := some .retried, lease := .clear })
    else (.error "Retry ownership was lost", w)

/-- `@@unique([workspaceId, name])` and `@@unique([scmProvider, scmRepositoryId])` -/
def NewProject.clashes (data : NewProject) (project : Project) : Bool :=
  (project.workspaceId = data.workspaceId && project.name = data.name) ||
    (data.repository.repositoryId.isSome &&
      project.repository.key.provider = data.repository.key.provider &&
      project.repository.repositoryId = data.repository.repositoryId)

def Stmt.run {β : Type} (unreadable : Bool) (e : Stmt β) (w : World) : Except String β × World :=
  match e with
  | .aside _ => (.ok (), w)
  | .currentTime => (.ok w.now, w)
  | .createContext userId => (.ok (w.context userId), w)
  | .createOperation instance_ data => w.createOperation instance_ data
  | .updateOperation _ id patch =>
    if (w.operations.find? id).isSome then
      (.ok (), w.updateOperations (fun op => op.id = id) patch)
    else (.error "Record to update not found.", w)
  | .updateOperations filter patch =>
    (.ok (w.operations.count filter.selects), w.updateOperations filter.selects patch)
  | .findOperation id =>
    (.ok ((w.operations.find? id).map fun op =>
      (op, w.effects.findMany fun effect => effect.operationId = id)), w)
  | .staleOperations now =>
    (.ok ((w.operations.findMany fun op => leased.contains op.status && op.stale now).map (·.id)), w)
  | .createEffect effect =>
    if (w.effects.find? (key effect)).isSome then (.error "Unique constraint failed", w)
    else (.ok (), { w with effects := w.effects.insert effect })
  | .updateEffect operationId k from_ status metadata =>
    let selects : Effect → Bool := fun effect =>
      effect.operationId = operationId && effect.key = k && from_.contains effect.status
    (.ok (w.effects.count selects),
      { w with effects := w.effects.updateMany selects fun effect =>
          { effect with status, metadata := metadata.getD effect.metadata } })
  | .interruptEffects operationId =>
    let selects : Effect → Bool := fun effect =>
      effect.operationId = operationId && effect.status = .applying
    (.ok (w.effects.count selects),
      { w with effects := w.effects.updateMany selects fun effect =>
          { effect with status := .reconciliationRequired } })
  | .projectNamed workspaceId name =>
    (.ok (w.projects.rows.any fun p => p.workspaceId = workspaceId && p.name = name), w)
  | .projectOf provider repositoryId =>
    (.ok (w.projects.rows.any fun p => p.repository.key.provider = provider &&
      p.repository.repositoryId = repositoryId), w)
  | .findProject id => (.ok (w.projects.find? id), w)
  | .createProject data =>
    if w.projects.rows.any data.clashes then (.error "Unique constraint failed", w)
    else
      let project : Project := ⟨w.nextProject, data.workspaceId, data.name, data.repository⟩
      (.ok project.id,
        { w with projects := w.projects.insert project, nextProject := w.nextProject + 1 })
  | .deleteProject id =>
    if (w.projects.find? id).isSome then
      (.ok (), { w with projects := w.projects.deleteMany fun p => p.id = id })
    else (.error "Record to delete does not exist.", w)
  | .workspaceMembers workspaceId ownerId =>
    (.ok (w.members.filter fun m => m.workspaceId = workspaceId && m.userId ≠ ownerId), w)
  | .collaboratorUsername userId =>
    match w.username userId with
    | some username => (.ok username, w)
    | none =>
      (.error "Every workspace member must link GitHub before receiving repository access", w)
  | .findRepository id =>
    match w.repositories.findFirst? fun r => r.id = id with
    | some r => (.ok ⟨r.key, some r.id⟩, w)
    | none => (.error "Repository not found", w)
  | .createRepository k =>
    if (w.repositories.find? k).isSome then (.ok .exists, w)
    else
      let repository : Repository := ⟨k, w.nextRepository, [], []⟩
      (.ok (.created (if unreadable then none else some repository.id)),
        { w with
          repositories := w.repositories.insert repository
          nextRepository := w.nextRepository + 1 })
  | .readRepository k =>
    match w.repositories.find? k with
    | some r => (.ok r.id, w)
    | none => (.error "Repository identity lookup failed (HTTP 404)", w)
  -- a repository, secret or collaborator that does not exist counts as removed
  | .deleteRepository k =>
    (.ok (), { w with repositories := w.repositories.deleteMany fun r => r.key = k })
  | .push k => w.request k "git push failed" id
  | .putSecret k secret =>
    w.request k ("Could not configure Actions secret '" ++ secret ++ "'") (.putSecret secret)
  | .deleteSecret k secret => (.ok (), w.updateRepository k (.deleteSecret secret))
  | .collaboratorAccess k username =>
    match w.repositories.find? k with
    | some r => (.ok (r.collaborators.lookup username), w)
    | none => (.error "Could not inspect repository collaborators (HTTP 404)", w)
  | .setCollaborator k username permission =>
    w.request k ("Could not grant repository access to '" ++ username ++ "'")
      (.setCollaborator username permission)
  | .removeCollaborator k username => (.ok (), w.updateRepository k (.removeCollaborator username))

/-- Requests to the SCM. -/
def Stmt.external {β : Type} : Stmt β → Bool
  | .findRepository _ | .createRepository _ | .readRepository _ | .deleteRepository _ | .push _
  | .putSecret .. | .deleteSecret .. | .collaboratorAccess .. | .setCollaborator ..
  | .removeCollaborator .. => true
  | _ => false

/-- Reading the clock cannot fail. -/
def Stmt.inProcess {β : Type} : Stmt β → Bool
  | .currentTime => true
  | _ => false

def World.tick (w : World) (elapsed : Nat) : World := { w with now := w.now + elapsed }

instance : Semantics Stmt ProvisioningInput World String where
  exec e i w :=
    let w := w.tick i.elapsed
    match i.fault, e.inProcess with
    | some fault, false =>
      (.error fault.message, if fault.carriedOut && e.external then (e.run i.unreadable w).2 else w)
    | _, _ => e.run i.unreadable w

abbrev Provision (α : Type) : Type 1 := Prog Stmt String α

end InitPad.Provisioning
