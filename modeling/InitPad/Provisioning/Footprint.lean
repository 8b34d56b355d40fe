import InitPad.Interleave.Trace
import InitPad.Provisioning.OperationSteps

/-!
# InitPad.Provisioning.Footprint

Which statements the calls of one operation execute: `Footprint operationId key` allows writes to
the operation and its journal, project rows of the repository `key`, and requests about `key`. The
patches that a call may write to an operation are those of `ProvisioningService`.
-/

namespace InitPad.Provisioning

open Interleave
open Prog (await)

/-- The updates by id: `bindProject`, `unbindProject` and `step` keep the status; `succeed`, `fail`,
`cleanupFinished` and the audit failure of `start` end the operation. -/
inductive ById (patch : OperationPatch) : Prop where
  | keeps (hstatus : patch.status = none) (hlease : patch.lease = .keep ∨ patch.lease = .renew)
  | ends (hstatus : patch.status = some .succeeded ∨ patch.status = some .failed)
      (hlease : patch.lease = .clear)

/-- The updates that compare the status. -/
inductive Guarded (filter : OperationFilter) (patch : OperationPatch) : Prop where
  | renews (instance_ : InstanceId) (howner : filter.leaseOwner = some instance_)
      (hstatus : patch.status = none)
  | claims (instance_ : InstanceId) (hfrom : filter.status = [.failed, .interrupted])
      (hstatus : patch.status = some .retrying ∨ patch.status = some .cleaning)
      (hlease : patch.lease = .take instance_)
  | releases (instance_ : InstanceId) (howner : filter.leaseOwner = some instance_)
      (hstatus : patch.status = some .failed) (hlease : patch.lease = .clear)
      (hfrom : filter.status = [.retrying] ∨ filter.status = [.cleaning])
  | interrupts (now : Time) (hstale : filter.staleAt = some now) (hfrom : filter.status = leased)
      (hstatus : patch.status = some .interrupted) (hlease : patch.lease = .clear)

def EffectMetadata.names (key : RepositoryKey) (metadata : EffectMetadata) : Prop :=
  metadata.provider = some key.provider ∧ metadata.owner = some key.owner ∧
    metadata.name = some key.name

def Footprint (operationId : Id) (key : RepositoryKey) {β : Type} : Stmt β → Prop
  | .createOperation .. | .interruptEffects _ => False
  | .updateOperation _ id patch => id = operationId ∧ ById patch
  | .updateOperations filter patch => filter.id = operationId ∧ Guarded filter patch
  | .createEffect effect => effect.operationId = operationId ∧
      (effect.key.kind = .repository → effect.metadata.names key)
  | .updateEffect id effect _ _ metadata => id = operationId ∧
      (effect.kind = .repository → ∀ m ∈ metadata, m.names key)
  | .createProject data => data.repository.key = key
  | .createRepository k | .readRepository k | .deleteRepository k | .push k => k = key
  | .putSecret k _ | .deleteSecret k _ | .collaboratorAccess k _ | .setCollaborator k ..
  | .removeCollaborator k _ => k = key
  | _ => True

abbrev Stays (operationId : Id) (key : RepositoryKey) {α : Type} (p : Provision α) : Prop :=
  p.Only fun e => Footprint operationId key e

variable {operationId : Id} {key : RepositoryKey} {instance_ : InstanceId} {α β : Type}

theorem Stays.attempt {p : Provision α} (h : Stays operationId key p) :
    Stays operationId key (attempt p) :=
  .tryCatch (.bind h fun _ => .ret _) fun _ => .ret _

theorem Stays.succeeded {p : Provision α} (h : Stays operationId key p) :
    Stays operationId key (succeeded p) :=
  .tryCatch (.bind h fun _ => .ret _) fun _ => .ret _

theorem Stays.quietly {p : Provision Unit} (h : Stays operationId key p) :
    Stays operationId key (quietly p) := .ignoreError h

theorem only_refuseIf_bind {S : ∀ {γ : Type}, Stmt γ → Prop} {condition : Bool}
    {message : String} {f : Unit → Provision α} (h : condition = false → (f ()).Only S) :
    (refuseIf condition message >>= f).Only S := by
  cases condition with
  | false => exact h rfl
  | true => exact trivial

theorem stays_aside (what : String) : Stays operationId key (await (.aside what)) :=
  .await trivial

theorem stays_quietly_aside (what : String) :
    Stays operationId key (await (.aside what)).ignoreError := .ignoreError (stays_aside what)

/-! ## The service -/

theorem stays_updateOperation {patch : OperationPatch} (h : ById patch) :
    Stays operationId key (await (.updateOperation instance_ operationId patch)) := .await ⟨rfl, h⟩

theorem stays_bindProject (projectId : Id) :
    Stays operationId key (bindProject instance_ operationId projectId) :=
  stays_updateOperation (.keeps rfl (.inl rfl))

theorem stays_unbindProject : Stays operationId key (unbindProject instance_ operationId) :=
  stays_updateOperation (.keeps rfl (.inl rfl))

theorem stays_step : Stays operationId key (step instance_ operationId) :=
  .ignoreError (stays_updateOperation (.keeps rfl (.inr rfl)))

theorem stays_recordResultSafely : Stays operationId key recordResultSafely :=
  stays_quietly_aside _

theorem stays_succeed (projectId : Option Id) :
    Stays operationId key (succeed instance_ operationId projectId) := by
  refine .bind ((stays_updateOperation (.ends (.inl rfl) rfl)).succeeded) fun updated => ?_
  cases updated with
  | true => exact stays_recordResultSafely
  | false => exact .ret _

theorem stays_fail : Stays operationId key (fail instance_ operationId) := by
  refine .bind ((stays_updateOperation (.ends (.inr rfl) rfl)).succeeded) fun updated => ?_
  cases updated with
  | true => exact stays_recordResultSafely
  | false => exact .ret _

theorem only_requireOne {S : ∀ {γ : Type}, Stmt γ → Prop} (changed : Nat) (message : String) :
    (requireOne changed message).Only S := by
  unfold requireOne
  split
  · exact .ret _
  · exact .ret _

theorem stays_updateOperations {filter : OperationFilter} {patch : OperationPatch}
    (hid : filter.id = operationId) (h : Guarded filter patch) :
    Stays operationId key (await (.updateOperations filter patch)) := .await ⟨hid, h⟩

theorem stays_renewLease : Stays operationId key (renewLease instance_ operationId) :=
  .bind (stays_updateOperations rfl (.renews instance_ rfl rfl)) fun _ => only_requireOne ..

theorem stays_claimRetry : Stays operationId key (claimRetry instance_ operationId) :=
  .bind (stays_updateOperations rfl (.claims instance_ rfl (.inl rfl) rfl)) fun _ =>
    only_requireOne ..

theorem stays_claimCleanup : Stays operationId key (claimCleanup instance_ operationId) :=
  .bind (stays_updateOperations rfl (.claims instance_ rfl (.inr rfl) rfl)) fun _ =>
    only_requireOne ..

theorem stays_releaseRetry : Stays operationId key (releaseRetry instance_ operationId) :=
  .bind (stays_updateOperations rfl (.releases instance_ rfl rfl rfl (.inl rfl))) fun _ => .ret _

theorem stays_releaseCleanup : Stays operationId key (releaseCleanup instance_ operationId) :=
  .bind (stays_updateOperations rfl (.releases instance_ rfl rfl rfl (.inr rfl))) fun _ => .ret _

theorem stays_cleanupFinished : Stays operationId key (cleanupFinished instance_ operationId) :=
  stays_updateOperation (.ends (.inr rfl) rfl)

theorem stays_planEffect {effect : EffectKey} {metadata : EffectMetadata}
    (h : effect.kind = .repository → metadata.names key) :
    Stays operationId key (planEffect operationId effect metadata) := .await ⟨rfl, h⟩

theorem stays_transitionEffect {effect : EffectKey} {metadata : Option EffectMetadata}
    (h : effect.kind = .repository → ∀ m ∈ metadata, m.names key) (from_ : List EffectStatus)
    (status : EffectStatus) :
    Stays operationId key (transitionEffect operationId effect from_ status metadata) :=
  .bind (.await ⟨rfl, h⟩) fun _ => only_requireOne ..

theorem stays_transition (effect : EffectKey) (from_ : List EffectStatus) (status : EffectStatus) :
    Stays operationId key (transitionEffect operationId effect from_ status none) :=
  stays_transitionEffect (fun _ _ hm => by cases hm) from_ status

theorem stays_beginEffect (effect : EffectKey) :
    Stays operationId key (beginEffect instance_ operationId effect) :=
  .bind stays_renewLease fun _ => stays_transition ..

theorem stays_completeEffect {effect : EffectKey} {metadata : Option EffectMetadata}
    (h : effect.kind = .repository → ∀ m ∈ metadata, m.names key) :
    Stays operationId key (completeEffect instance_ operationId effect metadata) :=
  .bind (stays_transitionEffect h ..) fun _ => stays_renewLease

theorem stays_failEffect (effect : EffectKey) :
    Stays operationId key (failEffect operationId effect) := stays_transition ..

theorem stays_compensateEffect (effect : EffectKey) :
    Stays operationId key (compensateEffect operationId effect) := stays_transition ..

theorem stays_compensationFailed (effect : EffectKey) :
    Stays operationId key (compensationFailed operationId effect) := stays_transition ..

theorem stays_journaled {effect : EffectKey} {body : Provision Unit}
    (h : Stays operationId key body) :
    Stays operationId key (journaled instance_ operationId effect body) :=
  .tryCatch (.bind h fun _ => stays_completeEffect fun _ _ hm => by cases hm) fun _ =>
    .bind (stays_failEffect effect).quietly fun _ => .ret _

/-! ## The SCM -/

variable {repository : ScmRepositoryRef}

theorem stays_installationToken (kind : ScmKind) :
    Stays operationId key (installationToken kind) := by
  cases kind with
  | gitea => exact .ret _
  | github => exact stays_aside _

theorem stays_putSecrets (secrets : List String) : Stays operationId key (putSecrets key secrets) :=
  .forEach (fun _ => .await rfl) secrets

theorem stays_configureRepoSecrets (h : repository.key = key) :
    Stays operationId key (configureRepoSecrets repository) := by
  subst h
  unfold configureRepoSecrets
  split
  · exact .bind (stays_putSecrets _) fun _ => .bind (stays_aside _) fun _ => stays_putSecrets _
  · exact .bind (stays_aside _) fun _ => stays_putSecrets _

theorem stays_removeRepoSecrets (h : repository.key = key) :
    Stays operationId key (removeRepoSecrets repository) := by
  subst h
  refine .bind (stays_installationToken _) fun _ => .bind ?_ fun _ => ?_
  · exact .forEach (fun _ => .await rfl) _
  · split
    · exact stays_aside _
    · exact .ret _

theorem stays_deleteRepo (h : repository.key = key) :
    Stays operationId key (deleteRepo repository) := by
  subst h
  refine .bind (stays_installationToken _) fun _ => .bind (.await rfl) fun _ => ?_
  split
  · exact stays_quietly_aside _
  · exact .ret _

theorem stays_provisionGitea : Stays operationId key (provisionGitea key) := by
  refine .bind (.await rfl) fun response => .bind ?_ fun repositoryId => ?_
  · unfold repositoryIdentity
    split
    · exact .ret _
    · exact .await rfl
  · exact .bind (stays_quietly_aside _) fun _ => .bind (stays_configureRepoSecrets rfl) fun _ =>
      .bind (.await rfl) fun _ => .ret _

theorem stays_finishGithub (h : repository.key = key) :
    Stays operationId key (finishGithub repository) := by
  refine .tryCatch ?_ fun _ => .bind (.ignoreError (stays_deleteRepo h)) fun _ => .ret _
  exact .bind (stays_configureRepoSecrets h) fun _ => .bind (stays_aside _) fun _ =>
    .bind (.await h) fun _ => .ret _

theorem stays_provisionGithub : Stays operationId key (provisionGithub key) := by
  refine .bind (stays_aside _) fun _ => .bind (.await rfl) fun response => ?_
  cases response with
  | «exists» => exact .ret _
  | created id =>
    cases id with
    | none => exact .bind (.ignoreError (.await rfl)) fun _ => .ret _
    | some id => exact stays_finishGithub rfl

theorem stays_provision : Stays operationId key (provision key) := by
  unfold provision
  split
  · exact stays_provisionGitea
  · exact stays_provisionGithub

theorem stays_setCollaborator (h : repository.key = key) (username role : String) :
    Stays operationId key (setCollaborator repository username role) := by
  unfold setCollaborator
  split
  · exact .ret _
  · exact .bind (stays_installationToken _) fun _ => .await h

theorem stays_getCollaboratorAccess (h : repository.key = key) (username : String) :
    Stays operationId key (getCollaboratorAccess repository username) := by
  unfold getCollaboratorAccess
  split
  · split
    · exact .ret _
    · exact .ret _
  · exact .bind (stays_installationToken _) fun _ => .await h

theorem stays_restoreCollaboratorAccess (h : repository.key = key) (username : String)
    (access : Option String) :
    Stays operationId key (restoreCollaboratorAccess repository username access) := by
  unfold restoreCollaboratorAccess
  split
  · exact .ret _
  · refine .bind (stays_installationToken _) fun _ => ?_
    split
    · exact .await h
    · exact .await h

/-! ## Create -/

theorem stays_compensateAll (keys : List EffectKey) :
    Stays operationId key (compensateAll operationId keys) :=
  .forEach (fun _ => (stays_compensateEffect _).quietly) keys

theorem stays_compensationFailedAll (keys : List EffectKey) :
    Stays operationId key (compensationFailedAll operationId keys) :=
  .forEach (fun _ => (stays_compensationFailed _).quietly) keys

theorem stays_rollbackRepository (h : repository.key = key) (keys : List EffectKey) :
    Stays operationId key (rollbackRepository operationId repository keys) :=
  .tryCatch (.bind (stays_deleteRepo h) fun _ => stays_compensateAll _) fun _ =>
    stays_compensationFailedAll _

theorem stays_failRepository {repo : Option ScmRepositoryRef}
    (h : ∀ repository, repo = some repository → repository.key = key) (error : String) :
    Stays operationId key (failRepository operationId repo error : Provision α) := by
  refine .bind (stays_failEffect _).quietly fun _ => .bind ?_ fun _ => .ret _
  cases repo with
  | none => exact .ret _
  | some repository =>
    exact .tryCatch (.bind (stays_deleteRepo (h repository rfl)) fun _ =>
      (stays_compensateEffect _).quietly) fun _ => (stays_compensationFailed _).quietly

theorem names_repositoryMetadata (h : repository.key = key) :
    (repositoryMetadata repository).names key := by
  subst h
  exact ⟨rfl, rfl, rfl⟩

/-- A repository with these coordinates is returned. -/
abbrev YieldsAt (key : RepositoryKey) (p : Provision ScmRepositoryRef) : Prop :=
  p.Yields fun repository => repository.key = key

theorem yields_finishGithub (h : repository.key = key) :
    YieldsAt key (finishGithub repository) := by
  refine .tryCatch (.after fun _ => .after fun _ => .after fun _ => .pure h) fun _ =>
    .after fun _ => .throw _

theorem yields_provision : YieldsAt key (provision key) := by
  unfold provision
  split
  · exact .after fun response => .after fun repositoryId => .after fun _ => .after fun _ =>
      .after fun _ => .pure rfl
  · refine .after fun _ => .after fun response => ?_
    cases response with
    | «exists» => exact .throw _
    | created id =>
      cases id with
      | none => exact .after fun _ => .throw _
      | some id => exact yields_finishGithub rfl

theorem yields_attempt {V : α → Prop} {p : Provision α} (h : p.Yields V) :
    (attempt p).Yields fun r => ∀ a, r = .ok a → V a := by
  refine .tryCatch (.bind h fun a ha => .pure ?_) fun _ => .pure fun _ hr => by cases hr
  intro a' heq
  cases heq
  exact ha

theorem yields_failRepository (repo : Option ScmRepositoryRef) (error : String) :
    YieldsAt key (failRepository operationId repo error) :=
  .after fun _ => .after fun _ => .throw _

theorem stays_createRepository :
    Stays operationId key (createRepository instance_ operationId key) := by
  refine .bind (stays_planEffect fun _ => names_repositoryMetadata rfl) fun _ =>
    .bind (stays_beginEffect _) fun _ => ?_
  refine (yields_attempt yields_provision).only_bind stays_provision.attempt fun provisioned hr => ?_
  cases provisioned with
  | error error => exact stays_failRepository (fun _ h => by cases h) error
  | ok repository =>
    have hkey := hr repository rfl
    refine .bind (stays_completeEffect fun _ m hm => ?_).attempt fun completed => ?_
    · cases hm
      exact names_repositoryMetadata hkey
    cases completed with
    | error error =>
      refine stays_failRepository (fun _ h => ?_) error
      cases h
      exact hkey
    | ok => exact .ret _

theorem yields_createRepository :
    YieldsAt key (createRepository instance_ operationId key) := by
  refine .after fun _ => .after fun _ => (yields_attempt yields_provision).bind fun r hr => ?_
  cases r with
  | error error => exact yields_failRepository none error
  | ok repository =>
    refine .after fun completed => ?_
    cases completed with
    | error error => exact yields_failRepository _ error
    | ok => exact .pure (hr repository rfl)

theorem stays_addCollaborators (h : repository.key = key) (collaborators : List Member)
    (keys : List EffectKey) : Stays operationId key
      (addCollaborators instance_ operationId repository collaborators keys) := by
  induction collaborators generalizing keys with
  | nil => exact .ret _
  | cons collaborator rest ih =>
    refine .bind (Stays.attempt (.bind (.await trivial) fun _ =>
      .bind (stays_planEffect fun hkind => by cases hkind) fun _ =>
        .bind (stays_beginEffect _) fun _ => .ret _)) fun begun => ?_
    cases begun with
    | error => exact .ret _
    | ok username =>
      refine .bind (stays_journaled (stays_setCollaborator h ..)).attempt fun granted => ?_
      cases granted with
      | error => exact .ret _
      | ok => exact ih _

theorem stays_mirrorCollaborators (h : repository.key = key) (workspaceId ownerId : Id) :
    Stays operationId key
      (mirrorCollaborators instance_ operationId workspaceId ownerId repository) := by
  refine .bind (.bind (Stays.attempt (.await trivial)) fun collaborators => ?_) fun mirrored => ?_
  · cases collaborators with
    | error => exact .ret _
    | ok collaborators => exact stays_addCollaborators h ..
  · obtain ⟨keys, error⟩ := mirrored
    cases error with
    | none => exact .ret _
    | some => exact .bind (stays_rollbackRepository h _) fun _ => .ret _

theorem stays_removeProject (projectId : Id) :
    Stays operationId key (removeProject instance_ operationId projectId) :=
  .bind (.await trivial) fun _ => stays_unbindProject

theorem stays_failProject (h : repository.key = key) (keys : List EffectKey)
    (created : Option Id) (error : String) : Stays operationId key
      (failProject instance_ operationId repository keys created error : Provision α) := by
  refine .bind (stays_failEffect _).quietly fun _ => .bind ?_ fun removed =>
    .bind (stays_rollbackRepository h _) fun _ => .bind ?_ fun _ => .ret _
  · cases created with
    | none => exact .ret _
    | some projectId => exact (stays_removeProject projectId).attempt
  · cases removed with
    | error => exact (stays_compensationFailed _).quietly
    | ok => exact (stays_compensateEffect _).quietly

theorem stays_recordProject {data : NewProject} (h : data.repository.key = key)
    (keys : List EffectKey) :
    Stays operationId key (recordProject instance_ operationId data keys) := by
  refine .bind (Stays.attempt (.bind (stays_planEffect fun hkind => by cases hkind) fun _ =>
    .bind (stays_beginEffect _) fun _ => .await h)) fun inserted => ?_
  cases inserted with
  | error error => exact stays_failProject h ..
  | ok projectId =>
    refine .bind (Stays.attempt (.bind (stays_bindProject projectId) fun _ =>
      stays_completeEffect fun hkind => by cases hkind)) fun recorded => ?_
    cases recorded with
    | error error => exact stays_failProject h ..
    | ok => exact .ret _

theorem stays_createProject (request : ProvisioningRequest) (ownerId workspaceId : Id)
    (context : ScmKind × String) (h : ⟨context.1, context.2, request.name⟩ = key) :
    Stays operationId key
      (createProject instance_ request ownerId workspaceId operationId context) := by
  subst h
  refine .bind (stays_aside _) fun _ => ?_
  refine yields_createRepository.only_bind stays_createRepository fun repository hkey => ?_
  exact .bind (stays_mirrorCollaborators hkey ..) fun _ =>
    .bind (stays_recordProject hkey _) fun _ => .bind (stays_aside _) fun _ => .ret _

/-! ## Import -/

theorem stays_failImportedProject (created : Option Id) (error : String) :
    Stays operationId key
      (failImportedProject instance_ operationId created error : Provision α) := by
  refine .bind (stays_failEffect _).quietly fun _ => .bind ?_ fun _ => .ret _
  cases created with
  | none => exact .ret _
  | some projectId =>
    exact .tryCatch (.bind (.await trivial) fun _ => .bind stays_unbindProject fun _ =>
      (stays_compensateEffect _).quietly) fun _ => (stays_compensationFailed _).quietly

theorem stays_importProject {data : NewProject} (h : data.repository.key = key) :
    Stays operationId key (importProject instance_ operationId data) := by
  refine .bind (stays_planEffect fun hkind => by cases hkind) fun _ =>
    .bind (stays_beginEffect _) fun _ => .bind (Stays.attempt (.await h)) fun inserted => ?_
  cases inserted with
  | error error => exact stays_failImportedProject ..
  | ok projectId =>
    refine .bind (Stays.attempt (.bind (stays_bindProject projectId) fun _ =>
      stays_completeEffect fun hkind => by cases hkind)) fun recorded => ?_
    cases recorded with
    | error error => exact stays_failImportedProject ..
    | ok => exact .ret _

theorem stays_compensation (h : repository.key = key) (compensation : Compensation) :
    Stays operationId key (compensation.run repository) := by
  cases compensation with
  | secrets => exact stays_removeRepoSecrets h
  | collaborator => exact stays_restoreCollaboratorAccess h ..

theorem stays_grantCollaborators (h : repository.key = key) (collaborators : List Member)
    (compensations : List Compensation) : Stays operationId key
      (grantCollaborators instance_ operationId repository collaborators compensations) := by
  induction collaborators generalizing compensations with
  | nil => exact .ret _
  | cons collaborator rest ih =>
    refine .bind (Stays.attempt (.bind (.await trivial) fun _ =>
      .bind (stays_getCollaboratorAccess h _) fun _ =>
        .bind (stays_planEffect fun hkind => by cases hkind) fun _ =>
          .bind (stays_beginEffect _) fun _ => .ret _)) fun begun => ?_
    cases begun with
    | error => exact .ret _
    | ok granted =>
      obtain ⟨username, previousAccess⟩ := granted
      refine .bind (stays_journaled (stays_setCollaborator h ..)).attempt fun granted => ?_
      cases granted with
      | error => exact .ret _
      | ok => exact ih _

theorem stays_configureImport (h : repository.key = key) (workspaceId ownerId : Id) :
    Stays operationId key
      (configureImport instance_ operationId workspaceId ownerId repository) := by
  refine .bind (Stays.attempt (.bind (stays_planEffect fun hkind => by cases hkind) fun _ =>
    stays_beginEffect _)) fun begun => ?_
  cases begun with
  | error => exact .ret _
  | ok =>
    refine .bind (Stays.attempt (.bind (stays_journaled (stays_configureRepoSecrets h)) fun _ =>
      .await trivial)) fun configured => ?_
    cases configured with
    | error => exact .ret _
    | ok collaborators => exact stays_grantCollaborators h ..

theorem stays_compensateImport (h : repository.key = key) (compensations : List Compensation) :
    Stays operationId key (compensateImport operationId repository compensations) := by
  induction compensations with
  | nil => exact .ret _
  | cons compensation rest ih =>
    refine .bind (Stays.attempt (.bind (stays_compensation h compensation) fun _ =>
      stays_compensateEffect _)) fun compensated => ?_
    cases compensated with
    | error => exact .bind (stays_compensationFailed _).quietly fun _ => .bind ih fun _ => .ret _
    | ok => exact ih

theorem stays_rollbackImport (h : repository.key = key) (projectId : Id)
    (compensations : List Compensation) : Stays operationId key
      (rollbackImport instance_ operationId projectId repository compensations) := by
  refine .bind (stays_compensateImport h _) fun clean => ?_
  cases clean with
  | true =>
    exact .tryCatch (.bind (.await trivial) fun _ => .bind stays_unbindProject fun _ =>
      stays_compensateEffect _) fun _ => (stays_compensationFailed _).quietly
  | false => exact .ret _

/-! ## Cleanup -/

theorem stays_compensate {action : Provision Unit} (effect : EffectKey)
    (h : Stays operationId key action) :
    Stays operationId key (compensate operationId effect action) :=
  .tryCatch (.bind h fun _ => .bind (stays_compensateEffect _) fun _ => .ret _) fun _ =>
    .bind (stays_compensationFailed _).quietly fun _ => .ret _

theorem stays_cleanupExternal (h : repository.key = key) (effects : List Effect) :
    Stays operationId key (cleanupExternal operationId repository effects) := by
  induction effects with
  | nil => exact .ret _
  | cons effect rest ih =>
    refine .bind ?_ fun _ => .bind ih fun _ => .ret _
    unfold cleanupEffect
    split
    · exact .ret _
    · split
      · exact .ret _
      · exact stays_compensate _ (stays_restoreCollaboratorAccess h ..)
    · exact stays_compensate _ (stays_removeRepoSecrets h)
    · exact .ret _

theorem stays_cleanupImport (effects : List Effect) {project : Option Project}
    (h : ∀ p, project = some p → p.repository.key = key) :
    Stays operationId key (cleanupImport operationId effects project) := by
  cases project with
  | none =>
    unfold cleanupImport
    dsimp only
    split
    · exact .ret _
    · exact .ret _
  | some project => exact stays_cleanupExternal (h project rfl) _

theorem stays_compensateEach (effects : List Effect) :
    Stays operationId key (compensateEach operationId effects) := by
  induction effects with
  | nil => exact .ret _
  | cons effect rest ih =>
    exact .bind (stays_compensate _ (.ret _)) fun _ => .bind ih fun _ => .ret _

theorem stays_cleanupCreate {effects : List Effect} {project : Option Project}
    (h : ∀ repository, createdRepository effects project = some repository →
      repository.key = key) : Stays operationId key (cleanupCreate operationId effects project) := by
  unfold cleanupCreate
  split
  · exact .ret _
  split
  · exact .ret _
  · rename_i repository hrepository
    refine .bind (stays_aside _) fun _ =>
      .bind (stays_deleteRepo (h repository hrepository)).attempt fun deleted => ?_
    cases deleted with
    | ok => exact stays_compensateEach _
    | error => exact .bind (stays_compensationFailedAll _) fun _ => .ret _

theorem stays_cleanupProject (effects : List Effect) (project : Option Project) :
    Stays operationId key (cleanupProject instance_ operationId effects project) := by
  unfold cleanupProject
  split
  · exact stays_compensate _ (stays_removeProject _)
  · exact (stays_removeProject _).succeeded
  · split
    · refine .bind (stays_compensateEffect _).succeeded fun compensated => ?_
      cases compensated with
      | true => exact stays_unbindProject.succeeded
      | false => exact .ret _
    · exact .ret _
  · exact .ret _

end InitPad.Provisioning
