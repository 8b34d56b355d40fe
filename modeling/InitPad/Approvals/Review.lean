import InitPad.Approvals.Statement
import InitPad.Deployment.AgentDelivery
import Mathlib.Data.List.Sort

/-!
# InitPad.Approvals.Review

`ProjectProductionApprovals`: an immutable production intent, its review, and the detection of stale
state. The class gets `schedule` and `resolveRollback` from `ProjectsService`; they are
`scheduleDeployment` and `ProjectRollback.preview`.
-/

namespace InitPad

open Store Interleave Prog

/-- A deployment statement on the control plane's own state. -/
def onBase {α : Type} (p : Async α) : Approving α := p.translate ApprovalStmt.base

def read {β : Type} (f : ApprovalWorld → Except Err β) : Approving β := await (.query f)

/-- The values that `stateToken` serializes for a production request. -/
structure TokenState where
  projectId : Id
  environmentId : Id
  candidate : Candidate
  targetId : Option Id
  allocationId : Option Id
  provider : ProviderKind
  configRevision : Nat
  targetRevision : Option Time
  allocationRevision : Option Time

/-- SHA-256 over the serialized state of a production request and of a rollback. -/
structure StateTokens where
  production : TokenState → String
  rollback : Environment → String

/-! ## Rollback candidates -/

/-- `DEPLOYMENT_PUBLICATION_KINDS`. -/
def OperationKind.publication : OperationKind → Bool
  | .ciDeploy | .promote | .redeploy | .retry | .artifactRecovery | .rollback => true
  | _ => false

structure RollbackPreview where
  candidateOperationId : Id
  environment : EnvName
  target : String
  currentVersion : Option String
  rollbackVersion : String
  currentArtifact : Option BuildArtifact
  rollbackArtifact : Option BuildArtifact
  sourceDeployedAt : Time
  stateToken : String

/-- `excludeCurrentPublication`. On a nullable column `<>` is not true of `NULL`. -/
def Environment.excludesCurrent (e : Environment) (o : DeploymentOperation) : Bool :=
  match e.buildArtifactId with
  | some artifact => o.buildArtifactId.any (· != artifact)
  | none =>
    match e.version with
    | some version => version.isEmpty || o.version.any (· != version)
    | none => true

/-- The publications of an environment other than the current one, the latest first. The database
leaves the order of equal times open; here the later row comes first. -/
def Db.otherPublications (db : Db) (e : Environment) : List DeploymentOperation :=
  (db.operations.findMany fun o =>
    o.environmentId == e.id && o.status == .succeeded && o.kind.publication && o.version.isSome &&
      e.excludesCurrent o).reverse.insertionSort fun o o' => o'.createdAt ≤ o.createdAt

def Db.earlierPublications (db : Db) (e : Environment) : List DeploymentOperation :=
  (db.otherPublications e).take 20

/-- `sameAsCurrent`. -/
def Environment.sameAsCurrent (e : Environment) (o : DeploymentOperation) : Bool :=
  match e.buildArtifactId with
  | some artifact => o.buildArtifactId == some artifact
  | none => o.version == e.version

/-- Whether an earlier publication can be published again. -/
def Db.rollbackCandidate (db : Db) (e : Environment) (durable : Bool) (o : DeploymentOperation) :
    Bool :=
  o.version.any isCommitSha && !e.sameAsCurrent o &&
    (!durable || (o.buildArtifactId.bind db.artifacts.find?).any fun a =>
      a.available && a.objectStore && a.storageRef.any fun ref => !ref.isEmpty)

/-- `durableArtifactRequired`. -/
def EnvironmentView.durableArtifactRequired (view : EnvironmentView) : Bool :=
  view.project.scmProvider == .github ||
    (view.environment.provider == .docker && view.target.any fun t => t.scope == .user)

/-- `ProjectRollback.preview`. -/
def rollbackPreview (tokens : StateTokens) (projectId : Id) (name : EnvName) :
    Approving (Option RollbackPreview) := do
  let found ← read fun w => .ok (w.base.db.findEnvironmentView projectId name)
  match found with
  | none => throw (.notFound s!"Environment '{name.text}' not found")
  | some view =>
    let e := view.environment
    if e.activeOperationId.isSome then pure none
    else
      let candidate ← read fun w => .ok <|
        ((w.base.db.earlierPublications e).find?
          (w.base.db.rollbackCandidate e view.durableArtifactRequired)).map
            fun o => (o, o.buildArtifactId.bind w.base.db.artifacts.find?)
      match candidate with
      | none => pure none
      | some (o, artifact) =>
        pure (o.version.map fun version =>
          { candidateOperationId := o.id
            environment := name
            target := (view.target.map (·.name)).getD e.provider.text
            currentVersion := e.version
            rollbackVersion := version
            currentArtifact := view.artifact
            rollbackArtifact := artifact
            sourceDeployedAt := o.finishedAt.getD o.createdAt
            stateToken := tokens.rollback e })

/-! ## Snapshots -/

structure CreateInput where
  kind : ProductionRequestKind
  candidateOperationId : Option Id
  stateToken : Option String

/-- `productionSourceStage`: the stage before `prod`. -/
def productionSourceStage : PipelinePreset → Option EnvName
  | .devTestProd => some .test
  | .devProd => some .dev
  | .prodOnly => none

structure ProjectView where
  project : Project
  policy : ProductionApprovalPolicy
  environments : List EnvironmentView
  latestArtifact : Option BuildArtifact

def Db.projectView (db : Db) (projectId : Id) : Option ProjectView :=
  (db.projects.find? projectId).bind fun project =>
    (db.workspaces.find? project.workspaceId).map fun workspace =>
      { project := project
        policy := workspace.productionApprovalPolicy
        environments := (db.environments.findMany fun e => e.projectId == projectId).filterMap
          db.environmentView
        latestArtifact := (db.artifacts.findMany fun a =>
          a.projectId == projectId && a.available).getLast? }

def ProjectView.stage (view : ProjectView) (name : EnvName) : Option EnvironmentView :=
  view.environments.find? fun e => e.environment.name == name

def rollbackSource (tokens : StateTokens) (projectId : Id) (input : CreateInput) :
    Approving Candidate :=
  match input.candidateOperationId, input.stateToken with
  | some candidateOperationId, some stateToken => do
    let preview ← rollbackPreview tokens projectId .prod
    match preview with
    | none => throw (.conflict
        "The previous verified production deployment changed. Review rollback again.")
    | some preview =>
      if preview.candidateOperationId ≠ candidateOperationId then
        throw (.conflict
          "The previous verified production deployment changed. Review rollback again.")
      else if preview.stateToken ≠ stateToken then
        throw (.conflict
          "Production changed after rollback confirmation was opened. Review it again.")
      else
        pure
          { kind := .rollback
            sourceEnvironment := .history
            candidateOperationId := some preview.candidateOperationId
            candidateStateToken := some preview.stateToken
            version := preview.rollbackVersion
            buildArtifactId := preview.rollbackArtifact.map (·.id)
            artifactDigest := preview.rollbackArtifact.map (·.digest) }
  | _, _ => throw (.badRequest "Rollback candidate and state token are required")

/-- The candidate of a promotion or redeployment, from what `snapshot` has read. -/
def stageSource (view : ProjectView) (kind : ProductionRequestKind) : Except Err Candidate :=
  let source := if kind = .promote then productionSourceStage view.project.pipelinePreset
    else some .prod
  match source with
  | none =>
    match view.latestArtifact with
    | none => .error (.badRequest "No verified default-branch CI build is available")
    | some artifact => .ok ⟨kind, .ci, none, none, artifact.commitSha, some artifact.id,
        some artifact.digest⟩
  | some name =>
    match (view.stage name).map fun e => (e, e.environment.version) with
    | some (e, some version) =>
      if version.isEmpty then
        .error (.badRequest s!"{name.text} has no verified build to publish")
      else if kind = .promote ∧ e.environment.status ≠ .running then
        .error (.badRequest
          s!"{name.text} must be running before its build can be requested for production")
      else .ok ⟨kind, .stage name, none, none, version, e.environment.buildArtifactId,
        e.artifact.map (·.digest)⟩
    | _ => .error (.badRequest s!"{name.text} has no verified build to publish")

def candidate (tokens : StateTokens) (projectId : Id) (input : CreateInput) (view : ProjectView) :
    Approving Candidate :=
  if input.kind = .rollback then rollbackSource tokens projectId input
  else .ret (stageSource view input.kind)

/-- The checks of `snapshot` on the production environment. -/
def productionStage (view : ProjectView) : Except Err EnvironmentView :=
  match view.stage .prod with
  | none => .error (.notFound "Environment 'prod' not found")
  | some production =>
    if production.environment.activeOperationId.isSome then
      .error (.badRequest "Production has an operation in progress")
    else if production.target.any fun t => t.managementState != .active then
      let state := (production.target.map (·.managementState.text)).getD ""
      .error (.badRequest s!"Production target is {state}")
    else if production.allocation.any fun a => !a.active then
      .error (.badRequest "Production workspace access is paused")
    else .ok production

def snapshot (tokens : StateTokens) (projectId : Id) (input : CreateInput) :
    Approving ProductionSnapshot := do
  let found ← read fun w => .ok (w.base.db.projectView projectId)
  match found with
  | none => throw (.notFound s!"Project '{projectId}' not found")
  | some view =>
    let production ← .ret (productionStage view)
    let candidate ← candidate tokens projectId input view
    let e := production.environment
    let targetRevision := production.target.map (·.updatedAt)
    let allocationRevision := production.allocation.map (·.updatedAt)
    pure
      { candidate := candidate
        workspaceId := view.project.workspaceId
        environmentId := e.id
        targetId := e.targetId
        allocationId := e.allocationId
        provider := e.provider
        configRevision := e.configRevision
        targetRevision := targetRevision
        allocationRevision := allocationRevision
        policy := view.policy
        stateToken := tokens.production
          ⟨projectId, e.id, candidate, e.targetId, e.allocationId, e.provider, e.configRevision,
            targetRevision, allocationRevision⟩ }

/-- `matchesCurrentState`: an error counts as a change. -/
def matchesCurrentState (tokens : StateTokens) (request : ProductionDeploymentRequest) :
    Approving Bool :=
  tryCatch
    (do
      let current ← snapshot tokens request.projectId
        ⟨request.snapshot.candidate.kind, request.snapshot.candidate.candidateOperationId,
          request.snapshot.candidate.candidateStateToken⟩
      pure (current.stateToken == request.snapshot.stateToken))
    fun _ => pure false

def roleFor (userId workspaceId : Id) : Approving (Option WorkspaceRole) :=
  read fun w => .ok ((w.members.find? fun m =>
    m.workspaceId == workspaceId && m.userId == userId).map (·.role))

def requireProject (userId projectId : Id) (permission : WorkspacePermission) :
    Approving (Id × WorkspaceRole) := do
  let project ← read fun w => .ok (w.base.db.projects.find? projectId)
  match project with
  | none => throw (.notFound s!"Project '{projectId}' not found")
  | some project =>
    let role ← roleFor userId project.workspaceId
    match role with
    | none => throw (.notFound s!"Project '{projectId}' not found")
    | some role =>
      if role.can permission then pure (project.workspaceId, role)
      else throw (.forbidden s!"Workspace {permission.text} access required")

def currentPolicy (workspaceId : Id) : Approving ProductionApprovalPolicy :=
  read fun w =>
    match w.base.db.workspaces.find? workspaceId with
    | none => .error (.notFound "Workspace not found")
    | some workspace => .ok workspace.productionApprovalPolicy

def requestOf (projectId requestId : Id) : Approving ProductionDeploymentRequest :=
  read fun w =>
    match w.requests.findFirst? fun r => r.id == requestId && r.projectId == projectId with
    | none => .error (.notFound "Production request not found")
    | some request => .ok request

def requireUser (userId : Id) (message : String) : Approving User := do
  let user ← read fun w => .ok (w.users.find? userId)
  match user with
  | none => throw (.notFound message)
  | some user => pure user

structure RequestView where
  request : ProductionDeploymentRequest
  policy : ProductionApprovalPolicy
  canApprove : Bool
  canReject : Bool
  canCancel : Bool

def toView (request : ProductionDeploymentRequest) (userId : Id) : Approving RequestView := do
  let role ← roleFor userId request.snapshot.workspaceId
  let policy ← currentPolicy request.snapshot.workspaceId
  let canReview := role.any fun r => r.can .maintain
  let selfBlocked := policy == .separateReviewer && request.requestedById == userId
  pure
    { request := request
      policy := policy
      canApprove := request.status == .pending && canReview && !selfBlocked
      canReject := request.status == .pending && canReview
      canCancel := request.status == .pending && request.requestedById == userId }

def changedNote : ReviewData where
  reviewNote := some (some "Production inputs changed after this request was created")

/-- The update of `latest`. -/
def markPendingStale (requestId : Id) : Approving Nat :=
  await (.moveRequest requestId [.pending] .stale changedNote)

def markStale (requestId : Id) : Approving Nat :=
  await (.moveRequest requestId [.pending, .approving] .stale changedNote)

def cancelPending (requestId : Id) (now : Time) : Approving Nat :=
  await (.moveRequest requestId [.pending] .cancelled
    { reviewNote := some (some "Cancelled by requester"), reviewedAt := some (some now) })

def reviewData (userId : Id) (note : Option String) (now : Time) : ReviewData where
  reviewedById := some (some userId)
  reviewedAt := some (some now)
  reviewNote := some ((note.map fun n => n.trimAscii.toString).filter fun n => !n.isEmpty)

def rejectPending (requestId userId : Id) (note : Option String) (now : Time) : Approving Nat :=
  await (.moveRequest requestId [.pending] .rejected (reviewData userId note now))

def claimRequest (requestId userId : Id) (note : Option String) (now : Time) : Approving Nat :=
  await (.moveRequest requestId [.pending] .approving (reviewData userId note now))

/-- The update of the `catch` branch of `review`. -/
def abandonClaim (requestId : Id) (stale : Bool) : Approving Nat :=
  await (if stale then
      .moveRequest requestId [.approving] .stale
        { reviewNote := some (some "Production inputs changed during approval") }
    else
      .moveRequest requestId [.approving] .pending
        { reviewedById := some none, reviewedAt := some none })

/-! ## The entry points -/

def latest (tokens : StateTokens) (projectId userId : Id) : Approving (Option RequestView) := do
  let (workspaceId, _) ← requireProject userId projectId .read
  let request ← read fun w => .ok (w.requests.findMany fun r =>
    r.projectId == projectId && r.snapshot.workspaceId == workspaceId).getLast?
  match request with
  | none => pure none
  | some request =>
    let same ← (if request.status = .pending then matchesCurrentState tokens request
      else pure true)
    if same then some <$> toView request userId
    else
      let changed ← markPendingStale request.id
      if changed = 0 then some <$> toView request userId
      else
        await (.recordAudit request.id .requestStale)
        let request ← read fun w => .ok (w.request? request.id)
        match request with
        | none => pure none
        | some request => some <$> toView request userId

def createRequest (tokens : StateTokens) (projectId userId : Id) (input : CreateInput) :
    Approving RequestView := do
  let _ ← requireProject userId projectId (if input.kind = .rollback then .maintain else .write)
  let snapshot ← snapshot tokens projectId input
  let _ ← requireUser userId "User not found"
  let request ← tryCatch (await (.createRequest projectId userId snapshot)) fun error =>
    if error = .uniqueViolation then throw (.conflict
      "Another production request was created at the same time. Reload and review it.")
    else throw error
  tryCatch (await (.recordAudit request.id .requested)) fun error => do
    await (.deletePending request.id)
    throw error
  toView request userId

def cancelRequest (tokens : StateTokens) (projectId requestId userId : Id) :
    Approving (Option RequestView) := do
  let _ ← requireProject userId projectId .read
  let request ← requestOf projectId requestId
  if request.requestedById ≠ userId then
    throw (.forbidden "Only the requester can cancel this production request")
  else
    let now ← onBase (await .readClock)
    let updated ← cancelPending request.id now
    if updated ≠ 1 then throw (.conflict "This production request is no longer pending")
    else
      await (.recordAudit request.id .requestCancelled)
      latest tokens projectId userId

/-- `scheduleDeployment` for an approved request: it returns when the deployment has started in the
background. -/
def schedule (projectId : Id) (request : ProductionDeploymentRequest) : Approving Id := do
  let s := request.snapshot
  let operationId ← onBase (begin projectId .prod s.candidate.kind.operation
    (some s.candidate.version) s.candidate.buildArtifactId
    (some ⟨s.targetId, s.allocationId, s.configRevision, s.targetRevision, s.allocationRevision⟩))
  await (.startDeployment request.id operationId)
  pure operationId

def Err.isConflict : Err → Bool
  | .conflict _ => true
  | _ => false

/-- `review` after the claim. -/
def applyApproval (projectId : Id) (request : ProductionDeploymentRequest) : Approving Unit :=
  tryCatch
    (do
      await (.recordAudit request.id .approvalAccepted)
      let operationId ← schedule projectId request
      await (.approveRequest request.id operationId)
      ignoreError (await (.recordAudit request.id .requestApproved)))
    fun error => do
      let _ ← abandonClaim request.id error.isConflict
      ignoreError (await (.recordAudit request.id .approvalFailed))
      throw error

/-- The common first part of `approve` and `reject`: the pending request, and the reviewer. -/
def reviewable (projectId requestId userId : Id) (approve : Bool) :
    Approving ProductionDeploymentRequest := do
  let (workspaceId, _) ← requireProject userId projectId .maintain
  let request ← requestOf projectId requestId
  if request.snapshot.workspaceId ≠ workspaceId then
    throw (.notFound "Production request not found")
  else if request.status ≠ .pending then
    throw (.conflict s!"This production request is already {request.status.text}")
  else
    let policy ← currentPolicy workspaceId
    if approve ∧ policy = .separateReviewer ∧ request.requestedById = userId then
      throw (.forbidden "This workspace requires a different person to approve production")
    else
      let _ ← requireUser userId "Reviewer not found"
      pure request

def reject (tokens : StateTokens) (projectId requestId userId : Id) (note : Option String) :
    Approving (Option RequestView) := do
  let request ← reviewable projectId requestId userId false
  let now ← onBase (await .readClock)
  let updated ← rejectPending request.id userId note now
  if updated ≠ 1 then throw (.conflict "This production request was reviewed concurrently")
  else
    await (.recordAudit request.id .requestRejected)
    latest tokens projectId userId

def approve (tokens : StateTokens) (projectId requestId userId : Id) (note : Option String) :
    Approving (Option RequestView) := do
  let request ← reviewable projectId requestId userId true
  let same ← matchesCurrentState tokens request
  if !same then
    let _ ← markStale request.id
    throw (.conflict "Artifact, target, or production configuration changed. Create a new request.")
  else
    let now ← onBase (await .readClock)
    let claimed ← claimRequest request.id userId note now
    if claimed ≠ 1 then throw (.conflict "This production request was reviewed concurrently")
    else
      applyApproval projectId request
      latest tokens projectId userId

end InitPad
