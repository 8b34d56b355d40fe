import InitPad.Deployment.Effect
import InitPad.Interleave.Run

/-!
# InitPad.Approvals.Statement

The rows behind production approvals and the statements on them. A statement is one of the
deployment signature, executed on the control plane's own state (`base`), or one of
`ProjectProductionApprovals`. All its conditional updates have the form
`updateMany({ where: { id, status: { in } }, data: { status, ... } })`, so they share `moveRequest`.
-/

namespace InitPad

open Store Interleave

inductive WorkspaceRole where
  | owner | admin | maintainer | member | viewer
  deriving DecidableEq

inductive WorkspacePermission where
  | read | write | maintain
  deriving DecidableEq

def WorkspacePermission.text : WorkspacePermission → String
  | .read => "read"
  | .write => "write"
  | .maintain => "maintain"

/-- `PERMISSIONS`. -/
def WorkspaceRole.can : WorkspaceRole → WorkspacePermission → Bool
  | _, .read => true
  | .viewer, .write => false
  | _, .write => true
  | .member, .maintain | .viewer, .maintain => false
  | _, .maintain => true

structure WorkspaceMember where
  workspaceId : Id
  userId : Id
  role : WorkspaceRole

structure User where
  id : Id
  username : String

instance : Keyed User Id := ⟨User.id⟩

inductive ProductionRequestKind where
  | promote | redeploy | rollback
  deriving DecidableEq

def ProductionRequestKind.operation : ProductionRequestKind → OperationKind
  | .promote => .promote
  | .redeploy => .redeploy
  | .rollback => .rollback

inductive RequestStatus where
  | pending | approving | approved | rejected | stale | failed | cancelled
  deriving DecidableEq

def RequestStatus.text : RequestStatus → String
  | .pending => "pending"
  | .approving => "approving"
  | .approved => "approved"
  | .rejected => "rejected"
  | .stale => "stale"
  | .failed => "failed"
  | .cancelled => "cancelled"

/-- The statuses of the partial unique index on `environmentId`. -/
def RequestStatus.live (s : RequestStatus) : Bool := s == .pending || s == .approving

/-- The strings of `sourceEnvironment`. -/
inductive SourceEnvironment where
  | stage (name : EnvName) | ci | history
  deriving DecidableEq

/-- What is to be published. -/
structure Candidate where
  kind : ProductionRequestKind
  sourceEnvironment : SourceEnvironment
  candidateOperationId : Option Id
  candidateStateToken : Option String
  version : String
  buildArtifactId : Option Id
  artifactDigest : Option String

structure ProductionSnapshot where
  candidate : Candidate
  workspaceId : Id
  environmentId : Id
  targetId : Option Id
  allocationId : Option Id
  provider : ProviderKind
  configRevision : Nat
  targetRevision : Option Time
  allocationRevision : Option Time
  policy : ProductionApprovalPolicy
  stateToken : String

structure ProductionDeploymentRequest where
  id : Id
  projectId : Id
  requestedById : Id
  snapshot : ProductionSnapshot
  status : RequestStatus
  reviewedById : Option Id
  reviewedAt : Option Time
  reviewNote : Option String
  deploymentOperationId : Option Id

instance : Keyed ProductionDeploymentRequest Id := ⟨ProductionDeploymentRequest.id⟩

/-- The reviewer columns in the `data` of an update; an omitted column keeps its value. -/
structure ReviewData where
  reviewedById : Option (Option Id) := none
  reviewedAt : Option (Option Time) := none
  reviewNote : Option (Option String) := none

def ProductionDeploymentRequest.move (r : ProductionDeploymentRequest) (status : RequestStatus)
    (d : ReviewData) : ProductionDeploymentRequest :=
  { r with
    status := status
    reviewedById := d.reviewedById.getD r.reviewedById
    reviewedAt := d.reviewedAt.getD r.reviewedAt
    reviewNote := d.reviewNote.getD r.reviewNote }

def ProductionDeploymentRequest.live (r : ProductionDeploymentRequest) : Bool := r.status.live

/-- The control plane with its production requests. `started` are the deployments that the API
processes have started for a request (`void this.deployEnvInBackground(...)`). -/
structure ApprovalWorld where
  base : World
  requests : Table ProductionDeploymentRequest := {}
  users : Table User := {}
  members : List WorkspaceMember := []
  nextRequestId : Id := 0
  started : List (Id × Id) := []

namespace ApprovalWorld

def request? (w : ApprovalWorld) (id : Id) : Option ProductionDeploymentRequest :=
  w.requests.find? id

def updateRequests (w : ApprovalWorld) (p : ProductionDeploymentRequest → Bool)
    (d : ProductionDeploymentRequest → ProductionDeploymentRequest) : ApprovalWorld :=
  { w with requests := w.requests.updateMany p d }

end ApprovalWorld

inductive AuditAction where
  | requested | requestStale | requestCancelled | requestRejected | approvalAccepted
  | requestApproved | approvalFailed
  deriving DecidableEq

inductive ApprovalStmt : Type → Type 1 where
  | base {β : Type} (e : Stmt β) : ApprovalStmt β
  | query {β : Type} (f : ApprovalWorld → Except Err β) : ApprovalStmt β
  | createRequest (projectId userId : Id) (snapshot : ProductionSnapshot) :
      ApprovalStmt ProductionDeploymentRequest
  | deletePending (requestId : Id) : ApprovalStmt Unit
  | moveRequest (requestId : Id) (statuses : List RequestStatus) (status : RequestStatus)
      (data : ReviewData) : ApprovalStmt Nat
  | approveRequest (requestId operationId : Id) : ApprovalStmt Unit
  | recordAudit (requestId : Id) (action : AuditAction) : ApprovalStmt Unit
  | startDeployment (requestId operationId : Id) : ApprovalStmt Unit

/-- The serializable transaction of `create`: replace the pending request of the environment. -/
def ApprovalWorld.createRequest (w : ApprovalWorld) (projectId userId : Id)
    (snapshot : ProductionSnapshot) : Except Err ProductionDeploymentRequest × ApprovalWorld :=
  let replaced := w.updateRequests
    (fun r => r.snapshot.environmentId == snapshot.environmentId && r.status == .pending)
    fun r => r.move .stale { reviewNote := some (some "Replaced by a newer production request") }
  if replaced.requests.count
      (fun r => r.snapshot.environmentId == snapshot.environmentId && r.live) ≠ 0 then
    (.error .uniqueViolation, w)
  else
    let request : ProductionDeploymentRequest :=
      { id := w.nextRequestId
        projectId := projectId
        requestedById := userId
        snapshot := snapshot
        status := .pending
        reviewedById := none
        reviewedAt := none
        reviewNote := none
        deploymentOperationId := none }
    (.ok request,
      { replaced with
        requests := replaced.requests.insert request
        nextRequestId := w.nextRequestId + 1 })

/-- The update by id after scheduling: it fails without the row, or when another request has the
operation. -/
def ApprovalWorld.approveRequest (w : ApprovalWorld) (requestId operationId : Id) :
    Except Err Unit × ApprovalWorld :=
  if (w.request? requestId).isNone then (.error .recordNotFound, w)
  else if w.requests.count (fun r => r.id != requestId &&
      r.deploymentOperationId == some operationId) ≠ 0 then (.error .uniqueViolation, w)
  else
    (.ok (), w.updateRequests (fun r => r.id == requestId) fun r =>
      { r with status := .approved, deploymentOperationId := some operationId })

def ApprovalStmt.run {β : Type} : ApprovalStmt β → Input → ApprovalWorld →
    Except Err β × ApprovalWorld
  | .base e, i, w => ((exec e i w.base).1, { w with base := (exec e i w.base).2 })
  | .query f, _, w => (f w, w)
  | .createRequest projectId userId snapshot, _, w => w.createRequest projectId userId snapshot
  | .deletePending requestId, _, w =>
    (.ok (), { w with requests :=
      ⟨w.requests.rows.filter fun r => !(r.id == requestId && r.status == .pending)⟩ })
  | .moveRequest requestId statuses status data, _, w =>
    let chosen := fun (r : ProductionDeploymentRequest) =>
      r.id == requestId && statuses.contains r.status
    (.ok (w.requests.count chosen), w.updateRequests chosen (·.move status data))
  | .approveRequest requestId operationId, _, w => w.approveRequest requestId operationId
  | .recordAudit _ _, _, w => (.ok (), w)
  | .startDeployment requestId operationId, _, w =>
    (.ok (), { w with started := w.started ++ [(requestId, operationId)] })

/-- A statement that no failure of the database touches, or that handles it itself. -/
def ApprovalStmt.inProcess {β : Type} : ApprovalStmt β → Bool
  | .base _ | .startDeployment .. => true
  | _ => false

instance : Semantics ApprovalStmt Input ApprovalWorld Err where
  exec e i w := if i.fault && !e.inProcess then (.error .databaseFault, w) else e.run i w

abbrev Approving (α : Type) : Type 1 := Prog ApprovalStmt Err α

end InitPad
