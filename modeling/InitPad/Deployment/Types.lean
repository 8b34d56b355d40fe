import InitPad.Store.Table
import Mathlib.Data.List.Infix

/-!
# InitPad.Deployment.Types

The rows of the control plane's database that deployments touch, and the enumerations stored in
their string columns. Ids are numbers standing for the UUIDs of the schema and times are
milliseconds; both are only compared. A column that no modelled function reads is left out.
-/

namespace InitPad

open Store

abbrev Id := Nat
abbrev Time := Nat

inductive EnvName where
  | dev | test | prod
  deriving DecidableEq

inductive ProviderKind where
  | docker | sftp
  deriving DecidableEq

inductive RuntimeKind where
  | static | node | php | python
  deriving DecidableEq

inductive DeployStatus where
  | empty | deploying | running | failed | stopped
  deriving DecidableEq

/-- The `kind` strings passed to `ProjectDeploymentOperations.begin`. -/
inductive OperationKind where
  | ciDeploy | ciRetry | artifactRecovery | redeploy | retry | promote | rollback | prod
  | start | stop | remove
  deriving DecidableEq

inductive OperationStatus where
  | running | succeeded | failed | cancelled
  deriving DecidableEq

/-- `DeploymentOperationResult`. -/
inductive OperationResult where
  | succeeded | failed | cancelled
  deriving DecidableEq

inductive OperationPhase where
  | queued | assigned | running | verifying | succeeded | failed | cancelled | unhealthy
  deriving DecidableEq

inductive JobKind where
  | probe | lifecycleTest | gatewayPreflight | gatewayRoute | deploy | rollback | start | stop
  | remove | logs | agentUpdate
  deriving DecidableEq

inductive JobStatus where
  | blocked | queued | leased | succeeded | failed | cancelled
  deriving DecidableEq

inductive ProgressStage where
  | blocked | queued | assigned | accepted | working | verifying | succeeded | failed | cancelled
  deriving DecidableEq

inductive TargetScope where
  | builtin | user
  deriving DecidableEq

inductive RoutingMode where
  | directPort | managedGateway
  deriving DecidableEq

inductive ManagementState where
  | active | disconnected | retired
  deriving DecidableEq

inductive PreflightStatus where
  | notRun | queued | running | passed | failed
  deriving DecidableEq

inductive RouteState where
  | reserved | active | stopped | absent | failed
  deriving DecidableEq

inductive RunState where
  | running | stopped | missing
  deriving DecidableEq

inductive ActivationMode where
  | deploy | start
  deriving DecidableEq

inductive ScmKind where
  | gitea | github
  deriving DecidableEq

inductive PipelinePreset where
  | devTestProd | devProd | prodOnly
  deriving DecidableEq

inductive ProductionApprovalPolicy where
  | selfReview | separateReviewer
  deriving DecidableEq

/-- The unique `dedupeKey` strings of `AgentJob`, by their template. -/
inductive DedupeKey where
  | deployment (operationId : Id)
  | lifecycle (kind : JobKind) (operationId : Id)
  | gatewayRoute (routeId requestId : Id)
  | request (kind : JobKind) (targetId requestId : Id)
  deriving DecidableEq

/-- The parsed form of an Agent version string; `agentVersionAtLeast` rejects any other string. -/
structure AgentVersion where
  major : Nat
  minor : Nat
  patch : Nat
  deriving DecidableEq

structure Template where
  id : String
  runtime : Option RuntimeKind
  staticArtifact : Bool
  compatibleProviders : List ProviderKind
  port : Option Nat
  healthPath : Option String

structure Workspace where
  id : Id
  slug : String
  maxConcurrentOperations : Nat
  productionApprovalPolicy : ProductionApprovalPolicy

structure Project where
  id : Id
  workspaceId : Id
  name : String
  template : Template
  pipelinePreset : PipelinePreset
  scmProvider : ScmKind
  scmOwner : String
  scmRepositoryName : String
  deploymentKey : Option String

structure BuildArtifact where
  id : Id
  projectId : Id
  providerRunId : String
  commitSha : String
  digest : String
  sizeBytes : Nat
  available : Bool
  objectStore : Bool
  storageRef : Option String
  imageRef : Option String

structure Agent where
  id : Id
  targetId : Id
  credentialHash : Option String
  pendingCredentialHash : Option String
  credentialGeneration : Nat
  pendingCredentialGeneration : Option Nat
  protocolVersion : Nat
  version : Option AgentVersion
  disabledAt : Option Time

structure Target where
  id : Id
  name : String
  kind : ProviderKind
  scope : TargetScope
  workspaceId : Option Id
  publicUrl : Option String
  capabilities : List RuntimeKind
  verifiedAt : Option Time
  managementState : ManagementState
  routingMode : RoutingMode
  gatewayAdapterCaddy : Bool
  gatewayPreflightStatus : PreflightStatus
  gatewayPreflightJobId : Option Id
  gatewayPreflightAt : Option Time
  gatewayPreflightError : Option String
  gatewayCaSha256 : Option String
  updatedAt : Time

structure TargetAllocation where
  id : Id
  targetId : Id
  workspaceId : Id
  namespace_ : String
  publicUrl : Option String
  capabilities : List RuntimeKind
  active : Bool
  maxEnvironments : Nat
  cpuLimitMillicores : Nat
  memoryLimitMb : Nat
  pidsLimit : Nat
  devTtlHours : Option Nat
  testTtlHours : Option Nat
  updatedAt : Time

structure AppConfigVar where
  key : String
  value : String
  isSecret : Bool
  deriving DecidableEq

structure Environment where
  id : Id
  projectId : Id
  name : EnvName
  provider : ProviderKind
  status : DeployStatus
  version : Option String
  url : Option String
  statusReason : Option String
  deploymentRequired : Bool
  targetId : Option Id
  allocationId : Option Id
  /-- The operation that holds the environment's lock. -/
  activeOperationId : Option Id
  buildArtifactId : Option Id
  configRevision : Nat
  configVars : List AppConfigVar
  expiresAt : Option Time
  expiryWarningAt : Option Time

structure DeploymentOperation where
  id : Id
  correlationId : Id
  environmentId : Id
  buildArtifactId : Option Id
  kind : OperationKind
  status : OperationStatus
  phase : OperationPhase
  version : Option String
  message : Option String
  executionOwner : Option Id
  executionGeneration : Nat
  executionLeaseExpiresAt : Option Time
  targetIdSnapshot : Option Id
  targetName : String
  providerSnapshot : ProviderKind
  createdAt : Time
  finishedAt : Option Time

/-- The JSON payload of a job. A field the object does not have is `none`; `revision` is `null`
for an absent route, which is `some none`. -/
structure JobPayload where
  allocationId : Option Id := none
  namespace_ : Option String := none
  projectSlug : Option String := none
  environment : Option EnvName := none
  revision : Option (Option String) := none
  imageRef : Option String := none
  containerPort : Option Nat := none
  healthPath : Option String := none
  routingMode : Option RoutingMode := none
  configFingerprint : Option String := none
  cpuLimitMillicores : Option Nat := none
  memoryLimitMb : Option Nat := none
  pidsLimit : Option Nat := none
  routeId : Option Id := none
  generation : Option Nat := none
  desiredState : Option RouteState := none
  hostname : Option String := none
  workloadSlot : Option String := none
  activation : Option ActivationMode := none

structure JobResult where
  state : RunState
  revision : Option String
  hostPort : Option Nat
  workloadSlot : Option String
  deriving DecidableEq

structure AgentJob where
  id : Id
  correlationId : Id
  targetId : Id
  allocationId : Option Id
  deploymentOperationId : Option Id
  operationStep : Option Nat
  gatewayRouteId : Option Id
  leasedByAgentId : Option Id
  dedupeKey : DedupeKey
  kind : JobKind
  protocolVersion : Nat
  payload : JobPayload
  status : JobStatus
  attempt : Nat
  leaseTokenHash : Option String
  leasedAt : Option Time
  leaseExpiresAt : Option Time
  progressSequence : Nat
  progressPercent : Nat
  progressStage : ProgressStage
  message : Option String
  resultCode : Option String
  result : Option JobResult
  createdAt : Time
  finishedAt : Option Time

structure GatewayRoute where
  id : Id
  environmentId : Id
  targetId : Id
  allocationId : Id
  hostname : String
  publicUrl : String
  desiredState : RouteState
  desiredRevision : Option String
  observedState : RouteState
  observedRevision : Option String
  generation : Nat
  observedGeneration : Nat
  reconcileJobId : Option Id
  lastError : Option String
  reconciledAt : Option Time

inductive DiagnosticStatus where
  | idle | queued | running | succeeded | failed
  deriving DecidableEq

structure WorkloadDiagnostic where
  id : Id
  environmentId : Id
  currentJobId : Option Id
  status : DiagnosticStatus
  runtimeState : Option RunState
  revision : Option String
  exitCode : Option Nat
  health : Option String
  logs : String
  message : Option String
  observedAt : Option Time
  finishedAt : Option Time

instance : Keyed Workspace Id := ⟨Workspace.id⟩
instance : Keyed Project Id := ⟨Project.id⟩
instance : Keyed BuildArtifact Id := ⟨BuildArtifact.id⟩
instance : Keyed Agent Id := ⟨Agent.id⟩
instance : Keyed Target Id := ⟨Target.id⟩
instance : Keyed TargetAllocation Id := ⟨TargetAllocation.id⟩
instance : Keyed Environment Id := ⟨Environment.id⟩
instance : Keyed DeploymentOperation Id := ⟨DeploymentOperation.id⟩
instance : Keyed AgentJob Id := ⟨AgentJob.id⟩
instance : Keyed GatewayRoute Id := ⟨GatewayRoute.id⟩
instance : Keyed WorkloadDiagnostic Id := ⟨WorkloadDiagnostic.id⟩

/-! ## Pure functions of the domain modules -/

/-- `activeDeploymentPhasePredecessors`, for the three active phases. -/
def activeDeploymentPhasePredecessors : OperationPhase → List OperationPhase
  | .assigned => [.queued]
  | .running => [.queued, .assigned]
  | .verifying => [.queued, .assigned, .running]
  | _ => []

def containsText (text part : String) : Bool := decide (part.toList <:+: text.toList)

/-- `/health|unhealthy/i` is a search for `health`. -/
def mentionsHealth (message : Option String) : Bool :=
  containsText ((message.getD "").map Char.toLower) "health"

def OperationResult.status : OperationResult → OperationStatus
  | .succeeded => .succeeded
  | .failed => .failed
  | .cancelled => .cancelled

def terminalDeploymentPhase (status : OperationResult) (message : Option String) :
    OperationPhase :=
  match status with
  | .failed => if mentionsHealth message then .unhealthy else .failed
  | .succeeded => .succeeded
  | .cancelled => .cancelled

/-- `environmentExpiry`: `expiresAt` and `expiryWarningAt` after a deployment at `now`. -/
def environmentExpiry (environment : EnvName) (allocation : Option TargetAllocation)
    (now : Time) : Option Time × Option Time :=
  let ttlHours := match environment with
    | .dev => allocation.bind (·.devTtlHours)
    | .test => allocation.bind (·.testTtlHours)
    | .prod => none
  match ttlHours with
  | none | some 0 => (none, none)
  | some hours =>
    let ttlMs := hours * 60 * 60 * 1000
    let warningLeadMs := min (24 * 60 * 60 * 1000) (ttlMs / 4)
    let expiresAt := now + ttlMs
    (some expiresAt, some (expiresAt - warningLeadMs))

/-- `agentVersionAtLeast`: compares componentwise, a missing version fails. -/
def agentVersionAtLeast (version : Option AgentVersion) (minimum : AgentVersion) : Bool :=
  match version with
  | none => false
  | some actual =>
    if actual.major ≠ minimum.major then actual.major > minimum.major
    else if actual.minor ≠ minimum.minor then actual.minor > minimum.minor
    else if actual.patch ≠ minimum.patch then actual.patch > minimum.patch
    else true

def minProjectAgentVersion : AgentVersion := ⟨0, 4, 0⟩
def minGatewayRouteAgentVersion : AgentVersion := ⟨0, 8, 0⟩

def EnvName.text : EnvName → String
  | .dev => "dev"
  | .test => "test"
  | .prod => "prod"

def ProviderKind.text : ProviderKind → String
  | .docker => "docker"
  | .sftp => "sftp"

def RuntimeKind.text : RuntimeKind → String
  | .static => "static"
  | .node => "node"
  | .php => "php"
  | .python => "python"

def ManagementState.text : ManagementState → String
  | .active => "active"
  | .disconnected => "disconnected"
  | .retired => "retired"

/-- `toCsv`, the stored form of a capability list. -/
def capabilitiesText (capabilities : List RuntimeKind) : String :=
  ",".intercalate (capabilities.map (·.text))

def templateRuntime (template : Template) : RuntimeKind :=
  template.runtime.getD (if template.staticArtifact then .static else .node)

def targetCanRun (template : Template) (kind : ProviderKind) (capabilities : List RuntimeKind) :
    Bool :=
  template.compatibleProviders.contains kind && capabilities.contains (templateRuntime template)

/-- `appendPath`: the base without its trailing slashes, then the namespace. -/
def appendPath (base namespace_ : String) : String :=
  let trimmed := String.ofList (base.toList.reverse.dropWhile (· == '/')).reverse
  if trimmed.isEmpty then s!"/{namespace_}" else s!"{trimmed}/{namespace_}"

/-- `allocationUsageDefaults` without `preserveLegacy`, for the public URL. -/
def allocationPublicUrl (target : Target) (namespace_ : String) : Option String :=
  if target.scope = .builtin then
    match target.publicUrl with
    | some url => if url.isEmpty then none else some (appendPath url namespace_)
    | none => none
  else target.publicUrl

def isAgentBacked (provider : ProviderKind) (target : Option Target) : Bool :=
  provider == .docker && target.any fun t => t.scope == .user

/-- `unmanagedTarget`: a user target that was disconnected or retired. -/
def unmanagedTarget (target : Option Target) : Bool :=
  target.any fun t => t.scope == .user && t.managementState != .active

end InitPad
