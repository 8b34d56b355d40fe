import InitPad.Deployment.World

/-!
# InitPad.Deployment.Statement

Every statement that the modelled code awaits, as one constructor of `Stmt`, and its atomic effect
`Stmt.run`. A constructor is named after the function that issues the statement and carries the
values the caller had in scope; `where` and `data` of the Prisma call are in `Stmt.run`. An array
`$transaction` is one statement. Reads are `query`.

Where a statement names an operation that its `where` clause does not use, the argument is the
operation the caller acts for (`Stmt.actor`).
-/

namespace InitPad

open Store Interleave

/-- A Prisma `data` object for `Environment`: an omitted column keeps its value. -/
structure EnvironmentData where
  status : Option DeployStatus := none
  version : Option (Option String) := none
  buildArtifactId : Option (Option Id) := none
  url : Option (Option String) := none
  statusReason : Option (Option String) := none
  deploymentRequired : Option Bool := none
  activeOperationId : Option (Option Id) := none
  allocationId : Option (Option Id) := none
  expiresAt : Option (Option Time) := none
  expiryWarningAt : Option (Option Time) := none

def EnvironmentData.apply (d : EnvironmentData) (e : Environment) : Environment :=
  { e with
    status := d.status.getD e.status
    version := d.version.getD e.version
    buildArtifactId := d.buildArtifactId.getD e.buildArtifactId
    url := d.url.getD e.url
    statusReason := d.statusReason.getD e.statusReason
    deploymentRequired := d.deploymentRequired.getD e.deploymentRequired
    activeOperationId := d.activeOperationId.getD e.activeOperationId
    allocationId := d.allocationId.getD e.allocationId
    expiresAt := d.expiresAt.getD e.expiresAt
    expiryWarningAt := d.expiryWarningAt.getD e.expiryWarningAt }

def emptyState (statusReason : Option String := none) : EnvironmentData where
  status := some .empty
  version := some none
  buildArtifactId := some none
  url := some none
  statusReason := some statusReason
  activeOperationId := some none
  deploymentRequired := some false
  expiresAt := some none
  expiryWarningAt := some none

structure ExpectedProductionState where
  targetId : Option Id
  allocationId : Option Id
  configRevision : Nat
  targetRevision : Option Time
  allocationRevision : Option Time

/-- An environment row with the relations its readers include. -/
structure EnvironmentView where
  environment : Environment
  target : Option Target
  allocation : Option TargetAllocation
  artifact : Option BuildArtifact
  project : Project

def Db.environmentView (db : Db) (e : Environment) : Option EnvironmentView :=
  (db.environmentProject e).map fun p =>
    { environment := e
      target := db.environmentTarget e
      allocation := db.environmentAllocation e
      artifact := db.environmentArtifact e
      project := p }

/-- The credential fence of `AgentsService.authenticateCredential`. -/
structure AuthenticatedAgent where
  id : Id
  targetId : Id
  credentialHash : String
  protocolVersion : Nat

/-- A leased job with the relations that its delivery is checked against. -/
structure LeaseBinding where
  job : AgentJob
  environment : Option Environment
  artifact : Option BuildArtifact

structure GatewayRouteReconcileRequest where
  requestId : Id
  desiredState : RouteState
  revision : Option String
  projectSlug : String
  containerPort : Nat
  healthPath : String
  workloadSlot : Option String
  activation : Option ActivationMode
  deploymentOperationId : Option Id
  operationStep : Option Nat
  correlationId : Option Id

structure GatewayRouteReconcileJob where
  routeId : Id
  jobId : Id
  generation : Nat
  status : JobStatus

structure JobDiagnostic where
  exitCode : Option Nat
  health : String
  logs : String

structure AgentJobCompleteDto where
  succeeded : Bool
  message : String
  resultCode : Option String
  result : Option JobResult
  gatewayCaSha256 : Option String
  diagnostic : Option JobDiagnostic

/-- The guard of `advancePhase`: a lease context, or no owner at all. -/
inductive ExecutionFence where
  | owned (instanceId : Id) (generation : Nat)
  | unowned

inductive Stmt : Type → Type 1 where
  | query {β : Type} (f : Db → Except Err β) : Stmt β
  | readClock : Stmt Time
  -- memory of one API process
  | enterExecution (instanceId operationId : Id) : Stmt Unit
  | addExecution (instanceId operationId : Id) (generation : Nat) : Stmt Id
  | leaveExecution (contextId : Id) : Stmt Bool
  | readContext (contextId : Id) : Stmt Context
  | setCompleted (contextId : Id) (completed : Bool) : Stmt Unit
  | setLost (contextId : Id) (lost : Err) : Stmt Unit
  -- ProjectDeploymentOperations
  | beginClaim (view : EnvironmentView) (kind : OperationKind) (version : Option String)
      (buildArtifactId : Option Id) (expected : Option ExpectedProductionState) :
      Stmt (DeploymentOperation × Nat)
  | cancelClaimed (operationId : Id) (environment : Environment) (message : String) : Stmt Unit
  | rejectBegin (operationId : Id) : Stmt Unit
  | recordAudit (operationId : Id) : Stmt Unit
  | finishUnowned (operationId : Id) (status : OperationResult) (message : Option String) :
      Stmt Nat
  | finishOwned (instanceId : Id) (generation : Nat) (operationId : Id)
      (status : OperationResult) (message : Option String) : Stmt Nat
  | releaseLock (operationId : Id) : Stmt Nat
  | claimExecution (instanceId operationId : Id) : Stmt (Option Nat)
  | renewExecution (instanceId : Id) (generation : Nat) (operationId : Id) : Stmt Nat
  | releaseExecution (instanceId : Id) (generation : Nat) (operationId : Id) : Stmt Nat
  | advancePhase (operationId : Id) (phase : OperationPhase) (message : Option String)
      (fence : ExecutionFence) : Stmt Nat
  | readCancelled (operationId : Id) : Stmt Bool
  | reportMessage (instanceId : Id) (generation : Nat) (operationId : Id) (message : String) :
      Stmt Nat
  | reportStatusReason (operationId projectId : Id) (name : EnvName) (message : String) : Stmt Nat
  | recoverOperation (operation : DeploymentOperation) (now : Time) : Stmt Nat
  | recoverEnvironment (operationId : Id) (cancelled : Bool) : Stmt Nat
  -- ProjectEnvironmentLifecycle
  | cancelCiRetry (operationId environmentId : Id) : Stmt Unit
  | cancelAgentOperation (operationId environmentId : Id) (now : Time) : Stmt Unit
  | cancelDirect (operationId environmentId : Id) : Stmt Unit
  | clearUnversioned (environmentId : Id) : Stmt Unit
  | cancelEnvironmentJobs (environmentId : Id) (now : Time) : Stmt Nat
  | clearLock (environmentId : Id) (cancelled : Option Id) : Stmt Unit
  | abandonEnvironment (environmentId operationId : Id) (reason : String) : Stmt Unit
  | publishRemoved (environmentId operationId : Id) (message : Option String) : Stmt Nat
  | publishStopped (environmentId operationId : Id) : Stmt Nat
  | failLifecycle (environmentId operationId : Id) (status : DeployStatus) (message : String)
      (release : Bool) : Stmt Nat
  | publishStarted (projectId : Id) (name : EnvName) (operationId : Id) (result : DeployResult) :
      Stmt Nat
  | publishEmptied (projectId : Id) (name : EnvName) (operationId : Id)
      (warning : Option String) : Stmt Nat
  | failBackground (projectId : Id) (name : EnvName) (operationId : Id) (message : String) :
      Stmt Nat
  -- ProjectDeploymentExecutor and ProjectsService
  | markDeploying (projectId : Id) (name : EnvName) (operationId : Id)
      (allocationId : Option Id) : Stmt Nat
  | publishDeployment (projectId : Id) (name : EnvName) (operationId : Id) (version : String)
      (buildArtifactId : Option Id) (url : String) (allocation : Option TargetAllocation) :
      Stmt Nat
  | captureRegistryArtifact (operationId : Id) : Stmt BuildArtifact
  | createAllocation (workspace : Workspace) (target : Target) : Stmt TargetAllocation
  | teardownPending (environmentId : Id) (warning : String) : Stmt Unit
  | bindEnvironment (environmentId targetId allocationId : Id) (provider : ProviderKind)
      (movingAway targetChanged : Bool) : Stmt Unit
  | claimExpiry (environmentId : Id) (expiresAt : Time) : Stmt Nat
  | rescheduleExpiry (environmentId : Id) (now : Time) : Stmt Nat
  -- ProjectAgentDelivery and GatewayRoutesService
  | upsertJob (job : AgentJob) : Stmt AgentJob
  | cancelBlockedJob (jobId : Id) : Stmt Nat
  | publishQueued (operationId environmentId allocationId : Id) (removing : Bool) : Stmt Unit
  | createRoute (environmentId targetId allocationId : Id) (hostname : String) :
      Stmt GatewayRoute
  | queueRouteJob (route : GatewayRoute) (targetId : Id) (allocation : TargetAllocation)
      (name : EnvName) (request : GatewayRouteReconcileRequest) : Stmt GatewayRouteReconcileJob
  -- AgentJobLeases and AgentJobsService
  | authenticate (credential : String) : Stmt AuthenticatedAgent
  | findLease (agent : AuthenticatedAgent) (jobId : Id) (leaseToken : String)
      (activeAt : Option Time) : Stmt (Option LeaseBinding)
  | claimJob (agent : AuthenticatedAgent) (jobId : Id) (status : JobStatus)
      (leaseTokenHash : Option String) (now : Time) : Stmt (Option String)
  | renewJob (agent : AuthenticatedAgent) (jobId : Id) (leaseToken : String) (now : Time) :
      Stmt Nat
  | progressJob (agent : AuthenticatedAgent) (jobId : Id) (leaseToken : String) (now : Time)
      (sequence percent : Nat) (stage : ProgressStage) (message : String) : Stmt Nat
  | completeJob (agent : AuthenticatedAgent) (jobId : Id) (leaseToken : String) (now : Time)
      (diagnosticJob : Bool) (dto : AgentJobCompleteDto) : Stmt Nat
  | failJob (agent : AuthenticatedAgent) (jobId : Id) (leaseToken : String) (now : Time)
      (message : String) : Stmt Nat
  | markDiagnosticRunning (jobId : Id) (message : String) : Stmt Nat
  | mirrorDeploymentProgress (operationId : Id) (phase : OperationPhase) (message : String)
      (sequence : Nat) : Stmt Unit
  | mirrorGatewayPreflight (targetId jobId : Id) : Stmt Nat
  | advanceDeploymentPhase (operationId : Id) (phase : OperationPhase) (message : String) :
      Stmt Nat
  | projectPreflight (targetId jobId : Id) (succeeded : Bool) (message : Option String)
      (finishedAt : Time) : Stmt Nat
  | observeRoute (routeId : Id) (generation : Nat) (jobId : Id) (state : RouteState)
      (revision : Option String) (now : Time) : Stmt Nat
  | failRoute (routeId : Id) (generation : Nat) (jobId : Id) (message : String) (now : Time) :
      Stmt Nat
  | finishProjection (operationId environmentId : Id) (status : OperationResult)
      (message : Option String) (data : EnvironmentData) (now : Time) : Stmt Unit
  | failManagedOperation (operationId environmentId : Id) (message : String)
      (data : EnvironmentData) (now : Time) : Stmt Unit
  | unblockWorkload (operationId : Id) (message : String) : Stmt Nat
  | publishManagedProgress (operationId environmentId : Id) (message : String) : Stmt Unit
  -- outside the database: providers, SCM, object store
  | callDeploy (operationId : Id) (target : Option Id) : Stmt DeployResult
  | callStart (operationId : Id) : Stmt DeployResult
  | callStop (operationId : Id) : Stmt Unit
  | callTeardown (environmentId : Id) : Stmt (Option String)
  | prepareDeployment (operationId : Id) : Stmt Unit
  | ensureImageAvailable (artifactId : Id) : Stmt Bool
  | readArtifactObject (storageRef : String) : Stmt (Option Nat)
  | decryptConfig (jobId : Id) : Stmt Unit

end InitPad
