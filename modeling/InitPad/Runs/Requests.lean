import InitPad.Deployment.Frame
import InitPad.Deployment.Projects
import InitPad.Agents.Jobs

/-!
# InitPad.Runs.Requests

Everything that can arrive at the API processes: user requests, background tasks and their timers,
sweeps, and the requests of Agents. A run over `Request` is any interleaving of any number of them,
statement by statement, in any number of processes.
-/

namespace InitPad

open Store Interleave Prog

abbrev Instant := Moment Stmt Input World Err
abbrev Step := Transition Stmt Input World Err
abbrev System := Config Stmt Input World Err

def Execution.running (x : Execution) (m : Instant) : Prop :=
  m.state.contexts.find? x.contextId =
    some ⟨x.contextId, x.instanceId, x.operationId, x.generation, none, false, true⟩

inductive Request : Instant → Async Unit → Prop where
  | begin {m} (projectId : Id) (envName : EnvName) (kind : OperationKind)
      (version : Option String) (buildArtifactId : Option Id)
      (expected : Option ExpectedProductionState) :
      Request m (ignoreError (begin projectId envName kind version buildArtifactId expected))
  | complete {m} (operationId : Id) (status : OperationResult) (message : Option String) :
      Request m (complete none operationId status message)
  | advancePhase {m} (operationId : Id) (phase : OperationPhase) (message : Option String) :
      Request m (advancePhase none operationId phase message)
  | recoverInterrupted {m} : Request m recoverInterrupted
  | start {m} (api : Api) (projectId : Id) (envName : EnvName) :
      Request m (start api projectId envName)
  | stop {m} (api : Api) (projectId : Id) (envName : EnvName) :
      Request m (stop api projectId envName)
  | remove {m} (api : Api) (projectId : Id) (envName : EnvName) :
      Request m (remove api projectId envName)
  | bindTarget {m} (api : Api) (projectId : Id) (envName : EnvName) (targetId : Id) :
      Request m (bindTarget api projectId envName targetId)
  | scheduleDeployment {m} (api : Api) (projectId : Id) (envName : EnvName) (version : String)
      (useRegistry : Bool) (kind : OperationKind) (buildArtifactId : Option Id)
      (expected : Option ExpectedProductionState) :
      Request m (scheduleDeployment api projectId envName version useRegistry kind buildArtifactId
        expected)
  | deploy {m} (api : Api) (projectId : Id) (envName : EnvName) (version : String)
      (useRegistry : Bool) (operationId : Id) :
      Request m (deployEnvInBackground api projectId envName version useRegistry operationId)
  | renewalTick {m} (x : Execution) : x.running m → Request m (renewalTick x)
  | reportProgress {m} (x : Execution) (projectId : Id) (envName : EnvName) (message : String)
      (p : Async Unit) : x.running m →
      p ∈ reportProgress (some x) x.operationId projectId envName message → Request m p
  | expiry {m} (api : Api) (now : Time) : Request m (ignoreError (runEnvironmentExpiry api now))
  | claim {m} (api : Api) (credential : Option String) :
      Request m (ignoreError (claim api credential))
  | renew {m} (credential : Option String) (jobId : Id) (leaseToken : String) :
      Request m (ignoreError (renew credential jobId leaseToken))
  | progress {m} (credential : Option String) (jobId : Id) (dto : AgentJobProgressDto) :
      Request m (ignoreError (progress credential jobId dto))
  | completeJob {m} (api : Api) (credential : Option String) (jobId : Id) (leaseToken : String)
      (dto : AgentJobCompleteDto) :
      Request m (ignoreError (completeJob api credential jobId leaseToken dto))
  | onModuleInit {m} (api : Api) : Request m (onModuleInit api)

/-! ## A small installation

One workspace with one project, whose only environment `0` has a direct target. Schedules of
concrete runs start from variations of it. -/

def sampleProject : Project where
  id := 0
  workspaceId := 0
  name := "shop"
  template := ⟨"node", some .node, false, [.docker, .sftp], none, none⟩
  pipelinePreset := .devTestProd
  scmProvider := .gitea
  scmOwner := "team"
  scmRepositoryName := "shop"
  deploymentKey := some "team-shop"

def sampleEnvironment : Environment where
  id := 0
  projectId := 0
  name := .dev
  provider := .docker
  status := .running
  version := some "v1"
  url := none
  statusReason := none
  deploymentRequired := false
  targetId := none
  allocationId := none
  activeOperationId := none
  buildArtifactId := none
  configRevision := 0
  configVars := []
  expiresAt := none
  expiryWarningAt := none

def sampleOperation (kind : OperationKind) : DeploymentOperation where
  id := 1
  correlationId := 1
  environmentId := 0
  buildArtifactId := some 5
  kind := kind
  status := .running
  phase := .queued
  version := some "v2"
  message := none
  executionOwner := none
  executionGeneration := 0
  executionLeaseExpiresAt := none
  targetIdSnapshot := none
  targetName := "docker"
  providerSnapshot := .docker
  createdAt := 0
  finishedAt := none

def sampleWorld (environment : Environment) (operations : List DeploymentOperation) : World where
  db :=
    { workspaces := ⟨[⟨0, "team", 8, .separateReviewer⟩]⟩
      projects := ⟨[sampleProject]⟩
      environments := ⟨[environment]⟩
      operations := ⟨operations⟩
      nextId := 10 }
  hashToken := id

def sampleTarget : Target where
  id := 2
  name := "server"
  kind := .docker
  scope := .user
  workspaceId := some 0
  publicUrl := some "https://apps.example"
  capabilities := [.node]
  verifiedAt := none
  managementState := .active
  routingMode := .directPort
  gatewayAdapterCaddy := true
  gatewayPreflightStatus := .passed
  gatewayPreflightJobId := none
  gatewayPreflightAt := none
  gatewayPreflightError := none
  gatewayCaSha256 := none
  updatedAt := 0

def sampleAgent : Agent where
  id := 3
  targetId := 2
  credentialHash := some "credential"
  pendingCredentialHash := none
  credentialGeneration := 1
  pendingCredentialGeneration := none
  protocolVersion := 1
  version := some ⟨0, 9, 0⟩
  disabledAt := none

def sampleJob (kind : JobKind) (operationId : Option Id) : AgentJob where
  id := 4
  correlationId := 4
  targetId := 2
  allocationId := none
  deploymentOperationId := operationId
  operationStep := operationId.map fun _ => 1
  gatewayRouteId := none
  leasedByAgentId := none
  dedupeKey := .request kind 2 0
  kind := kind
  protocolVersion := 1
  payload := {}
  status := .queued
  attempt := 0
  leaseTokenHash := none
  leasedAt := none
  leaseExpiresAt := none
  progressSequence := 0
  progressPercent := 0
  progressStage := .queued
  message := some "Waiting for Agent"
  resultCode := none
  result := none
  createdAt := 0
  finishedAt := none

def agentWorld (environment : Environment) (operations : List DeploymentOperation)
    (jobs : List AgentJob) : World :=
  let w := sampleWorld environment operations
  { w with db := { w.db with
      targets := ⟨[sampleTarget]⟩
      agents := ⟨[sampleAgent]⟩
      agentJobs := ⟨jobs⟩ } }

def sampleAllocation : TargetAllocation where
  id := 6
  targetId := 2
  workspaceId := 0
  namespace_ := "team"
  publicUrl := none
  capabilities := [.node]
  active := true
  maxEnvironments := 50
  cpuLimitMillicores := 1000
  memoryLimitMb := 512
  pidsLimit := 256
  devTtlHours := none
  testTtlHours := none
  updatedAt := 0

/-- A commit, as a deployable version has to be one. -/
def sampleCommit : String := "0123456789012345678901234567890123456789"

def sampleArtifact : BuildArtifact where
  id := 5
  projectId := 0
  providerRunId := "1"
  commitSha := sampleCommit
  digest := "0123456789abcdef0123456789abcdef0123456789abcdef0123456789abcdef"
  sizeBytes := 1
  available := true
  objectStore := true
  storageRef := some "artifact"
  imageRef := none

def gatewayEnvironment : Environment :=
  { sampleEnvironment with
    version := some sampleCommit
    targetId := some 2
    allocationId := some 6 }

def gatewayWorld (environment : Environment) (operations : List DeploymentOperation)
    (jobs : List AgentJob) : World :=
  let w := agentWorld environment operations jobs
  { w with db := { w.db with
      targets := ⟨[{ sampleTarget with routingMode := .managedGateway }]⟩
      allocations := ⟨[sampleAllocation]⟩
      artifacts := ⟨[sampleArtifact]⟩ } }

def reservedRoute : GatewayRoute where
  id := 7
  environmentId := 0
  targetId := 2
  allocationId := 6
  hostname := "shop"
  publicUrl := "https://shop"
  desiredState := .reserved
  desiredRevision := none
  observedState := .absent
  observedRevision := none
  generation := 0
  observedGeneration := 0
  reconcileJobId := none
  lastError := none
  reconciledAt := none

def sampleIntent : AgentDeploymentIntent := ⟨"shop", "registry/shop", 8080, "/health"⟩

def sampleApi (instanceId : Id) : Api where
  instanceId := instanceId
  platform :=
    { registryHost := "registry"
      configFingerprint := fun _ => "fingerprint"
      urlWithPort := fun url _ => .ok url
      gatewayHostname := fun name _ _ _ _ => .ok name }
  saas := false
  artifactStoreConfigured := true
  artifactStoreDurable := true

/-- Thread `t` executes `n` statements in a row, without surprises. -/
def turns (t n : Nat) : List (Nat × Input) := List.replicate n (t, {})

end InitPad
