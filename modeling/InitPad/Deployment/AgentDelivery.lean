import InitPad.Deployment.GatewayRoutes

/-!
# InitPad.Deployment.AgentDelivery

`ProjectAgentDelivery`: the durable handoff of an operation to the Agent of its target, as one job
or, on a managed gateway, as a two-step workflow of a workload job and a route job. Also the image
references and workload keys of `project-deployment-identity.ts`.
-/

namespace InitPad

open Store Interleave Prog

/-! ## Identity of workloads and images -/

def slugChar (c : Char) : Bool := lowerOrDigit c || c == '-'

/-- Every run of other characters becomes one dash. -/
def dashRuns : List Char → List Char
  | [] => []
  | [c] => if slugChar c then [c] else ['-']
  | c :: d :: rest =>
    if slugChar c then c :: dashRuns (d :: rest)
    else if slugChar d then '-' :: dashRuns (d :: rest)
    else dashRuns (d :: rest)

def trimDashes (cs : List Char) : List Char :=
  ((cs.dropWhile (· == '-')).reverse.dropWhile (· == '-')).reverse

def deploymentSlug (owner name : String) : String :=
  String.ofList (trimDashes (dashRuns (s!"{owner}-{name}".map Char.toLower).toList))

def workloadKey (project : Project) : String :=
  match project.deploymentKey with
  | some key => if key.isEmpty then deploymentSlug project.scmOwner project.scmRepositoryName
      else key
  | none => deploymentSlug project.scmOwner project.scmRepositoryName

def imageRepository (platform : Platform) (project : Project) : String :=
  let registry := match project.scmProvider with
    | .github => "ghcr.io"
    | .gitea => platform.registryHost
  s!"{registry}/{project.scmOwner}/{project.scmRepositoryName}".map Char.toLower

def registryImageRef (platform : Platform) (project : Project) (version : String) : String :=
  s!"{imageRepository platform project}:{version}"

def artifactImageRef (platform : Platform) (project : Project) (artifact : BuildArtifact) :
    String :=
  s!"{imageRepository platform project}:{artifact.commitSha}-{artifact.providerRunId}"

def storedArtifactImageRef (platform : Platform) (project : Project) (artifact : BuildArtifact) :
    String :=
  match artifact.imageRef with
  | some ref => if ref.isEmpty then artifactImageRef platform project artifact else ref
  | none => artifactImageRef platform project artifact

/-- `/^[0-9a-f]{40}$/i`. -/
def isCommitSha (version : String) : Bool :=
  decide (version.toList.length = 40) && version.toList.all fun c => isLowerHex c.toLower

def deployedImageRef (platform : Platform) (project : Project) (version : Option String)
    (artifact : Option BuildArtifact) : Option String :=
  match version with
  | none => none
  | some version =>
    if !isCommitSha version then none
    else
      match artifact.bind (·.imageRef) with
      | some ref => some ref
      | none =>
        match project.scmProvider with
        | .github => artifact.map (artifactImageRef platform project)
        | .gitea => some (registryImageRef platform project version)

/-! ## The handoff -/

structure AgentDeploymentIntent where
  projectSlug : String
  imageRef : String
  containerPort : Nat
  healthPath : String

/-- A running operation with everything its job is built from. -/
structure OperationView where
  operation : DeploymentOperation
  artifact : Option BuildArtifact
  view : EnvironmentView
  agent : Option Agent

def loadOperation (operationId : Id) : Async OperationView := do
  let found ← await (.query fun db => .ok <|
    (db.operations.find? operationId).bind fun o =>
      ((db.environments.find? o.environmentId).bind db.environmentView).map fun view =>
        ({ operation := o
           artifact := o.buildArtifactId.bind db.artifacts.find?
           view := view
           agent := view.target.bind fun t => db.targetAgent t.id } : OperationView))
  match found with
  | none => throw (.badRequest "Deployment operation is no longer active")
  | some view =>
    if view.operation.status = .running ∧ view.operation.finishedAt = none then pure view
    else throw (.badRequest "Deployment operation is no longer active")

def assertAgentBinding (v : OperationView) : Except Err (Target × TargetAllocation) :=
  match v.view.target, v.view.allocation with
  | some target, some allocation =>
    if target.kind = .docker ∧ target.scope = .user ∧
        target.workspaceId = some v.view.project.workspaceId ∧ allocation.targetId = target.id ∧
        allocation.workspaceId = v.view.project.workspaceId then
      if !v.agent.any fun a => a.credentialHash.isSome && a.disabledAt.isNone then
        .error (.badRequest "Enroll the target Agent before deploying to it")
      else if !agentVersionAtLeast (v.agent.bind (·.version)) minProjectAgentVersion then
        .error (.badRequest "Project delivery requires InitPad Agent 0.4.0 or newer")
      else if target.routingMode = .managedGateway then
        if !(target.gatewayAdapterCaddy && target.gatewayPreflightStatus == .passed &&
            target.publicUrl.isSome) then
          .error (.badRequest
            "Managed gateway deployment requires a successful Caddy gateway preflight")
        else if !agentVersionAtLeast (v.agent.bind (·.version)) minGatewayRouteAgentVersion then
          .error (.badRequest "Managed gateway delivery requires InitPad Agent 0.8.0 or newer")
        else .ok (target, allocation)
      else .ok (target, allocation)
    else .error (.badRequest "Deployment is not bound to a workspace Agent allocation")
  | _, _ => .error (.badRequest "Deployment is not bound to a workspace Agent allocation")

def workloadJob (platform : Platform) (v : OperationView) (target : Target)
    (allocation : TargetAllocation) (intent : AgentDeploymentIntent) (kind : JobKind)
    (dedupeKey : DedupeKey) (step : Nat) (status : JobStatus) : AgentJob where
  id := 0
  correlationId := v.operation.correlationId
  targetId := target.id
  allocationId := some allocation.id
  deploymentOperationId := some v.operation.id
  operationStep := some step
  gatewayRouteId := none
  leasedByAgentId := none
  dedupeKey := dedupeKey
  kind := kind
  protocolVersion := 1
  payload :=
    { allocationId := some allocation.id
      namespace_ := some allocation.namespace_
      projectSlug := some intent.projectSlug
      environment := some v.view.environment.name
      revision := some v.operation.version
      imageRef := some intent.imageRef
      containerPort := some intent.containerPort
      healthPath := some intent.healthPath
      routingMode := some target.routingMode
      configFingerprint := some (platform.configFingerprint v.view.environment.configVars)
      cpuLimitMillicores := some allocation.cpuLimitMillicores
      memoryLimitMb := some allocation.memoryLimitMb
      pidsLimit := some allocation.pidsLimit }
  status := status
  attempt := 0
  leaseTokenHash := none
  leasedAt := none
  leaseExpiresAt := none
  progressSequence := 0
  progressPercent := 0
  progressStage := if status = .blocked then .blocked else .queued
  message := some (if status = .blocked then "Waiting for gateway route" else "Waiting for Agent")
  resultCode := none
  result := none
  createdAt := 0
  finishedAt := none

def queueDeployment (platform : Platform) (durable : Bool) (operationId : Id)
    (intent : AgentDeploymentIntent) : Async Unit :=
  if !durable then throw (.badRequest
    "Agent deployment requires durable artifact storage; configure the S3/MinIO artifact bucket")
  else do
    let v ← loadOperation operationId
    let (target, allocation) ← liftExcept (assertAgentBinding v)
    if v.artifact.any fun a => a.projectId == v.view.project.id && a.available && a.objectStore &&
        a.storageRef.isSome then
      let row ← await (.upsertJob (workloadJob platform v target allocation intent .deploy
        (.deployment operationId) 1 .queued))
      if row.status.waiting then
        await (.publishQueued operationId v.view.environment.id allocation.id false)
    else throw (.badRequest "Agent deployment requires an available verified build artifact")

/-- The route request with which `queueLifecycle` starts a managed teardown. -/
def teardownRequest (v : OperationView) (kind : JobKind) (intent : AgentDeploymentIntent) :
    GatewayRouteReconcileRequest where
  requestId := v.operation.id
  desiredState := if kind = .stop then .stopped else .absent
  revision := if kind = .stop then v.operation.version else none
  projectSlug := intent.projectSlug
  containerPort := intent.containerPort
  healthPath := intent.healthPath
  workloadSlot := none
  activation := none
  deploymentOperationId := some v.operation.id
  operationStep := some 1
  correlationId := some v.operation.correlationId

/-- `queueLifecycle`; `kind` is `start`, `stop` or `remove`. -/
def queueLifecycle (platform : Platform) (operationId : Id) (kind : JobKind)
    (intent : AgentDeploymentIntent) : Async Unit := do
  let v ← loadOperation operationId
  let (target, allocation) ← liftExcept (assertAgentBinding v)
  let teardown := target.routingMode == .managedGateway && (kind == .stop || kind == .remove)
  let row ← await (.upsertJob (workloadJob platform v target allocation intent kind
    (.lifecycle kind operationId) (if teardown then 2 else 1)
    (if teardown then .blocked else .queued)))
  let publish := await (.publishQueued operationId v.view.environment.id allocation.id
    (kind == .remove))
  if teardown then
    if row.status = .blocked then
      tryCatch
        (do let _ ← queueReconcile platform v.view.environment.id (teardownRequest v kind intent))
        fun error => do
          let _ ← await (.cancelBlockedJob row.id)
          throw error
      publish
  else if row.status.waiting then publish

end InitPad
