import InitPad.Deployment.Targets

/-!
# InitPad.Deployment.Executor

`ProjectDeploymentExecutor.execute`: runs one claimed deployment operation and publishes its
result. Progress callbacks of the providers are threads of their own (`reportProgress`).
-/

namespace InitPad

open Store Interleave Prog

structure TestedImage where
  imageRef : Option String
  buildArtifactId : Option Id

/-- The operation as `execute` reads it, with its artifact. -/
structure ExecutedOperation where
  operation : DeploymentOperation
  artifact : Option BuildArtifact

/-- Whether a stored artifact is the verified build of `version`. -/
def verifiedArtifact (projectId : Id) (version : String) (artifact : BuildArtifact) : Bool :=
  artifact.projectId == projectId && artifact.commitSha == version.map Char.toLower &&
    artifact.available && artifact.objectStore && artifact.storageRef.any fun ref => !ref.isEmpty

def githubImage (api : Api) (view : EnvironmentView) (version : String)
    (operation : Option ExecutedOperation) : Async TestedImage :=
  match (operation.bind (·.artifact)).filter (verifiedArtifact view.project.id version) with
  | none => throw (.error "GitHub deployment has no verified build artifact for this version")
  | some artifact => do
    let image : TestedImage :=
      { imageRef := some (storedArtifactImageRef api.platform view.project artifact)
        buildArtifactId := operation.bind (·.operation.buildArtifactId) }
    if view.agentBacked then pure image
    else
      let available ← await (.ensureImageAvailable artifact.id)
      if available then pure image
      else throw (.error "Verified build artifact could not be rehydrated from object storage")

def giteaImage (api : Api) (view : EnvironmentView) (version : String) (operationId : Id)
    (operation : Option ExecutedOperation) : Async TestedImage := do
  let imageRef := ((operation.bind (·.artifact)).bind (·.imageRef)).getD
    (registryImageRef api.platform view.project version)
  match operation.bind (·.operation.buildArtifactId) with
  | some artifactId => pure ⟨some imageRef, some artifactId⟩
  | none =>
    -- Capture the published image once, so every target deploys the same build.
    let artifact ← await (.captureRegistryArtifact operationId)
    pure ⟨some (artifact.imageRef.getD imageRef), some artifact.id⟩

def testedImage (api : Api) (view : EnvironmentView) (version : String) (useRegistry : Bool)
    (operationId : Id) (operation : Option ExecutedOperation) : Async TestedImage :=
  if !useRegistry then pure ⟨none, operation.bind (·.operation.buildArtifactId)⟩
  else match view.project.scmProvider with
    | .github => githubImage api view version operation
    | .gitea => giteaImage api view version operationId operation

def deploymentAllocation (view : EnvironmentView) : Async (Option TargetAllocation) :=
  match view.environment.targetId with
  | none => pure none
  | some targetId => do
    let allocation ← ensureAllocation view.project.workspaceId targetId
    assertAcceptsDeploy allocation.id view.environment.id (templateRuntime view.project.template)
    pure (some allocation)

def handOver (api : Api) (view : EnvironmentView) (useRegistry : Bool) (image : TestedImage)
    (operationId : Id) : Async Bool :=
  match image.imageRef, image.buildArtifactId with
  | some imageRef, some _ =>
    if useRegistry then do
      queueDeployment api.platform api.artifactStoreDurable operationId
        { projectSlug := workloadKey view.project
          imageRef := imageRef
          containerPort := view.project.template.port.getD 8080
          healthPath := view.project.template.healthPath.getD "/health" }
      -- The durable Agent completion owns publication and operation completion.
      pure false
    else throw (.error "Agent deployment requires a CI-tested build artifact")
  | _, _ => throw (.error "Agent deployment requires a CI-tested build artifact")

/-- What follows the provider's answer: the single cancellation poll, then the publication. -/
def publishResult (view : EnvironmentView) (version : String) (image : TestedImage)
    (operationId : Id) (x : Option Execution) (result : DeployResult) : Async Bool := do
  let stopped ← cancelled x operationId
  if stopped then
    let warning ← await (.callTeardown view.environment.id)
    let _ ← await (.publishEmptied view.project.id view.environment.name operationId warning)
    complete x operationId .cancelled (some "Cancelled by user")
    pure false
  else if result.failed then
    throw (.error ((result.reason.filter fun r => !r.isEmpty).getD
      s!"Deployment to '{view.environment.name.text}' failed"))
  else
    let published ← await (.publishDeployment view.project.id view.environment.name operationId
      version image.buildArtifactId result.url view.allocation)
    pure (published == 1)

def deployDirect (view : EnvironmentView) (version : String) (image : TestedImage)
    (operationId : Id) (x : Option Execution) : Async Bool := do
  await (.prepareDeployment operationId)
  let result ← await (.callDeploy operationId view.environment.targetId)
  publishResult view version image operationId x result

def readProject (projectId : Id) : Async Project :=
  await (.query fun db => (db.projects.find? projectId).elim (.error .recordNotFound) .ok)

def readEnvironmentView (projectId : Id) (envName : EnvName) : Async EnvironmentView :=
  await (.query fun db =>
    (db.findEnvironmentView projectId envName).elim (.error .recordNotFound) .ok)

def readExecutedOperation (operationId : Id) : Async (Option ExecutedOperation) :=
  await (.query fun db => .ok <|
    (db.operations.find? operationId).map fun o =>
      ⟨o, o.buildArtifactId.bind db.artifacts.find?⟩)

/-- `execute`; the result says whether it published, and so must complete the operation. -/
def execute (api : Api) (projectId : Id) (envName : EnvName) (version : String)
    (useRegistry : Bool) (operationId : Id) (x : Option Execution) : Async Bool := do
  advancePhase x operationId .assigned (some "Assigned to control plane")
  let _ ← readProject projectId
  let view ← readEnvironmentView projectId envName
  let operation ← readExecutedOperation operationId
  let image ← testedImage api view version useRegistry operationId operation
  let allocation ← deploymentAllocation view
  let _ ← await (.markDeploying projectId envName operationId (allocation.map (·.id)))
  advancePhase x operationId .running (some "Preparing deployment")
  if view.agentBacked then handOver api view useRegistry image operationId
  else deployDirect view version image operationId x

end InitPad
