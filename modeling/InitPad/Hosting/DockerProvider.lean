import InitPad.Hosting.World

/-!
# InitPad.Hosting.DockerProvider

`DockerProvider`: deploy, teardown, stop and start of a container on the control plane's own
daemon, and the names it derives for them. Progress messages, log lines and the limits of a
container are left out.
-/

namespace InitPad.Hosting

open Store Interleave Prog

/-- `safeAllocationNamespace` -/
def safeAllocationNamespace (ns : String) : String :=
  let safe := String.ofList (trimDashes (dashRuns (ns.map Char.toLower).toList))
  if safe.isEmpty then "workspace" else safe

def presentNamespace (ns : Option String) : Option String := ns.filter fun ns => !ns.isEmpty

def dockerNetworkName (env : EnvName) (ns : Option String) : String :=
  match presentNamespace ns with
  | some ns => s!"net-{safeAllocationNamespace ns}-{env.text}"
  | none => s!"net-{env.text}"

def dockerContainerName (projectName : String) (env : EnvName) (ns : Option String) : String :=
  match presentNamespace ns with
  | some ns => s!"initpad-{safeAllocationNamespace ns}-{projectName}-{env.text}"
  | none => s!"initpad-{projectName}-{env.text}"

/-! ## Inputs -/

/-- `DeploymentAllocation`: what a provider reads of it. -/
structure DeploymentAllocation where
  id : Id
  ns : String
  rootPath : Option Path
  publicUrl : Option String
  deriving DecidableEq

/-- `ProviderConnection`: what a provider reads of it besides the credentials. -/
structure ProviderConnection where
  host : String
  port : Nat
  remoteRoot : Path
  publicUrl : String
  deriving DecidableEq

/-- The configuration of the control plane: `publicHost`, `deployHealthHost`, `bindAddress`, and
the built-in SFTP target. -/
structure ProviderConfig where
  publicHost : String
  deployHealthHost : String
  bindAddress : String
  sftpHost : String
  sftpPort : Nat
  sftpRemoteRoot : Path
  sftpPublicUrl : String
  sftpInternalUrl : String
  sftpArtifactSubdir : String

structure DeployInput where
  connection : Option ProviderConnection := none
  allocation : Option DeploymentAllocation := none
  projectName : String
  version : String
  env : EnvName
  /-- The directory of the artifact in the checked out repository, by its subdirectory. -/
  localDir : String → Option (List LocalEntry) := fun _ => none
  port : Option Nat := none
  healthPath : Option String := none
  imageRef : Option String := none
  allowBuildFallback : Bool := false
  artifactDir : Option String := none
  webRoot : Option String := none
  protectedWebLayout : Bool := false
  writableDirs : List Path := []

structure TeardownInput where
  projectName : String
  env : EnvName
  imageRef : Option String := none
  connection : Option ProviderConnection := none
  allocation : Option DeploymentAllocation := none

structure StartInput where
  projectName : String
  env : EnvName
  port : Option Nat := none
  healthPath : Option String := none
  version : Option String := none
  connection : Option ProviderConnection := none
  allocation : Option DeploymentAllocation := none

/-! ## Calls with their error handling -/

/-- `true` if the call succeeds: `try { … return true } catch { return false }` -/
def succeeds {α : Type} (p : OnHosts α) : OnHosts Bool :=
  tryCatch (do let _ ← p; pure true) fun _ => pure false

def isAvailable : OnHosts Bool := succeeds (await .ping)

def imageExists (ref : String) : OnHosts Bool := succeeds (await (.inspectImage ref))

def ensureNetwork (name : String) : OnHosts Unit :=
  tryCatch (await (.inspectNetwork name)) fun _ => await (.createNetwork name)

/-- `tryPull`; the error of a refused pull. -/
def tryPull (ref : String) : OnHosts (Option String) :=
  tryCatch (do await (.pullImage ref); pure none) fun error =>
    pure (some (if error.message.isEmpty then "Unknown Docker registry error" else error.message))

def removeContainer (name : String) : OnHosts Unit :=
  ignoreError (await (.removeContainer (.name name)))

def removeManagedContainers (projectName : String) (env : EnvName) : OnHosts Unit := ignoreError do
  let containers ← await (.listManaged projectName env)
  forEach (fun c => ignoreError (await (.removeContainer (.id c.id)))) containers

def removeImage (tag : String) : OnHosts Unit := ignoreError (await (.removeImage tag))

def imageRepositoryOf (imageRef : String) : Option String :=
  let reversed := imageRef.toList.reverse
  let tag := reversed.takeWhile (· != ':')
  if tag.length = reversed.length || tag.contains '/' then none
  else some (String.ofList (reversed.drop (tag.length + 1)).reverse)

def staleTags (repo imageRef : String) (image : Image) : List String :=
  image.repoTags.filter fun tag => (repo ++ ":").toList.isPrefixOf tag.toList && tag != imageRef

def pruneUnusedRepositoryImages (imageRef : String) : OnHosts Unit :=
  match imageRepositoryOf imageRef with
  | none => pure ()
  | some repo => ignoreError do
    let containers ← await .listContainers
    let images ← await .listImages
    let unused := images.filter fun image => !containers.any fun c => c.imageId == image.id
    forEach (fun tag => ignoreError (await (.removeImage tag)))
      (unused.flatMap (staleTags repo imageRef))

def cleanupImage (imageRef : String) : OnHosts Unit := do
  let available ← isAvailable
  if available then
    removeImage imageRef
    pruneUnusedRepositoryImages imageRef
  else pure ()

/-- At most `attempts` requests until one is answered with 2xx. -/
def pollHealthy (url : String) : Nat → OnHosts Bool
  | 0 => pure false
  | attempts + 1 => do
    let ok ← tryCatch (await (.httpGet url)) fun _ => pure false
    if ok then pure true else pollHealthy url attempts

def waitHealthy (config : ProviderConfig) (hostPort : Nat) (path : String) : OnHosts Bool :=
  let slash := if "/".toList.isPrefixOf path.toList then "" else "/"
  pollHealthy s!"http://{config.deployHealthHost}:{hostPort}{slash}{path}" 20

def loopbackHosts : List String := ["127.0.0.1", "::1", "localhost"]

def dockerHealthFailureReason (config : ProviderConfig) (path : String) : String :=
  let reason := s!"Health check at {path} did not return 2xx within ~10s."
  if !loopbackHosts.contains config.bindAddress || loopbackHosts.contains config.deployHealthHost
  then reason
  else reason ++ s!" The workload port is bound to {config.bindAddress}, but the containerized" ++
    s!" control plane probes {config.deployHealthHost}. For trusted-LAN direct ports set" ++
    " INITPAD_DEPLOY_BIND_ADDRESS=0.0.0.0 and restrict them with the host firewall," ++
    " or use a managed gateway."

/-! ## Deploy -/

/-- The image to run, or the reason why there is none. -/
def resolveImage (input : DeployInput) : OnHosts (Except String String) :=
  let built := s!"initpad/{input.projectName}:{input.env.text}"
  match input.imageRef.filter fun ref => !ref.isEmpty with
  | none => do
    await (.buildImage built)
    pure (.ok built)
  | some imageRef => do
    let present ← imageExists imageRef
    if present then pure (.ok imageRef)
    else
      let pull ← tryPull imageRef
      match pull with
      | none => pure (.ok imageRef)
      | some error =>
        if input.allowBuildFallback then do
          await (.buildImage built)
          pure (.ok built)
        else pure (.error s!"Could not pull tested image {imageRef}: {error}")

/-- `NetworkSettings.Ports?.[port/tcp]`: the published port, else the port itself. -/
def publishedPort (c : Container) (port : Nat) : Nat :=
  if c.spec.containerPort = port then c.hostPort else port

def runContainer (spec : ContainerSpec) : OnHosts Nat := do
  let id ← await (.createContainer spec)
  tryCatch (do
      await (.startContainer (.id id))
      let info ← await (.inspectContainer (.id id))
      pure (publishedPort info spec.containerPort))
    fun error => do
      ignoreError (await (.removeContainer (.id id)))
      throw error

namespace DockerProvider

def namespaceOf (allocation : Option DeploymentAllocation) : Option String := allocation.map (·.ns)

/-- The names tried for a container: with the allocation's namespace, and from before there was
one. -/
def containerNames (projectName : String) (env : EnvName)
    (allocation : Option DeploymentAllocation) : List String :=
  let name := dockerContainerName projectName env (namespaceOf allocation)
  let legacy := dockerContainerName projectName env none
  if legacy = name then [name] else [name, legacy]

def labels (projectName : String) (env : EnvName) (allocation : Option DeploymentAllocation) :
    Labels :=
  { managed := true
    project := projectName
    environment := env
    allocation := allocation.map fun a => (a.id, a.ns) }

def removePrevious (projectName : String) (env : EnvName)
    (allocation : Option DeploymentAllocation) : OnHosts Unit := do
  forEach removeContainer (containerNames projectName env allocation)
  removeManagedContainers projectName env

def failed (reason : String) (url : String) : DeployResult :=
  { failed := true, url := url, reason := some reason }

def verifyHealth (config : ProviderConfig) (input : DeployInput) (containerName : String)
    (hostPort : Nat) : OnHosts DeployResult := do
  let url := s!"http://{config.publicHost}:{hostPort}"
  let path := input.healthPath.getD "/health"
  let healthy ← waitHealthy config hostPort path
  let imageRef := input.imageRef.filter fun ref => !ref.isEmpty
  if healthy then do
    forEach pruneUnusedRepositoryImages imageRef.toList
    pure { url := url }
  else do
    removeContainer containerName
    forEach (fun ref => do
      removeImage ref
      pruneUnusedRepositoryImages ref) imageRef.toList
    pure (failed (dockerHealthFailureReason config path) url)

def deploy (config : ProviderConfig) (input : DeployInput) : OnHosts DeployResult := do
  let available ← isAvailable
  if !available then
    pure (failed "Docker daemon is not available — start Docker and redeploy." "")
  else
    let ns := namespaceOf input.allocation
    let containerName := dockerContainerName input.projectName input.env ns
    ensureNetwork (dockerNetworkName input.env ns)
    let image ← resolveImage input
    match image with
    | .error reason => pure (failed reason "")
    | .ok image =>
      removePrevious input.projectName input.env input.allocation
      let hostPort ← runContainer
        { image := image
          name := containerName
          labels := labels input.projectName input.env input.allocation
          containerPort := input.port.getD 8080 }
      verifyHealth config input containerName hostPort

def teardown (input : TeardownInput) : OnHosts Unit := do
  let available ← isAvailable
  if available then
    removePrevious input.projectName input.env input.allocation
    removeImage s!"initpad/{input.projectName}:{input.env.text}"
  else pure ()

def stopFirst : List String → OnHosts Unit
  | [] => pure ()
  | name :: names => do
    let found ← succeeds (await (.inspectContainer (.name name)))
    if found then ignoreError (await (.stopContainer (.name name))) else stopFirst names

def stop (input : TeardownInput) : OnHosts Unit := do
  let available ← isAvailable
  if available then stopFirst (containerNames input.projectName input.env input.allocation)
  else pure ()

def findContainer : List String → OnHosts (Option String)
  | [] => pure none
  | name :: names => do
    let found ← succeeds (await (.inspectContainer (.name name)))
    if found then pure (some name) else findContainer names

def startNamed (config : ProviderConfig) (input : StartInput) (name : String) :
    OnHosts DeployResult := do
  ignoreError (await (.startContainer (.name name)))
  let info ← tryCatch (some <$> await (.inspectContainer (.name name))) fun _ => pure none
  match info with
  | none => pure (failed "No container to start — it was removed. Use Redeploy." "")
  | some info =>
    if !info.running then pure (failed "Container could not be started." "")
    else
      let hostPort := publishedPort info (input.port.getD 8080)
      let url := s!"http://{config.publicHost}:{hostPort}"
      let healthy ← waitHealthy config hostPort (input.healthPath.getD "/health")
      if healthy then pure { url := url }
      else pure (failed "Health check did not pass after start." url)

def start (config : ProviderConfig) (input : StartInput) : OnHosts DeployResult := do
  let available ← isAvailable
  if !available then pure (failed "Docker daemon is not available." "")
  else
    let found ← findContainer (containerNames input.projectName input.env input.allocation)
    match found with
    | none => pure (failed "Container does not exist." "")
    | some name => startNamed config input name

end DockerProvider

end InitPad.Hosting
