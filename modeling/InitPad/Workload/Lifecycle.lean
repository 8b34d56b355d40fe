import InitPad.Workload.Docker

/-!
# InitPad.Workload.Lifecycle

`DockerLifecycle`: the workload of a payload is looked up, deployed next to the one it replaces,
started, stopped and removed.
-/

namespace InitPad.Workload

open Interleave Prog Engine

inductive WorkloadState where
  | missing | running | stopped
  deriving DecidableEq

structure DockerWorkloadStatus where
  state : WorkloadState
  revision : Option String := none
  hostPort : Option Nat := none
  workloadSlot : Option String := none
  deriving DecidableEq

namespace Agent

variable (agent : Agent) (payload : Payload)

/-! ## Ownership -/

def workloadKey : String :=
  payload.allocationId ++ ":" ++ payload.projectSlug ++ ":" ++ payload.environment

def belongsToWorkload (container : Container) : Bool :=
  let labels := container.config.labels
  labels.target == some agent.targetId && labels.allocationId == some payload.allocationId &&
    labels.workload == some (workloadKey payload)

def matches_ (container : Container) : Bool :=
  agent.belongsToWorkload payload container &&
    container.config.labels.revision == some payload.revision &&
    (payload.configFingerprint.all (·.isEmpty) ||
      container.config.labels.configFingerprint == payload.configFingerprint) &&
    container.config.image == payload.imageRef

def routingModeText : RoutingMode → String
  | .directPort => "direct-port"
  | .managedGateway => "managed-gateway"

def labels : Labels where
  managed := some "true"
  target := some agent.targetId
  allocationId := some payload.allocationId
  allocationNamespace := some payload.namespace_
  project := some payload.projectSlug
  environment := some payload.environment
  routingMode := some (routingModeText payload.routingMode)
  workload := some (workloadKey payload)
  revision := some payload.revision
  workloadSlot :=
    if payload.routingMode = .managedGateway then some (agent.managedWorkloadSlot payload) else none
  configFingerprint := payload.configFingerprint.filter fun fingerprint => !fingerprint.isEmpty

def networkLabels : Labels where
  managed := some "true"
  target := some agent.targetId
  allocationId := some payload.allocationId
  allocationNamespace := some payload.namespace_
  project := some payload.projectSlug
  environment := some payload.environment
  routingMode := some (routingModeText payload.routingMode)

def networkBelongsToAllocation (network : Network) : Bool :=
  let labels := network.labels
  labels.managed == some "true" && labels.target == some agent.targetId &&
    labels.allocationId == some payload.allocationId &&
    labels.allocationNamespace == some payload.namespace_ &&
    labels.environment == some payload.environment &&
    match payload.routingMode with
    | .managedGateway =>
      labels.project == some payload.projectSlug && labels.routingMode == some "managed-gateway"
    | .directPort => labels.routingMode.all (· == "direct-port")

/-- `this.toStatus(container, payload)` for a lifecycle payload. -/
def toStatus (container : Container) : DockerWorkloadStatus where
  state := if container.running then .running else .stopped
  revision := container.config.labels.revision
  hostPort :=
    if container.config.containerPort = payload.containerPort then
      container.config.hostPort.filter fun port => decide (0 < port)
    else none
  workloadSlot :=
    if payload.routingMode = .managedGateway then
      some (container.config.labels.workloadSlot.getD (agent.managedWorkloadSlot payload))
    else none

def inspectContainer (ref : Ref) : OnDocker (Option Container) := do
  let response ← request (.inspectContainer ref)
  if response.statusCode = 404 then pure none
  else
    let container ← .ret (responseJson response "inspect container")
    pure (some container)

def ownedContainer (name : String) : OnDocker (Option Container) := do
  let container ← inspectContainer (.name name)
  if container.any fun c => !agent.belongsToWorkload payload c then
    throw (newError ("Docker container name collision outside allocation '" ++
      payload.allocationId ++ "'"))
  else pure container

def legacyOwnedContainer (name : String) : OnDocker (Option Container) := do
  let container ← inspectContainer (.name name)
  pure (container.filter (agent.belongsToWorkload payload))

def desiredDirectContainer : OnDocker (Option Container) := do
  let current ← agent.ownedContainer payload (agent.workloadContainerName payload)
  if current.isSome then pure current
  else agent.legacyOwnedContainer payload (agent.legacyWorkloadContainerName payload)

def firstMatching : List String → OnDocker (Option Container)
  | [] => pure none
  | name :: names => do
    let legacy ← agent.legacyOwnedContainer payload name
    if legacy.any (agent.matches_ payload) then pure legacy else firstMatching names

def desiredManagedContainer : OnDocker (Option Container) := do
  let desired ← agent.ownedContainer payload (agent.containerName payload)
  match desired with
  | some container =>
    if !agent.matches_ payload container then
      throw (newError "Managed workload slot collides with another immutable deployment")
    else pure (some container)
  | none =>
    agent.firstMatching payload
      [agent.legacyManagedWorkloadContainerName payload (agent.managedWorkloadSlot payload),
        agent.legacyWorkloadContainerName payload]

def desiredContainer : OnDocker (Option Container) :=
  match payload.routingMode with
  | .managedGateway => agent.desiredManagedContainer payload
  | .directPort => agent.ownedContainer payload (agent.containerName payload)

def removeContainer (id : Nat) : OnDocker Unit :=
  expect [204, 404] (.removeContainer id) "remove container"

/-! ## Health -/

/-- The attempts that are left of `waitHealthy`. -/
def healthAttempts (hostPort : Nat) (path : String) : Nat → OnDocker Bool
  | 0 => pure false
  | attempts + 1 => do
    let aborted ← await .readAborted
    if aborted then pure false
    else
      let ok ← await (.fetch hostPort path)
      if ok then pure true
      else
        await .sleep
        healthAttempts hostPort path attempts

def waitHealthy (container : Container) : OnDocker Bool :=
  if !container.running then pure false
  else if container.config.containerPort ≠ payload.containerPort then pure false
  else
    match container.config.hostPort.filter fun port => decide (1 ≤ port ∧ port ≤ 65535) with
    | none => pure false
    | some hostPort => healthAttempts hostPort payload.healthPath 20

end Agent

section Operations

variable (agent : Agent) (payload : Payload)

def status : OnDocker DockerWorkloadStatus := do
  let desired ← .ret (validatedPayload payload)
  let container ← agent.desiredContainer desired
  pure (container.elim ⟨.missing, none, none, none⟩ (agent.toStatus desired))

def healthy : OnDocker Bool := do
  let desired ← .ret (validatedPayload payload)
  let container ← agent.desiredContainer desired
  match container with
  | some container => Agent.waitHealthy desired container
  | none => pure false

def stop : OnDocker Unit := do
  let desired ← .ret (validatedPayload payload)
  let container ← agent.desiredContainer desired
  match container with
  | some container =>
    if container.running then expect [204, 304] (.stopContainer container.id) "stop container"
    else pure ()
  | none => pure ()

def start : OnDocker Unit := do
  let desired ← .ret (validatedPayload payload)
  let container ← agent.desiredContainer desired
  match container with
  | none => throw (newError "Workload does not exist")
  | some container =>
    if container.running then pure ()
    else expect [204, 304] (.startContainer container.id) "start container"
    let ok ← healthy agent desired
    if ok then pure () else throw (newError "Workload failed its health check after start")

/-! ## Networks and images -/

def assertNetworkOwnership (network : Network) : Except AgentError Unit :=
  if agent.networkBelongsToAllocation payload network then .ok ()
  else .error (newError ("Docker network name collision outside allocation '" ++
    payload.allocationId ++ "'"))

def ensureNetwork : OnDocker Unit := do
  let name := agent.workloadNetworkName payload
  let inspected ← request (.inspectNetwork name)
  if inspected.statusCode = 200 then
    let network ← .ret (responseJson inspected "inspect network")
    .ret (assertNetworkOwnership agent payload network.1)
  else if inspected.statusCode ≠ 404 then throw (dockerError inspected "inspect network")
  else
    let created ← request (.createNetwork ⟨name, agent.networkLabels payload⟩)
    if created.statusCode = 201 then pure ()
    else if created.statusCode ≠ 409 then throw (dockerError created "create network")
    else
      let raced ← request (.inspectNetwork name)
      let network ← .ret (responseJson raced "inspect raced network")
      .ret (assertNetworkOwnership agent payload network.1)

def removeNamedNetworkIfEmpty (name : String) (legacy : Bool) : OnDocker Unit := do
  let inspected ← request (.inspectNetwork name)
  if inspected.statusCode = 404 then pure ()
  else
    let network ← .ret (responseJson inspected "inspect network")
    if legacy && !agent.networkBelongsToAllocation payload network.1 then pure ()
    else
      .ret (assertNetworkOwnership agent payload network.1)
      if network.2 then pure ()
      else expect [204, 404] (.removeNetwork name) "remove empty workload network"

def removeNetworkIfEmpty : OnDocker Unit := do
  removeNamedNetworkIfEmpty agent payload (agent.workloadNetworkName payload) false
  removeNamedNetworkIfEmpty agent payload (agent.legacyWorkloadNetworkName payload) true

def imageExists (imageRef : String) : OnDocker Bool := do
  let response ← request (.inspectImage imageRef)
  if response.statusCode = 404 then pure false
  else
    let _ ← .ret (responseJson response "inspect image")
    pure true

def removeImage (imageRef : String) : OnDocker Unit := do
  let response ← request (.removeImage imageRef)
  if !([200, 404, 409].contains response.statusCode) then throw (dockerError response "remove image")
  else pure ()

/-- The archive is verified while it is streamed; a wrong one makes the request throw. -/
def loadImageArchive (imageRef : String) : OnDocker Unit := do
  if !isProjectImageRef imageRef.toList then throw (newError "Tested image reference is invalid")
  else
    let response ← request (.loadImage imageRef)
    if response.statusCode < 200 ∨ 300 ≤ response.statusCode then
      throw (dockerError response "load image archive")
    else
      let present ← imageExists imageRef
      if !present then
        throw (newError "Loaded image archive did not create its expected tested tag")
      else pure ()

/-! ## Deployment -/

def removeOwned (name : String) : OnDocker Unit := do
  let container ← agent.ownedContainer payload name
  match container with
  | some container => Agent.removeContainer container.id
  | none => pure ()

def removeLegacy (name : String) : OnDocker Unit := do
  let container ← agent.legacyOwnedContainer payload name
  match container with
  | some container => Agent.removeContainer container.id
  | none => pure ()

def discardCandidate : OnDocker Unit := do
  let existingCandidate ← agent.ownedContainer payload (agent.candidateName payload)
  match existingCandidate with
  | some container =>
    if agent.matches_ payload container then pure () else Agent.removeContainer container.id
  | none => pure ()

def startCandidate : OnDocker (Option Container) := do
  let candidate ← Agent.inspectContainer (.name (agent.candidateName payload))
  match candidate with
  | none =>
    let created ← request (.createContainer (agent.candidateName payload)
      { image := payload.imageRef
        labels := agent.labels payload
        network := agent.workloadNetworkName payload
        containerPort := payload.containerPort })
    let id ← .ret (responseJson created "create container")
    expect [204, 304] (.startContainer id) "start candidate"
    Agent.inspectContainer (.id id)
  | some container =>
    if container.running then pure (some container)
    else
      expect [204, 304] (.startContainer container.id) "start candidate"
      Agent.inspectContainer (.id container.id)

def verifyCandidate (candidate : Option Container) : OnDocker Container :=
  match candidate with
  | none => throw (newError "Candidate workload failed its health check")
  | some container => do
    let ok ← Agent.waitHealthy payload container
    if ok then pure container
    else
      ignoreError (Agent.removeContainer container.id)
      throw (newError "Candidate workload failed its health check")

def publish (current : Option Container) (candidate : Container) : OnDocker Unit := do
  expect [200] (.updateContainer candidate.id) "set durable restart policy"
  match current with
  | some container => Agent.removeContainer container.id
  | none => pure ()
  expect [204] (.renameContainer candidate.id (agent.containerName payload)) "publish candidate"

/-- The deployment of a payload that no container matches yet. -/
def replaceContainer (current : Option Container) : OnDocker DockerWorkloadStatus := do
  ensureNetwork agent payload
  forEach (removeLegacy agent payload) (agent.legacyCandidateNames payload)
  discardCandidate agent payload
  let candidate ← startCandidate agent payload
  let verified ← verifyCandidate payload candidate
  publish agent payload current verified
  status agent payload

def currentContainer : OnDocker (Option Container) :=
  match payload.routingMode with
  | .managedGateway => agent.desiredManagedContainer payload
  | .directPort => agent.desiredDirectContainer payload

def deploy : OnDocker DockerWorkloadStatus := do
  let desired ← .ret (validatedPayload payload)
  let current ← currentContainer agent desired
  match current.filter (agent.matches_ desired) with
  | some container =>
    if container.running then pure () else start agent desired
    let ok ← healthy agent desired
    if ok then status agent desired
    else throw (newError "Existing workload failed its health check")
  | none => replaceContainer agent desired current

/-- Only an image that the failed attempt has introduced is discarded. -/
def discardImage {α : Type} (imageRef : String) (imageWasPresent : Bool) (error : AgentError) :
    OnDocker α := do
  if imageWasPresent then throw error
  else
    let aborted ← await .readAborted
    if aborted then throw error
    else
      ignoreError (removeImage imageRef)
      throw error

/-- `delivery` is the outcome of `parseProjectDelivery`. -/
def deployProject (delivery : Except AgentError Unit) : OnDocker DockerWorkloadStatus := do
  let payload ← .ret (parseProjectPayload payload)
  .ret delivery
  let imageWasPresent ← tryCatch
    (do
      await (.report ⟨8, false, "Receiving verified image artifact"⟩)
      imageExists payload.imageRef)
    (discardImage payload.imageRef false)
  tryCatch
    (do
      loadImageArchive payload.imageRef
      await (.report ⟨38, false, "Creating isolated candidate workload"⟩)
      let status ← deploy agent payload
      await (.report ⟨82, true, "Verifying published workload health"⟩)
      let ok ← if status.state ≠ .running then pure false else healthy agent payload
      if !ok then throw (newError "Published workload did not pass final health verification")
      else
        await (.report ⟨96, true, "Publishing deployment result"⟩)
        pure status)
    (discardImage payload.imageRef imageWasPresent)

def remove : OnDocker Unit := do
  let desired ← .ret (validatedPayload payload)
  forEach (removeOwned agent desired) [agent.containerName desired, agent.candidateName desired]
  forEach (removeLegacy agent desired) (agent.legacyContainerNames desired)

/-- `ownedManagedRevisions` -/
def revisionFilter : Labels where
  managed := some "true"
  target := some agent.targetId
  allocationId := some payload.allocationId
  workload := some (Agent.workloadKey payload)
  routingMode := some "managed-gateway"

def isRevision (container : Container) : Bool :=
  let labels := container.config.labels
  labels.managed == some "true" && labels.target == some agent.targetId &&
    labels.allocationId == some payload.allocationId &&
    labels.allocationNamespace == some payload.namespace_ &&
    labels.project == some payload.projectSlug &&
    labels.environment == some payload.environment &&
    labels.workload == some (Agent.workloadKey payload) &&
    labels.routingMode == some "managed-gateway" && isContainerName container.name.toList

def ownedManagedRevisions : OnDocker (List Container) := do
  let response ← request (.listContainers (revisionFilter agent payload))
  let containers ← .ret (responseJson response "list managed workload revisions")
  if containers.length > 256 then
    throw (newError "Docker returned an invalid managed workload revision list")
  else if containers.any fun container => !isRevision agent payload container then
    throw (newError "Docker returned a workload outside the managed project allocation")
  else pure containers

/-- An image that the Agent may remove with its container. -/
def ownImage (image : String) : Bool :=
  isProjectImageRef image.toList || isImageRef image.toList

def removeProject : OnDocker Unit := do
  let desired ← .ret (validatedPayload payload)
  let images ←
    match desired.routingMode with
    | .managedGateway => do
      let revisions ← ownedManagedRevisions agent desired
      forEach (fun revision => Agent.removeContainer revision.id) revisions
      pure ((revisions.map (·.config.image)).filter ownImage)
    | .directPort => do
      remove agent desired
      pure []
  forEach removeImage (desired.imageRef :: images).eraseDups
  removeNetworkIfEmpty agent desired

end Operations

end InitPad.Workload
