import InitPad.Gateway.Payload

/-!
# InitPad.Gateway.GatewayNetwork

`GatewayDockerNetwork`: the gateway container joins and leaves the networks of a workload, and the
revisions of the workload are identified, retired or discarded.
-/

namespace InitPad

open Interleave Prog

def label (labels : List (String × String)) (key : String) : Option String := labels.lookup key

namespace GatewayAgent

variable (agent : GatewayAgent) (payload : GatewayRoutePayload)

def inspectGateway : OnHost Container := do
  if !isContainerName agent.gatewayContainer.toList then
    throw (newError "INITPAD_AGENT_GATEWAY_CONTAINER must name one local gateway container")
  else
    let response ← request (.inspectContainer agent.gatewayContainer)
    let gateway ← .ret (responseJson response "inspect configured gateway")
    if gateway.id.isEmpty ∨ label gateway.labels "com.initpad.gateway" ≠ some "true" ∨
        !gateway.running then
      throw (newError "Configured gateway container is not a running InitPad gateway")
    else pure gateway

/-! ## Workloads -/

def workloadKeyOf : String :=
  payload.allocationId ++ ":" ++ payload.projectSlug ++ ":" ++ payload.environment

def workloadFilter : List (String × String) :=
  [("com.initpad.managed", "true"), ("com.initpad.target", agent.targetId),
    ("com.initpad.allocation.id", payload.allocationId),
    ("com.initpad.workload", workloadKeyOf payload),
    ("com.initpad.routing.mode", "managed-gateway")]

def ownsWorkload (container : Container) : Bool :=
  !container.id.isEmpty && label container.labels "com.initpad.managed" == some "true" &&
    label container.labels "com.initpad.target" == some agent.targetId &&
    label container.labels "com.initpad.allocation.id" == some payload.allocationId &&
    label container.labels "com.initpad.allocation.namespace" == some payload.namespace_ &&
    label container.labels "com.initpad.project" == some payload.projectSlug &&
    label container.labels "com.initpad.environment" == some payload.environment &&
    label container.labels "com.initpad.workload" == some (workloadKeyOf payload) &&
    label container.labels "com.initpad.routing.mode" == some "managed-gateway"

def containerName (container : Container) : Option String :=
  match container.names with
  | [name] =>
    match name.toList with
    | '/' :: rest => if isContainerName rest then some (String.ofList rest) else none
    | _ => none
  | _ => none

def ownedWorkloads : OnHost (List Container) := do
  let response ← request (.listContainers (workloadFilter agent payload))
  let containers ← .ret (responseJson response "list managed workloads")
  if containers.length > 256 then
    throw (newError "Docker returned an invalid managed workload list")
  else if containers.any fun container => !agent.ownsWorkload payload container then
    throw (newError "Docker returned a workload outside the managed route allocation")
  else if containers.any fun container => (containerName container).isNone then
    throw (newError "Managed workload has an invalid Docker name")
  else pure containers

def isCandidate (slot : String) (container : Container) : Bool :=
  let name := containerName container
  container.running && label container.labels "com.initpad.revision" == payload.revision &&
    (((name == some (agent.managedWorkloadContainerName payload slot) ||
        name == some (agent.legacyManagedWorkloadContainerName payload slot)) &&
      label container.labels "com.initpad.workload.slot" == some slot) ||
    (name == some (agent.legacyWorkloadContainerName payload) &&
      (label container.labels "com.initpad.workload.slot").isNone))

def activeWorkload : OnHost Container := do
  match payload.workloadSlot, payload.revision with
  | some slot, some _ =>
    let containers ← agent.ownedWorkloads payload
    match containers.filter (agent.isCandidate payload slot) with
    | [container] => pure container
    | _ => throw (newError
        "Managed gateway could not identify exactly one healthy workload revision")
  | _, _ => throw (newError "Active managed route has no workload identity")

/-! ## Networks -/

def ownsNetwork (network : WorkloadNetwork) : Bool :=
  label network.labels "com.initpad.managed" == some "true" &&
    label network.labels "com.initpad.target" == some agent.targetId &&
    label network.labels "com.initpad.allocation.id" == some payload.allocationId &&
    label network.labels "com.initpad.allocation.namespace" == some payload.namespace_ &&
    label network.labels "com.initpad.project" == some payload.projectSlug &&
    label network.labels "com.initpad.environment" == some payload.environment &&
    label network.labels "com.initpad.routing.mode" == some "managed-gateway"

def inspectNetwork (name : String) (legacy : Bool) : OnHost (Option WorkloadNetwork) := do
  let response ← request (.inspectNetwork name)
  if response.statusCode = 404 then pure none
  else
    let network ← .ret (responseJson response "inspect workload network")
    if agent.ownsNetwork payload network then pure (some network)
    else if legacy then pure none
    else throw (newError ("Docker network name collision outside allocation '" ++
      payload.allocationId ++ "'"))

/-- The networks of the workload, with the names they were inspected under. -/
def ownedNetworks : OnHost (List (String × WorkloadNetwork)) := do
  let scopedName := agent.workloadNetworkName payload
  let legacyName := agent.legacyWorkloadNetworkName payload
  let own ← agent.inspectNetwork payload scopedName false
  let legacy ← agent.inspectNetwork payload legacyName true
  pure ((own.map fun network => (scopedName, network)).toList ++
    (legacy.map fun network => (legacyName, network)).toList)

def connect : OnHost Unit := do
  let gateway ← agent.inspectGateway
  let workload ← agent.activeWorkload payload
  let networks ← agent.ownedNetworks payload
  match networks.filter fun entry => containsContainer entry.2 workload.id with
  | [(name, network)] =>
    if containsContainer network gateway.id then pure ()
    else
      let response ← request (.connectNetwork name gateway.id)
      if response.statusCode ≠ 200 ∧ response.statusCode ≠ 403 then
        throw (dockerError response "connect gateway to workload network")
      else
        let verified ← agent.inspectNetwork payload name false
        if verified.any fun network => containsContainer network gateway.id then pure ()
        else throw (newError
          "Docker did not connect the configured gateway to the workload network")
  | _ => throw (newError
      "Managed workload is not attached to exactly one owned allocation network")

def leaveNetwork (gateway : Container) (name : String) (network : WorkloadNetwork) :
    OnHost Unit := do
  if !containsContainer network gateway.id then pure ()
  else
    let response ← request (.disconnectNetwork name gateway.id)
    if response.statusCode ≠ 200 ∧ response.statusCode ≠ 403 then
      throw (dockerError response "disconnect gateway from workload network")
    else
      let verified ← agent.inspectNetwork payload name false
      if verified.all fun network => containsContainer network gateway.id then
        throw (newError
          "Docker did not disconnect the configured gateway from the workload network")
      else pure ()

def disconnect : OnHost Unit := do
  let gateway ← agent.inspectGateway
  let networks ← agent.ownedNetworks payload
  Prog.forEach (fun entry => agent.leaveNetwork payload gateway entry.1 entry.2) networks

def shortId (container : Container) : String := String.ofList (container.id.toList.take 12)

def upstreamOf (container : Container) : String :=
  shortId container ++ ":" ++ toString payload.containerPort

def resolveUpstream : OnHost String := do
  let workload ← agent.activeWorkload payload
  if !isContainerId workload.id.toList then
    throw (newError "Managed workload has an invalid Docker container ID")
  else pure (upstreamOf payload workload)

/-- Remove a superseded revision and its image. -/
def retire (workload : Container) : OnHost Unit := do
  let response ← request (.removeContainer workload.id)
  if response.statusCode ≠ 204 ∧ response.statusCode ≠ 404 then
    throw (dockerError response "remove superseded managed workload")
  else
    match workload.image.filter fun image => isProjectImageRef image.toList with
    | none => pure ()
    | some image =>
      let removed ← request (.removeImage image)
      if removed.statusCode ≠ 200 ∧ removed.statusCode ≠ 404 ∧ removed.statusCode ≠ 409 then
        throw (dockerError removed "remove superseded managed image")
      else pure ()

def commit : OnHost Unit := do
  if payload.activation ≠ some .deploy then pure ()
  else
    let active ← agent.activeWorkload payload
    let workloads ← agent.ownedWorkloads payload
    Prog.forEach (fun workload => retire workload)
      (workloads.filter fun workload => workload.id != active.id)

def rollback : OnHost Unit := do
  let active ← agent.activeWorkload payload
  match payload.activation with
  | some .deploy =>
    let response ← request (.removeContainer active.id)
    if response.statusCode ≠ 204 ∧ response.statusCode ≠ 404 then
      throw (dockerError response "discard failed managed workload")
    else pure ()
  | some .start =>
    let response ← request (.stopContainer active.id)
    if response.statusCode ≠ 204 ∧ response.statusCode ≠ 304 then
      throw (dockerError response "restore stopped managed workload")
    else pure ()
  | none => pure ()

end GatewayAgent

end InitPad
