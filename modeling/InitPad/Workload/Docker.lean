import InitPad.Interleave.Outcome
import InitPad.Workload.Engine
import InitPad.Workload.Payload

/-!
# InitPad.Workload.Docker

The Docker host of an Agent: containers of workloads with their labels, networks, images, and the
calls by which the Agent reads and changes them. Every call can fail: the transport throws, with or
without the effect of the call, or Docker refuses.
-/

namespace InitPad.Workload

open Interleave Engine

/-- The `com.initpad` labels that the Agent reads. -/
structure Labels where
  managed : Option String := none
  target : Option String := none
  allocationId : Option String := none
  allocationNamespace : Option String := none
  project : Option String := none
  environment : Option String := none
  routingMode : Option String := none
  workload : Option String := none
  revision : Option String := none
  workloadSlot : Option String := none
  configFingerprint : Option String := none
  deriving DecidableEq

/-- What a container is created with. `hostPort` is the port that Docker gives the container while
it runs, `durable` the restart policy `unless-stopped`. -/
structure ContainerConfig where
  image : String
  labels : Labels
  network : String
  containerPort : Nat
  hostPort : Option Nat := none
  durable : Bool := false
  deriving DecidableEq

abbrev Container := Engine.Container ContainerConfig

structure Network where
  name : String
  labels : Labels
  deriving DecidableEq

/-- The Docker host; `verified` records the ports on which a workload has passed its health check. -/
structure Docker where
  host : Host ContainerConfig := {}
  networks : List Network := []
  images : List String := []
  verified : List Nat := []

/-- The labels that a list of containers is filtered by; the others are free. -/
def Labels.match (filter labels : Labels) : Bool :=
  let agrees (wanted actual : Option String) : Bool := wanted.all fun value => actual == some value
  agrees filter.managed labels.managed && agrees filter.target labels.target &&
    agrees filter.allocationId labels.allocationId && agrees filter.workload labels.workload &&
    agrees filter.routingMode labels.routingMode

inductive DockerCall : Type → Type where
  | inspectContainer (ref : Ref) : DockerCall Container
  | listContainers (filter : Labels) : DockerCall (List Container)
  | createContainer (name : String) (config : ContainerConfig) : DockerCall Nat
  | startContainer (id : Nat) : DockerCall Unit
  | stopContainer (id : Nat) : DockerCall Unit
  | updateContainer (id : Nat) : DockerCall Unit
  | renameContainer (id : Nat) (name : String) : DockerCall Unit
  | removeContainer (id : Nat) : DockerCall Unit
  | inspectNetwork (name : String) : DockerCall (Network × Bool)
  | createNetwork (network : Network) : DockerCall Unit
  | removeNetwork (name : String) : DockerCall Unit
  | inspectImage (ref : String) : DockerCall Unit
  | loadImage (ref : String) : DockerCall Unit
  | removeImage (ref : String) : DockerCall Unit

namespace Docker

variable (d : Docker)

def occupied (network : String) : Bool :=
  d.host.containers.any fun c => c.running && c.config.network == network

def onHost (host : Host ContainerConfig) : Docker := { d with host := host }

def createContainer (name : String) (config : ContainerConfig) : Response Nat × Docker :=
  if !d.images.contains config.image then (answered 404 none, d)
  else if (d.host.get? (.name name)).isSome then (answered 409 none, d)
  else (answered 201 (some d.host.nextId), d.onHost (d.host.create name config))

def startContainer (hostPort id : Nat) : Response Unit × Docker :=
  match d.host.get? (.id id) with
  | none => (answered 404 none, d)
  | some c =>
    if c.running then (answered 304 none, d)
    else (answered 204 none, d.onHost (d.host.update id fun c =>
      { c with running := true, config := { c.config with hostPort := some hostPort } }))

def stopContainer (id : Nat) : Response Unit × Docker :=
  match d.host.get? (.id id) with
  | none => (answered 404 none, d)
  | some c =>
    if !c.running then (answered 304 none, d)
    else (answered 204 none, d.onHost (d.host.update id fun c =>
      { c with running := false, config := { c.config with hostPort := none } }))

def updateContainer (id : Nat) : Response Unit × Docker :=
  if (d.host.get? (.id id)).isNone then (answered 404 none, d)
  else (answered 200 none, d.onHost (d.host.update id fun c =>
    { c with config := { c.config with durable := true } }))

def renameContainer (id : Nat) (name : String) : Response Unit × Docker :=
  if (d.host.get? (.id id)).isNone then (answered 404 none, d)
  else if (d.host.get? (.name name)).isSome then (answered 409 none, d)
  else (answered 204 none, d.onHost (d.host.rename id name))

def removeContainer (id : Nat) : Response Unit × Docker :=
  if (d.host.get? (.id id)).isNone then (answered 404 none, d)
  else (answered 204 none, d.onHost (d.host.remove id))

def network? (name : String) : Option Network := d.networks.find? fun n => n.name == name

def createNetwork (network : Network) : Response Unit × Docker :=
  if (d.network? network.name).isSome then (answered 409 none, d)
  else (answered 201 none, { d with networks := d.networks ++ [network] })

def removeNetwork (name : String) : Response Unit × Docker :=
  if (d.network? name).isNone then (answered 404 none, d)
  else if d.occupied name then (answered 403 none, d)
  else (answered 204 none, { d with networks := d.networks.filter fun n => n.name != name })

/-- An image that a container uses is kept. -/
def removeImage (ref : String) : Response Unit × Docker :=
  if !d.images.contains ref then (answered 404 none, d)
  else if d.host.containers.any fun c => c.config.image == ref then (answered 409 none, d)
  else (answered 200 none, { d with images := d.images.filter (· != ref) })

end Docker

/-- What happens at a statement: a call can go wrong, a started container gets a port, the workload
answers its health check, and the signal of the job is aborted. -/
structure Input where
  trouble : Option Trouble := none
  hostPort : Nat := 32768
  healthy : Bool := true
  aborted : Bool := false

def DockerCall.answer {β : Type} : DockerCall β → Nat → Docker → Response β × Docker
  | .inspectContainer ref, _, d =>
    (match d.host.get? ref with
      | none => answered 404 none
      | some container => answered 200 (some container), d)
  | .listContainers filter, _, d =>
    (answered 200 (some (d.host.containers.filter fun c => filter.match c.config.labels)), d)
  | .createContainer name config, _, d => d.createContainer name config
  | .startContainer id, hostPort, d => d.startContainer hostPort id
  | .stopContainer id, _, d => d.stopContainer id
  | .updateContainer id, _, d => d.updateContainer id
  | .renameContainer id name, _, d => d.renameContainer id name
  | .removeContainer id, _, d => d.removeContainer id
  | .inspectNetwork name, _, d =>
    (match d.network? name with
      | none => answered 404 none
      | some network => answered 200 (some (network, d.occupied name)), d)
  | .createNetwork network, _, d => d.createNetwork network
  | .removeNetwork name, _, d => d.removeNetwork name
  | .inspectImage ref, _, d =>
    (if d.images.contains ref then answered 200 (some ()) else answered 404 none, d)
  | .loadImage ref, _, d =>
    (answered 200 none, { d with images := d.images.filter (· != ref) ++ [ref] })
  | .removeImage ref, _, d => d.removeImage ref

/-- A refusal has an error code. Docker answers 404 for what does not exist, and for nothing else. -/
def refuses (statusCode : Nat) : Bool := decide (400 ≤ statusCode) && statusCode != 404

def Input.response {β : Type} (i : Input) (call : DockerCall β) (d : Docker) :
    Except AgentError (Response β) :=
  match i.trouble with
  | some (.thrown failure _) => .error (.thrown failure)
  | some (.refused statusCode detail _) =>
    if refuses statusCode then .ok ⟨statusCode, detail, none⟩
    else .ok (call.answer i.hostPort d).1
  | _ => .ok (call.answer i.hostPort d).1

/-- Whether the call takes effect. A request that was refused as wrong has none; after a server
error it may have had one. -/
def Input.applies (i : Input) : Bool :=
  match i.trouble with
  | some (.thrown _ applied) => applied
  | some (.refused statusCode _ applied) =>
    !refuses statusCode || (applied && decide (500 ≤ statusCode))
  | _ => true

structure Progress where
  percent : Nat
  verifying : Bool
  message : String
  deriving DecidableEq

inductive AgentStmt : Type → Type 1 where
  | http {β : Type} (call : DockerCall β) : AgentStmt (Response β)
  /-- The health check of a workload: whether it answers, and with a success. -/
  | fetch (hostPort : Nat) (path : String) : AgentStmt Bool
  | readAborted : AgentStmt Bool
  | sleep : AgentStmt Unit
  | report (progress : Progress) : AgentStmt Unit

def AgentStmt.run {β : Type} : AgentStmt β → Input → Docker → Except AgentError β × Docker
  | .http call, i, d =>
    (i.response call d, if i.applies then (call.answer i.hostPort d).2 else d)
  | .fetch hostPort _, i, d =>
    (.ok i.healthy, if i.healthy then { d with verified := d.verified ++ [hostPort] } else d)
  | .readAborted, i, d => (.ok i.aborted, d)
  | .sleep, _, d => (.ok (), d)
  | .report _, i, d =>
    (match i.trouble with
      | some (.thrown failure _) => .error (.thrown failure)
      | some (.controlPlane message) => .error (.controlPlane message)
      | _ => .ok (), d)

instance : Semantics AgentStmt Input Docker AgentError where
  exec e i d := e.run i d

abbrev OnDocker (α : Type) : Type 1 := Prog AgentStmt AgentError α
abbrev DockerMoment := Moment AgentStmt Input Docker AgentError

def request {β : Type} (call : DockerCall β) : OnDocker (Response β) := Prog.await (.http call)

/-- `this.expect(statuses, …, action)` -/
def expect (statuses : List Nat) (call : DockerCall Unit) (action : String) : OnDocker Unit := do
  let response ← request call
  if !statuses.contains response.statusCode then throw (dockerError response action)
  else pure ()

end InitPad.Workload
