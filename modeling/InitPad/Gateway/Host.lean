import InitPad.Gateway.Text
import InitPad.Interleave.Sequential

/-!
# InitPad.Gateway.Host

The machine of an Agent: the routes of its Caddy, its Docker containers and networks, and the calls
by which the Agent reads and changes them. Every call can fail: the transport throws, with or
without the effect of the call, or the service refuses. A progress report fails like a call to the
control plane.
-/

namespace InitPad

open Interleave

/-- What the client reads of a route object. -/
structure CaddyRoute where
  id : Option String
  hostname : Option String
  upstream : Option String
  deriving DecidableEq

structure RouteDocument where
  routes : List CaddyRoute
  etag : Nat
  deriving DecidableEq

structure Container where
  id : String
  names : List String
  image : Option String
  running : Bool
  labels : List (String × String)
  deriving DecidableEq

/-- A Docker network with the ids of the containers that have an endpoint in it. -/
structure WorkloadNetwork where
  name : String
  labels : List (String × String)
  members : List String
  deriving DecidableEq

structure GatewayHost where
  caddy : RouteDocument
  containers : List Container
  networks : List WorkloadNetwork
  deriving DecidableEq

/-- `memberId === containerId || memberId.startsWith(containerId) || containerId.startsWith(memberId)` -/
def sameContainer (memberId containerId : String) : Bool :=
  memberId == containerId || containerId.toList.isPrefixOf memberId.toList ||
    memberId.toList.isPrefixOf containerId.toList

def containsContainer (network : WorkloadNetwork) (containerId : String) : Bool :=
  network.members.any fun memberId => sameContainer memberId containerId

/-- An error of the transport; `code` is the code of its cause. -/
structure Failure where
  message : String
  code : String := ""
  timeout : Bool := false
  deriving DecidableEq

/-- What the Agent throws. The last two are the ends of a compensated route change. -/
inductive AgentError where
  | thrown (failure : Failure)
  | controlPlane (message : String)
  | incomplete (cause : String) (failures : List String)
  | restored (cause : String) (serving : Bool)
  deriving DecidableEq

def AgentError.message : AgentError → String
  | .thrown failure => failure.message
  | .controlPlane message => message
  | .incomplete cause failures => cause ++ "; rollback incomplete: " ++ "; ".intercalate failures
  | .restored cause true => cause ++ "; previous serving route restored"
  | .restored cause false => cause ++ "; previous gateway state restored"

/-- `new Error(message)` -/
def newError (message : String) : AgentError := .thrown { message := message }

/-! ## Calls -/

inductive HttpCall : Type → Type where
  | getRoutes : HttpCall RouteDocument
  | patchRoutes (etag : Nat) (routes : List CaddyRoute) : HttpCall Unit
  | inspectContainer (name : String) : HttpCall Container
  | listContainers (labels : List (String × String)) : HttpCall (List Container)
  | inspectNetwork (name : String) : HttpCall WorkloadNetwork
  | connectNetwork (name containerId : String) : HttpCall Unit
  | disconnectNetwork (name containerId : String) : HttpCall Unit
  | removeContainer (id : String) : HttpCall Unit
  | stopContainer (id : String) : HttpCall Unit
  | removeImage (image : String) : HttpCall Unit
  | publicHealth (hostname path : String) : HttpCall Unit

structure Response (β : Type) where
  statusCode : Nat
  detail : String
  body : Option β

def answered {β : Type} (statusCode : Nat) (body : Option β) : Response β := ⟨statusCode, "", body⟩

namespace GatewayHost

variable (h : GatewayHost)

def updateNetwork (name : String) (d : WorkloadNetwork → WorkloadNetwork) : GatewayHost :=
  { h with networks := h.networks.map fun n => if n.name == name then d n else n }

/-- A container that is not running has no endpoints. -/
def detach (id : String) : GatewayHost :=
  { h with networks := h.networks.map fun n => { n with members := n.members.filter (· != id) } }

def network? (name : String) : Option WorkloadNetwork := h.networks.find? fun n => n.name == name

def container? (id : String) : Option Container := h.containers.find? fun c => c.id == id

def named (name : String) : Option Container :=
  h.containers.find? fun c => c.id == name || c.names.contains ("/" ++ name)

def connectNetwork (name containerId : String) : Response Unit × GatewayHost :=
  if (h.network? name).isNone then (answered 404 none, h)
  else (answered 200 none,
    h.updateNetwork name fun n => { n with members := n.members ++ [containerId] })

def disconnectNetwork (name containerId : String) : Response Unit × GatewayHost :=
  match h.network? name with
  | none => (answered 404 none, h)
  | some network =>
    if containsContainer network containerId then
      (answered 200 none, h.updateNetwork name fun n =>
        { n with members := n.members.filter fun memberId => !sameContainer memberId containerId })
    else (answered 403 none, h)

def removeContainer (id : String) : Response Unit × GatewayHost :=
  if (h.container? id).isNone then (answered 404 none, h)
  else (answered 204 none,
    detach { h with containers := h.containers.filter fun c => c.id != id } id)

def stopContainer (id : String) : Response Unit × GatewayHost :=
  match h.container? id with
  | none => (answered 404 none, h)
  | some container =>
    if container.running then
      (answered 204 none,
        detach { h with containers := h.containers.map fun c =>
          if c.id == id then { c with running := false } else c } id)
    else (answered 304 none, h)

end GatewayHost

def HttpCall.answer {β : Type} : HttpCall β → GatewayHost → Response β × GatewayHost
  | .getRoutes, h => (answered 200 (some h.caddy), h)
  | .patchRoutes etag routes, h =>
    if etag = h.caddy.etag then
      (answered 200 none, { h with caddy := { routes := routes, etag := etag + 1 } })
    else (answered 412 none, h)
  | .inspectContainer name, h =>
    (match h.named name with
      | none => answered 404 none
      | some container => answered 200 (some container), h)
  | .listContainers labels, h =>
    (answered 200 (some (h.containers.filter fun c =>
      labels.all fun label => c.labels.lookup label.1 == some label.2)), h)
  | .inspectNetwork name, h =>
    (match h.network? name with
      | none => answered 404 none
      | some network => answered 200 (some network), h)
  | .connectNetwork name containerId, h => h.connectNetwork name containerId
  | .disconnectNetwork name containerId, h => h.disconnectNetwork name containerId
  | .removeContainer id, h => h.removeContainer id
  | .stopContainer id, h => h.stopContainer id
  | .removeImage _, h => (answered 200 none, h)
  | .publicHealth .., h => (answered 200 none, h)

/-- What can go wrong with a call. -/
inductive Trouble where
  | thrown (failure : Failure) (applied : Bool)
  | controlPlane (message : String)
  | refused (statusCode : Nat) (detail : String) (applied : Bool)

structure HostInput where
  trouble : Option Trouble := none
  /-- The signal of the job is aborted. -/
  aborted : Bool := false

/-- The Agent's own public endpoint is not Docker's. -/
def HttpCall.isPublic {β : Type} : HttpCall β → Bool
  | .publicHealth .. => true
  | _ => false

/-- A refusal has an error code. Docker answers 404 for what does not exist, and for nothing else. -/
def HttpCall.refuses {β : Type} (call : HttpCall β) (statusCode : Nat) : Bool :=
  decide (400 ≤ statusCode) && (call.isPublic || statusCode != 404)

def HostInput.response {β : Type} (i : HostInput) (call : HttpCall β) (h : GatewayHost) :
    Except AgentError (Response β) :=
  match i.trouble with
  | some (.thrown failure _) => .error (.thrown failure)
  | some (.refused statusCode detail _) =>
    if call.refuses statusCode then .ok ⟨statusCode, detail, none⟩ else .ok (call.answer h).1
  | _ => .ok (call.answer h).1

/-- Whether the call takes effect. A request that was refused as wrong has none; after a server
error it may have had one. -/
def HostInput.applies {β : Type} (i : HostInput) (call : HttpCall β) : Bool :=
  match i.trouble with
  | some (.thrown _ applied) => applied
  | some (.refused statusCode _ applied) =>
    !call.refuses statusCode || (applied && decide (500 ≤ statusCode))
  | _ => true

structure GatewayRouteProgress where
  percent : Nat
  verifying : Bool
  message : String
  deriving DecidableEq

inductive HostStmt : Type → Type 1 where
  | http {β : Type} (call : HttpCall β) : HostStmt (Response β)
  | report (progress : GatewayRouteProgress) : HostStmt Unit
  | readAborted : HostStmt Bool
  | sleep : HostStmt Unit

def HostStmt.run {β : Type} : HostStmt β → HostInput → GatewayHost →
    Except AgentError β × GatewayHost
  | .http call, i, h => (i.response call h, if i.applies call then (call.answer h).2 else h)
  | .report _, i, h =>
    (match i.trouble with
      | some (.thrown failure _) => .error (.thrown failure)
      | some (.controlPlane message) => .error (.controlPlane message)
      | _ => .ok (), h)
  | .readAborted, i, h => (.ok i.aborted, h)
  | .sleep, _, h => (.ok (), h)

instance : Semantics HostStmt HostInput GatewayHost AgentError where
  exec e i h := e.run i h

abbrev OnHost (α : Type) : Type 1 := Prog HostStmt AgentError α
abbrev HostMoment := Moment HostStmt HostInput GatewayHost AgentError

def request {β : Type} (call : HttpCall β) : OnHost (Response β) := Prog.await (.http call)

def dockerError {β : Type} (response : Response β) (action : String) : AgentError :=
  let detail := if response.detail.isEmpty then "" else ": " ++ sliceUnits 300 response.detail
  newError (s!"Docker API {action} returned HTTP {response.statusCode}" ++ detail)

def responseJson {β : Type} (response : Response β) (action : String) : Except AgentError β :=
  if response.statusCode < 200 ∨ 300 ≤ response.statusCode then
    .error (dockerError response action)
  else
    match response.body with
    | none => .error (newError s!"Docker API {action} returned invalid JSON")
    | some value => .ok value

end InitPad
