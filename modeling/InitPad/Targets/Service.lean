import InitPad.Deployment.Types
import InitPad.Interleave.Run

/-!
# InitPad.Targets.Service

`TargetsService` on one target: `update`, `disconnect`, `retire`, `restore` and `verify`. A statement
is one database query or transaction, or the connection test. `aside` is an awaited step that can
only refuse: an authorization, an endpoint check, an audit record. What the transactions write to
allocations, gateway columns, Agents, jobs and operations is left out.

A statement that fails may have been carried out. Requests can hold a JSON `null` where the DTO
says optional, so a nullable column is written by an optional optional value.
-/

namespace InitPad.Targets

open Interleave
open Prog (await refuseIf lift)

/-! ## The row -/

/-- The settings that a connection test depends on, and the capabilities claimed for the server. -/
structure ConnectionSettings where
  host : Option String
  port : Option Nat
  username : Option String
  auth : Option String
  secret : Option String
  hostKeyFingerprint : Option String
  remotePath : Option String
  publicUrl : Option String
  capabilities : List RuntimeKind
  deriving DecidableEq

structure TargetRow extends ConnectionSettings where
  name : String
  kind : ProviderKind
  scope : TargetScope
  managementState : ManagementState
  managementStateChangedAt : Option Time
  routingMode : RoutingMode
  verifiedAt : Option Time
  deriving DecidableEq

structure ProviderConnection where
  host : String
  port : Nat
  username : String
  privateKey : Bool
  secret : String
  hostKeyFingerprint : String
  remoteRoot : String
  publicUrl : String
  deriving DecidableEq

/-- `if (!text)` -/
def missing (text : Option String) : Bool := text.all (· = "")

/-- The live connection, or none for a built-in. -/
def connectionForTarget (target : TargetRow) (allowDisconnected : Bool) :
    Except String (Option ProviderConnection) :=
  if target.scope = .user && target.managementState ≠ .active && !allowDisconnected then
    .error ("Target '" ++ target.name ++ "' is " ++ target.managementState.text ++
      " and cannot receive management commands")
  else if target.scope ≠ .user || missing target.host then .ok none
  else if missing target.secret then
    .error ("Target '" ++ target.name ++ "' has no management credential")
  else if missing target.hostKeyFingerprint then
    .error ("Target '" ++ target.name ++ "' has no trusted SSH host-key fingerprint. Edit the " ++
      "server and add its SHA256 fingerprint before reconnecting.")
  else .ok (some {
    host := target.host.getD ""
    port := target.port.getD 22
    username := target.username.getD ""
    privateKey := target.auth = some "key"
    secret := target.secret.getD ""
    hostKeyFingerprint := target.hostKeyFingerprint.getD ""
    remoteRoot := target.remotePath.getD ""
    publicUrl := target.publicUrl.getD "" })

/-! ## Changes -/

/-- The `data` of `update`; `secret` is set when the request has one. -/
structure TargetPatch where
  name : Option String := none
  host : Option (Option String) := none
  port : Option (Option Nat) := none
  username : Option (Option String) := none
  auth : Option (Option String) := none
  secret : Option String := none
  hostKeyFingerprint : Option (Option String) := none
  remotePath : Option (Option String) := none
  publicUrl : Option (Option String) := none
  capabilities : Option (List RuntimeKind) := none
  routingMode : Option RoutingMode := none
  /-- `verifiedAt: null` -/
  connectionChanged : Bool := false
  deriving DecidableEq

def TargetPatch.settings (patch : TargetPatch) (target : TargetRow) : ConnectionSettings where
  host := patch.host.getD target.host
  port := patch.port.getD target.port
  username := patch.username.getD target.username
  auth := patch.auth.getD target.auth
  secret := patch.secret.or target.secret
  hostKeyFingerprint := patch.hostKeyFingerprint.getD target.hostKeyFingerprint
  remotePath := patch.remotePath.getD target.remotePath
  publicUrl := patch.publicUrl.getD target.publicUrl
  capabilities := patch.capabilities.getD target.capabilities

def TargetPatch.apply (patch : TargetPatch) (target : TargetRow) : TargetRow where
  toConnectionSettings := patch.settings target
  name := patch.name.getD target.name
  kind := target.kind
  scope := target.scope
  managementState := target.managementState
  managementStateChangedAt := target.managementStateChangedAt
  routingMode := patch.routingMode.getD target.routingMode
  verifiedAt := if patch.connectionChanged then none else target.verifiedAt

/-- The updates of the row, all by id alone. -/
inductive Change where
  /-- `update` -/
  | edited (patch : TargetPatch)
  /-- `makeUnavailable` -/
  | unavailable (nextState : ManagementState)
  /-- `restore` -/
  | restored
  /-- `verify` -/
  | verified (reconnecting : Bool)
  deriving DecidableEq

def Change.apply (now : Time) (target : TargetRow) : Change → TargetRow
  | .edited patch => patch.apply target
  | .unavailable nextState =>
    { target with
      managementState := nextState
      managementStateChangedAt := some now
      verifiedAt := none
      secret := if target.kind = .docker then target.secret else none }
  | .restored =>
    { target with
      managementState := .disconnected
      managementStateChangedAt := some now
      verifiedAt := none }
  | .verified reconnecting =>
    { target with
      verifiedAt := some now
      managementState := .active
      managementStateChangedAt :=
        if reconnecting then some now else target.managementStateChangedAt }

structure World where
  now : Time
  target : TargetRow

inductive Stmt : Type → Type 1 where
  | aside (what : String) : Stmt Unit
  | findTarget : Stmt TargetRow
  | countEnvironments (active : Bool) : Stmt Nat
  | nameTaken (name : String) : Stmt Bool
  | testConnection (target : TargetRow) (connection : Option ProviderConnection) : Stmt Bool
  | updateTarget (change : Change) : Stmt Unit

structure Fault where
  message : String
  carriedOut : Bool
  deriving DecidableEq

/-- What the environment of a statement decides: other tables, the server, and faults. -/
structure TargetInput where
  elapsed : Nat := 0
  fault : Option Fault := none
  count : Nat := 0
  answer : Bool := true

def Stmt.run {β : Type} (e : Stmt β) (i : TargetInput) (w : World) : Except String β × World :=
  match e with
  | .aside _ => (.ok (), w)
  | .findTarget => (.ok w.target, w)
  | .countEnvironments _ => (.ok i.count, w)
  | .nameTaken _ => (.ok i.answer, w)
  | .testConnection .. => (.ok i.answer, w)
  | .updateTarget change => (.ok (), { w with target := change.apply w.now w.target })

def World.tick (w : World) (elapsed : Nat) : World := { w with now := w.now + elapsed }

instance : Semantics Stmt TargetInput World String where
  exec e i w :=
    let w := w.tick i.elapsed
    match i.fault with
    | some fault => (.error fault.message, if fault.carriedOut then (e.run i w).2 else w)
    | none => e.run i w

abbrev TargetCall (α : Type) : Type 1 := Prog Stmt String α

/-! ## Requests -/

structure UpdateTargetDto where
  name : Option String := none
  kind : Option ProviderKind := none
  routingMode : Option RoutingMode := none
  capabilities : Option (List RuntimeKind) := none
  host : Option (Option String) := none
  port : Option (Option Nat) := none
  username : Option (Option String) := none
  auth : Option (Option String) := none
  secret : Option (Option String) := none
  hostKeyFingerprint : Option (Option String) := none
  remotePath : Option (Option String) := none
  publicUrl : Option (Option String) := none
  deriving DecidableEq

/-- `toCsv`: without duplicates and in alphabetical order -/
def toCsv (capabilities : List RuntimeKind) : List RuntimeKind :=
  [RuntimeKind.node, .php, .python, .static].filter capabilities.contains

namespace UpdateTargetDto

variable (dto : UpdateTargetDto) (row : TargetRow)

def hasConnectionField : Bool :=
  dto.host.isSome || dto.port.isSome || dto.username.isSome || dto.auth.isSome ||
    dto.secret.isSome || dto.hostKeyFingerprint.isSome || dto.remotePath.isSome ||
    dto.publicUrl.isSome

/-- `assertNoRemoteCredentials` -/
def hasRemoteCredentials : Bool :=
  dto.host.isSome || dto.port.isSome || dto.username.isSome || dto.auth.isSome ||
    dto.secret.isSome || dto.remotePath.isSome || dto.hostKeyFingerprint.isSome

def capabilitiesChanged : Bool :=
  dto.capabilities.any fun capabilities => toCsv capabilities ≠ toCsv row.capabilities

def capabilitiesRemoved : Bool :=
  dto.capabilities.any fun capabilities =>
    row.capabilities.any fun capability => !capabilities.contains capability

def nextRoutingMode : RoutingMode := dto.routingMode.getD row.routingMode

def routingChanged : Bool := dto.nextRoutingMode row ≠ row.routingMode

def nextPublicUrl : String := ((dto.publicUrl.getD none).or row.publicUrl).getD ""

def managedOriginChanged : Bool :=
  row.kind = .docker && dto.nextRoutingMode row = .managedGateway && dto.publicUrl.isSome &&
    some (dto.nextPublicUrl row) ≠ row.publicUrl

def connectionChanged : Bool :=
  row.kind ≠ .docker && (dto.hasConnectionField || dto.capabilitiesChanged row)

def patch : TargetPatch where
  name := dto.name
  host := dto.host
  port := dto.port
  username := dto.username
  auth := dto.auth
  secret := (dto.secret.getD none).filter (· ≠ "")
  hostKeyFingerprint := dto.hostKeyFingerprint
  remotePath := dto.remotePath
  publicUrl :=
    if dto.publicUrl.isSome || dto.routingChanged row then some (some (dto.nextPublicUrl row))
    else none
  capabilities := dto.capabilities.map toCsv
  routingMode := dto.routingMode
  connectionChanged := dto.connectionChanged row

end UpdateTargetDto

/-! ## The service -/

def getVisibleTarget : TargetCall TargetRow := do
  let row ← await .findTarget
  await (.aside "edition and workspace permission")
  return row

def getUserTarget : TargetCall TargetRow := do
  let row ← getVisibleTarget
  refuseIf (row.scope = .builtin) "Built-in targets cannot be modified"
  return row

def refuseInUse (changes : Bool) (message : String) : TargetCall Unit :=
  if changes then do
    let inUse ← await (.countEnvironments false)
    refuseIf (0 < inUse) message
  else pure ()

def checkEndpoint (dto : UpdateTargetDto) (row : TargetRow) : TargetCall Unit :=
  if row.kind = .docker then do
    refuseIf dto.hasRemoteCredentials
      "Agent-backed Docker targets must not contain inbound host credentials"
    await (.aside "the public URL of an Agent-backed target")
  else do
    refuseIf (dto.routingMode = some .managedGateway)
      "Managed gateway routing is available only for Docker Agent targets"
    await (.aside "assertSafeEndpoint")

def checkName (dto : UpdateTargetDto) (row : TargetRow) : TargetCall Unit :=
  match dto.name with
  | none => pure ()
  | some name =>
    if name = "" || name = row.name then pure ()
    else do
      let duplicate ← await (.nameTaken name)
      refuseIf duplicate ("You already have a target named '" ++ name ++ "'")

def update (dto : UpdateTargetDto) : TargetCall Unit := do
  let row ← getUserTarget
  refuseIf (row.managementState = .retired) "Restore this retired target before editing it"
  refuseIf (dto.kind.any (· ≠ row.kind))
    "Target type cannot be changed; create a new target instead"
  let activeOperations ← await (.countEnvironments true)
  refuseIf (0 < activeOperations) ("This target has " ++ toString activeOperations ++
    " deployment operation(s) in progress. Wait for them before editing the target.")
  checkEndpoint dto row
  checkName dto row
  refuseInUse (dto.capabilitiesRemoved row)
    "A target in use cannot remove runtime capabilities. Move its environments first."
  refuseInUse (dto.routingChanged row)
    "A target in use cannot change routing mode. Remove or move its environments first."
  refuseInUse (dto.managedOriginChanged row)
    ("A managed gateway target in use cannot change its DNS origin. Remove or move its " ++
      "environments first.")
  await (.updateTarget (.edited (dto.patch row)))
  await (.aside "audit target.updated")

def makeUnavailable (row : TargetRow) (nextState : ManagementState) : TargetCall Unit :=
  if row.managementState = nextState then pure ()
  else do
    let activeOperations ← await (.countEnvironments true)
    refuseIf (0 < activeOperations && row.kind ≠ .docker) ("This target has " ++
      toString activeOperations ++ " environment operation(s) in progress. Wait for them to " ++
      "finish or cancel them before changing target management.")
    await (.aside "Agent of the target")
    let _ ← await (.countEnvironments false)
    await (.updateTarget (.unavailable nextState))
    await (.aside "audit target state")

def disconnect : TargetCall Unit := do
  let row ← getUserTarget
  refuseIf (row.managementState = .retired) "Restore this retired target before disconnecting it"
  makeUnavailable row .disconnected

def retire : TargetCall Unit := do
  let row ← getUserTarget
  makeUnavailable row .retired

def restore : TargetCall Unit := do
  let row ← getUserTarget
  refuseIf (row.managementState ≠ .retired) "Only a retired target can be restored"
  await (.updateTarget .restored)
  await (.aside "audit target.restored")

def builtinAccess (row : TargetRow) : TargetCall Unit :=
  if row.scope = .builtin then await (.aside "workspace permission") else pure ()

def auditConnected (reconnecting : Bool) : TargetCall Unit :=
  if reconnecting then await (.aside "audit target.connected") else pure ()

def stampVerified (row : TargetRow) (ok : Bool) : TargetCall Unit :=
  if ok && row.scope = .user then do
    let reconnecting := decide (row.managementState ≠ .active)
    await (.updateTarget (.verified reconnecting))
    auditConnected reconnecting
  else pure ()

def verify : TargetCall Bool := do
  let row ← getVisibleTarget
  refuseIf (row.managementState = .retired)
    "Restore this retired target before verifying its connection"
  refuseIf (row.scope = .user && row.kind = .docker)
    ("Agent-backed Docker targets are verified by Agent heartbeat, not an inbound connection " ++
      "test")
  builtinAccess row
  await (.aside "decrypt the credential")
  let connection ← lift (connectionForTarget row true)
  let ok ← await (.testConnection row connection)
  stampVerified row ok
  return ok

end InitPad.Targets
