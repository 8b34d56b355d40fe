import InitPad.Credentials.World

/-!
# InitPad.Credentials.Service

`AgentsService` and the calls of `TargetsService` that revoke an Agent. A statement is one query,
one update or one transaction; `aside` is an awaited step that can only refuse, an authorization or
an audit record. A statement that fails may have been carried out.
-/

namespace InitPad.Credentials

open Interleave Store
open Prog (await refuseIf lift)

/-! ## Statements -/

inductive Stmt : Type → Type 1 where
  | aside (what : String) : Stmt Unit
  /-- `new Date()` -/
  | clock : Stmt Time
  | findTarget (id : Id) : Stmt (Option TargetRow)
  | countOperations (targetId : Id) : Stmt Nat
  | findByTarget (targetId : Id) : Stmt (Option AgentRow)
  | findByEnrollment (hash : TokenHash EnrollmentToken) : Stmt (Option AgentRow)
  | findByCredential (hash : TokenHash Credential) : Stmt (Option AgentRow)
  | upsertEnrollment (targetId : Id) (expiresAt : Time) : Stmt (EnrollmentToken × AgentRow)
  /-- The transaction of `enroll`: the credential, and the number of rows it was stored in. -/
  | redeem (agent : AgentRow) (hash : TokenHash EnrollmentToken) (now : Time)
      (dto : EnrollAgentDto) : Stmt (Credential × Nat)
  | activate (agent : AuthenticatedAgent) (now : Time) (dto : AgentHeartbeatDto) : Stmt Nat
  | recordHeartbeat (agent : AuthenticatedAgent) (now : Time) (dto : AgentHeartbeatDto) : Stmt Nat
  | issueRotation (agent : AuthenticatedAgent) (now : Time) : Stmt (Credential × Nat)
  /-- The transaction of `makeUnavailable`. -/
  | makeUnavailable (targetId : Id) (nextState : ManagementState) (now : Time) : Stmt Unit
  | restoreTarget (id : Id) : Stmt Unit

structure Fault where
  failure : Failure
  carriedOut : Bool
  deriving DecidableEq

/-- What the environment of a statement decides: other tables, and faults. -/
structure ApiInput where
  elapsed : Nat := 0
  fault : Option Fault := none
  count : Nat := 0
  deriving DecidableEq

namespace World

variable (w : World)

def findByCredential (hash : TokenHash Credential) : Option AgentRow :=
  w.agents.findFirst? fun row =>
    row.credentialHash = some hash || row.pendingCredentialHash = some hash

def upsertEnrollment (targetId : Id) (expiresAt : Time) :
    Except Failure ((EnrollmentToken × AgentRow) × World) :=
  let token : EnrollmentToken := ⟨w.drawn⟩
  match w.agents.findFirst? (·.targetId = targetId) with
  | some row => .ok ((token, row.offered token expiresAt), { w.draw with
      agents := w.agents.updateMany (·.id = row.id) (·.offered token expiresAt) })
  | none =>
    if (w.targets.find? targetId).isNone then .error (.other "Foreign key constraint violated")
    else
      let row := AgentRow.created w.drawn targetId token expiresAt
      .ok ((token, row), { w.draw with agents := w.agents.insert row })

def redeem (agent : AgentRow) (hash : TokenHash EnrollmentToken) (now : Time)
    (dto : EnrollAgentDto) : Except Failure ((Credential × Nat) × World) :=
  let credential : Credential := ⟨w.drawn⟩
  let claimed := w.agents.count (agent.redeemable hash now)
  let available := fun target : TargetRow =>
    decide (target.id = agent.targetId) && decide (target.managementState ≠ .retired)
  let agents := w.agents.updateMany (agent.redeemable hash now)
    (agent.enrolled credential now dto)
  if claimed ≠ 1 then .ok ((credential, claimed), { w.draw with agents })
  else if w.targets.count available ≠ 1 then
    .error (unauthorized "Target is no longer available for Agent enrollment")
  else .ok ((credential, claimed), { w.draw with
    agents
    targets := w.targets.updateMany available ({ · with managementState := .active }) })

def issueRotation (agent : AuthenticatedAgent) (now : Time) : (Credential × Nat) × World :=
  let credential : Credential := ⟨w.drawn⟩
  ((credential, w.agents.count (AgentRow.rotatable agent now)), { w.draw with
    agents := w.agents.updateMany (AgentRow.rotatable agent now)
      (AgentRow.rotating agent credential now) })

def makeUnavailable (targetId : Id) (nextState : ManagementState) (now : Time) :
    Except Failure (Unit × World) :=
  if (w.targets.find? targetId).isNone then .error (.other "Record to update not found")
  else .ok ((), { w with
    targets := w.targets.updateMany (·.id = targetId) ({ · with managementState := nextState })
    agents := w.agents.updateMany (·.targetId = targetId) (·.revoked now) })

def restoreTarget (id : Id) : Except Failure (Unit × World) :=
  if (w.targets.find? id).isNone then .error (.other "Record to update not found")
  else .ok ((), { w with
    targets := w.targets.updateMany (·.id = id) ({ · with managementState := .disconnected }) })

end World

def Stmt.run {β : Type} (e : Stmt β) (i : ApiInput) (w : World) : Except Failure (β × World) :=
  match e with
  | .aside _ => .ok ((), w)
  | .clock => .ok (w.now, w)
  | .findTarget id => .ok (w.targets.find? id, w)
  | .countOperations _ => .ok (i.count, w)
  | .findByTarget targetId => .ok (w.agents.findFirst? (·.targetId = targetId), w)
  | .findByEnrollment hash =>
    .ok (w.agents.findFirst? (·.enrollmentTokenHash = some hash), w)
  | .findByCredential hash => .ok (w.findByCredential hash, w)
  | .upsertEnrollment targetId expiresAt => w.upsertEnrollment targetId expiresAt
  | .redeem agent hash now dto => w.redeem agent hash now dto
  | .activate agent now dto =>
    .ok (w.agents.count (AgentRow.activatable agent), { w with
      agents := w.agents.updateMany (AgentRow.activatable agent)
        (AgentRow.activated agent now dto) })
  | .recordHeartbeat agent now dto =>
    .ok (w.agents.count (AgentRow.recognized agent), { w with
      agents := w.agents.updateMany (AgentRow.recognized agent) (AgentRow.seen now dto) })
  | .issueRotation agent now => .ok (w.issueRotation agent now)
  | .makeUnavailable targetId nextState now => w.makeUnavailable targetId nextState now
  | .restoreTarget id => w.restoreTarget id

/-- A transaction that throws is rolled back. -/
def commit {β : Type} (r : Except Failure (β × World)) (w : World) : Except Failure β × World :=
  match r with
  | .ok (b, w') => (.ok b, w')
  | .error failure => (.error failure, w)

instance : Semantics Stmt ApiInput World Failure where
  exec e i w :=
    let w := w.tick i.elapsed
    match i.fault with
    | some fault => (.error fault.failure, if fault.carriedOut then (commit (e.run i w) w).2 else w)
    | none => commit (e.run i w) w

abbrev ApiCall (α : Type) : Type 1 := Prog Stmt Failure α

/-! ## Agents -/

/-- `requireTargetAccess`; the role in the workspace is checked aside. -/
def requireTargetAccess (targetId : Id) : ApiCall TargetRow := do
  let found ← await (.findTarget targetId)
  match found.filter fun target => target.scope ≠ .builtin && target.workspaceId.isSome with
  | none => throw (notFound "Target not found")
  | some target => do
    await (.aside "workspace role")
    refuseIf (target.kind ≠ .docker)
      (badRequest "InitPad Agent can only be bound to a Docker target")
    return target

def issueEnrollment (targetId : Id) : ApiCall EnrollmentToken := do
  let target ← requireTargetAccess targetId
  refuseIf (target.managementState = .retired)
    (badRequest "Restore this retired target before enrolling an Agent")
  let now ← await .clock
  let (enrollmentToken, _) ← await (.upsertEnrollment targetId (now + ENROLLMENT_TTL_MS))
  await (.aside "audit agent.enrollment_issued")
  return enrollmentToken

structure EnrollmentResponse where
  agentId : Id
  targetId : Id
  credential : Credential
  credentialGeneration : Nat
  protocolVersion : Nat
  deriving DecidableEq

/-- The first check of `enroll`, on the row that was found. -/
def enrollable (found : Option AgentRow) (now : Time) : Option AgentRow :=
  found.filter fun agent =>
    agent.disabledAt.isNone && agent.enrollmentExpiresAt.any (now < ·)

def enroll (dto : EnrollAgentDto) : ApiCall EnrollmentResponse := do
  let now ← await .clock
  let found ← await (.findByEnrollment (hashToken dto.token))
  match enrollable found now with
  | none => throw invalidEnrollment
  | some agent => do
    let (credential, claimed) ← await (.redeem agent (hashToken dto.token) now dto)
    refuseIf (claimed ≠ 1) invalidEnrollment
    return {
      agentId := agent.id
      targetId := agent.targetId
      credential
      credentialGeneration := agent.credentialGeneration + 1
      protocolVersion := dto.protocolVersion }

/-- `authorization` is none for a header without an Agent credential. -/
def authenticateCredential (authorization : Option Credential) : ApiCall AuthenticatedAgent :=
  match authorization with
  | none => throw invalidCredential
  | some credential => do
    let found ← await (.findByCredential (hashToken credential))
    lift (authenticated found (hashToken credential))

structure HeartbeatResponse where
  targetId : Id
  credentialGeneration : Nat
  credentialConfirmed : Bool
  acceptedAt : Time
  nextHeartbeatSeconds : Nat
  credentialRotation : Option (Credential × Nat) := none
  deriving DecidableEq

def heartbeatResponse (agent : AuthenticatedAgent) (now : Time) : HeartbeatResponse where
  targetId := agent.targetId
  credentialGeneration := agent.credentialGeneration
  credentialConfirmed := true
  acceptedAt := now
  nextHeartbeatSeconds := HEARTBEAT_INTERVAL_SECONDS

def heartbeatPending (agent : AuthenticatedAgent) (now : Time) (dto : AgentHeartbeatDto) :
    ApiCall HeartbeatResponse := do
  let accepted ← await (.activate agent now dto)
  refuseIf (accepted ≠ 1) invalidCredential
  (await (.aside "audit agent.credential_rotation_activated") : ApiCall Unit).ignoreError
  return heartbeatResponse agent now

/-- The active credential is old enough, and the Agent new enough. -/
def dueForRotation (agent : AuthenticatedAgent) (now : Time) (dto : AgentHeartbeatDto) : Bool :=
  (agent.credentialActivatedAt.or agent.enrolledAt).any (· + CREDENTIAL_ROTATE_AFTER_MS ≤ now) &&
    agentVersionAtLeast dto.version MIN_CREDENTIAL_ROTATION_AGENT_VERSION

def rotate (agent : AuthenticatedAgent) (now : Time) : ApiCall HeartbeatResponse := do
  let (credential, issued) ← await (.issueRotation agent now)
  if issued = 1 then do
    (await (.aside "audit agent.credential_rotation_issued") : ApiCall Unit).ignoreError
    return { heartbeatResponse agent now with
      credentialRotation := some (credential, agent.credentialGeneration + 1) }
  else return heartbeatResponse agent now

def heartbeatActive (agent : AuthenticatedAgent) (now : Time) (dto : AgentHeartbeatDto) :
    ApiCall HeartbeatResponse := do
  let accepted ← await (.recordHeartbeat agent now dto)
  refuseIf (accepted ≠ 1) invalidCredential
  if dueForRotation agent now dto then rotate agent now
  else return heartbeatResponse agent now

def heartbeat (authorization : Option Credential) (dto : AgentHeartbeatDto) :
    ApiCall HeartbeatResponse := do
  let agent ← authenticateCredential authorization
  let now ← await .clock
  match agent.credentialSlot with
  | .pending => heartbeatPending agent now dto
  | .active => heartbeatActive agent now dto

/-! ## Targets -/

/-- `getUserTarget`; edition and workspace permission are checked aside. -/
def getUserTarget (id : Id) : ApiCall TargetRow := do
  let found ← await (.findTarget id)
  match found with
  | none => throw (notFound "Target not found")
  | some row => do
    await (.aside "edition and workspace permission")
    refuseIf (row.scope = .builtin) (badRequest "Built-in targets cannot be modified")
    return row

def unavailable (row : TargetRow) (nextState : ManagementState) : ApiCall Unit :=
  if row.managementState = nextState then pure ()
  else do
    let activeOperations ← await (.countOperations row.id)
    refuseIf (0 < activeOperations && row.kind ≠ .docker)
      (badRequest ("This target has " ++ toString activeOperations ++
        " environment operation(s) in progress. Wait for them to finish or cancel them before " ++
        "changing target management."))
    let now ← await .clock
    let _ ← await (.findByTarget row.id)
    await (.aside "bindings of the target")
    await (.makeUnavailable row.id nextState now)
    await (.aside "audit target state")

def disconnect (id : Id) : ApiCall Unit := do
  let row ← getUserTarget id
  refuseIf (row.managementState = .retired)
    (badRequest "Restore this retired target before disconnecting it")
  unavailable row .disconnected

def retire (id : Id) : ApiCall Unit := do
  let row ← getUserTarget id
  unavailable row .retired

def restore (id : Id) : ApiCall Unit := do
  let row ← getUserTarget id
  refuseIf (row.managementState ≠ .retired) (badRequest "Only a retired target can be restored")
  await (.restoreTarget id)
  await (.aside "audit target.restored")

/-- `AgentsService.disable` -/
def disable (targetId : Id) : ApiCall Unit := do
  let _ ← requireTargetAccess targetId
  let agent ← await (.findByTarget targetId)
  refuseIf agent.isNone (notFound "Agent of the target not found")
  disconnect targetId

/-- The requests. What a request bears is arbitrary: it may be lost, delayed or repeated. -/
inductive Request : ApiCall Unit → Prop
  | issueEnrollment (targetId : Id) : Request (do let _ ← issueEnrollment targetId)
  | enroll (dto : EnrollAgentDto) : Request (do let _ ← enroll dto)
  | heartbeat (authorization : Option Credential) (dto : AgentHeartbeatDto) :
      Request (do let _ ← heartbeat authorization dto)
  | disable (targetId : Id) : Request (disable targetId)
  | disconnect (id : Id) : Request (disconnect id)
  | retire (id : Id) : Request (retire id)
  | restore (id : Id) : Request (restore id)

end InitPad.Credentials
