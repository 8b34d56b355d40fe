import InitPad.Deployment.Types
import InitPad.Interleave.Run

/-!
# InitPad.Credentials.World

The Agents of all targets, with the credential that is active, the one that a rotation has issued
and the enrollment token. A token is drawn with the statement that stores its hash: nobody else
sees it before. Different tokens are drawn at every call, and have different hashes.
-/

namespace InitPad.Credentials

open Interleave Store
open Prog (await refuseIf lift)

/-- `initpad_enroll_` with the random bytes of `generateToken` -/
structure EnrollmentToken where
  random : Nat
  deriving DecidableEq

/-- `initpad_agent_` with the random bytes of `generateToken` -/
structure Credential where
  random : Nat
  deriving DecidableEq

structure TokenHash (α : Type) where
  token : α
  deriving DecidableEq

def hashToken {α : Type} (token : α) : TokenHash α := ⟨token⟩

structure AgentRow where
  id : Id
  targetId : Id
  enrollmentTokenHash : Option (TokenHash EnrollmentToken)
  enrollmentExpiresAt : Option Time
  credentialHash : Option (TokenHash Credential)
  credentialGeneration : Nat
  credentialActivatedAt : Option Time
  pendingCredentialHash : Option (TokenHash Credential)
  pendingCredentialGeneration : Option Nat
  pendingCredentialIssuedAt : Option Time
  protocolVersion : Nat
  version : Option AgentVersion
  enrolledAt : Option Time
  lastSeenAt : Option Time
  disabledAt : Option Time
  deriving DecidableEq

instance : Keyed AgentRow Id := ⟨AgentRow.id⟩

structure TargetRow where
  id : Id
  name : String
  kind : ProviderKind
  scope : TargetScope
  workspaceId : Option Id
  managementState : ManagementState
  deriving DecidableEq

instance : Keyed TargetRow Id := ⟨TargetRow.id⟩

structure World where
  now : Time
  targets : Table TargetRow
  agents : Table AgentRow
  /-- The next random bytes, and the next id. -/
  drawn : Nat

def World.draw (w : World) : World := { w with drawn := w.drawn + 1 }

def World.tick (w : World) (elapsed : Nat) : World := { w with now := w.now + elapsed }

/-- The exceptions of a request handler, by their HTTP status, and all other errors. -/
inductive Failure where
  | http (status : Nat) (message : String)
  | other (message : String)
  deriving DecidableEq

def badRequest (message : String) : Failure := .http 400 message

def unauthorized (message : String) : Failure := .http 401 message

def notFound (message : String) : Failure := .http 404 message

def invalidCredential : Failure := unauthorized "Invalid Agent credential"

def invalidEnrollment : Failure := unauthorized "Invalid or expired Agent enrollment token"

def ENROLLMENT_TTL_MS : Nat := 15 * 60000
def HEARTBEAT_INTERVAL_SECONDS : Nat := 30
def CREDENTIAL_ROTATE_AFTER_MS : Nat := 30 * 24 * 60 * 60000
def PENDING_ROTATION_REISSUE_AFTER_MS : Nat := 24 * 60 * 60000
def MIN_CREDENTIAL_ROTATION_AGENT_VERSION : AgentVersion := ⟨0, 10, 0⟩

/-- `version` is none for a text that is not a version. -/
structure EnrollAgentDto where
  token : EnrollmentToken
  version : Option AgentVersion
  protocolVersion : Nat
  deriving DecidableEq

structure AgentHeartbeatDto where
  version : Option AgentVersion
  protocolVersion : Nat
  deriving DecidableEq

inductive CredentialSlot where
  | active | pending
  deriving DecidableEq

structure AuthenticatedAgent where
  id : Id
  targetId : Id
  credentialHash : TokenHash Credential
  credentialGeneration : Nat
  protocolVersion : Nat
  credentialSlot : CredentialSlot
  credentialActivatedAt : Option Time
  enrolledAt : Option Time
  deriving DecidableEq

/-- The end of `authenticateCredential`, on the row that was found. -/
def authenticated (found : Option AgentRow) (credentialHash : TokenHash Credential) :
    Except Failure AuthenticatedAgent :=
  match found with
  | none => .error invalidCredential
  | some agent =>
    if agent.disabledAt.isSome ||
        agent.credentialHash.isNone && agent.pendingCredentialHash.isNone then
      .error invalidCredential
    else
      let pending := decide (agent.pendingCredentialHash = some credentialHash)
      let credentialGeneration :=
        if pending then agent.pendingCredentialGeneration.getD 0 else agent.credentialGeneration
      if credentialGeneration = 0 then .error invalidCredential
      else .ok {
        id := agent.id
        targetId := agent.targetId
        credentialHash
        credentialGeneration
        protocolVersion := agent.protocolVersion
        credentialSlot := if pending then .pending else .active
        credentialActivatedAt := agent.credentialActivatedAt
        enrolledAt := agent.enrolledAt }

/-! ## Updates of an Agent -/

namespace AgentRow

/-- The row that `issueEnrollment` creates. -/
def created (id targetId : Id) (token : EnrollmentToken) (expiresAt : Time) : AgentRow where
  id := id
  targetId := targetId
  enrollmentTokenHash := some (hashToken token)
  enrollmentExpiresAt := some expiresAt
  credentialHash := none
  credentialGeneration := 0
  credentialActivatedAt := none
  pendingCredentialHash := none
  pendingCredentialGeneration := none
  pendingCredentialIssuedAt := none
  protocolVersion := 1
  version := none
  enrolledAt := none
  lastSeenAt := none
  disabledAt := none

/-- `issueEnrollment` on an existing row. -/
def offered (token : EnrollmentToken) (expiresAt : Time) (row : AgentRow) : AgentRow :=
  { row with
    enrollmentTokenHash := some (hashToken token)
    enrollmentExpiresAt := some expiresAt
    disabledAt := none }

/-- The rows that `enroll` claims with the token of `agent`. -/
def redeemable (agent : AgentRow) (hash : TokenHash EnrollmentToken) (now : Time)
    (row : AgentRow) : Bool :=
  row.id = agent.id && row.enrollmentTokenHash = some hash &&
    row.enrollmentExpiresAt.any (now < ·) && row.disabledAt.isNone

/-- `enroll`: the generation follows the one of the row that was read. -/
def enrolled (agent : AgentRow) (credential : Credential) (now : Time) (dto : EnrollAgentDto)
    (row : AgentRow) : AgentRow :=
  { row with
    enrollmentTokenHash := none
    enrollmentExpiresAt := none
    credentialHash := some (hashToken credential)
    credentialGeneration := agent.credentialGeneration + 1
    credentialActivatedAt := some now
    pendingCredentialHash := none
    pendingCredentialGeneration := none
    pendingCredentialIssuedAt := none
    protocolVersion := dto.protocolVersion
    version := dto.version
    enrolledAt := some now
    lastSeenAt := none }

def activatable (agent : AuthenticatedAgent) (row : AgentRow) : Bool :=
  row.id = agent.id && row.pendingCredentialHash = some agent.credentialHash &&
    row.pendingCredentialGeneration = some agent.credentialGeneration && row.disabledAt.isNone

def activated (agent : AuthenticatedAgent) (now : Time) (dto : AgentHeartbeatDto)
    (row : AgentRow) : AgentRow :=
  { row with
    credentialHash := some agent.credentialHash
    credentialGeneration := agent.credentialGeneration
    credentialActivatedAt := some now
    pendingCredentialHash := none
    pendingCredentialGeneration := none
    pendingCredentialIssuedAt := none
    version := dto.version
    protocolVersion := dto.protocolVersion
    lastSeenAt := some now }

/-- The row whose active credential a heartbeat bears. -/
def recognized (agent : AuthenticatedAgent) (row : AgentRow) : Bool :=
  row.id = agent.id && row.credentialHash = some agent.credentialHash && row.disabledAt.isNone

def seen (now : Time) (dto : AgentHeartbeatDto) (row : AgentRow) : AgentRow :=
  { row with
    version := dto.version
    protocolVersion := dto.protocolVersion
    lastSeenAt := some now }

def rotatable (agent : AuthenticatedAgent) (now : Time) (row : AgentRow) : Bool :=
  row.id = agent.id && row.credentialHash = some agent.credentialHash &&
    row.credentialGeneration = agent.credentialGeneration && row.disabledAt.isNone &&
    (row.pendingCredentialHash.isNone ||
      row.pendingCredentialIssuedAt.any (· + PENDING_ROTATION_REISSUE_AFTER_MS ≤ now))

def rotating (agent : AuthenticatedAgent) (credential : Credential) (now : Time)
    (row : AgentRow) : AgentRow :=
  { row with
    pendingCredentialHash := some (hashToken credential)
    pendingCredentialGeneration := some (agent.credentialGeneration + 1)
    pendingCredentialIssuedAt := some now }

/-- `makeUnavailable` -/
def revoked (now : Time) (row : AgentRow) : AgentRow :=
  { row with
    disabledAt := some now
    enrollmentTokenHash := none
    enrollmentExpiresAt := none
    credentialHash := none
    credentialActivatedAt := none
    pendingCredentialHash := none
    pendingCredentialGeneration := none
    pendingCredentialIssuedAt := none }

end AgentRow

end InitPad.Credentials
