import InitPad.Deployment.Types
import InitPad.Interleave.Commit
import InitPad.Secrets.Cipher
import InitPad.Store.Descent
import InitPad.Store.Pages

/-!
# InitPad.Rotation.World

The encrypted columns of the database: six columns of five tables, with what selects the rows that a
column, or the mail worker, looks at.
-/

namespace InitPad.Rotation

open Interleave Store Secrets

/-! ## Rows -/

structure User where
  id : Id
  accessToken : StoredSecret
  deriving DecidableEq

instance : Keyed User Id := ⟨User.id⟩

structure ExternalIdentity where
  id : Id
  accessTokenEncrypted : Option StoredSecret
  refreshTokenEncrypted : Option StoredSecret
  deriving DecidableEq

instance : Keyed ExternalIdentity Id := ⟨ExternalIdentity.id⟩

inductive MailStatus where
  | pending | sending | sent | failed
  deriving DecidableEq

structure EmailOutbox where
  id : Id
  payloadEncrypted : StoredSecret
  status : MailStatus
  attempts : Nat
  availableAt : Time
  lockedAt : Option Time
  lockOwner : Option Id
  deriving DecidableEq

instance : Keyed EmailOutbox Id := ⟨EmailOutbox.id⟩

structure Target where
  id : Id
  secret : Option StoredSecret
  deriving DecidableEq

instance : Keyed Target Id := ⟨Target.id⟩

structure AppConfigVar where
  id : Id
  environmentId : Id
  key : String
  value : StoredSecret
  isSecret : Bool
  deriving DecidableEq

instance : Keyed AppConfigVar Id := ⟨AppConfigVar.id⟩

structure World where
  now : Time := 0
  users : Table User := {}
  externalIdentities : Table ExternalIdentity := {}
  emailOutbox : Table EmailOutbox := {}
  targets : Table Target := {}
  appConfigVars : Table AppConfigVar := {}
  /-- The next id and initialization vector. -/
  drawn : Nat := 0

def World.draw (w : World) : World := { w with drawn := w.drawn + 1 }

def World.tick (w : World) (elapsed : Nat) : World := { w with now := w.now + elapsed }

/-- The exceptions that end a sweep or a delivery. -/
inductive Failure where
  | database | transport | undecryptable
  /-- The process is stopped. -/
  | interrupted
  deriving DecidableEq

def BATCH_SIZE : Nat := 100
def LEASE_TIMEOUT_MS : Nat := 5 * 60000
def MAX_ATTEMPTS : Nat := 8
def MAX_BATCH_SIZE : Nat := 20

/-! ## Columns -/

structure StoredValue where
  id : Id
  value : Option StoredSecret
  deriving DecidableEq

inductive Column where
  | userAccessToken | identityAccessToken | identityRefreshToken | emailPayload | targetSecret
  | configValue
  deriving DecidableEq

/-- In the order of the sweep. -/
def columns : List Column :=
  [.userAccessToken, .identityAccessToken, .identityRefreshToken, .emailPayload, .targetSecret,
    .configValue]

theorem mem_columns (column : Column) : column ∈ columns := by cases column <;> decide

namespace World

variable (w : World)

def values : Column → List StoredValue
  | .userAccessToken => w.users.rows.map fun row => ⟨row.id, some row.accessToken⟩
  | .identityAccessToken =>
    w.externalIdentities.rows.map fun row => ⟨row.id, row.accessTokenEncrypted⟩
  | .identityRefreshToken =>
    w.externalIdentities.rows.map fun row => ⟨row.id, row.refreshTokenEncrypted⟩
  | .emailPayload => w.emailOutbox.rows.map fun row => ⟨row.id, some row.payloadEncrypted⟩
  | .targetSecret => w.targets.rows.map fun row => ⟨row.id, row.secret⟩
  | .configValue =>
    (w.appConfigVars.rows.filter (·.isSecret)).map fun row => ⟨row.id, some row.value⟩

/-- `{ not: { startsWith: PREFIX } }` -/
def pending (v : StoredValue) : Bool :=
  match v.value with
  | some (.legacy _) => true
  | _ => false

def readColumn (column : Column) (cursor : Option Id) (pendingOnly : Bool) : List StoredValue :=
  page StoredValue.id ((w.values column).filter fun v => !pendingOnly || pending v) cursor BATCH_SIZE

/-- Compare-and-set. -/
def writeColumn (column : Column) (id : Id) (previous next : StoredSecret) : World :=
  match column with
  | .userAccessToken => { w with
      users := w.users.updateMany (fun row => row.id = id && row.accessToken = previous)
        fun row => { row with accessToken := next } }
  | .identityAccessToken => { w with
      externalIdentities := w.externalIdentities.updateMany
        (fun row => row.id = id && row.accessTokenEncrypted = some previous)
        fun row => { row with accessTokenEncrypted := some next } }
  | .identityRefreshToken => { w with
      externalIdentities := w.externalIdentities.updateMany
        (fun row => row.id = id && row.refreshTokenEncrypted = some previous)
        fun row => { row with refreshTokenEncrypted := some next } }
  | .emailPayload => { w with
      emailOutbox := w.emailOutbox.updateMany
        (fun row => row.id = id && row.payloadEncrypted = previous)
        fun row => { row with payloadEncrypted := next } }
  | .targetSecret => { w with
      targets := w.targets.updateMany (fun row => row.id = id && row.secret = some previous)
        fun row => { row with secret := some next } }
  | .configValue => { w with
      appConfigVars := w.appConfigVars.updateMany
        (fun row => row.id = id && row.isSecret && row.value = previous)
        fun row => { row with value := next } }

end World

namespace EmailOutbox

/-- The rows that a worker can claim: due, or with a lock that is stale. -/
def claimable (now : Time) (row : EmailOutbox) : Bool :=
  match row.status with
  | .pending => row.availableAt ≤ now
  | .sending => row.lockedAt.any fun lockedAt => lockedAt + LEASE_TIMEOUT_MS ≤ now
  | _ => false

def claimed (now : Time) (worker : Id) (row : EmailOutbox) : EmailOutbox := { row with
  status := .sending
  lockedAt := some now
  lockOwner := some worker
  attempts := row.attempts + 1 }

def delivers (id worker : Id) (row : EmailOutbox) : Bool :=
  row.id = id && row.status = .sending && row.lockOwner = some worker

def sent (row : EmailOutbox) : EmailOutbox := { row with
  status := .sent
  payloadEncrypted := .legacy ""
  lockedAt := none
  lockOwner := none }

def returned (status : MailStatus) (availableAt : Time) (payload : StoredSecret)
    (row : EmailOutbox) : EmailOutbox := { row with
  status
  availableAt
  payloadEncrypted := payload
  lockedAt := none
  lockOwner := none }

end EmailOutbox

/-- The message that has been due for the longest time; rows are in the order of their creation. -/
def World.findClaimable (w : World) (now : Time) : Option EmailOutbox :=
  ((w.emailOutbox.findMany (EmailOutbox.claimable now)).insertionSort
    fun a b => a.availableAt ≤ b.availableAt).head?

end InitPad.Rotation
