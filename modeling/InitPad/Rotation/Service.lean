import InitPad.Interleave.Run
import InitPad.Rotation.World

/-!
# InitPad.Rotation.Service

`SecretReencryptionService`, the worker of `MailDeliveryService`, and all other writers of the
encrypted columns. Every process has the same keys. A writer encrypts with the current key in the
statement that stores the value.
-/

namespace InitPad.Rotation

open Interleave Store Secrets
open Prog (await)

/-! ## Statements -/

inductive Stmt : Type → Type 1 where
  /-- `new Date()` -/
  | clock : Stmt Time
  | randomIv : Stmt Nat
  | readColumn (column : Column) (cursor : Option Id) (pendingOnly : Bool) :
      Stmt (List StoredValue)
  | writeColumn (column : Column) (id : Id) (previous next : StoredSecret) : Stmt Unit
  /-- "Every stored secret uses the current INITPAD_ENCRYPTION_KEY" -/
  | logRotated : Stmt Unit
  | findClaimable (now : Time) : Stmt (Option EmailOutbox)
  | claimMessage (id : Id) (now : Time) (worker : Id) : Stmt Nat
  | findMessage (id : Id) : Stmt (Option EmailOutbox)
  | sendMail (id : Id) (payload : String) : Stmt Unit
  | markSent (id worker : Id) : Stmt Unit
  | markFailed (id worker : Id) (status : MailStatus) (availableAt : Time)
      (payload : StoredSecret) : Stmt Unit
  | enqueueAuthMail (payload : String) : Stmt Unit
  | deleteMessages (ids : List Id) : Stmt Unit
  /-- With a Git token, or without one. -/
  | createUser (accessToken : Option String) : Stmt Unit
  | setAccessToken (userId : Id) (accessToken : Option String) : Stmt Unit
  | link : Stmt Unit
  /-- `storeExchange` and a refresh, for the row that they match. -/
  | storeTokens (id : Id) (accessToken : String) (refreshToken : Option String) : Stmt Unit
  | clearTokens (id : Id) : Stmt Unit
  | unlink (id : Id) : Stmt Unit
  | createTarget (secret : Option String) : Stmt Unit
  | setTargetSecret (id : Id) (secret : Option String) : Stmt Unit
  | deleteTarget (id : Id) : Stmt Unit
  | upsertVar (environmentId : Id) (key value : String) (isSecret : Bool) : Stmt Unit
  | deleteVar (environmentId : Id) (key : String) : Stmt Unit

/-- What the environment of a statement decides. -/
structure Input where
  elapsed : Nat := 0
  fault : Option (Fault Failure) := none
  deriving DecidableEq

class Keys where
  keyring : Keyring

export Keys (keyring)

section

variable [Keys]

/-- `accessToken: encryptSecret(token)`, or an empty text. -/
def storedToken (iv : Nat) (token : Option String) : StoredSecret :=
  (token.map (encryptSecret keyring iv)).getD (.legacy "")

/-- `isSecret ? encryptSecret(dto.value) : dto.value` -/
def storedVar (iv : Nat) (value : String) (isSecret : Bool) : StoredSecret :=
  if isSecret then encryptSecret keyring iv value else .legacy value

def World.upsertVar (w : World) (environmentId : Id) (name value : String) (isSecret : Bool) :
    World :=
  let stored := storedVar w.drawn value isSecret
  let same := fun row : AppConfigVar => row.environmentId = environmentId && row.key = name
  if w.appConfigVars.rows.any same then { w.draw with
    appConfigVars := w.appConfigVars.updateMany same
      fun row => { row with value := stored, isSecret } }
  else { w.draw with
    appConfigVars := w.appConfigVars.insert ⟨w.drawn, environmentId, name, stored, isSecret⟩ }

def Stmt.run {β : Type} (e : Stmt β) (w : World) : Except Failure (β × World) :=
  match e with
  | .clock => .ok (w.now, w)
  | .randomIv => .ok (w.drawn, w.draw)
  | .readColumn column cursor pendingOnly => .ok (w.readColumn column cursor pendingOnly, w)
  | .writeColumn column id previous next => .ok ((), w.writeColumn column id previous next)
  | .logRotated => .ok ((), w)
  | .findClaimable now => .ok (w.findClaimable now, w)
  | .claimMessage id now worker =>
    let mine := fun row : EmailOutbox => row.id = id && row.claimable now
    .ok (w.emailOutbox.count mine, { w with
      emailOutbox := w.emailOutbox.updateMany mine (.claimed now worker) })
  | .findMessage id => .ok (w.emailOutbox.find? id, w)
  | .sendMail _ _ => .ok ((), w)
  | .markSent id worker =>
    .ok ((), { w with
      emailOutbox := w.emailOutbox.updateMany (EmailOutbox.delivers id worker) .sent })
  | .markFailed id worker status availableAt payload =>
    .ok ((), { w with
      emailOutbox := w.emailOutbox.updateMany (EmailOutbox.delivers id worker)
        (.returned status availableAt payload) })
  | .enqueueAuthMail payload =>
    .ok ((), { w.draw with
      emailOutbox := w.emailOutbox.insert
        ⟨w.drawn, encryptSecret keyring w.drawn payload, .pending, 0, w.now, none, none⟩ })
  | .deleteMessages ids =>
    .ok ((), { w with emailOutbox := w.emailOutbox.deleteMany fun row => ids.contains row.id })
  | .createUser accessToken =>
    .ok ((), { w.draw with users := w.users.insert ⟨w.drawn, storedToken w.drawn accessToken⟩ })
  | .setAccessToken userId accessToken =>
    .ok ((), { w.draw with
      users := w.users.updateMany (·.id = userId)
        fun row => { row with accessToken := storedToken w.drawn accessToken } })
  | .link =>
    .ok ((), { w.draw with
      externalIdentities := w.externalIdentities.insert ⟨w.drawn, none, none⟩ })
  | .storeTokens id accessToken refreshToken =>
    .ok ((), { w.draw.draw with
      externalIdentities := w.externalIdentities.updateMany (·.id = id) fun row => { row with
        accessTokenEncrypted := some (encryptSecret keyring w.drawn accessToken)
        refreshTokenEncrypted := refreshToken.map (encryptSecret keyring (w.drawn + 1)) } })
  | .clearTokens id =>
    .ok ((), { w with
      externalIdentities := w.externalIdentities.updateMany (·.id = id) fun row => { row with
        accessTokenEncrypted := none
        refreshTokenEncrypted := none } })
  | .unlink id =>
    .ok ((), { w with externalIdentities := w.externalIdentities.deleteMany (·.id = id) })
  | .createTarget secret =>
    .ok ((), { w.draw with
      targets := w.targets.insert ⟨w.drawn, secret.map (encryptSecret keyring w.drawn)⟩ })
  | .setTargetSecret id secret =>
    .ok ((), { w.draw with
      targets := w.targets.updateMany (·.id = id)
        fun row => { row with secret := secret.map (encryptSecret keyring w.drawn) } })
  | .deleteTarget id => .ok ((), { w with targets := w.targets.deleteMany (·.id = id) })
  | .upsertVar environmentId key value isSecret =>
    .ok ((), w.upsertVar environmentId key value isSecret)
  | .deleteVar environmentId key =>
    .ok ((), { w with
      appConfigVars := w.appConfigVars.deleteMany fun row =>
        row.environmentId = environmentId && row.key = key })

def Stmt.fault {β : Type} (e : Stmt β) (i : Input) : Option (Fault Failure) :=
  match e with
  | .clock | .randomIv | .logRotated => none
  | _ => i.fault

instance : Semantics Stmt Input World Failure where
  exec e i w :=
    let w := w.tick i.elapsed
    Interleave.execute (e.fault i) (e.run w) w

end

abbrev Call (α : Type) : Type 1 := Prog Stmt Failure α

structure ReencryptionSummary where
  reencrypted : Nat
  unreadable : Nat
  deriving DecidableEq

section

variable [Keys]

def reencryptRow (column : Column) (row : StoredValue) (summary : ReencryptionSummary) :
    Call ReencryptionSummary :=
  match row.value.filter (· ≠ .legacy "") with
  | none => return summary
  | some value => do
    let iv ← await .randomIv
    match reencryptedSecret keyring iv value with
    | .current => return summary
    | .unreadable => return { summary with unreadable := summary.unreadable + 1 }
    | .replaced next => do
      await (.writeColumn column row.id value next)
      return { summary with reencrypted := summary.reencrypted + 1 }

def sweepRows (column : Column) : List StoredValue → ReencryptionSummary → Call ReencryptionSummary
  | [], summary => return summary
  | row :: rows, summary => do
    let summary ← reencryptRow column row summary
    sweepRows column rows summary

/-- The pages behind the cursor; without fuel, the process stops before the next one. -/
def sweepPages (column : Column) (pendingOnly : Bool) :
    Nat → Option Id → ReencryptionSummary → Call ReencryptionSummary
  | 0, _, _ => throw .interrupted
  | fuel + 1, cursor, summary => do
    let rows ← await (.readColumn column cursor pendingOnly)
    let summary ← sweepRows column rows summary
    if rows.length < BATCH_SIZE then return summary
    else sweepPages column pendingOnly fuel (rows.getLast?.map (·.id)) summary

def sweepColumns (pendingOnly : Bool) (fuel : Nat) :
    List Column → ReencryptionSummary → Call ReencryptionSummary
  | [], summary => return summary
  | column :: columns, summary => do
    let summary ← sweepPages column pendingOnly fuel none summary
    sweepColumns pendingOnly fuel columns summary

def rotating : Bool := !keyring.previous.isEmpty

def reencryptStoredSecrets (fuel : Nat) : Call ReencryptionSummary := do
  let summary ← sweepColumns (!rotating) fuel columns ⟨0, 0⟩
  if rotating && summary.unreadable = 0 then do
    await .logRotated
    return summary
  else return summary

def claimNext (worker : Id) : Call (Option EmailOutbox) := do
  let now ← await .clock
  let candidate ← await (.findClaimable now)
  match candidate with
  | none => return none
  | some candidate => do
    let claimed ← await (.claimMessage candidate.id now worker)
    if claimed ≠ 1 then return none
    else await (.findMessage candidate.id)

def readPayload (stored : StoredSecret) : Call String :=
  match (decryptSecret keyring stored).filter (!·.isEmpty) with
  | some payload => return payload
  | none => throw .undecryptable

def send (worker : Id) (message : EmailOutbox) : Call Unit := do
  let payload ← readPayload message.payloadEncrypted
  await (.sendMail message.id payload)
  await (.markSent message.id worker)

def retryDelayMs (attempts : Nat) : Nat := min (60 * 60000) (15000 * 2 ^ (attempts - 1))

def giveBack (worker : Id) (message : EmailOutbox) : Call Unit :=
  if MAX_ATTEMPTS ≤ message.attempts then
    await (.markFailed message.id worker .failed message.availableAt (.legacy ""))
  else do
    let now ← await .clock
    await (.markFailed message.id worker .pending (now + retryDelayMs message.attempts)
      message.payloadEncrypted)

def deliver (worker : Id) (message : EmailOutbox) : Call Unit :=
  tryCatch (send worker message) fun _ => giveBack worker message

def drain (worker : Id) : Nat → Call Unit
  | 0 => return ()
  | processed + 1 => do
    let message ← claimNext worker
    match message with
    | none => return ()
    | some message => do
      deliver worker message
      drain worker processed

/-- The processes that write the encrypted columns. -/
inductive RotationCall : Call Unit → Prop
  | sweep (fuel : Nat) : RotationCall (reencryptStoredSecrets fuel).ignoreError
  | drain (worker : Id) : RotationCall (drain worker MAX_BATCH_SIZE)
  | enqueueAuthMail (payload : String) : RotationCall (await (.enqueueAuthMail payload))
  | deleteMessages (ids : List Id) : RotationCall (await (.deleteMessages ids))
  | createUser (accessToken : Option String) : RotationCall (await (.createUser accessToken))
  | setAccessToken (userId : Id) (accessToken : Option String) :
      RotationCall (await (.setAccessToken userId accessToken))
  | link : RotationCall (await .link)
  | storeTokens (id : Id) (accessToken : String) (refreshToken : Option String) :
      RotationCall (await (.storeTokens id accessToken refreshToken))
  | clearTokens (id : Id) : RotationCall (await (.clearTokens id))
  | unlink (id : Id) : RotationCall (await (.unlink id))
  | createTarget (secret : Option String) : RotationCall (await (.createTarget secret))
  | setTargetSecret (id : Id) (secret : Option String) :
      RotationCall (await (.setTargetSecret id secret))
  | deleteTarget (id : Id) : RotationCall (await (.deleteTarget id))
  | upsertVar (environmentId : Id) (key value : String) (isSecret : Bool) :
      RotationCall (await (.upsertVar environmentId key value isSecret))
  | deleteVar (environmentId : Id) (key : String) : RotationCall (await (.deleteVar environmentId key))

end

end InitPad.Rotation
