import InitPad.Accounts.Writes
import InitPad.Interleave.Trace

/-!
# InitPad.Admin.Service

`AdminService` on any number of replicas: accounts are activated and deactivated in Gitea first and
in the database behind it. The statements of `AuthService` are part of the signature, so that every
other account operation can run in between.
-/

namespace InitPad.Admin

open Interleave Store
open Accounts (UserRow PlatformRole PasswordHash ApiInput Installation settings badRequest
  Settings)
open Prog (await refuseIf)

/-! ## Statements -/

structure World where
  accounts : Accounts.World := {}
  /-- The states that have been set in Gitea, the last one first. -/
  gitea : List (String × Bool) := []

def World.tick (w : World) (elapsed : Nat) : World := { w with accounts := w.accounts.tick elapsed }

def World.giteaActive (w : World) (username : String) : Bool :=
  ((w.gitea.find? (·.1 = username)).map (·.2)).getD true

inductive Stmt : Type → Type 1 where
  | account {β : Type} (e : Accounts.Stmt β) : Stmt β
  | countOtherAdmins (targetId : Id) : Stmt Nat
  /-- `PATCH /api/v1/admin/users/{username}` -/
  | setUserActive (username : String) (active : Bool) : Stmt Unit
  /-- The transaction of `setActive`, with its account event. -/
  | updateActive (targetId : Id) (active : Bool) (actingUserId : Id) : Stmt UserRow
  /-- The transaction of `resetPassword`. -/
  | resetPassword (targetId : Id) (passwordHash : PasswordHash) (actingUserId : Id) : Stmt Unit
  /-- A fresh clone token. -/
  | setAccessToken (userId : Id) (accessToken : String) : Stmt Unit

def otherAdmin (targetId : Id) (row : UserRow) : Bool :=
  row.platformRole = .admin && row.active && row.id ≠ targetId

/-- `data` of the update: deactivation also advances the generation of the sessions. -/
def withActive (active : Bool) (row : UserRow) : UserRow :=
  if active then { row with active := true }
  else { row with
    active := false
    tokenVersion := row.tokenVersion + 1 }

def withTemporaryPassword (passwordHash : PasswordHash) (row : UserRow) : UserRow := { row with
  passwordHash := some passwordHash
  mustChangePassword := true
  tokenVersion := row.tokenVersion + 1 }

def withAccessToken (accessToken : String) (row : UserRow) : UserRow := { row with accessToken }

namespace World

variable (w : World)

def updateUser (id : Id) (change : UserRow → UserRow) : Except Accounts.Failure (UserRow × World) :=
  (w.accounts.updateUser id change).map fun (row, accounts) => (row, { w with accounts })

end World

def Stmt.run (settings : Settings) {β : Type} (e : Stmt β) (i : ApiInput) (w : World) :
    Except Accounts.Failure (β × World) :=
  match e with
  | .account e => (e.run settings i w.accounts).map fun (b, accounts) => (b, { w with accounts })
  | .countOtherAdmins targetId => .ok (w.accounts.users.count (otherAdmin targetId), w)
  | .setUserActive username active => .ok ((), { w with gitea := (username, active) :: w.gitea })
  | .updateActive targetId active _ => w.updateUser targetId (withActive active)
  | .resetPassword targetId passwordHash _ =>
    (w.updateUser targetId (withTemporaryPassword passwordHash)).map fun (_, w) => ((), w)
  | .setAccessToken userId accessToken =>
    (w.updateUser userId (withAccessToken accessToken)).map fun (_, w) => ((), w)

def Stmt.fault {β : Type} (e : Stmt β) (i : ApiInput) : Option (Fault Accounts.Failure) :=
  match e with
  | .account e => e.fault i
  | _ => i.fault

section

variable [Installation]

instance : Semantics Stmt ApiInput World Accounts.Failure where
  exec e i w :=
    let w := w.tick i.elapsed
    Interleave.execute (e.fault i) (e.run settings i w) w

end

abbrev Call (α : Type) : Type 1 := Prog Stmt Accounts.Failure α

/-! ## The service -/

structure AdminUser where
  id : Id
  username : String
  name : Option String
  email : Option String
  platformRole : PlatformRole
  active : Bool
  mustChangePassword : Bool
  emailVerified : Bool
  deriving DecidableEq

def toAdminUser (u : UserRow) : AdminUser where
  id := u.id
  username := u.username
  name := u.name
  email := u.email
  platformRole := u.platformRole
  active := u.active
  mustChangePassword := u.mustChangePassword
  emailVerified := u.emailVerifiedAt.isSome

def notFound (message : String) : Accounts.Failure := .http 404 message

/-- The last administrator is not deactivated. -/
def assertOtherAdmin (targetId : Id) (target : UserRow) (active : Bool) : Call Unit :=
  if !active && target.platformRole = .admin then do
    let otherAdmins ← await (.countOtherAdmins targetId)
    refuseIf (otherAdmins = 0) (badRequest "At least one active administrator must remain")
  else return ()

def revokeGitCredential (userId : Id) : Call Unit :=
  (Accounts.revokeGitCredential userId).translate .account

/-- `setActive` behind its checks. -/
def flipActive (actingUserId targetId : Id) (target : UserRow) (active : Bool) :
    Call AdminUser := do
  (if active then pure () else revokeGitCredential targetId)
  await (.setUserActive target.username active)
  let updated ← await (.updateActive targetId active actingUserId)
  return toAdminUser updated

def setActive (actingUserId targetId : Id) (active : Bool) : Call AdminUser := do
  refuseIf (!active && targetId = actingUserId)
    (badRequest "You cannot deactivate your own account")
  let target ← await (.account (.findUser targetId))
  match target with
  | none => throw (notFound "User not found")
  | some target =>
    if target.active = active then return toAdminUser target
    else do
      assertOtherAdmin targetId target active
      flipActive actingUserId targetId target active

def resetPassword (actingUserId targetId : Id) (temporaryPassword : String) : Call Unit := do
  let target ← await (.account (.findUser targetId))
  match target with
  | none => throw (notFound "User not found")
  | some _ => do
    revokeGitCredential targetId
    let passwordHash ← await (.account (.hashPassword temporaryPassword))
    await (.resetPassword targetId passwordHash actingUserId)

/-- The operations on accounts; of `AuthService`, any program of its statements. -/
inductive AdminCall : Call Unit → Prop
  | setActive (actingUserId targetId : Id) (active : Bool) :
      AdminCall (setActive actingUserId targetId active).ignoreError
  | resetPassword (actingUserId targetId : Id) (temporaryPassword : String) :
      AdminCall (resetPassword actingUserId targetId temporaryPassword).ignoreError
  | setAccessToken (userId : Id) (accessToken : String) :
      AdminCall (await (.setAccessToken userId accessToken))
  | account (p : Accounts.ApiCall Unit) : AdminCall (p.translate .account)

end InitPad.Admin
