import InitPad.Accounts.World

/-!
# InitPad.Accounts.Service

`AuthService`, `SessionsService` and the OIDC provider. A statement is one query, one update or one
transaction; `aside` is an awaited step that can only refuse, such as an audit record. A statement
that fails may have been carried out.
-/

namespace InitPad.Accounts

open Interleave Store
open Prog (await refuseIf lift)

/-! ## Statements -/

structure GiteaUser where
  id : Nat
  login : String
  deriving DecidableEq

/-- `data` of `user.create` in `provisionManagedUser`, without the personal workspace. -/
structure NewUser where
  giteaId : Nat
  username : String
  email : String
  name : Option String
  platformRole : PlatformRole
  mustChangePassword : Bool
  passwordHash : PasswordHash
  accessToken : String
  deriving DecidableEq

/-- The audit events of a new password. -/
inductive PasswordAction where
  | passwordChanged | passwordReset | accountActivated
  deriving DecidableEq

/-- The sessions that `revoke` ends. -/
inductive SessionFilter where
  | one (id : Id)
  | except (id : Option Id)
  deriving DecidableEq

inductive Stmt : Type → Type 1 where
  | aside (what : String) : Stmt Unit
  /-- `new Date()` -/
  | clock : Stmt Time
  /-- `await previous` in `register`, for the call with this body. -/
  | registrationLock (dto : RegisterDto) : Stmt Unit
  | countUsers : Stmt Nat
  /-- By user name or by e-mail address, both normalized. -/
  | findByIdentifier (username email : String) : Stmt (Option UserRow)
  | findUser (id : Id) : Stmt (Option UserRow)
  | createGiteaUser (username email password : String) : Stmt GiteaUser
  | createCloneToken (username password : String) : Stmt String
  | hashPassword (password : String) : Stmt PasswordHash
  | createUser (data : NewUser) : Stmt UserRow
  /-- The transactions of `changePassword`, `resetPassword` and `activate`. -/
  | replacePassword (userId : Id) (passwordHash : PasswordHash) (action : PasswordAction) :
      Stmt UserRow
  /-- The transaction of `verifyEmail`. -/
  | verifyEmail (userId : Id) (now : Time) : Stmt Unit
  | clearAccessToken (userId : Id) : Stmt Unit
  /-- The transaction of `issueAuthLink`; it queues the e-mail as well. -/
  | issueAuthToken (userId : Id) (kind : MailKind) (ttlMs : Nat) : Stmt RandomToken
  | findAuthToken (hash : TokenHash) : Stmt (Option AuthTokenRow)
  | claimAuthToken (id : Id) (kind : MailKind) (now : Time) : Stmt Nat
  | pruneSessions (now : Time) : Stmt Unit
  | createSession (userId : Id) (version : Nat) (userAgent : Option String) (expiresAt : Time) :
      Stmt Id
  /-- `jwt.sign` -/
  | sign (payload : JwtPayload) : Stmt Unit
  /-- `jwt.verify` -/
  | verifyToken (payload : JwtPayload) : Stmt Unit
  | findSession (sid : Id) : Stmt (Option (UserSession × UserRow))
  | revokeSession (sid sub : Id) (now : Time) : Stmt Unit
  | signOutEverywhere (sub : Id) (version : Nat) : Stmt Unit
  | revokeSessions (userId : Id) (version : Nat) (filter : SessionFilter) (now : Time) : Stmt Nat
  | pruneGrants (now : Time) : Stmt Unit
  | createGrant (kind : GrantKind) (userId : Id) (tokenVersion : Nat)
      (clientId redirectUri nonce : Option String) (expiresAt : Time) : Stmt RandomToken
  | claimCode (hash : TokenHash) (now : Time) : Stmt Nat
  | findGrant (hash : TokenHash) : Stmt (Option OidcGrant)
  | findAccessToken (hash : TokenHash) (now : Time) : Stmt (Option OidcGrant)

/-- What the environment of a statement decides: the answers of Gitea, and faults. -/
structure ApiInput where
  elapsed : Nat := 0
  fault : Option (Fault Failure) := none
  giteaUser : GiteaUser := ⟨0, ""⟩
  cloneToken : String := ""
  deriving DecidableEq

/-- The rows that `revoke` ends. -/
def SessionFilter.covers : SessionFilter → UserSession → Bool
  | .one id, row => row.id = id
  | .except id, row => some row.id ≠ id

namespace World

variable (w : World)

def findByIdentifier (settings : Settings) (username email : String) : Option UserRow :=
  w.users.findFirst? fun row => settings.equalsInsensitive row.username username ||
    row.email.any fun stored => settings.equalsInsensitive stored email

def taken (data : NewUser) (row : UserRow) : Bool :=
  row.giteaId = some data.giteaId || row.username = data.username || row.email = some data.email

def createUser (data : NewUser) : Except Failure (UserRow × World) :=
  if w.users.rows.any (taken data) then .error uniqueViolation
  else
    let row : UserRow := {
      id := w.drawn
      giteaId := some data.giteaId
      username := data.username
      name := data.name
      email := some data.email
      avatarUrl := none
      accessToken := data.accessToken
      passwordHash := some data.passwordHash
      platformRole := data.platformRole
      active := true
      mustChangePassword := data.mustChangePassword
      tokenVersion := 0
      emailVerifiedAt := none }
    .ok (row, { w.draw with users := w.users.insert row })

/-- `user.update`, which fails when there is no such row. -/
def updateUser (id : Id) (change : UserRow → UserRow) : Except Failure (UserRow × World) :=
  match w.users.find? id with
  | none => .error recordNotFound
  | some row => .ok (change row, { w with users := w.users.updateMany (·.id = id) change })

def issueAuthToken (userId : Id) (kind : MailKind) (ttlMs : Nat) :
    Except Failure (RandomToken × World) :=
  if (w.users.find? userId).isNone then .error (.other "Foreign key constraint violated")
  else
    let token : RandomToken := ⟨w.drawn⟩
    let row : AuthTokenRow := {
      id := w.drawn
      userId
      kind
      tokenHash := hashToken token
      expiresAt := w.now + ttlMs
      usedAt := none }
    .ok (token, { w.draw with
      authTokens := (w.authTokens.updateMany (AuthTokenRow.superseded userId kind)
        (AuthTokenRow.used w.now)).insert row })

def createSession (userId : Id) (version : Nat) (userAgent : Option String) (expiresAt : Time) :
    Except Failure (Id × World) :=
  if (w.users.find? userId).isNone then .error (.other "Foreign key constraint violated")
  else .ok (w.drawn, { w.draw with sessions := w.sessions.insert {
    id := w.drawn
    userId
    version
    userAgent
    expiresAt
    revokedAt := none } })

/-- A session with the account it belongs to. -/
def findSession (sid : Id) : Option (UserSession × UserRow) :=
  (w.sessions.find? sid).bind fun session =>
    (w.users.find? session.userId).map fun user => (session, user)

def createGrant (kind : GrantKind) (userId : Id) (tokenVersion : Nat)
    (clientId redirectUri nonce : Option String) (expiresAt : Time) :
    Except Failure (RandomToken × World) :=
  if (w.users.find? userId).isNone then .error (.other "Foreign key constraint violated")
  else
    let token : RandomToken := ⟨w.drawn⟩
    .ok (token, { w.draw with grants := w.grants.insert {
      id := w.drawn
      userId
      kind
      tokenHash := hashToken token
      tokenVersion
      clientId
      redirectUri
      nonce
      expiresAt
      usedAt := none } })

end World

/-- The sessions that are still shown in the overview. -/
def UserSession.live (userId : Id) (version : Nat) (filter : SessionFilter) (now : Time)
    (row : UserSession) : Bool :=
  row.userId = userId && row.version = version && row.revokedAt.isNone && now < row.expiresAt &&
    filter.covers row

def UserSession.revoked (now : Time) (row : UserSession) : UserSession :=
  { row with revokedAt := some now }

def Stmt.run (settings : Settings) {β : Type} (e : Stmt β) (i : ApiInput) (w : World) :
    Except Failure (β × World) :=
  match e with
  | .aside _ => .ok ((), w)
  | .clock => .ok (w.now, w)
  | .registrationLock _ => .ok ((), w)
  | .countUsers => .ok (w.users.rows.length, w)
  | .findByIdentifier username email => .ok (w.findByIdentifier settings username email, w)
  | .findUser id => .ok (w.users.find? id, w)
  | .createGiteaUser .. => .ok (i.giteaUser, w)
  | .createCloneToken .. => .ok (i.cloneToken, w)
  | .hashPassword password => .ok (⟨password, w.drawn⟩, w.draw)
  | .createUser data => w.createUser data
  | .replacePassword userId passwordHash _ => w.updateUser userId (.withPassword passwordHash)
  | .verifyEmail userId now => (w.updateUser userId (.verified now)).map fun (_, w) => ((), w)
  | .clearAccessToken userId => (w.updateUser userId .withoutAccessToken).map fun (_, w) => ((), w)
  | .issueAuthToken userId kind ttlMs => w.issueAuthToken userId kind ttlMs
  | .findAuthToken hash => .ok (w.authTokens.findFirst? (·.tokenHash = hash), w)
  | .claimAuthToken id kind now =>
    .ok (w.authTokens.count (AuthTokenRow.claimable id kind now), { w with
      authTokens := w.authTokens.updateMany (AuthTokenRow.claimable id kind now) (.used now) })
  | .pruneSessions now => .ok ((), { w with sessions := w.sessions.deleteMany (·.expiresAt < now) })
  | .createSession userId version userAgent expiresAt =>
    w.createSession userId version userAgent expiresAt
  | .sign payload => .ok ((), { w with signed := payload :: w.signed })
  | .verifyToken payload =>
    if payload ∈ w.signed then .ok ((), w) else .error (.other "invalid signature")
  | .findSession sid => .ok (w.findSession sid, w)
  | .revokeSession sid sub now =>
    .ok ((), { w with
      sessions := w.sessions.updateMany
        (fun row => row.id = sid && row.userId = sub && row.revokedAt.isNone) (.revoked now) })
  | .signOutEverywhere sub version =>
    .ok ((), { w with
      users := w.users.updateMany
        (fun row => row.id = sub && row.tokenVersion = version) .signedOut })
  | .revokeSessions userId version filter now =>
    .ok (w.sessions.count (UserSession.live userId version filter now), { w with
      sessions := w.sessions.updateMany (UserSession.live userId version filter now) (.revoked now) })
  | .pruneGrants now => .ok ((), { w with grants := w.grants.deleteMany (·.expiresAt < now) })
  | .createGrant kind userId tokenVersion clientId redirectUri nonce expiresAt =>
    w.createGrant kind userId tokenVersion clientId redirectUri nonce expiresAt
  | .claimCode hash now =>
    .ok (w.grants.count (OidcGrant.redeemable hash now), { w with
      grants := w.grants.updateMany (OidcGrant.redeemable hash now) (.used now) })
  | .findGrant hash => .ok (w.grants.findFirst? (·.tokenHash = hash), w)
  | .findAccessToken hash now =>
    .ok (w.grants.findFirst? fun row => row.tokenHash = hash && row.kind = .accessToken &&
      row.usedAt.isNone && now < row.expiresAt, w)

/-- Reading the clock cannot fail. -/
def Stmt.fault {β : Type} (e : Stmt β) (i : ApiInput) : Option (Fault Failure) :=
  match e with
  | .clock => none
  | _ => i.fault

/-- The database compares identifiers; everything else in the settings is read by the programs. -/
class Installation where
  settings : Settings

export Installation (settings)

variable [Installation]

instance : Semantics Stmt ApiInput World Failure where
  exec e i w :=
    let w := w.tick i.elapsed
    Interleave.execute (e.fault i) (e.run settings i w) w

abbrev ApiCall (α : Type) : Type 1 := Prog Stmt Failure α

/-! ## Sessions -/

/-- `client.userAgent?.slice(0, 256) || null` -/
def SessionClient.column (client : SessionClient) : Option String :=
  (client.userAgent.map fun text => String.ofList (text.toList.take 256)).filter (!·.isEmpty)

def issue (user : UserRow) (client : SessionClient) : ApiCall JwtPayload := do
  let now ← await .clock
  await (.pruneSessions now)
  let sid ← await (.createSession user.id user.tokenVersion client.column (now + SESSION_TTL_MS))
  let payload : JwtPayload := ⟨user.id, some user.tokenVersion, some sid⟩
  await (.sign payload)
  return payload

/-- The end of `authenticate`, on the account behind the token. -/
def AuthenticatedUser.of (payload : JwtPayload) (user : Option UserRow) :
    Except Failure AuthenticatedUser :=
  match user.filter (·.active) with
  | none => .error (unauthorized "Session is no longer valid")
  | some user =>
    if payload.ver.getD 0 ≠ user.tokenVersion then
      .error (unauthorized "Session has been revoked")
    else .ok ⟨user.id, user.active, user.tokenVersion, user.mustChangePassword, payload.sid⟩

def liveSession (payload : JwtPayload) (now : Time) (found : Option (UserSession × UserRow)) :
    Option (UserSession × UserRow) :=
  found.filter fun (session, _) =>
    session.userId = payload.sub && session.revokedAt.isNone && now < session.expiresAt

def verifyJwt (token : JwtPayload) : ApiCall Unit :=
  tryCatch (await (.verifyToken token)) fun _ => throw (unauthorized "Invalid token")

def authenticate (token : JwtPayload) : ApiCall AuthenticatedUser := do
  verifyJwt token
  match token.sid with
  | some sid => do
    let found ← await (.findSession sid)
    let now ← await .clock
    match liveSession token now found with
    | none => throw (unauthorized "Session has been revoked")
    | some (_, user) => lift (AuthenticatedUser.of token (some user))
  | none => do
    let user ← await (.findUser token.sub)
    lift (AuthenticatedUser.of token user)

def endSession (token : JwtPayload) : ApiCall Unit :=
  match token.sid with
  | some sid => do
    let now ← await .clock
    await (.revokeSession sid token.sub now)
  | none => await (.signOutEverywhere token.sub (token.ver.getD 0))

/-- A token that does not verify is ignored. -/
def revokeToken (token : JwtPayload) : ApiCall Unit :=
  (await (.verifyToken token) : ApiCall Unit).andThen fun r =>
    match r with
    | .ok _ => endSession token
    | .error _ => pure ()

def revoke (userId : Id) (filter : SessionFilter) : ApiCall Nat := do
  let user ← await (.findUser userId)
  match user with
  | none => return 0
  | some user => do
    let now ← await .clock
    await (.revokeSessions userId user.tokenVersion filter now)

def endSessions (userId : Id) (filter : SessionFilter) : ApiCall Nat := do
  let user ← await (.findUser userId)
  refuseIf user.isNone (unauthorized "Unauthorized")
  let ended ← revoke userId filter
  if 0 < ended then do
    await (.aside "audit auth.sessions_ended")
    return ended
  else return ended

def createSession (user : UserRow) (client : SessionClient) : ApiCall (JwtPayload × SessionUser) :=
  return (← issue user client, toSession settings user)

/-! ## Registration -/

def registrationAvailable : ApiCall Bool :=
  if settings.edition = .saas then return false
  else if settings.registrationMode = .open then return true
  else do
    let users ← await .countUsers
    return users = 0

def bootstrapTokenEnforced : Bool := settings.bootstrapToken ≠ "" || settings.production

def assertBootstrapToken (candidate : Option String) : Except Failure Unit :=
  if settings.bootstrapToken = "" then
    .error (forbidden ("The first administrator needs a setup token. Set " ++
      "INITPAD_BOOTSTRAP_TOKEN (install.sh generates it) and restart InitPad."))
  else if (⟨settings.bootstrapToken⟩ : Sha256) ≠ ⟨trim (candidate.getD "")⟩ then
    .error (forbidden
      "The setup token is not valid. Use the token printed at the end of install.sh.")
  else .ok ()

structure ManagedUserInput where
  username : String
  email : String
  name : Option String := none
  password : String
  platformRole : PlatformRole := .user
  mustChangePassword : Bool := false
  deriving DecidableEq

def storeManagedUser (input : ManagedUserInput) (username email : String)
    (giteaUser : GiteaUser) : ApiCall UserRow := do
  let accessToken ← await (.createCloneToken username input.password)
  await (.aside "randomizeUserPassword")
  let passwordHash ← await (.hashPassword input.password)
  await (.createUser {
    giteaId := giteaUser.id
    username := giteaUser.login
    email
    name := input.name
    platformRole := input.platformRole
    mustChangePassword := input.mustChangePassword
    passwordHash
    accessToken })

/-- A failure behind the Gitea account removes that account; `deleteUser` ignores its errors. -/
def provisionManagedUser (input : ManagedUserInput) : ApiCall UserRow := do
  let username := settings.normalizeAccountIdentifier input.username
  let email := settings.normalizeAccountIdentifier input.email
  refuseIf (isReservedUsername username) (badRequest RESERVED_USERNAME_MESSAGE)
  let existing ← await (.findByIdentifier username email)
  refuseIf existing.isSome (badRequest "Username or e-mail is already taken")
  let giteaUser ← await (.createGiteaUser username email input.password)
  tryCatch (storeManagedUser input username email giteaUser) fun e => do
    (await (.aside "deleteUser") : ApiCall Unit).ignoreError
    throw e

/-- `registerUnlocked` from its count on. -/
def registerCounted (dto : RegisterDto) (client : SessionClient) (userCount : Nat) :
    ApiCall (JwtPayload × SessionUser) := do
  lift (if userCount = 0 ∧ bootstrapTokenEnforced then assertBootstrapToken dto.bootstrapToken
    else .ok ())
  let user ← provisionManagedUser {
    username := dto.username
    email := dto.email
    password := dto.password
    platformRole := if userCount = 0 then .admin else .user }
  await (.aside "audit auth.registered")
  createSession user client

def registerUnlocked (dto : RegisterDto) (client : SessionClient) :
    ApiCall (JwtPayload × SessionUser) := do
  let available ← registrationAvailable
  refuseIf (!available) (forbidden
    "Account registration is closed. Ask the platform administrator for access.")
  let userCount ← await .countUsers
  registerCounted dto client userCount

def register (dto : RegisterDto) (client : SessionClient) :
    ApiCall (JwtPayload × SessionUser) := do
  await (.registrationLock dto)
  registerUnlocked dto client

/-- The first two checks of `login`. -/
def passwordMatches (password : String) (user : Option UserRow) : Bool :=
  (user.bind (·.passwordHash)).any (verifyPassword password)

def login (dto : LoginDto) (client : SessionClient) : ApiCall (JwtPayload × SessionUser) := do
  refuseIf (settings.edition = .saas)
    (forbidden "Password sign-in is disabled in the SaaS edition")
  let identity := settings.normalizeAccountIdentifier dto.username
  let found ← await (.findByIdentifier identity identity)
  match found.filter fun user => passwordMatches dto.password (some user) with
  | none => do
    await (.aside "audit auth.sign_in_failed")
    throw (unauthorized "Invalid username or password")
  | some user => do
    (if user.active then pure () else do
      await (.aside "audit auth.sign_in_failed")
      throw (unauthorized "This account has been deactivated"))
    await (.aside "audit auth.signed_in")
    createSession user client

def changePassword (userId : Id) (currentPassword newPassword : String) (client : SessionClient) :
    ApiCall (JwtPayload × SessionUser) := do
  let user ← await (.findUser userId)
  refuseIf (!passwordMatches currentPassword user)
    (unauthorized "Current password is incorrect")
  refuseIf (passwordMatches newPassword user)
    (badRequest "New password must differ from the current one")
  let passwordHash ← await (.hashPassword newPassword)
  let updated ← await (.replacePassword userId passwordHash .passwordChanged)
  createSession updated client

/-! ## Links -/

def issueAuthLink (user : UserRow) (kind : MailKind) (ttlMs : Nat) : ApiCall RandomToken :=
  await (.issueAuthToken user.id kind ttlMs)

def requestEmailVerification (userId : Id) : ApiCall RandomToken := do
  refuseIf (settings.edition = .saas)
    (badRequest "SaaS e-mail verification is provided by GitHub")
  let user ← await (.findUser userId)
  match user with
  | none => throw (unauthorized "Unauthorized")
  | some user => do
    refuseIf user.email.isNone (badRequest "No e-mail address on file")
    refuseIf user.emailVerifiedAt.isSome (badRequest "E-mail is already verified")
    issueAuthLink user .emailVerify EMAIL_VERIFY_TTL_MS

def requestPasswordReset (identity : String) : ApiCall Unit := do
  let id := settings.normalizeAccountIdentifier identity
  if id.isEmpty then return ()
  else do
    let found ← await (.findByIdentifier id id)
    match found.filter fun user =>
      user.passwordHash.isSome && user.email.isSome && settings.mailEnabled with
    | none => return ()
    | some user => do
      let _ ← issueAuthLink user .passwordReset PASSWORD_RESET_TTL_MS
      await (.aside "audit auth.password_reset_requested")

def createActivationLink (userId : Id) : ApiCall RandomToken := do
  let user ← await (.findUser userId)
  match user with
  | none => throw (badRequest "User not found")
  | some user => issueAuthLink user .activation ACTIVATION_TTL_MS

/-- The check of `findUsableAuthToken` on the row that was found. -/
def usable (kind : MailKind) (now : Time) (found : Option AuthTokenRow) : Option AuthTokenRow :=
  found.filter fun record =>
    record.kind = kind && record.usedAt.isNone && now ≤ record.expiresAt

/-- `token` is none for an empty text. -/
def findUsableAuthToken (token : Option RandomToken) (kind : MailKind) : ApiCall AuthTokenRow :=
  match token with
  | none => throw invalidLink
  | some token => do
    let found ← await (.findAuthToken (hashToken token))
    let now ← await .clock
    match usable kind now found with
    | none => throw invalidLink
    | some record => return record

def claimAuthToken (record : AuthTokenRow) : ApiCall Unit := do
  let now ← await .clock
  let claimed ← await (.claimAuthToken record.id record.kind now)
  refuseIf (claimed ≠ 1) invalidLink

def consumeAuthToken (token : Option RandomToken) (kind : MailKind) : ApiCall Id := do
  let record ← findUsableAuthToken token kind
  claimAuthToken record
  return record.userId

def verifyEmail (token : Option RandomToken) : ApiCall Unit := do
  let userId ← consumeAuthToken token .emailVerify
  let now ← await .clock
  await (.verifyEmail userId now)

def gitUnavailable : Failure :=
  serviceUnavailable "The Git service is temporarily unavailable. Try again in a few minutes."

def revokeGitCredential (userId : Id) : ApiCall Unit := do
  let user ← await (.findUser userId)
  if user.any (·.giteaId.isSome) then do
    tryCatch (do
      await (.aside "repositories of the account")
      await (.aside "revokeAccountCredentials")) fun _ => throw gitUnavailable
    await (.clearAccessToken userId)
  else return ()

def resetPassword (token : Option RandomToken) (newPassword : String) : ApiCall Unit := do
  let record ← findUsableAuthToken token .passwordReset
  revokeGitCredential record.userId
  claimAuthToken record
  let passwordHash ← await (.hashPassword newPassword)
  let _ ← await (.replacePassword record.userId passwordHash .passwordReset)

def activate (token : Option RandomToken) (newPassword : String) (client : SessionClient) :
    ApiCall (JwtPayload × SessionUser) := do
  let userId ← consumeAuthToken token .activation
  let passwordHash ← await (.hashPassword newPassword)
  let updated ← await (.replacePassword userId passwordHash .accountActivated)
  createSession updated client

/-! ## OIDC -/

structure AuthCode where
  userId : Id
  tokenVersion : Nat
  clientId : String
  redirectUri : String
  nonce : Option String
  deriving DecidableEq

def issueCode (input : AuthCode) : ApiCall RandomToken := do
  let pruned ← await .clock
  await (.pruneGrants pruned)
  let now ← await .clock
  await (.createGrant .authorizationCode input.userId input.tokenVersion (some input.clientId)
    (some input.redirectUri) input.nonce (now + AUTHORIZATION_CODE_TTL_MS))

/-- The columns of a code; empty texts count as missing. -/
def OidcGrant.code (entry : OidcGrant) : Option AuthCode :=
  match entry.clientId.filter (!·.isEmpty), entry.redirectUri.filter (!·.isEmpty) with
  | some clientId, some redirectUri =>
    some ⟨entry.userId, entry.tokenVersion, clientId, redirectUri, entry.nonce.filter (!·.isEmpty)⟩
  | _, _ => none

/-- `code` is none for an empty text. -/
def consumeCode (code : Option RandomToken) : ApiCall (Option AuthCode) :=
  match code with
  | none => return none
  | some code => do
    let consumedAt ← await .clock
    let claimed ← await (.claimCode (hashToken code) consumedAt)
    if claimed ≠ 1 then return none
    else do
      let entry ← await (.findGrant (hashToken code))
      return entry.bind (·.code)

def issueAccessToken (userId : Id) (tokenVersion : Nat) : ApiCall RandomToken := do
  let pruned ← await .clock
  await (.pruneGrants pruned)
  let now ← await .clock
  await (.createGrant .accessToken userId tokenVersion none none none (now + ACCESS_TOKEN_TTL_MS))

def accessForToken (token : Option RandomToken) : ApiCall (Option OidcGrant) :=
  match token with
  | none => return none
  | some token => do
    let now ← await .clock
    await (.findAccessToken (hashToken token) now)

/-- The account behind a code or an access token, if its generation is still the same. -/
def fenced (user : Option UserRow) (tokenVersion : Nat) : Option UserRow :=
  user.filter fun user =>
    user.active && !user.mustChangePassword && user.tokenVersion = tokenVersion

/-- `authorize`, for a request with a session token and valid parameters. -/
def authorize (token : JwtPayload) (clientId redirectUri : String) (nonce : Option String) :
    ApiCall (Option RandomToken) :=
  (authenticate token).andThen fun r =>
    match r with
    | .error _ => return none
    | .ok session =>
      if session.mustChangePassword then return none
      else do
        let code ← issueCode ⟨session.id, session.tokenVersion, clientId, redirectUri, nonce⟩
        return some code

/-- `token`, for a client that is authenticated as `clientId`. -/
def exchange (code : Option RandomToken) (clientId redirectUri : String) :
    ApiCall RandomToken := do
  let consumed ← consumeCode code
  match consumed.filter fun code => code.clientId = clientId && code.redirectUri = redirectUri with
  | none => throw invalidGrant
  | some code => do
    let user ← await (.findUser code.userId)
    match fenced user code.tokenVersion with
    | none => throw invalidGrant
    | some user => issueAccessToken user.id user.tokenVersion

def userinfo (token : Option RandomToken) : ApiCall UserRow := do
  let access ← accessForToken token
  match access with
  | none => throw (unauthorized "invalid_token")
  | some access => do
    let user ← await (.findUser access.userId)
    match fenced user access.tokenVersion with
    | none => throw (unauthorized "invalid_token")
    | some user => return user

abbrev closedInstallation : Installation where
  settings := {
    edition := .selfHosted
    registrationMode := .closed
    bootstrapToken := "setup"
    production := true
    docsUrl := ""
    mailEnabled := false
    normalizeAccountIdentifier := id
    equalsInsensitive := fun stored value => stored = value }

end InitPad.Accounts
