import InitPad.Deployment.Types
import InitPad.Interleave.Commit

/-!
# InitPad.Accounts.World

The accounts of an installation, with what a request can present to act as one of them: a password,
a link sent by e-mail, a session cookie and the codes and tokens of the OIDC provider. A random
token is drawn with the statement that stores its hash: nobody else sees it before. Different
tokens are drawn at every call, and have different hashes.
-/

namespace InitPad.Accounts

open Interleave Store

/-- The bytes of `generateToken` and `randomBytes`. -/
structure RandomToken where
  random : Nat
  deriving DecidableEq

structure TokenHash where
  token : RandomToken
  deriving DecidableEq

def hashToken (token : RandomToken) : TokenHash := ⟨token⟩

/-- A salted scrypt record. -/
structure PasswordHash where
  password : String
  salt : Nat
  deriving DecidableEq

def verifyPassword (password : String) (stored : PasswordHash) : Bool := stored.password = password

structure Sha256 where
  text : String
  deriving DecidableEq

/-- White space and line terminators of `String.prototype.trim`. -/
def isSpace (c : Char) : Bool :=
  [0x09, 0x0a, 0x0b, 0x0c, 0x0d, 0x20, 0xa0, 0x1680, 0x2028, 0x2029, 0x202f, 0x205f, 0x3000,
    0xfeff].contains c.toNat || 0x2000 ≤ c.toNat && c.toNat ≤ 0x200a

def trim (text : String) : String :=
  String.ofList ((text.toList.dropWhile isSpace).reverse.dropWhile isSpace).reverse

/-! ## Rows -/

inductive PlatformRole where
  | admin | user
  deriving DecidableEq

structure UserRow where
  id : Id
  giteaId : Option Nat
  username : String
  name : Option String
  email : Option String
  avatarUrl : Option String
  accessToken : String
  passwordHash : Option PasswordHash
  platformRole : PlatformRole
  active : Bool
  mustChangePassword : Bool
  tokenVersion : Nat
  emailVerifiedAt : Option Time
  deriving DecidableEq

instance : Keyed UserRow Id := ⟨UserRow.id⟩

inductive MailKind where
  | emailVerify | passwordReset | activation
  deriving DecidableEq

structure AuthTokenRow where
  id : Id
  userId : Id
  kind : MailKind
  tokenHash : TokenHash
  expiresAt : Time
  usedAt : Option Time
  deriving DecidableEq

instance : Keyed AuthTokenRow Id := ⟨AuthTokenRow.id⟩

structure UserSession where
  id : Id
  userId : Id
  version : Nat
  userAgent : Option String
  expiresAt : Time
  revokedAt : Option Time
  deriving DecidableEq

instance : Keyed UserSession Id := ⟨UserSession.id⟩

inductive GrantKind where
  | authorizationCode | accessToken
  deriving DecidableEq

structure OidcGrant where
  id : Id
  userId : Id
  kind : GrantKind
  tokenHash : TokenHash
  tokenVersion : Nat
  clientId : Option String
  redirectUri : Option String
  nonce : Option String
  expiresAt : Time
  usedAt : Option Time
  deriving DecidableEq

instance : Keyed OidcGrant Id := ⟨OidcGrant.id⟩

/-- What a session token says. The signature is valid for the payloads of `World.signed` only. -/
structure JwtPayload where
  sub : Id
  ver : Option Nat
  sid : Option Id
  deriving DecidableEq

structure World where
  now : Time := 0
  users : Table UserRow := {}
  authTokens : Table AuthTokenRow := {}
  sessions : Table UserSession := {}
  grants : Table OidcGrant := {}
  signed : List JwtPayload := []
  /-- The next random bytes, and the next id. -/
  drawn : Nat := 0

def World.draw (w : World) : World := { w with drawn := w.drawn + 1 }

def World.tick (w : World) (elapsed : Nat) : World := { w with now := w.now + elapsed }

/-- The exceptions of a request handler, by their HTTP status, and all other errors. -/
inductive Failure where
  | http (status : Nat) (message : String)
  | other (message : String)
  deriving DecidableEq

def badRequest (message : String) : Failure := .http 400 message

def unauthorized (message : String) : Failure := .http 401 message

def forbidden (message : String) : Failure := .http 403 message

def serviceUnavailable (message : String) : Failure := .http 503 message

def invalidLink : Failure := badRequest "This link is invalid or has expired"

def invalidGrant : Failure := badRequest "invalid_grant"

def uniqueViolation : Failure := .other "Unique constraint failed"

def recordNotFound : Failure := .other "Record to update not found"

inductive Edition where
  | selfHosted | saas
  deriving DecidableEq

inductive RegistrationMode where
  | «open» | closed
  deriving DecidableEq

structure Settings where
  edition : Edition
  registrationMode : RegistrationMode
  /-- Empty when none is configured. -/
  bootstrapToken : String
  /-- `process.env.NODE_ENV === 'production'` -/
  production : Bool
  docsUrl : String
  mailEnabled : Bool
  /-- Unicode normalization, trimmed and in lower case. -/
  normalizeAccountIdentifier : String → String
  /-- PostgreSQL's comparison without case. -/
  equalsInsensitive : String → String → Bool

def EMAIL_VERIFY_TTL_MS : Nat := 24 * 60 * 60 * 1000
def PASSWORD_RESET_TTL_MS : Nat := 60 * 60 * 1000
def ACTIVATION_TTL_MS : Nat := 3 * 24 * 60 * 60 * 1000
def SESSION_TTL_MS : Nat := 7 * 24 * 60 * 60 * 1000
def AUTHORIZATION_CODE_TTL_MS : Nat := 5 * 60000
def ACCESS_TOKEN_TTL_MS : Nat := 60 * 60000

def RESERVED_USERNAMES : List String :=
  [".well-known", "admin", "api", "assets", "attachments", "avatar", "avatars", "captcha",
    "commits", "debug", "devtools", "error", "explore", "favicon.ico", "ghost", "issues", "login",
    "manifest.json", "metrics", "milestones", "new", "notifications", "org", "pulls", "raw",
    "repo", "repo-avatars", "robots.txt", "search", "serviceworker.js", "ssh_info",
    "swagger.v1.json", "user", "v2"]

/-- `username` is trimmed and in lower case already. -/
def isReservedUsername (username : String) : Bool := RESERVED_USERNAMES.contains username

def RESERVED_USERNAME_MESSAGE : String :=
  "This username is reserved (for example \"admin\"). Choose another one; the first account " ++
    "still becomes the administrator."

structure RegisterDto where
  username : String
  email : String
  password : String
  bootstrapToken : Option String
  deriving DecidableEq

structure LoginDto where
  username : String
  password : String
  deriving DecidableEq

structure SessionClient where
  userAgent : Option String := none
  deriving DecidableEq

structure SessionUser where
  id : Id
  username : String
  name : Option String
  email : Option String
  avatarUrl : Option String
  platformRole : PlatformRole
  edition : Edition
  docsUrl : Option String
  mustChangePassword : Bool
  emailVerified : Bool
  deriving DecidableEq

def toSession (settings : Settings) (user : UserRow) : SessionUser where
  id := user.id
  username := user.username
  name := user.name
  email := user.email
  avatarUrl := user.avatarUrl
  platformRole := user.platformRole
  edition := settings.edition
  docsUrl := if settings.docsUrl.isEmpty then none else some settings.docsUrl
  mustChangePassword := user.mustChangePassword
  emailVerified := user.emailVerifiedAt.isSome

structure AuthenticatedUser where
  id : Id
  active : Bool
  tokenVersion : Nat
  mustChangePassword : Bool
  sessionId : Option Id
  deriving DecidableEq

namespace UserRow

/-- The columns of `changePassword`, `resetPassword` and `activate`. -/
def withPassword (passwordHash : PasswordHash) (row : UserRow) : UserRow := { row with
  passwordHash := some passwordHash
  mustChangePassword := false
  tokenVersion := row.tokenVersion + 1 }

def verified (now : Time) (row : UserRow) : UserRow := { row with emailVerifiedAt := some now }

def withoutAccessToken (row : UserRow) : UserRow := { row with accessToken := "" }

def signedOut (row : UserRow) : UserRow := { row with tokenVersion := row.tokenVersion + 1 }

end UserRow

namespace AuthTokenRow

/-- The rows that `issueAuthToken` supersedes. -/
def superseded (userId : Id) (kind : MailKind) (row : AuthTokenRow) : Bool :=
  row.userId = userId && row.kind = kind && row.usedAt.isNone

/-- The rows that `claimAuthToken` marks. -/
def claimable (id : Id) (kind : MailKind) (now : Time) (row : AuthTokenRow) : Bool :=
  row.id = id && row.kind = kind && row.usedAt.isNone && now ≤ row.expiresAt

def used (now : Time) (row : AuthTokenRow) : AuthTokenRow := { row with usedAt := some now }

end AuthTokenRow

/-- The rows that `consumeCode` marks. -/
def OidcGrant.redeemable (hash : TokenHash) (now : Time) (row : OidcGrant) : Bool :=
  row.tokenHash = hash && row.kind = .authorizationCode && row.usedAt.isNone && now < row.expiresAt

def OidcGrant.used (now : Time) (row : OidcGrant) : OidcGrant := { row with usedAt := some now }

end InitPad.Accounts
