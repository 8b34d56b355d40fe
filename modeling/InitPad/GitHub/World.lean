import InitPad.Approvals.Statement
import InitPad.Interleave.Commit
import InitPad.Secrets.Cipher

/-!
# InitPad.GitHub.World

The GitHub App of an installation of InitPad: the App installations that its webhooks and setup
callbacks report, the workspaces that may use them, the setup states in between, and the linked
GitHub accounts with their tokens. GitHub's ids are immutable texts.
-/

namespace InitPad.GitHub

open Interleave Store Secrets

structure SetupState where
  random : Nat
  deriving DecidableEq

structure StateHash where
  state : SetupState
  deriving DecidableEq

def hashState (state : SetupState) : StateHash := ⟨state⟩

/-! ## Rows -/

inductive AccountType where
  | user | organization
  | other (name : String)
  deriving DecidableEq

structure GitHubInstallation where
  id : Id
  installationId : String
  accountId : Option String
  accountLogin : String
  accountType : AccountType
  repositorySelection : String
  requesterAccountId : Option String
  suspendedAt : Option Time
  deletedAt : Option Time
  deriving DecidableEq

instance : Keyed GitHubInstallation Id := ⟨GitHubInstallation.id⟩

structure GitHubInstallationAccess where
  githubInstallationId : Id
  workspaceId : Id
  authorizedById : Id
  deriving DecidableEq

instance : Keyed GitHubInstallationAccess (Id × Id) :=
  ⟨fun row => (row.githubInstallationId, row.workspaceId)⟩

structure GitHubInstallationSetup where
  id : Id
  tokenHash : StateHash
  userId : Id
  workspaceId : Id
  expiresAt : Time
  requestedAt : Option Time
  usedAt : Option Time
  deriving DecidableEq

instance : Keyed GitHubInstallationSetup Id := ⟨GitHubInstallationSetup.id⟩

/-- The linked GitHub account of a user, with the tokens to act for it. -/
structure ExternalIdentity where
  id : Id
  userId : Id
  providerUserId : String
  accessTokenEncrypted : Option StoredSecret
  accessTokenExpiresAt : Option Time
  refreshTokenEncrypted : Option StoredSecret
  refreshTokenExpiresAt : Option Time
  credentialVersion : Nat
  credentialRefreshingAt : Option Time
  deriving DecidableEq

instance : Keyed ExternalIdentity Id := ⟨ExternalIdentity.id⟩

deriving instance DecidableEq for WorkspaceMember

instance : Keyed WorkspaceMember (Id × Id) := ⟨fun row => (row.workspaceId, row.userId)⟩

structure GitHubWebhookDelivery where
  deliveryId : String
  event : String
  receivedAt : Time
  deriving DecidableEq

instance : Keyed GitHubWebhookDelivery String := ⟨GitHubWebhookDelivery.deliveryId⟩

structure World where
  now : Time := 0
  installations : Table GitHubInstallation := {}
  accesses : Table GitHubInstallationAccess := {}
  setups : Table GitHubInstallationSetup := {}
  identities : Table ExternalIdentity := {}
  members : Table WorkspaceMember := {}
  deliveries : Table GitHubWebhookDelivery := {}
  /-- The next id, random bytes and initialization vector. -/
  drawn : Nat := 0

def World.draw (w : World) : World := { w with drawn := w.drawn + 1 }

def World.tick (w : World) (elapsed : Nat) : World := { w with now := w.now + elapsed }

/-- The exceptions of a request handler, by their HTTP status, and all other errors. -/
inductive Failure where
  | http (status : Nat) (message : String)
  | other (message : String)
  deriving DecidableEq

def badRequest (message : String) : Failure := .http 400 message

def unauthorized (message : String) : Failure := .http 401 message

def forbidden (message : String) : Failure := .http 403 message

def conflict (message : String) : Failure := .http 409 message

def reauthorizationRequired : Failure := .other "GitHub authorization must be renewed"

def refreshInProgress : Failure :=
  .other "GitHub authorization is being refreshed; retry the operation"

def changedIdentity (installationId : String) : Failure :=
  conflict ("GitHub installation '" ++ installationId ++ "' changed immutable account identity")

def RETENTION_MS : Nat := 90 * 24 * 60 * 60 * 1000
def SETUP_TTL_MS : Nat := 10 * 60 * 1000
def REQUEST_TTL_MS : Nat := 14 * 24 * 60 * 60 * 1000
def REFRESH_BEFORE_MS : Nat := 60000
def REFRESH_LEASE_MS : Nat := 30000
def REFRESH_WAIT_ATTEMPTS : Nat := 5
/-- The timeout of a request to GitHub. -/
def DEFAULT_TIMEOUT_MS : Nat := 15000

def WORKSPACE_ADMINS : List WorkspaceRole := [.owner, .admin]

/-! ## What GitHub says -/

inductive InstallationAction where
  | created | deleted | suspend | unsuspend
  | other (name : String)
  deriving DecidableEq

structure EventAccount where
  id : Option String
  login : Option String
  type : Option AccountType
  deriving DecidableEq

structure EventInstallation where
  id : Option String
  account : Option EventAccount
  repositorySelection : Option String
  suspendedAt : Option Time
  deriving DecidableEq

/-- The `installation` webhook; ids are texts already, and an empty login counts as missing. -/
structure InstallationEvent where
  action : Option InstallationAction
  installation : Option EventInstallation
  requester : Option String
  deriving DecidableEq

/-- The `installation_target` webhook. -/
structure InstallationTargetEvent where
  renamed : Bool
  account : Option EventAccount
  deriving DecidableEq

/-- The account types that the answers of the App API are parsed with. -/
inductive VerifiedAccountType where
  | user | organization
  deriving DecidableEq

def VerifiedAccountType.type : VerifiedAccountType → AccountType
  | .user => .user
  | .organization => .organization

structure VerifiedGitHubInstallation where
  installationId : String
  accountId : String
  accountLogin : String
  accountType : VerifiedAccountType
  repositorySelection : String
  suspendedAt : Option Time
  deriving DecidableEq

structure GitHubUserTokenSet where
  accessToken : String
  accessTokenExpiresAt : Option Time
  refreshToken : Option String
  refreshTokenExpiresAt : Option Time
  deriving DecidableEq

structure GitHubOAuthExchange where
  providerUserId : String
  token : GitHubUserTokenSet
  deriving DecidableEq

/-! ## Rows under the writes of the API -/

/-- The columns of `handleEvent` for an event that is no removal. -/
structure InstallationData where
  accountId : String
  accountLogin : String
  accountType : AccountType
  repositorySelection : String
  suspendedAt : Option Time
  /-- Written for `created` only. -/
  requesterAccountId : Option (Option String)
  deriving DecidableEq

namespace GitHubInstallation

def synced (data : InstallationData) (row : GitHubInstallation) : GitHubInstallation := { row with
  accountId := some data.accountId
  accountLogin := data.accountLogin
  accountType := data.accountType
  repositorySelection := data.repositorySelection
  suspendedAt := data.suspendedAt
  deletedAt := none
  requesterAccountId := data.requesterAccountId.getD row.requesterAccountId }

/-- A row that `upsert` creates, before its columns are written. -/
def fresh (id : Id) (installationId : String) : GitHubInstallation where
  id
  installationId
  accountId := none
  accountLogin := ""
  accountType := .user
  repositorySelection := "selected"
  requesterAccountId := none
  suspendedAt := none
  deletedAt := none

def uninstalled (accountId accountLogin : String) (now : Time) (row : GitHubInstallation) :
    GitHubInstallation :=
  { row with accountId := some accountId, accountLogin, deletedAt := some now }

def removable (installationId accountId : String) (row : GitHubInstallation) : Bool :=
  row.installationId = installationId &&
    (row.accountId = some accountId || row.accountId.isNone)

def renamed (login : String) (row : GitHubInstallation) : GitHubInstallation :=
  { row with accountLogin := login }

end GitHubInstallation

def VerifiedGitHubInstallation.data (verified : VerifiedGitHubInstallation) : InstallationData where
  accountId := verified.accountId
  accountLogin := verified.accountLogin
  accountType := verified.accountType.type
  repositorySelection := verified.repositorySelection
  suspendedAt := verified.suspendedAt
  requesterAccountId := none

namespace GitHubInstallationSetup

/-- The rows that `createSetup` removes. -/
def stale (now : Time) (row : GitHubInstallationSetup) : Bool :=
  row.expiresAt ≤ now || row.usedAt.isSome

/-- The rows that `markRequested` extends. -/
def requestable (hash : StateHash) (now : Time) (row : GitHubInstallationSetup) : Bool :=
  row.tokenHash = hash && row.usedAt.isNone && row.requestedAt.isNone && now < row.expiresAt

def requested (now : Time) (row : GitHubInstallationSetup) : GitHubInstallationSetup :=
  { row with requestedAt := some now, expiresAt := now + REQUEST_TTL_MS }

def isOpen (userId workspaceId : Id) (direct : Bool) (now : Time) (row : GitHubInstallationSetup) :
    Bool :=
  row.userId = userId && row.workspaceId = workspaceId && (!direct || row.requestedAt.isNone) &&
    row.usedAt.isNone && now < row.expiresAt

def claimable (id : Id) (now : Time) (row : GitHubInstallationSetup) : Bool :=
  row.id = id && row.usedAt.isNone && now < row.expiresAt

def used (now : Time) (row : GitHubInstallationSetup) : GitHubInstallationSetup :=
  { row with usedAt := some now }

end GitHubInstallationSetup

namespace ExternalIdentity

/-- The columns of `encrypted`, in a new generation without a lease. -/
def withTokens (ring : Keyring) (iv : Nat) (token : GitHubUserTokenSet) (row : ExternalIdentity) :
    ExternalIdentity := { row with
  accessTokenEncrypted := some (encryptSecret ring iv token.accessToken)
  accessTokenExpiresAt := token.accessTokenExpiresAt
  refreshTokenEncrypted := token.refreshToken.map (encryptSecret ring (iv + 1))
  refreshTokenExpiresAt := token.refreshTokenExpiresAt
  credentialVersion := row.credentialVersion + 1
  credentialRefreshingAt := none }

def withoutTokens (row : ExternalIdentity) : ExternalIdentity := { row with
  accessTokenEncrypted := none
  accessTokenExpiresAt := none
  refreshTokenEncrypted := none
  refreshTokenExpiresAt := none
  credentialVersion := row.credentialVersion + 1
  credentialRefreshingAt := none }

/-- The rows whose refresh can be claimed: no lease, or one that has expired. -/
def leasable (id : Id) (version : Nat) (now : Time) (row : ExternalIdentity) : Bool :=
  row.id = id && row.credentialVersion = version &&
    row.credentialRefreshingAt.all fun refreshingAt => refreshingAt + REFRESH_LEASE_MS < now

def leased (claimTime : Time) (row : ExternalIdentity) : ExternalIdentity :=
  { row with credentialRefreshingAt := some claimTime }

/-- The rows whose lease is still the one from `claimTime`. -/
def held (id : Id) (version : Nat) (claimTime : Time) (row : ExternalIdentity) : Bool :=
  row.id = id && row.credentialVersion = version && row.credentialRefreshingAt = some claimTime

def released (row : ExternalIdentity) : ExternalIdentity :=
  { row with credentialRefreshingAt := none }

end ExternalIdentity

end InitPad.GitHub
