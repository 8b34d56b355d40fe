import InitPad.GitHub.World

/-!
# InitPad.GitHub.Service

`GitHubInstallationService`, the webhook controller with its delivery table, and
`GitHubUserCredentialService`. A statement is one query, one update, one transaction or one request
to GitHub; a refresh of tokens is sent and answered in two statements. A statement that fails may
have been carried out.
-/

namespace InitPad.GitHub

open Interleave Store Secrets
open Prog (await refuseIf)

/-! ## Statements -/

/-- The body of a webhook. An `installation` event is known by its number among the events that
GitHub has emitted. -/
inductive WebhookBody where
  | installation (event : Nat)
  | installationTarget (event : InstallationTargetEvent)
  | authorization (revoked : Bool) (senderId : Option String)
  | other (event : String)
  deriving DecidableEq

def WebhookBody.event : WebhookBody → String
  | .installation _ => "installation"
  | .installationTarget _ => "installation_target"
  | .authorization _ _ => "github_app_authorization"
  | .other event => event

inductive Stmt : Type → Type 1 where
  /-- `new Date()` -/
  | clock : Stmt Time
  /-- `applied`, for the request with this body. -/
  | countDelivery (deliveryId : String) (body : WebhookBody) : Stmt Nat
  | recordDelivery (deliveryId event : String) (receivedAt : Time) : Stmt Unit
  | pruneDeliveries (now : Time) : Stmt Unit
  | findInstallation (installationId : String) : Stmt (Option GitHubInstallation)
  | markDeleted (installationId accountId accountLogin : String) (now : Time) : Stmt Unit
  | upsertInstallation (installationId : String) (data : InstallationData) : Stmt Unit
  | renameAccount (accountId login : String) : Stmt Unit
  | findIdentity (userId : Id) : Stmt (Option ExternalIdentity)
  | pruneSetups (now : Time) : Stmt Unit
  | createSetup (userId workspaceId : Id) (expiresAt : Time) : Stmt SetupState
  | markRequested (hash : StateHash) (now : Time) : Stmt Unit
  | findSetup (hash : StateHash) : Stmt (Option GitHubInstallationSetup)
  /-- The newest; only a direct one, if `direct`. -/
  | findOpenSetup (userId workspaceId : Id) (direct : Bool) (now : Time) :
      Stmt (Option GitHubInstallationSetup)
  | getInstallation (installationId : String) : Stmt VerifiedGitHubInstallation
  | listInstallations : Stmt (List VerifiedGitHubInstallation)
  | getUserAccessibleInstallation (accessToken installationId providerUserId : String) :
      Stmt VerifiedGitHubInstallation
  | findMembership (workspaceId userId : Id) : Stmt (Option WorkspaceMember)
  | countAccess (workspaceId : Id) (installationId : String) : Stmt Nat
  | findApproved (providerUserId : String) (workspaceId : Id) : Stmt (Option GitHubInstallation)
  /-- The transaction of a setup: whether it has claimed the state. -/
  | bindInstallation (setupId : Id) (now : Time) (verified : VerifiedGitHubInstallation)
      (userId workspaceId : Id) : Stmt Bool
  | storeExchange (userId : Id) (exchange : GitHubOAuthExchange) : Stmt Nat
  | claimRefresh (id : Id) (version : Nat) (claimTime now : Time) : Stmt Nat
  | sendRefresh (refreshToken : String) : Stmt Unit
  | refreshAnswer : Stmt GitHubUserTokenSet
  | storeRefreshed (id : Id) (version : Nat) (claimTime : Time) (token : GitHubUserTokenSet) :
      Stmt Nat
  | releaseLease (id : Id) (version : Nat) (claimTime : Time) : Stmt Unit
  | clearVersion (id : Id) (version : Nat) : Stmt Unit
  | waitForPeer : Stmt Unit
  | revokeTokens (providerUserId : String) : Stmt Unit
  /-- The workspace changes the role of a member, or removes them. -/
  | setRole (workspaceId userId : Id) (role : Option WorkspaceRole) : Stmt Unit
  | link (userId : Id) (providerUserId : String) : Stmt Unit
  | unlink (userId : Id) : Stmt Unit

/-- What the environment of a statement decides: the answers of GitHub, and faults. -/
structure GitHubInput where
  elapsed : Nat := 0
  fault : Option (Fault Failure) := none
  verified : VerifiedGitHubInstallation := ⟨"", "", "", .user, "", none⟩
  listed : List VerifiedGitHubInstallation := []
  token : GitHubUserTokenSet := ⟨"", none, none, none⟩
  deriving DecidableEq

namespace World

variable (w : World)

def findInstallation (installationId : String) : Option GitHubInstallation :=
  w.installations.findFirst? (·.installationId = installationId)

def upsertInstallation (installationId : String) (data : InstallationData) : World :=
  match w.findInstallation installationId with
  | some _ => { w with
      installations := w.installations.updateMany (·.installationId = installationId)
        (.synced data) }
  | none => { w.draw with
      installations := w.installations.insert
        ((GitHubInstallation.fresh w.drawn installationId).synced data) }

def upsertAccess (githubInstallationId workspaceId userId : Id) : World :=
  match w.accesses.find? (githubInstallationId, workspaceId) with
  | some _ => { w with
      accesses := w.accesses.updateMany
        (fun row =>
          row.githubInstallationId = githubInstallationId && row.workspaceId = workspaceId)
        fun row => { row with authorizedById := userId } }
  | none => { w with
      accesses := w.accesses.insert ⟨githubInstallationId, workspaceId, userId⟩ }

def otherAccount (existing : Option GitHubInstallation) (accountId : String) : Bool :=
  existing.any fun row => row.accountId.any fun stored => stored ≠ "" && stored ≠ accountId

/-- `bindVerifiedInstallation` -/
def bindVerifiedInstallation (verified : VerifiedGitHubInstallation) (userId workspaceId : Id) :
    Except Failure World :=
  if otherAccount (w.findInstallation verified.installationId) verified.accountId then
    .error (changedIdentity verified.installationId)
  else
    let w := w.upsertInstallation verified.installationId verified.data
    match w.findInstallation verified.installationId with
    | some installation => .ok (w.upsertAccess installation.id workspaceId userId)
    | none => .error (.other "Record to update not found")

def bindInstallation (setupId : Id) (now : Time) (verified : VerifiedGitHubInstallation)
    (userId workspaceId : Id) : Except Failure (Bool × World) :=
  if w.setups.count (GitHubInstallationSetup.claimable setupId now) = 1 then
    let w := { w with
      setups := w.setups.updateMany (GitHubInstallationSetup.claimable setupId now) (.used now) }
    (w.bindVerifiedInstallation verified userId workspaceId).map fun w => (true, w)
  else .ok (false, w)

def createSetup (userId workspaceId : Id) (expiresAt : Time) : SetupState × World :=
  let state : SetupState := ⟨w.drawn⟩
  (state, { w.draw with setups := w.setups.insert {
    id := w.drawn
    tokenHash := hashState state
    userId
    workspaceId
    expiresAt
    requestedAt := none
    usedAt := none } })

def recordDelivery (delivery : GitHubWebhookDelivery) : World :=
  match w.deliveries.find? delivery.deliveryId with
  | some _ => w
  | none => { w with deliveries := w.deliveries.insert delivery }

def setRole (workspaceId userId : Id) (role : Option WorkspaceRole) : World :=
  let others := w.members.deleteMany fun row => row.workspaceId = workspaceId && row.userId = userId
  match role with
  | some role => { w with members := others.insert ⟨workspaceId, userId, role⟩ }
  | none => { w with members := others }

def link (userId : Id) (providerUserId : String) : World :=
  if w.identities.rows.any fun row =>
    row.userId = userId || row.providerUserId = providerUserId then w
  else { w.draw with identities := w.identities.insert {
    id := w.drawn
    userId
    providerUserId
    accessTokenEncrypted := none
    accessTokenExpiresAt := none
    refreshTokenEncrypted := none
    refreshTokenExpiresAt := none
    credentialVersion := 0
    credentialRefreshingAt := none } }

end World

def GitHubInstallation.approvedFor (providerUserId : String) (bound : Bool)
    (row : GitHubInstallation) : Bool :=
  row.requesterAccountId = some providerUserId && row.accountType = .organization &&
    row.deletedAt.isNone && row.suspendedAt.isNone && !bound

def World.accessesOf (w : World) (workspaceId githubInstallationId : Id) : Nat :=
  w.accesses.count fun row =>
    row.workspaceId = workspaceId && row.githubInstallationId = githubInstallationId

/-- The keys of the process, and the events that GitHub has emitted. -/
class Environment where
  keyring : Keyring
  emitted : Nat → InstallationEvent

export Environment (keyring emitted)

section

variable [Environment]

def Stmt.run {β : Type} (e : Stmt β) (i : GitHubInput) (w : World) : Except Failure (β × World) :=
  match e with
  | .clock => .ok (w.now, w)
  | .countDelivery deliveryId _ => .ok (w.deliveries.count (·.deliveryId = deliveryId), w)
  | .recordDelivery deliveryId event receivedAt =>
    .ok ((), w.recordDelivery ⟨deliveryId, event, receivedAt⟩)
  | .pruneDeliveries now =>
    .ok ((), { w with deliveries := w.deliveries.deleteMany (·.receivedAt + RETENTION_MS < now) })
  | .findInstallation installationId => .ok (w.findInstallation installationId, w)
  | .markDeleted installationId accountId accountLogin now =>
    .ok ((), { w with
      installations := w.installations.updateMany
        (GitHubInstallation.removable installationId accountId)
        (.uninstalled accountId accountLogin now) })
  | .upsertInstallation installationId data => .ok ((), w.upsertInstallation installationId data)
  | .renameAccount accountId login =>
    .ok ((), { w with
      installations := w.installations.updateMany (·.accountId = some accountId) (.renamed login) })
  | .findIdentity userId => .ok (w.identities.findFirst? (·.userId = userId), w)
  | .pruneSetups now =>
    .ok ((), { w with setups := w.setups.deleteMany (GitHubInstallationSetup.stale now) })
  | .createSetup userId workspaceId expiresAt => .ok (w.createSetup userId workspaceId expiresAt)
  | .markRequested hash now =>
    .ok ((), { w with
      setups := w.setups.updateMany (GitHubInstallationSetup.requestable hash now)
        (.requested now) })
  | .findSetup hash => .ok (w.setups.findFirst? (·.tokenHash = hash), w)
  | .findOpenSetup userId workspaceId direct now =>
    .ok (w.setups.rows.reverse.find?
      (GitHubInstallationSetup.isOpen userId workspaceId direct now), w)
  | .getInstallation _ => .ok (i.verified, w)
  | .listInstallations => .ok (i.listed, w)
  | .getUserAccessibleInstallation .. => .ok (i.verified, w)
  | .findMembership workspaceId userId => .ok (w.members.find? (workspaceId, userId), w)
  | .countAccess workspaceId installationId =>
    .ok (w.installations.rows.countP fun row =>
      row.installationId = installationId && 0 < w.accessesOf workspaceId row.id, w)
  | .findApproved providerUserId workspaceId =>
    .ok (w.installations.findFirst? fun row =>
      row.approvedFor providerUserId (0 < w.accessesOf workspaceId row.id), w)
  | .bindInstallation setupId now verified userId workspaceId =>
    w.bindInstallation setupId now verified userId workspaceId
  | .storeExchange userId exchange =>
    let mine := fun row : ExternalIdentity =>
      row.userId = userId && row.providerUserId = exchange.providerUserId
    .ok (w.identities.count mine, { w.draw.draw with
      identities := w.identities.updateMany mine (.withTokens keyring w.drawn exchange.token) })
  | .claimRefresh id version claimTime now =>
    .ok (w.identities.count (ExternalIdentity.leasable id version now), { w with
      identities := w.identities.updateMany (ExternalIdentity.leasable id version now)
        (.leased claimTime) })
  | .sendRefresh _ => .ok ((), w)
  | .refreshAnswer => .ok (i.token, w)
  | .storeRefreshed id version claimTime token =>
    .ok (w.identities.count (ExternalIdentity.held id version claimTime), { w.draw.draw with
      identities := w.identities.updateMany (ExternalIdentity.held id version claimTime)
        (.withTokens keyring w.drawn token) })
  | .releaseLease id version claimTime =>
    .ok ((), { w with
      identities := w.identities.updateMany (ExternalIdentity.held id version claimTime)
        .released })
  | .clearVersion id version =>
    .ok ((), { w with
      identities := w.identities.updateMany
        (fun row => row.id = id && row.credentialVersion = version) .withoutTokens })
  | .waitForPeer => .ok ((), w)
  | .revokeTokens providerUserId =>
    .ok ((), { w with
      identities := w.identities.updateMany (·.providerUserId = providerUserId) .withoutTokens })
  | .setRole workspaceId userId role => .ok ((), w.setRole workspaceId userId role)
  | .link userId providerUserId => .ok ((), w.link userId providerUserId)
  | .unlink userId =>
    .ok ((), { w with identities := w.identities.deleteMany (·.userId = userId) })

/-- Reading the clock cannot fail. -/
def Stmt.fault {β : Type} (e : Stmt β) (i : GitHubInput) : Option (Fault Failure) :=
  match e with
  | .clock => none
  | _ => i.fault

instance : Semantics Stmt GitHubInput World Failure where
  exec e i w :=
    let w := w.tick i.elapsed
    Interleave.execute (e.fault i) (e.run i w) w

end

abbrev Call (α : Type) : Type 1 := Prog Stmt Failure α

/-! ## Webhooks -/

/-- The ids and the login without which an event is ignored. -/
def EventInstallation.identified (inst : EventInstallation) :
    Option (String × String × String) := do
  let installationId ← inst.id
  let accountId ← inst.account.bind (·.id)
  let accountLogin ← (inst.account.bind (·.login)).filter (!·.isEmpty)
  return (installationId, accountId, accountLogin)

/-- `suspendedAt` of an event that is no removal. -/
def suspension (event : InstallationEvent) (inst : EventInstallation) : Call (Option Time) :=
  match event.action with
  | some .suspend => do
    let now ← await .clock
    return some now
  | some .unsuspend => return none
  | _ => return inst.suspendedAt

def handleEvent (event : InstallationEvent) : Call Unit :=
  match event.installation with
  | none => return ()
  | some inst =>
    match inst.identified with
    | none => return ()
    | some (installationId, accountId, accountLogin) => do
      let existing ← await (.findInstallation installationId)
      refuseIf (World.otherAccount existing accountId) (changedIdentity installationId)
      if event.action = some .deleted then do
        let now ← await .clock
        await (.markDeleted installationId accountId accountLogin now)
      else do
        let suspendedAt ← suspension event inst
        await (.upsertInstallation installationId {
          accountId
          accountLogin
          accountType := (inst.account.bind (·.type)).getD .user
          repositorySelection := inst.repositorySelection.getD "selected"
          suspendedAt
          requesterAccountId :=
            if event.action = some .created then some event.requester else none })

def handleTargetEvent (event : InstallationTargetEvent) : Call Unit :=
  match event.renamed, event.account.bind (·.id),
    (event.account.bind (·.login)).filter (!·.isEmpty) with
  | true, some accountId, some login => await (.renameAccount accountId login)
  | _, _, _ => return ()

def revokeByProviderUserId (providerUserId : String) : Call Unit :=
  await (.revokeTokens providerUserId)

/-- `/^[A-Za-z0-9-]{1,64}$/` -/
def validDelivery (delivery : String) : Bool :=
  1 ≤ delivery.length && delivery.length ≤ 64 &&
    delivery.toList.all fun c => c.isAlphanum || c = '-'

structure WebhookRequest where
  /-- The signature is the one of GitHub for this body. -/
  signed : Bool
  delivery : Option String
  body : WebhookBody
  deriving DecidableEq

/-- `applied`, with the kind of request that it is asked for. -/
def applied (delivery : String) (body : WebhookBody) : Call Bool := do
  let count ← await (.countDelivery delivery body)
  return 0 < count

def record (delivery event : String) : Call Unit := do
  let now ← await .clock
  await (.recordDelivery delivery event now)
  await (.pruneDeliveries now)

section

variable [Environment]

/-- The handler of a stateful event. -/
def apply (body : WebhookBody) : Call Unit :=
  match body with
  | .installation event => handleEvent (emitted event)
  | .installationTarget event => handleTargetEvent event
  | .authorization true (some senderId) => revokeByProviderUserId senderId
  | _ => return ()

def handleDelivery (delivery : String) (body : WebhookBody) : Call Unit := do
  let known ← applied delivery body
  if known then return ()
  else do
    apply body
    record delivery body.event

def handle (request : WebhookRequest) : Call Unit := do
  refuseIf (!request.signed) (unauthorized "Invalid webhook signature")
  match request.body with
  | .other _ => return ()
  | body =>
    match request.delivery.filter validDelivery with
    | none => throw (badRequest "Missing X-GitHub-Delivery")
    | some delivery => handleDelivery delivery body

end

/-! ## Setup -/

def createSetup (userId workspaceId : Id) : Call SetupState := do
  let identity ← await (.findIdentity userId)
  refuseIf identity.isNone
    (badRequest "Link your GitHub account before installing the GitHub App")
  let now ← await .clock
  await (.pruneSetups now)
  await (.createSetup userId workspaceId (now + SETUP_TTL_MS))

/-- `state` is none for an empty text. -/
def markRequested (state : Option SetupState) : Call Unit :=
  match state with
  | none => return ()
  | some state => do
    let now ← await .clock
    await (.markRequested (hashState state) now)

def loadSetupCandidate (state : Option SetupState) (installationId : String) :
    Call (GitHubInstallationSetup × VerifiedGitHubInstallation) :=
  match state, decide (installationId = "") with
  | some state, false => do
    let found ← await (.findSetup (hashState state))
    let now ← await .clock
    match found.filter fun setup => setup.usedAt.isNone && now < setup.expiresAt with
    | none => throw (badRequest "GitHub setup state is invalid, expired, or already used")
    | some setup => do
      let verified ← await (.getInstallation installationId)
      refuseIf (verified.installationId ≠ installationId)
        (badRequest "GitHub returned a different installation identity")
      return (setup, verified)
  | _, _ => throw (badRequest "Incomplete GitHub setup callback")

def inspectSetup (state : Option SetupState) (installationId : String) :
    Call VerifiedGitHubInstallation := do
  let (_, verified) ← loadSetupCandidate state installationId
  return verified

def workspaceAdmin (membership : Option WorkspaceMember) : Bool :=
  membership.any fun member => WORKSPACE_ADMINS.contains member.role

def setupForbidden : Failure :=
  forbidden "Workspace admin access is required to finish GitHub setup"

/-- The access check of an organization installation in `completeSetup`; every error of it is
answered alike. -/
def authorizeOrganization (userAccessToken : Option String) (verified : VerifiedGitHubInstallation)
    (providerUserId : String) : Call Unit :=
  match userAccessToken.filter (!·.isEmpty) with
  | none => throw (forbidden
      "GitHub user authorization is required for an organization installation")
  | some token =>
    tryCatch (do
      let accessible ← await (.getUserAccessibleInstallation token verified.installationId
        providerUserId)
      refuseIf (accessible.installationId ≠ verified.installationId ||
          accessible.accountId ≠ verified.accountId || accessible.accountType ≠ .organization)
        (.other "GitHub returned a different user-accessible installation identity"))
      fun _ => throw (forbidden
        "Your linked GitHub account cannot authorize this organization installation")

def authorizeInstallation (userAccessToken : Option String) (verified : VerifiedGitHubInstallation)
    (providerUserId : String) : Call Unit :=
  match verified.accountType with
  | .user =>
    refuseIf (providerUserId ≠ verified.accountId)
      (forbidden "The installed GitHub account does not match your linked identity")
  | .organization => authorizeOrganization userAccessToken verified providerUserId

def completeSetup (state : Option SetupState) (installationId : String)
    (userAccessToken : Option String) : Call VerifiedGitHubInstallation := do
  let (setup, verified) ← loadSetupCandidate state installationId
  let now ← await .clock
  let identity ← await (.findIdentity setup.userId)
  let membership ← await (.findMembership setup.workspaceId setup.userId)
  match identity with
  | none => throw (forbidden "The GitHub identity used for setup is no longer linked")
  | some identity => do
    refuseIf (!workspaceAdmin membership) setupForbidden
    authorizeInstallation userAccessToken verified identity.providerUserId
    let claimed ← await (.bindInstallation setup.id now verified setup.userId setup.workspaceId)
    refuseIf (!claimed) (badRequest "GitHub setup state was already used")
    return verified

/-- The transaction of a recovery. -/
def claimSetup (setup : GitHubInstallationSetup) (now : Time)
    (verified : VerifiedGitHubInstallation) (userId workspaceId : Id) :
    Call (Option VerifiedGitHubInstallation) := do
  let claimed ← await (.bindInstallation setup.id now verified userId workspaceId)
  return if claimed then some verified else none

def personal (providerUserId : String) (installation : VerifiedGitHubInstallation) : Bool :=
  installation.accountType = .user && installation.accountId = providerUserId &&
    installation.suspendedAt.isNone

def recoverPersonalSetup (userId workspaceId : Id) : Call (Option VerifiedGitHubInstallation) := do
  let now ← await .clock
  let setup ← await (.findOpenSetup userId workspaceId true now)
  let identity ← await (.findIdentity userId)
  let membership ← await (.findMembership workspaceId userId)
  match setup, identity with
  | some setup, some identity => do
    refuseIf (!workspaceAdmin membership) setupForbidden
    let installations ← await .listInstallations
    match installations.find? (personal identity.providerUserId) with
    | none => return none
    | some verified => do
      let alreadyBound ← await (.countAccess workspaceId verified.installationId)
      if 0 < alreadyBound then return none
      else claimSetup setup now verified userId workspaceId
  | _, _ => return none

/-- The answers of GitHub about an approved installation agree with it. -/
def claimableApproved (approved : GitHubInstallation)
    (verified accessible : VerifiedGitHubInstallation) : Bool :=
  verified.accountType = .organization && verified.suspendedAt.isNone &&
    some verified.accountId = approved.accountId &&
      accessible.installationId = verified.installationId &&
        accessible.accountId = verified.accountId

/-- GitHub's answers about an approved installation; every error means that it is not claimable. -/
def verifyApproved (approved : GitHubInstallation) (providerUserId : String)
    (userAccessToken : Call String) : Call (Option VerifiedGitHubInstallation) :=
  tryCatch (do
    let verified ← await (.getInstallation approved.installationId)
    let token ← userAccessToken
    let accessible ← await (.getUserAccessibleInstallation token verified.installationId
      providerUserId)
    return if claimableApproved approved verified accessible then some verified else none)
    fun _ => return none

def recoverRequestedOrganizationSetup (userId workspaceId : Id) (userAccessToken : Call String) :
    Call (Option VerifiedGitHubInstallation) := do
  let now ← await .clock
  let setup ← await (.findOpenSetup userId workspaceId false now)
  let identity ← await (.findIdentity userId)
  let membership ← await (.findMembership workspaceId userId)
  match setup, identity with
  | some setup, some identity => do
    refuseIf (!workspaceAdmin membership) setupForbidden
    let approved ← await (.findApproved identity.providerUserId workspaceId)
    match approved with
    | none => return none
    | some approved => do
      let verified ← verifyApproved approved identity.providerUserId userAccessToken
      match verified with
      | none => return none
      | some verified => claimSetup setup now verified userId workspaceId
  | _, _ => return none

/-! ## Tokens -/

def storeExchange (userId : Id) (exchange : GitHubOAuthExchange) : Call Unit := do
  let updated ← await (.storeExchange userId exchange)
  refuseIf (updated ≠ 1) reauthorizationRequired

/-- A stored value that is not empty. -/
def present (stored : Option StoredSecret) : Option StoredSecret :=
  stored.filter fun value => value ≠ .legacy ""

def reauthorize {α : Type} (identity : ExternalIdentity) : Call α := do
  await (.clearVersion identity.id identity.credentialVersion)
  throw reauthorizationRequired

/-- The request to GitHub and the update with its answer. -/
def exchangeRefreshToken (identity : ExternalIdentity) (claimTime : Time) (refreshToken : String) :
    Call String := do
  await (.sendRefresh refreshToken)
  let token ← await .refreshAnswer
  let stored ← await (.storeRefreshed identity.id identity.credentialVersion claimTime token)
  refuseIf (stored ≠ 1) refreshInProgress
  return token.accessToken

/-- A failure gives the lease back. -/
def rotate (identity : ExternalIdentity) (claimTime : Time) (refreshToken : String) :
    Call String :=
  tryCatch (exchangeRefreshToken identity claimTime refreshToken) fun e => do
    await (.releaseLease identity.id identity.credentialVersion claimTime)
    throw e

section

variable [Environment]

/-- The text of a stored value, if it can be read and is not empty. -/
def readable (stored : StoredSecret) : Option String :=
  (readableSecret keyring stored).filter (!·.isEmpty)

/-- Under a lease; none when a peer holds it. -/
def refresh (identity : ExternalIdentity) (stored : StoredSecret) : Call (Option String) := do
  let claimTime ← await .clock
  let now ← await .clock
  let claimed ← await (.claimRefresh identity.id identity.credentialVersion claimTime now)
  if claimed ≠ 1 then do
    await .waitForPeer
    return none
  else
    match readable stored with
    | none => reauthorize identity
    | some refreshToken => do
      let accessToken ← rotate identity claimTime refreshToken
      return some accessToken

/-- With an access token that is about to expire. -/
def renew (identity : ExternalIdentity) : Call (Option String) := do
  let now ← await .clock
  match present identity.refreshTokenEncrypted,
    identity.refreshTokenExpiresAt.filter (now < ·) with
  | some stored, some _ => refresh identity stored
  | _, _ => reauthorize identity

/-- One attempt; none to try again. -/
def attemptAccess (userId : Id) : Call (Option String) := do
  let found ← await (.findIdentity userId)
  match found with
  | none => throw reauthorizationRequired
  | some identity =>
    match present identity.accessTokenEncrypted with
    | none => throw reauthorizationRequired
    | some stored =>
      match readable stored with
      | none => reauthorize identity
      | some accessToken => do
        let now ← await .clock
        if identity.accessTokenExpiresAt.all fun expiresAt => now + REFRESH_BEFORE_MS < expiresAt
        then return some accessToken
        else renew identity

def accessAttempts (userId : Id) : Nat → Call String
  | 0 => throw refreshInProgress
  | attempts + 1 => do
    let token ← attemptAccess userId
    match token with
    | some accessToken => return accessToken
    | none => accessAttempts userId attempts

def accessTokenForUser (userId : Id) : Call String := accessAttempts userId REFRESH_WAIT_ATTEMPTS

/-- `recover` of the setup controller, behind its guards. -/
def recover (userId workspaceId : Id) : Call (Option VerifiedGitHubInstallation) := do
  let recovered ← recoverPersonalSetup userId workspaceId
  match recovered with
  | some installation => return some installation
  | none => recoverRequestedOrganizationSetup userId workspaceId (accessTokenForUser userId)

end

variable [Environment]

/-- The requests of the API, and what else changes the rows that they read. -/
inductive GitHubCall : Call Unit → Prop
  | webhook (request : WebhookRequest) : GitHubCall (handle request)
  | createSetup (userId workspaceId : Id) : GitHubCall (createSetup userId workspaceId).ignoreError
  | markRequested (state : Option SetupState) : GitHubCall (markRequested state)
  | inspectSetup (state : Option SetupState) (installationId : String) :
      GitHubCall (inspectSetup state installationId).ignoreError
  | completeSetup (state : Option SetupState) (installationId : String)
      (userAccessToken : Option String) :
      GitHubCall (completeSetup state installationId userAccessToken).ignoreError
  | recover (userId workspaceId : Id) : GitHubCall (recover userId workspaceId).ignoreError
  | storeExchange (userId : Id) (exchange : GitHubOAuthExchange) :
      GitHubCall (storeExchange userId exchange)
  | accessTokenForUser (userId : Id) : GitHubCall (accessTokenForUser userId).ignoreError
  | setRole (workspaceId userId : Id) (role : Option WorkspaceRole) :
      GitHubCall (await (.setRole workspaceId userId role))
  | link (userId : Id) (providerUserId : String) : GitHubCall (await (.link userId providerUserId))
  | unlink (userId : Id) : GitHubCall (await (.unlink userId))

end InitPad.GitHub
