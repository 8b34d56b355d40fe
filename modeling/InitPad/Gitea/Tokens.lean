import InitPad.Interleave.Prog
import InitPad.Interleave.Run

/-!
# InitPad.Gitea.Tokens

The credentials that the Gitea adapter manages: the local passwords and access tokens of an
account, and the Actions secrets of a repository. A statement is one request to Gitea or one step of
the queue in `serializeAccount`. A request can be refused, lost on its way, or answered with a body
that cannot be read; Gitea may have carried out a request that failed.

A call waits in the queue of its account until the call before it has settled. `enterAccount` out of
turn is an error here, so that a call which succeeds has entered in its turn.
-/

namespace InitPad.Gitea

open Interleave

inductive ScmKind where
  | gitea | github
  deriving DecidableEq

structure ScmRepositoryRef where
  provider : ScmKind
  repositoryId : Option String
  owner : String
  name : String
  fullName : String
  deriving DecidableEq

structure GiteaConfig where
  /-- `config.registry.ciHost` -/
  ciHost : String
  /-- `config.ci.platformUrl` -/
  platformUrl : String

inductive ScmError where
  | status (operation : String) (code : Nat) (message : String)
  | transport (operation : String)
  | other (message : String)
  deriving DecidableEq

def isScmNotFound : ScmError → Bool
  | .status _ code _ => code = 404
  | _ => false

/-- The two parts of `Basic` authentication. -/
structure Authorization where
  username : String
  password : Nat
  deriving DecidableEq

structure AccessToken where
  id : Nat
  username : String
  name : String
  scopes : List String
  sha1 : Nat
  deriving DecidableEq

/-- The last part of the path of a token: a number is an id, anything else a name. -/
inductive TokenKey where
  | byId (id : Nat)
  | byName (name : String)
  deriving DecidableEq

def TokenKey.selects (key : TokenKey) (token : AccessToken) : Bool :=
  match key with
  | .byId id => token.id = id
  | .byName name => token.name = name

structure SecretKey where
  owner : String
  repo : String
  key : String
  deriving DecidableEq

inductive SecretValue where
  | text (value : String)
  | token (sha1 : Nat)
  deriving DecidableEq

structure Server where
  /-- `config.gitea.internalUrl` and `config.gitea.adminToken` are set. -/
  configured : Bool
  password : String → Option Nat
  repositories : List (String × String)
  tokens : List AccessToken
  secrets : SecretKey → Option SecretValue
  nextToken : Nat
  nextPassword : Nat
  /-- The accounts in `accountOperations` whose operation runs. -/
  busy : List String

def Server.token? (g : Server) (username name : String) : Option AccessToken :=
  g.tokens.find? fun token => token.username = username && token.name = name

/-- What goes wrong with a request. Gitea answers 404 for what it does not have, and only then. -/
inductive ScmFault where
  | refused (code : Nat) (h : 300 ≤ code ∧ code ≠ 404) (carriedOut : Bool)
  | lost (carriedOut : Bool)
  | unreadable

/-! ## Statements -/

inductive Stmt : Type → Type 1 where
  | enterAccount (username : String) : Stmt Unit
  | leaveAccount (username : String) : Stmt Unit
  | randomBytes : Stmt Nat
  | setLocalPassword (username : String) (password : Nat) (operation message : String) : Stmt Unit
  | tokenPage (authorization : Authorization) (page : Nat) : Stmt (List AccessToken)
  | createToken (authorization : Authorization) (name : String) (scopes : List String) : Stmt Nat
  | deleteToken (authorization : Authorization) (key : TokenKey) : Stmt Unit
  | setRepoSecret (key : SecretKey) (value : SecretValue) : Stmt Unit

def TOKEN_PAGE_SIZE : Nat := 50

def Server.authorizes (g : Server) (authorization : Authorization) : Bool :=
  g.password authorization.username = some authorization.password

/-- The operation and the message of the error for a response that is not ok. -/
def Stmt.failure {β : Type} : Stmt β → String × String
  | .setLocalPassword _ _ operation message => (operation, message)
  | .tokenPage .. => ("list access tokens", "Could not list Gitea tokens")
  | .createToken .. => ("create access token", "Gitea token creation failed")
  | .deleteToken .. => ("revoke access token", "Could not revoke a Gitea token")
  | .setRepoSecret key _ =>
    ("configure Actions secret", "Could not configure Actions secret '" ++ key.key ++ "'")
  | _ => ("", "")

def Stmt.refusal {β : Type} (e : Stmt β) (code : Nat) : ScmError :=
  .status e.failure.1 code e.failure.2

def Stmt.run {β : Type} (e : Stmt β) (g : Server) : Except ScmError β × Server :=
  match e with
  | .enterAccount username =>
    if username ∈ g.busy then (.error (.other "not its turn"), g)
    else (.ok (), { g with busy := username :: g.busy })
  | .leaveAccount username => (.ok (), { g with busy := g.busy.filter (· ≠ username) })
  | .randomBytes => (.ok g.nextPassword, { g with nextPassword := g.nextPassword + 1 })
  | .setLocalPassword username password operation message =>
    if !g.configured then (.error (.other "Gitea admin is not configured"), g)
    else if (g.password username).isNone then (.error (.status operation 404 message), g)
    else (.ok (), { g with password := Function.update g.password username (some password) })
  | .tokenPage authorization page =>
    if !g.authorizes authorization then (.error (e.refusal 401), g)
    else
      let tokens := g.tokens.filter fun token => token.username = authorization.username
      (.ok ((tokens.drop ((page - 1) * TOKEN_PAGE_SIZE)).take TOKEN_PAGE_SIZE), g)
  | .createToken authorization name scopes =>
    if !g.authorizes authorization then (.error (e.refusal 401), g)
    else if (g.token? authorization.username name).isSome then (.error (e.refusal 400), g)
    else
      let token : AccessToken := ⟨g.nextToken, authorization.username, name, scopes, g.nextToken⟩
      (.ok token.sha1, { g with tokens := g.tokens ++ [token], nextToken := g.nextToken + 1 })
  | .deleteToken authorization key =>
    -- 404 for a token that does not exist counts as success
    if !g.authorizes authorization then (.error (e.refusal 401), g)
    else
      let kept := g.tokens.filter fun token =>
        !(token.username = authorization.username && key.selects token)
      (.ok (), { g with tokens := kept })
  | .setRepoSecret key value =>
    if (key.owner, key.repo) ∈ g.repositories then
      (.ok (), { g with secrets := Function.update g.secrets key (some value) })
    else (.error (e.refusal 404), g)

/-- Statements without a request. -/
def Stmt.inProcess {β : Type} : Stmt β → Bool
  | .enterAccount _ | .leaveAccount _ | .randomBytes => true
  | _ => false

/-- What the source says about a body that it cannot use; other bodies are not read. -/
def Stmt.unreadable {β : Type} : Stmt β → Option String
  | .tokenPage .. => some "Gitea returned an invalid token list"
  | .createToken .. => some "Gitea returned no access token"
  | _ => none

instance : Semantics Stmt (Option ScmFault) Server ScmError where
  exec e fault g :=
    match fault, e.inProcess with
    | some (.refused code _ carriedOut), false =>
      (.error (e.refusal code), if carriedOut then (e.run g).2 else g)
    | some (.lost carriedOut), false =>
      (.error (.transport "API request"), if carriedOut then (e.run g).2 else g)
    | some .unreadable, false =>
      match e.unreadable, (e.run g).1 with
      | some message, .ok _ => (.error (.other message), (e.run g).2)
      | _, _ => e.run g
    | _, _ => e.run g

abbrev Calling (α : Type) : Type 1 := Prog Stmt ScmError α

open Prog (await)

def REGISTRY_TOKEN_SCOPES : List String := ["write:package"]
def SCM_MAX_PAGES : Nat := 100

def registryName (repositoryId : String) : String := "initpad-registry-" ++ repositoryId

def registryTokenName (repository : ScmRepositoryRef) : Except ScmError String :=
  match repository.repositoryId with
  | none =>
    .error (.other ("Repository identity of '" ++ repository.fullName ++ "' is not known yet"))
  | some repositoryId => .ok (registryName repositoryId)

def ScmKind.text : ScmKind → String
  | .gitea => "gitea"
  | .github => "github"

def assertProvider (repository : ScmRepositoryRef) : Calling Unit :=
  if repository.provider ≠ .gitea then
    throw (.other ("Gitea adapter cannot operate on " ++ repository.provider.text ++ ":" ++
      repository.fullName))
  else pure ()

/-- `collectScmPages` from `page` on, with `remaining` pages to the limit. -/
def collectTokenPages (authorization : Authorization) :
    Nat → Nat → List AccessToken → Calling (List AccessToken)
  | 0, _, _ => throw (.other "Gitea list access tokens exceeded the pagination limit")
  | remaining + 1, page, result => do
    let items ← await (.tokenPage authorization page)
    if items.length < TOKEN_PAGE_SIZE then return result ++ items
    else collectTokenPages authorization remaining (page + 1) (result ++ items)

def listTokens (authorization : Authorization) : Calling (List AccessToken) :=
  collectTokenPages authorization SCM_MAX_PAGES 1 []

def replaceLocalPassword (username : String) : Calling Unit := do
  let password ← await .randomBytes
  await (.setLocalPassword username password "randomize local password"
    "Could not randomize the local Gitea password")

def serializeAccount {α : Type} (username : String) (run : Calling α) : Calling α := do
  await (.enterAccount username)
  run.ensure (await (.leaveAccount username))

def withTokenAuthority {α : Type} (username : String) (run : Authorization → Calling α) :
    Calling α :=
  serializeAccount username do
    let temporaryPassword ← await .randomBytes
    await (.setLocalPassword username temporaryPassword "prepare token management"
      "Could not prepare Gitea token management for the account")
    (run ⟨username, temporaryPassword⟩).ensure (replaceLocalPassword username).ignoreError

def replaceToken (authorization : Authorization) (name : String) (scopes : List String) :
    Calling Nat := do
  await (.deleteToken authorization (.byName name))
  await (.createToken authorization name scopes)

def setRepoSecret (repository : ScmRepositoryRef) (key : String) (value : SecretValue) :
    Calling Unit :=
  await (.setRepoSecret ⟨repository.owner, repository.name, key⟩ value)

def rotateRegistryCredential (repository : ScmRepositoryRef) : Calling Unit := do
  assertProvider repository
  let name ← Prog.ret (registryTokenName repository)
  let token ← withTokenAuthority repository.owner fun authorization =>
    replaceToken authorization name REGISTRY_TOKEN_SCOPES
  setRepoSecret repository "INITPAD_REGISTRY_USER" (.text repository.owner)
  setRepoSecret repository "INITPAD_REGISTRY_PASSWORD" (.token token)

def configureRepoRuntimeSecrets (config : GiteaConfig) (repository : ScmRepositoryRef) :
    Calling Unit := do
  assertProvider repository
  setRepoSecret repository "INITPAD_REGISTRY" (.text config.ciHost)
  setRepoSecret repository "INITPAD_PLATFORM_URL" (.text config.platformUrl)

def configureRepoSecrets (config : GiteaConfig) (repository : ScmRepositoryRef)
    (ciDeployToken : String) : Calling Unit := do
  assertProvider repository
  setRepoSecret repository "INITPAD_DEPLOY_TOKEN" (.text ciDeployToken)
  configureRepoRuntimeSecrets config repository
  rotateRegistryCredential repository

/-- `catch (error) { if (!isScmNotFound(error)) throw error; }`, with whether the body ended. -/
def found (run : Calling Unit) : Calling Bool :=
  tryCatch (do run; return true) fun error =>
    if isScmNotFound error then return false else throw error

def revokeAllTokens (username : String) : Calling Unit :=
  withTokenAuthority username fun authorization => do
    let tokens ← listTokens authorization
    Prog.forEach (fun token => await (.deleteToken authorization (.byId token.id))) tokens

def rotateIfPresent (repository : ScmRepositoryRef) : Calling Unit := do
  let _ ← found (rotateRegistryCredential repository)
  pure ()

def revokeAccountCredentials (username : String) (repositories : List ScmRepositoryRef) :
    Calling Unit := do
  -- an account that Gitea does not know has no token left to revoke
  let known ← found (revokeAllTokens username)
  if known then Prog.forEach rotateIfPresent repositories else pure ()

end InitPad.Gitea
