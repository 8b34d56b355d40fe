import InitPad.Deployment.Types

/-!
# InitPad.Ci.History

The history of a project's dev environment: its deployment operations, the results of CI and the
build artifacts. A call that begins an operation reads the version and the artifact first, so both
can be old when the operation begins.
-/

namespace InitPad.Ci

abbrev Version := List Char

def lower (version : Version) : Version := version.map Char.toLower

def isHexChar (c : Char) : Bool :=
  c.isDigit || decide ('a' ≤ c ∧ c ≤ 'f') || decide ('A' ≤ c ∧ c ≤ 'F')

/-- `/^[0-9a-f]{40}$/i` -/
def isCommit (version : Version) : Bool := version.length == 40 && version.all isHexChar

structure Operation where
  id : Nat
  kind : OperationKind
  status : OperationStatus
  version : Option Version
  buildArtifactId : Option Nat
  deriving DecidableEq

structure Artifact where
  id : Nat
  commitSha : Version
  /-- `status` is `available`, with an object in the store. -/
  available : Bool
  deriving DecidableEq

structure Dev where
  status : DeployStatus := .empty
  version : Option Version := none
  buildArtifactId : Option Nat := none
  activeOperationId : Option Nat := none
  /-- The target is a Docker host of a user. -/
  agentBacked : Bool := false
  deriving DecidableEq

/-- A call that is about to begin an operation. -/
structure Request where
  kind : OperationKind
  version : Option Version
  buildArtifactId : Option Nat
  deriving DecidableEq

structure History where
  provider : ScmKind
  /-- `lastCommit` is `import: existing repository`. -/
  imported : Bool
  dev : Dev := {}
  /-- The newest operation comes first. -/
  operations : List Operation := []
  artifacts : List Artifact := []
  requested : List Request := []
  /-- The commits of successful CI callbacks. -/
  succeeded : List Version := []
  /-- The commits of artifacts that have been ingested or captured. -/
  stored : List Version := []

/-- A deployable build of the version was published. -/
def History.Published (s : History) (version : Version) : Prop :=
  lower version ∈ s.succeeded ∨ lower version ∈ s.stored

instance (s : History) (version : Version) : Decidable (s.Published version) :=
  inferInstanceAs (Decidable (_ ∨ _))

namespace History

variable (s : History)

def operation? (id : Nat) : Option Operation := s.operations.find? (·.id == id)

def request (r : Request) : History := { s with requested := r :: s.requested }

def updateOperation (id : Nat) (change : Operation → Operation) : History :=
  { s with operations := s.operations.map fun o => if o.id = id then change o else o }

def setDev (dev : Dev) : History := { s with dev := dev }

/-- `begin`: the operation takes the lock of the environment, or is cancelled. -/
def begin (r : Request) : History :=
  let claimed := s.dev.activeOperationId.isNone
  let o : Operation :=
    { id := s.operations.length
      kind := r.kind
      status := if claimed then .running else .cancelled
      version := r.version
      buildArtifactId := r.buildArtifactId }
  { s with
    operations := o :: s.operations
    dev := if claimed then { s.dev with activeOperationId := some o.id, status := .deploying }
      else s.dev }

def awaitedRetry (sha : Version) : Option Operation :=
  (s.dev.activeOperationId.bind s.operation?).filter fun o =>
    o.kind == .ciRetry && o.status == .running && o.version == some sha

def disabled : Bool := s.dev.status == .empty && !s.imported

/-- `deployFromCi` with the result `success`; the artifact of a GitHub build can be known already.
A retry goes on with the operation that waits for it. -/
def deployFromCi (sha : Version) (isRetry duplicate : Bool) : History :=
  if !isCommit sha then s
  else
    let s := { s with succeeded := lower sha :: s.succeeded }
    if duplicate || isRetry || s.disabled then s
    else { s with imported := false }.request ⟨.ciDeploy, some sha, none⟩

/-- `publishCiFailure`: the operation of the retry fails, or one is begun that has failed. -/
def publishCiFailure (sha : Version) (isRetry : Bool) : History :=
  if !isCommit sha then s
  else if isRetry then
    match s.awaitedRetry sha with
    | none => s
    | some o =>
      { s.updateOperation o.id fun o => { o with status := .failed } with
        dev := { s.dev with status := .failed, activeOperationId := none }
        imported := false }
  else if s.disabled then s
  else
    let claimed := s.dev.activeOperationId.isNone
    let o : Operation :=
      { id := s.operations.length
        kind := .ciDeploy
        status := if claimed then .failed else .cancelled
        version := some (lower sha)
        buildArtifactId := none }
    { s with
      operations := o :: s.operations
      dev := if claimed && !(s.dev.status == .running || s.dev.status == .stopped) then
          { s.dev with status := .failed }
        else s.dev
      imported := if claimed then false else s.imported }

end History

/-! ## Run again -/

/-- What SCM, store and daemon answer to `runAgain`. -/
structure Answers where
  imageAvailable : Bool
  latestCommit : Option Version
  /-- `findBuildArtifact` finds one for the commit. -/
  artifactFound : Bool
  /-- `assertGitHubCiCallback` passes. -/
  callbackReachable : Bool

inductive Decision where
  | reuse (kind : OperationKind) (version : Version) (buildArtifactId : Option Nat)
  | recover (sha : Version)
  | ciRetry (sha : Version)
  deriving DecidableEq

inductive RunAgainError where
  | notStopped
  | noCommit
  | noCallback
  deriving DecidableEq

namespace History

variable (s : History)

/-- The filter of `reusableOperation`. -/
def isReusable (o : Operation) : Bool :=
  o.version.isSome &&
    ([OperationStatus.succeeded, .cancelled, .failed].contains o.status && o.buildArtifactId.isSome ||
      [OperationStatus.cancelled, .failed].contains o.status)

def reusableOperation : Option Operation := s.operations.find? isReusable

/-- `isArtifactStored` -/
def isArtifactStored (id : Nat) : Bool := s.artifacts.any fun a => a.id == id && a.available

def canReuseArtifact (answers : Answers) (o : Operation) (version : Version) : Bool :=
  if s.provider != .github || !isCommit version then true
  else o.buildArtifactId.any fun id =>
    s.isArtifactStored id && (s.dev.agentBacked || answers.imageAvailable)

/-- A CI run for the latest commit, or an artifact that a run has left. -/
def startCi (answers : Answers) : Except RunAgainError Decision :=
  match answers.latestCommit.filter isCommit with
  | none => .error .noCommit
  | some sha =>
    if s.provider == .github then
      if answers.artifactFound then .ok (.recover sha)
      else if answers.callbackReachable then .ok (.ciRetry sha)
      else .error .noCallback
    else .ok (.ciRetry sha)

def runAgain (answers : Answers) : Except RunAgainError Decision :=
  if s.dev.activeOperationId.isSome || !(s.dev.status == .empty || s.dev.status == .failed) then
    .error .notStopped
  else
    match s.reusableOperation with
    | none => s.startCi answers
    | some o =>
      match o.version.filter fun version => !version.isEmpty with
      | none => s.startCi answers
      | some version =>
        if s.canReuseArtifact answers o version then
          .ok (.reuse (if o.status == .succeeded then .redeploy else .retry) version
            o.buildArtifactId)
        else s.startCi answers

end History

def Decision.request : Decision → Request
  | .reuse kind version buildArtifactId => ⟨kind, some version, buildArtifactId⟩
  | .recover sha => ⟨.artifactRecovery, some sha, none⟩
  | .ciRetry sha => ⟨.ciRetry, some sha, none⟩

/-! ## Events -/

inductive Event where
  | ciSucceeded (sha : Version) (isRetry duplicate : Bool)
  | ciFailed (sha : Version) (isRetry : Bool)
  | runAgain (answers : Answers)
  /-- `redeploy`, `stop`, `start` and `remove` of what dev runs. -/
  | requested (kind : OperationKind)
  | rollbackRequested (operationId : Nat)
  /-- The workload of a cancelled Agent deployment is removed. -/
  | cleanupRequested (operationId : Nat)
  | began (r : Request)
  | rejected (r : Request)
  /-- An operation ends, or is cancelled. -/
  | ended (operationId : Nat) (status : OperationStatus)
  | published (operationId : Nat) (status : DeployStatus)
  | emptied
  | devChanged (status : DeployStatus)
  | unlocked
  | retargeted (agentBacked : Bool)
  | accepted (operationId artifactId : Nat)
  | captured (operationId artifactId : Nat)
  /-- An artifact is accepted or captured without an operation. -/
  | acceptedAlone (artifactId : Nat) (sha : Version)
  | stored (artifactId : Nat)
  | lost (artifactId : Nat)

namespace History

variable (s : History)

def withArtifact (id : Nat) (commitSha : Version) : Option History :=
  match s.artifacts.find? (·.id == id) with
  | some a => if a.commitSha = commitSha then some s else none
  | none => some { s with artifacts := ⟨id, commitSha, false⟩ :: s.artifacts }

def store (id : Nat) : History :=
  { s with
    artifacts := s.artifacts.map fun a => if a.id = id then { a with available := true } else a
    stored := ((s.artifacts.filter (·.id == id)).map (·.commitSha)) ++ s.stored }

def bind (operationId artifactId : Nat) : History :=
  s.updateOperation operationId fun o => { o with buildArtifactId := some artifactId }

/-- What a call on the running workload begins its operation with; `start` passes no artifact. -/
def devRequest (kind : OperationKind) : Option Request :=
  match kind with
  | .redeploy => s.dev.version.map fun version => ⟨.redeploy, some version, s.dev.buildArtifactId⟩
  | .start => s.dev.version.map fun version => ⟨.start, some version, none⟩
  | .stop => some ⟨.stop, s.dev.version, s.dev.buildArtifactId⟩
  | .remove => some ⟨.remove, s.dev.version, s.dev.buildArtifactId⟩
  | _ => none

/-- The revision that `remove` cleans up behind an Agent operation. One with jobs has its artifact,
or is of the version that dev runs. -/
def cleanupRequest (o : Operation) : Option Request :=
  if o.buildArtifactId.isSome || o.version == s.dev.version then
    some ⟨.remove, o.version.or s.dev.version, o.buildArtifactId.or s.dev.buildArtifactId⟩
  else none

def apply : Event → History
  | .ciSucceeded sha isRetry duplicate => s.deployFromCi sha isRetry duplicate
  | .ciFailed sha isRetry => s.publishCiFailure sha isRetry
  | .runAgain answers =>
    match s.runAgain answers with
    | .ok decision => s.request decision.request
    | .error _ => s
  | .requested kind => (s.devRequest kind).elim s s.request
  | .rollbackRequested operationId =>
    match s.operation? operationId with
    | some o =>
      if o.status == .succeeded && o.version.any isCommit then
        s.request ⟨.rollback, o.version, o.buildArtifactId⟩
      else s
    | none => s
  | .cleanupRequested operationId =>
    ((s.operation? operationId).bind s.cleanupRequest).elim s s.request
  | .began r =>
    if r ∈ s.requested then { s with requested := s.requested.erase r }.begin r else s
  | .rejected r => { s with requested := s.requested.erase r }
  | .ended operationId status => s.updateOperation operationId fun o =>
    if o.status == .running || o.status == .cancelled then { o with status := status } else o
  | .published operationId status =>
    match s.operation? operationId with
    | some o =>
      s.setDev { s.dev with status := status, version := o.version, buildArtifactId := o.buildArtifactId }
    | none => s
  | .emptied => s.setDev { s.dev with status := .empty, version := none, buildArtifactId := none }
  | .devChanged status => s.setDev { s.dev with status := status }
  | .unlocked => s.setDev { s.dev with activeOperationId := none }
  | .retargeted agentBacked => s.setDev { s.dev with agentBacked := agentBacked }
  | .accepted operationId artifactId =>
    if s.provider == .github then
      (((s.operation? operationId).bind (·.version)).bind fun version =>
        s.withArtifact artifactId (lower version)).elim s fun s => s.bind operationId artifactId
    else s
  | .captured operationId artifactId =>
    (((s.operation? operationId).bind (·.version)).bind fun version =>
      s.withArtifact artifactId (lower version)).elim s fun s =>
        (s.store artifactId).bind operationId artifactId
  | .acceptedAlone artifactId sha => (s.withArtifact artifactId (lower sha)).getD s
  | .stored artifactId => s.store artifactId
  | .lost artifactId =>
    { s with
      artifacts := s.artifacts.map fun a =>
        if a.id = artifactId then { a with available := false } else a }

def run (events : List Event) : History := events.foldl apply s

end History

/-- A project before its first CI run. -/
def created (provider : ScmKind) (imported : Bool) : History where
  provider := provider
  imported := imported

end InitPad.Ci
