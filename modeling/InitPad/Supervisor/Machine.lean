import InitPad.Deployment.Types
import InitPad.Interleave.Crash
import InitPad.Supervisor.Release

/-!
# InitPad.Supervisor.Machine

The host that the Supervisor updates: its state file, the Compose override with the copies saved
beside it, the plan files, the lock, and what its processes keep in memory. A statement is one file
operation, one `docker` command or one assignment. Every file operation and every command can fail;
a write that failed may have left something behind. Ids stand for UUIDs, so that the tests of their
shape always pass, and a path that is built from an id is written as the id.
-/

namespace InitPad.Supervisor

open Interleave

inductive UpdateStatus where
  | accepted | running | succeeded | failed | rolledBack
  deriving DecidableEq

inductive UpdateStage where
  | accepted | verifying | backup | pulling | switching | api | web | supervisor | completed
  | rolledBack | interrupted | recoveryFailed | failed
  deriving DecidableEq

/-- `['accepted', 'running'].includes(status)` -/
def UpdateStatus.busy : UpdateStatus → Bool
  | .accepted | .running => true
  | _ => false

/-- `['switching', 'api', 'web', 'supervisor'].includes(stage)` -/
def UpdateStage.changed : UpdateStage → Bool
  | .switching | .api | .web | .supervisor => true
  | _ => false

structure UpdateOperation where
  id : Id
  requestId : String
  fromVersion : String
  toVersion : String
  status : UpdateStatus
  stage : UpdateStage
  message : String
  deriving DecidableEq

structure SupervisorState where
  currentVersion : String
  currentImages : Option PlatformImages
  operation : Option UpdateOperation
  deriving DecidableEq

structure UpdatePlan where
  operationId : Id
  release : SignedPlatformRelease
  deriving DecidableEq

inductive Service where
  | api | web | supervisor | postgres
  deriving DecidableEq

def Service.text : Service → String
  | .api => "api"
  | .web => "web"
  | .supervisor => "supervisor"
  | .postgres => "postgres"

inductive ComposeFile where
  | base | override
  deriving DecidableEq

/-- The arguments that every `docker compose` command of one call starts with. -/
structure Compose where
  installRoot : String
  files : List ComposeFile
  deriving DecidableEq

def composeArgs (installRoot : String) (withOverride : Bool) : Compose :=
  ⟨installRoot, .base :: if withOverride then [.override] else []⟩

inductive HelperKind where
  | update | recovery
  deriving DecidableEq

inductive DockerCommand where
  | inspectIdentity (container : String)
  | helpers (kind : HelperKind) (operation : Id)
  | runHelper (kind : HelperKind) (operation : Id) (image : String) (volumesFrom : String)
  | dump (compose : Compose) (backup : Id)
  | listBackup (compose : Compose) (backup : Id)
  | pull (reference : String)
  | up (compose : Compose) (services : List Service)
  | ps (compose : Compose) (service : Service)
  | inspectHealth (container : String)
  deriving DecidableEq

/-! ## The machine -/

/-- The variables of `applyPlan` that its `catch` and `finally` read. -/
structure Locals where
  operation : Option UpdateOperation := none
  previousState : Option SupervisorState := none
  previousOverride : Option Id := none
  hadOverride : Bool := false
  overridePrepared : Bool := false
  installRoot : String := ""

structure Machine where
  state : Option SupervisorState
  override : Option String
  saved : Id → Option String
  plans : Id → Option UpdatePlan
  lock : Bool
  nextId : Id
  locals : Locals
  accepting : Bool

/-- What a failed write left in the file that it was writing. -/
inductive Leftover where
  | untouched | removed | content (text : String)

def Leftover.over (l : Leftover) (file : Option String) : Option String :=
  match l with
  | .untouched => file
  | .removed => none
  | .content text => some text

structure MachineInput where
  fault : Option String := none
  leftover : Leftover := .untouched
  stdout : String := ""

inductive Stmt : Type → Type 1 where
  | readState : Stmt (Option SupervisorState)
  | saveState (state : SupervisorState) : Stmt Unit
  | makeDirectory : Stmt Unit
  | createLock : Stmt Unit
  | removeLock : Stmt Unit
  | readPlan (id : Id) : Stmt UpdatePlan
  | writePlan (plan : UpdatePlan) : Stmt Unit
  | removePlan (id : Id) : Stmt Unit
  | overrideExists : Stmt Bool
  | savedExists (id : Id) : Stmt Bool
  | copyToSaved (id : Id) : Stmt Unit
  | copyFromSaved (id : Id) : Stmt Unit
  | renameSaved (id : Id) : Stmt Unit
  | writeOverride (value : String) : Stmt Unit
  | removeOverride : Stmt Unit
  | removeSaved (id : Id) : Stmt Unit
  | docker (command : DockerCommand) : Stmt String
  | verify (result : Except String PlatformReleaseManifest) : Stmt PlatformReleaseManifest
  | wait : Stmt Unit
  | randomId : Stmt Id
  | assign (f : Locals → Locals) : Stmt Unit
  | locals : Stmt Locals
  | claimAccepting (busy : Bool) : Stmt Bool
  | releaseAccepting : Stmt Unit
  | boot : Stmt Unit

def enoent : String := "ENOENT: no such file or directory"

def withFile {α : Type} (files : Id → Option α) (id : Id) (file : Option α) : Id → Option α :=
  fun id' => if id' = id then file else files id'

@[simp] theorem withFile_self {α : Type} (files : Id → Option α) (id : Id) (file : Option α) :
    withFile files id file id = file := if_pos rfl

/-- The statements of the process itself; they cannot fail. -/
def Stmt.inProcess {β : Type} : Stmt β → Bool
  | .randomId | .assign _ | .locals | .claimAccepting _ | .releaseAccepting | .boot => true
  | _ => false

/-- A statement that does what it was called for. -/
def Stmt.run {β : Type} (i : MachineInput) (w : Machine) : Stmt β → Except String β × Machine
  | .readState => (.ok w.state, w)
  | .saveState state => (.ok (), { w with state := some state })
  | .makeDirectory | .wait => (.ok (), w)
  | .createLock =>
    if w.lock then (.error "Another platform update is already running", w)
    else (.ok (), { w with lock := true })
  | .removeLock => (.ok (), { w with lock := false })
  | .readPlan id =>
    match w.plans id with
    | none => (.error enoent, w)
    | some plan =>
      if plan.operationId = id then (.ok plan, w)
      else (.error "Platform update plan is invalid", w)
  | .writePlan plan =>
    if (w.plans plan.operationId).isSome then (.error "EEXIST: file already exists", w)
    else (.ok (), { w with plans := withFile w.plans plan.operationId (some plan) })
  | .removePlan id => (.ok (), { w with plans := withFile w.plans id none })
  | .overrideExists => (.ok w.override.isSome, w)
  | .savedExists id => (.ok (w.saved id).isSome, w)
  | .copyToSaved id =>
    match w.override with
    | none => (.error enoent, w)
    | some text => (.ok (), { w with saved := withFile w.saved id (some text) })
  | .copyFromSaved id =>
    match w.saved id with
    | none => (.error enoent, w)
    | some text => (.ok (), { w with override := some text })
  | .renameSaved id =>
    match w.saved id with
    | none => (.error enoent, w)
    | some text => (.ok (), { w with override := some text, saved := withFile w.saved id none })
  | .writeOverride value => (.ok (), { w with override := some value })
  | .removeOverride => (.ok (), { w with override := none })
  | .removeSaved id => (.ok (), { w with saved := withFile w.saved id none })
  | .docker _ => (.ok i.stdout, w)
  | .verify result => (result, w)
  | .randomId => (.ok w.nextId, { w with nextId := w.nextId + 1 })
  | .assign f => (.ok (), { w with locals := f w.locals })
  | .locals => (.ok w.locals, w)
  | .claimAccepting busy =>
    if w.accepting || busy then (.ok false, w) else (.ok true, { w with accepting := true })
  | .releaseAccepting => (.ok (), { w with accepting := false })
  | .boot => (.ok (), { w with accepting := false, locals := {} })

/-- What a statement that failed has left. Atomic writes and removals leave everything as it was; a
copy or a lock file may have been begun. -/
def Stmt.failed {β : Type} (i : MachineInput) (w : Machine) : Stmt β → Machine
  | .createLock =>
    match i.leftover with
    | .content _ => { w with lock := true }
    | _ => w
  | .copyToSaved id => { w with saved := withFile w.saved id (i.leftover.over (w.saved id)) }
  | .copyFromSaved _ => { w with override := i.leftover.over w.override }
  | .writePlan plan =>
    match i.leftover with
    | .content _ => { w with plans := withFile w.plans plan.operationId (some plan) }
    | _ => w
  | _ => w

instance : Semantics Stmt MachineInput Machine String where
  exec e i w :=
    match i.fault with
    | some message => if e.inProcess then e.run i w else (.error message, e.failed i w)
    | none => e.run i w

abbrev Updating (α : Type) : Type 1 := Prog Stmt String α
abbrev MachineMoment := Moment Stmt MachineInput Machine String

def liftExcept {α : Type} (r : Except String α) : Updating α := .ret r

end InitPad.Supervisor
