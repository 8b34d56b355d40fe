import InitPad.Interleave.Run
import InitPad.Updates.World

/-!
# InitPad.Updates.Service

`PlatformUpdatesService` on any number of replicas, with the Supervisor's `POST /v1/update` behind
it. A statement of the API is one query, one update or one half of a request to the Supervisor; its
process can stop before each of them, and what it reads from the Supervisor may be lost. Each step
of the Supervisor is a program of one statement.
-/

namespace InitPad.Updates

open Interleave Store
open Prog (await refuseIf)
open Supervisor (UpdateStatus UpdateStage UpdateOperation)

/-! ## Statements -/

inductive Stmt : Type → Type 1 where
  | findByRequestId (requestId : String) : Stmt (Option PlatformUpdateOperation)
  | latestRelease : Stmt (Option String)
  | supervisorStatus : Stmt SupervisorState
  | findActor : Stmt Bool
  | findActive : Stmt (Option PlatformUpdateOperation)
  | create (requestId fromVersion toVersion : String) : Stmt PlatformUpdateOperation
  | post (requestId toVersion : String) : Stmt Id
  | answer (connection : Id) : Stmt UpdateOperation
  | markFailed (id : Id) (message : String) : Stmt Unit
  | persist (operation : UpdateOperation) : Stmt PlatformUpdateOperation
  /-- The request arrives at the Supervisor. -/
  | receive (post : Post) : Stmt Unit
  | lose (post : Post) : Stmt Unit
  /-- What the verification of the release says. -/
  | verify (result : Except String Unit) : Stmt Unit
  | launch (result : Except String Unit) : Stmt Unit
  | progress (status : UpdateStatus) (stage : UpdateStage) (message currentVersion : String) :
      Stmt Unit
  /-- The Supervisor starts again. -/
  | restart : Stmt Unit

/-- What the environment of a statement decides. -/
structure Input where
  crash : Bool := false
  lost : Bool := false
  release : Option String := none
  actor : Bool := true
  deriving DecidableEq

def timedOut : Failure := .supervisor "The update Supervisor is not reachable"

namespace World

variable (w : World)

def verify (result : Except String Unit) : World :=
  match w.handling with
  | some ⟨post, fromVersion, none⟩ =>
    match result with
    | .ok () => w.accept ⟨post, fromVersion, none⟩
    | .error message => { w.answer post.id (.error message) with handling := none }
  | _ => w

def launch (result : Except String Unit) : World :=
  match w.handling with
  | some ⟨post, _, some operation⟩ =>
    match result with
    | .ok () => { w.answer post.id (.ok operation) with handling := none }
    | .error message => w.launchFailed post operation message
  | _ => w

def answerOf (connection : Id) : Except Failure UpdateOperation :=
  match w.answers.find? (·.1 = connection) with
  | some (_, .ok operation) => .ok operation
  | some (_, .error message) => .error (.supervisor message)
  | none => .error timedOut

end World

def Stmt.run {β : Type} (e : Stmt β) (i : Input) (w : World) : Except Failure (β × World) :=
  match e with
  | .findByRequestId requestId => .ok (w.rows.findFirst? (·.requestId = requestId), w)
  | .latestRelease => .ok (i.release, w)
  | .supervisorStatus => .ok (w.supervisor, w)
  | .findActor => .ok (i.actor, w)
  | .findActive => .ok (w.active?, w)
  | .create requestId fromVersion toVersion => w.create requestId fromVersion toVersion
  | .post requestId toVersion =>
    .ok (w.drawn, { w with
      posts := w.posts ++ [⟨w.drawn, requestId, toVersion⟩]
      drawn := w.drawn + 1 })
  | .answer connection => (w.answerOf connection).map fun operation => (operation, w)
  | .markFailed id message =>
    .ok ((), { w with rows := w.rows.updateMany (·.id = id) (.failed message) })
  | .persist operation => w.persist operation
  | .receive sent => .ok ((), if sent ∈ w.posts then w.receive sent else w)
  | .lose sent => .ok ((), { w with posts := w.posts.filter (· ≠ sent) })
  | .verify result => .ok ((), w.verify result)
  | .launch result => .ok ((), w.launch result)
  | .progress status stage message currentVersion =>
    .ok ((), w.progress status stage message currentVersion)
  | .restart => .ok ((), { w with handling := none })

/-- The statements that the API waits for an answer of the Supervisor in. -/
def Stmt.remote {β : Type} : Stmt β → Bool
  | .supervisorStatus | .answer _ => true
  | _ => false

/-- The steps of the Supervisor and the network. -/
def Stmt.foreign {β : Type} : Stmt β → Bool
  | .receive _ | .lose _ | .verify _ | .launch _ | .progress _ _ _ _ | .restart => true
  | _ => false

def Stmt.fault {β : Type} (e : Stmt β) (i : Input) : Option (Fault Failure) :=
  if e.foreign then none
  else if i.crash then some ⟨.crashed, false⟩
  else if e.remote && i.lost then some ⟨timedOut, false⟩
  else none

instance : Semantics Stmt Input World Failure where
  exec e i w := Interleave.execute (e.fault i) (e.run i w) w

abbrev Call (α : Type) : Type 1 := Prog Stmt Failure α

/-! ## The API -/

/-- `catch`, which a process that stops does not reach. -/
def handled {α : Type} (p : Call α) (handler : Failure → Call α) : Call α :=
  tryCatch p fun e => if e = .crashed then throw e else handler e

/-- The request with its answer; every error is recorded with the row. -/
def sendUpdate (pending : PlatformUpdateOperation) : Call UpdateOperation :=
  handled (do
    let connection ← await (.post pending.requestId pending.toVersion)
    await (.answer connection)) fun _ => do
    await (.markFailed pending.id "Supervisor rejected the update")
    throw (.unavailable "Supervisor rejected the update")

/-- The insertion of the row; none when another call has inserted one for this request. -/
def insertRow (requestId fromVersion toVersion : String) :
    Call (Option PlatformUpdateOperation) :=
  handled (do
    let pending ← await (.create requestId fromVersion toVersion)
    return some pending) fun e => if e = .unique then return none else throw e

def submit (requestId fromVersion toVersion : String) : Call PlatformUpdateOperation := do
  let inserted ← insertRow requestId fromVersion toVersion
  match inserted with
  | none => do
    let concurrent ← await (.findByRequestId requestId)
    match concurrent with
    | none => throw .unique
    | some row => return row
  | some pending => do
    let operation ← sendUpdate pending
    await (.persist operation)

def request (requestId : String) : Call PlatformUpdateOperation := do
  let duplicate ← await (.findByRequestId requestId)
  match duplicate with
  | some row => return row
  | none => do
    let release ← await .latestRelease
    let state ← await .supervisorStatus
    let actor ← await .findActor
    refuseIf (!actor) (.badRequest "Administrator account no longer exists")
    match release with
    | none => throw (.unavailable "No verified platform release is currently available")
    | some toVersion => do
      refuseIf (!newer toVersion state.currentVersion)
        (.badRequest "The latest verified platform release is already installed")
      refuseIf (state.operation.any (·.status.busy)) (.conflict alreadyRunning)
      let active ← await .findActive
      refuseIf active.isSome (.conflict alreadyRunning)
      submit requestId state.currentVersion toVersion

def syncOperation (operation : UpdateOperation) : Call Unit := do
  let existing ← await (.findByRequestId operation.requestId)
  if existing.isNone then return ()
  else do
    let _ ← await (.persist operation)
    return ()

/-- The Supervisor's answer, if it is reachable. -/
def supervisorState : Call (Option SupervisorState) :=
  handled (do
    let state ← await .supervisorStatus
    return some state) fun _ => return none

/-- What `status` does with the Supervisor's answer. -/
def status : Call Unit := do
  let result ← supervisorState
  match result.bind (·.operation) with
  | none => return ()
  | some operation => syncOperation operation

inductive UpdateCall : Call Unit → Prop
  | request (requestId : String) : UpdateCall (request requestId).ignoreError
  | status : UpdateCall status
  | receive (post : Post) : UpdateCall (await (.receive post))
  | lose (post : Post) : UpdateCall (await (.lose post))
  | verify (result : Except String Unit) : UpdateCall (await (.verify result))
  | launch (result : Except String Unit) : UpdateCall (await (.launch result))
  | progress (status : UpdateStatus) (stage : UpdateStage) (message currentVersion : String) :
      UpdateCall (await (.progress status stage message currentVersion))
  | restart : UpdateCall (await .restart)

end InitPad.Updates
