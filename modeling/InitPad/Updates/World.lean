import InitPad.Deployment.Types
import InitPad.Interleave.Commit
import InitPad.Store.Descent
import InitPad.Supervisor.Machine

/-!
# InitPad.Updates.World

The rows of requested platform updates, the Supervisor behind its update endpoint, and the requests
and responses between the two. The Supervisor's variables of the one request that it is accepting
are part of the state; `accepting` is true while there are any.
-/

namespace InitPad.Updates

open Interleave Store
open Supervisor (UpdateStatus UpdateStage UpdateOperation)

inductive OperationStatus where
  | requesting
  | reported (status : UpdateStatus)
  deriving DecidableEq

/-- `ACTIVE` -/
def OperationStatus.active : OperationStatus → Bool
  | .requesting => true
  | .reported status => status.busy

inductive OperationStage where
  | requesting | requestFailed
  | reported (stage : UpdateStage)
  deriving DecidableEq

structure PlatformUpdateOperation where
  id : Id
  requestId : String
  supervisorOperationId : Option Id
  fromVersion : String
  toVersion : String
  status : OperationStatus
  stage : OperationStage
  message : String
  deriving DecidableEq

instance : Keyed PlatformUpdateOperation Id := ⟨PlatformUpdateOperation.id⟩

namespace PlatformUpdateOperation

def failed (message : String) (row : PlatformUpdateOperation) : PlatformUpdateOperation := { row with
  status := .reported .failed
  stage := .requestFailed
  message }

/-- The columns of `persistOperation`. -/
def mirrored (operation : UpdateOperation) (row : PlatformUpdateOperation) :
    PlatformUpdateOperation := { row with
  supervisorOperationId := some operation.id
  fromVersion := operation.fromVersion
  toVersion := operation.toVersion
  status := .reported operation.status
  stage := .reported operation.stage
  message := operation.message }

end PlatformUpdateOperation

/-- A `POST /v1/update` on its way. -/
structure Post where
  id : Id
  requestId : String
  toVersion : String
  deriving DecidableEq

/-- The request that the Supervisor is accepting, with the operation once it is saved. -/
structure Handling where
  post : Post
  fromVersion : String
  operation : Option UpdateOperation
  deriving DecidableEq

structure SupervisorState where
  currentVersion : String := "0.1.0"
  operation : Option UpdateOperation := none
  deriving DecidableEq

structure World where
  rows : Table PlatformUpdateOperation := {}
  posts : List Post := []
  answers : List (Id × Except String UpdateOperation) := []
  handling : Option Handling := none
  supervisor : SupervisorState := {}
  /-- The next id of a row, a connection or an operation. -/
  drawn : Nat := 0

inductive Failure where
  | badRequest (message : String)
  | conflict (message : String)
  | unavailable (message : String)
  | unique | notFound
  /-- The answer of the Supervisor is an error, or there is none in time. -/
  | supervisor (message : String)
  /-- The process of the API stops. -/
  | crashed
  deriving DecidableEq

def alreadyRunning : String := "Another platform update is already running"

/-! ## Versions -/

def versionNumbers (version : String) : List Nat :=
  (version.toList.splitOn '.').map fun part =>
    part.foldl (fun n c => 10 * n + (c.toNat - '0'.toNat)) 0

/-- `compareStableVersions(left, right) > 0` -/
def newer (left right : String) : Bool := decide (versionNumbers right < versionNumbers left)

namespace World

variable (w : World)

def active? : Option PlatformUpdateOperation := w.rows.rows.reverse.find? (·.status.active)

def create (requestId fromVersion toVersion : String) : Except Failure (PlatformUpdateOperation × World) :=
  if w.rows.rows.any (·.requestId = requestId) then .error .unique
  else
    let row : PlatformUpdateOperation :=
      ⟨w.drawn, requestId, none, fromVersion, toVersion, .requesting, .requesting,
        "Requesting verified InitPad " ++ toVersion ++ " update"⟩
    .ok (row, { w with rows := w.rows.insert row, drawn := w.drawn + 1 })

def persist (operation : UpdateOperation) : Except Failure (PlatformUpdateOperation × World) :=
  match w.rows.findFirst? (·.requestId = operation.requestId) with
  | none => .error .notFound
  | some row => .ok (row.mirrored operation, { w with
      rows := w.rows.updateMany (·.requestId = operation.requestId) (.mirrored operation) })

def answer (connection : Id) (result : Except String UpdateOperation) : World :=
  { w with answers := w.answers ++ [(connection, result)] }

/-- The Supervisor reads the request and, in one go, decides whether to accept it. -/
def receive (post : Post) : World :=
  let w := { w with posts := w.posts.filter (· ≠ post) }
  match w.supervisor.operation.filter (·.requestId = post.requestId) with
  | some operation => w.answer post.id (.ok operation)
  | none =>
    if w.handling.isSome || w.supervisor.operation.any (·.status.busy) then
      w.answer post.id (.error alreadyRunning)
    else { w with handling := some ⟨post, w.supervisor.currentVersion, none⟩ }

/-- The release is verified, and the operation saved. -/
def accept (handling : Handling) : World :=
  let operation : UpdateOperation :=
    ⟨w.drawn, handling.post.requestId, handling.fromVersion, handling.post.toVersion, .accepted,
      .accepted, "InitPad " ++ handling.post.toVersion ++ " update accepted"⟩
  { w with
    supervisor := { w.supervisor with operation := some operation }
    handling := some { handling with operation := some operation }
    drawn := w.drawn + 1 }

def launchFailed (post : Post) (operation : UpdateOperation) (message : String) : World :=
  { w.answer post.id (.error message) with
    supervisor := { w.supervisor with
      operation := some { operation with status := .failed, stage := .failed, message } }
    handling := none }

def progress (status : UpdateStatus) (stage : UpdateStage) (message : String)
    (currentVersion : String) : World := { w with
  supervisor := ⟨currentVersion, w.supervisor.operation.map fun operation =>
    { operation with status, stage, message }⟩ }

end World

end InitPad.Updates
