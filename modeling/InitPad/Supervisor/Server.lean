import InitPad.Deployment.Types
import InitPad.Supervisor.Updater

/-!
# InitPad.Supervisor.Server

`POST /v1/update` behind the authentication of the request, and what runs when the Supervisor
starts.
-/

namespace InitPad.Supervisor

open Interleave Interleave.Prog

/-- `release` is the parsed body. -/
structure UpdateRequest where
  requestId : String
  release : Except String SignedPlatformRelease

inductive ResponseBody where
  | operation (operation : UpdateOperation)
  | error (message : String)
  deriving DecidableEq

structure Response where
  status : Nat
  body : ResponseBody
  deriving DecidableEq

def errorStatus (message : String) : Nat :=
  if containsText message "already running" then 409
  else if containsText message "signature" || containsText message "timestamp" ||
      containsText message "request id" || containsText message "shared secret" then 401
  else 400

def errorResponse (message : String) : Response :=
  ⟨errorStatus message, .error (sliceUnits 500 message)⟩

variable (env : Installation)

def acceptedOperation (id : Id) (request : UpdateRequest) (state : SupervisorState)
    (manifest : PlatformReleaseManifest) : UpdateOperation where
  id := id
  requestId := request.requestId
  fromVersion := state.currentVersion
  toVersion := manifest.version
  status := .accepted
  stage := .accepted
  message := s!"InitPad {manifest.version} update accepted"

def launchFailed (state : SupervisorState) (operation : UpdateOperation) (error : String) :
    Updating Unit := do
  await (.saveState { state with operation := some { operation with
    status := .failed
    stage := .failed
    message := sliceUnits 500 error } })
  throw error

def acceptUpdate (request : UpdateRequest) (state : SupervisorState) : Updating Response := do
  let release ← liftExcept request.release
  let manifest ← await (.verify (env.verifyRelease release state.currentVersion))
  let id ← await .randomId
  let operation := acceptedOperation id request state manifest
  await (.saveState { state with operation := some operation })
  await .makeDirectory
  await (.writePlan ⟨id, release⟩)
  tryCatch (launchHelper env id) (launchFailed state operation)
  pure ⟨202, .operation operation⟩

def handleRequest (request : UpdateRequest) : Updating Response := do
  let state ← loadState env
  match state.operation.filter (·.requestId = request.requestId) with
  | some operation => pure ⟨200, .operation operation⟩
  | none =>
    let owned ← await (.claimAccepting (state.operation.any (·.status.busy)))
    if owned then ensure (acceptUpdate env request state) (await .releaseAccepting)
    else pure ⟨409, .error "Another platform update is already running"⟩

def handleUpdate (request : UpdateRequest) : Updating Response :=
  tryCatch (handleRequest env request) fun error => pure (errorResponse error)

/-- `runServer` up to the first request: the process starts with nothing in memory. -/
def startServer : Updating Unit := do
  await .boot
  launchRecoveryHelper env

end InitPad.Supervisor
