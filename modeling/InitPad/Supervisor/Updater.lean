import InitPad.Gateway.Text
import InitPad.Supervisor.Machine

/-!
# InitPad.Supervisor.Updater

`PlatformUpdater`: the helper that applies a plan, the helper that recovers an interrupted update,
and how the Supervisor launches them. The configuration of a process is an `Installation`;
the digest and the verification of a signed release are parameters of it.
-/

namespace InitPad.Supervisor

open Interleave Interleave.Prog

structure Installation where
  platformVersion : String
  installRoot : Option String
  container : String
  sha256 : String → String
  verifyRelease : SignedPlatformRelease → String → Except String PlatformReleaseManifest

/-- `resolve(value)` normalises the path; nothing depends on it. -/
def validInstallRoot (value : Option String) : Except String String :=
  match value with
  | some root =>
    if root.toList.head? = some '/' ∧ '\x00' ∉ root.toList ∧ '\n' ∉ root.toList then .ok root
    else .error "INITPAD_INSTALL_ROOT must be an absolute host path"
  | none => .error "INITPAD_INSTALL_ROOT must be an absolute host path"

variable (env : Installation)

def initialState : SupervisorState := ⟨env.platformVersion, none, none⟩

def loadState : Updating SupervisorState := do
  let found ← await .readState
  match found with
  | some state =>
    if isVersion state.currentVersion then pure state
    else throw "Supervisor state has an unsupported schema"
  | none =>
    await (.saveState (initialState env))
    pure (initialState env)

/-- `Object.assign(operation, patch)`, then the operation is written into the state of the disk. -/
def updateOperation (patch : UpdateOperation → UpdateOperation) : Updating Unit := do
  await (.assign fun l => { l with operation := l.operation.map patch })
  let state ← loadState env
  let l ← await .locals
  await (.saveState { state with operation := l.operation })

def runIf (condition : Bool) (p : Updating Unit) : Updating Unit :=
  if condition then p else pure ()

def docker (command : DockerCommand) : Updating Unit := do
  let _ ← await (.docker command)

def isLowerHexDigit (c : Char) : Bool := c.isDigit || ('a' ≤ c && c ≤ 'f')

/-- `/^[a-f0-9]{12,64}$/` -/
def isContainerIdentity (id : String) : Bool :=
  12 ≤ id.toList.length && id.toList.length ≤ 64 && id.toList.all isLowerHexDigit

/-- The polls of `waitForService`, `n` of them left. -/
def awaitHealthy (service : Service) (id : String) : Nat → Updating Unit
  | 0 => throw s!"{service.text} readiness timed out"
  | n + 1 => do
    let status ← await (.docker (.inspectHealth id))
    if status = "healthy" then pure ()
    else if status = "exited" ∨ status = "dead" ∨ status = "unhealthy" then
      throw s!"{service.text} became {status}"
    else
      await .wait
      awaitHealthy service id n

def waitForService (compose : Compose) (service : Service) : Updating Unit := do
  let id ← await (.docker (.ps compose service))
  if isContainerIdentity id then awaitHealthy service id 40
  else throw s!"{service.text} container was not created"

/-! ## Applying a plan -/

/-- `up` of one service with the candidate override, after its stage is recorded. -/
def switchService (compose : Compose) (stage : UpdateStage) (message : String)
    (service : Service) : Updating Unit := do
  updateOperation env fun o => { o with stage := stage, message := message }
  docker (.up compose [service])
  waitForService compose service

def recordCompletion (manifest : PlatformReleaseManifest) : Updating Unit := do
  let l ← await .locals
  await (.saveState
    { currentVersion := manifest.version
      currentImages := some manifest.images
      operation := l.operation.map fun o => { o with
        status := .succeeded
        stage := .completed
        message := s!"InitPad {manifest.version} installed successfully" } })

/-- From the verified override to the recorded success. -/
def switchRelease (operationId : Id) (installRoot : String) (hadOverride : Bool)
    (manifest : PlatformReleaseManifest) : Updating Unit := do
  await .makeDirectory
  updateOperation env fun o => { o with
    stage := .backup
    message := "Creating and verifying the PostgreSQL backup" }
  docker (.dump (composeArgs installRoot hadOverride) operationId)
  docker (.listBackup (composeArgs installRoot hadOverride) operationId)
  updateOperation env fun o => { o with
    stage := .pulling
    message := "Pulling immutable platform images" }
  docker (.pull manifest.images.api)
  docker (.pull manifest.images.web)
  docker (.pull manifest.images.supervisor)
  updateOperation env fun o => { o with
    stage := .switching
    message := "Switching to the verified platform release" }
  await (.writeOverride (renderOverride manifest))
  switchService env (composeArgs installRoot true) .api
    "Applying compatible migrations and checking the API" .api
  switchService env (composeArgs installRoot true) .web
    "Switching the web application and checking readiness" .web
  switchService env (composeArgs installRoot true) .supervisor
    "Switching the release Supervisor and checking readiness" .supervisor
  recordCompletion manifest
  await (.removeSaved operationId)

/-- The `try` block of `applyPlan`. -/
def applyVerified (planId : Id) : Updating Unit := do
  let plan ← await (.readPlan planId)
  let state ← loadState env
  await (.assign fun l => { l with operation := state.operation, previousState := some state })
  match state.operation with
  | none => throw "Platform update operation state is missing"
  | some operation =>
    if operation.id = plan.operationId then
      await .makeDirectory
      await (.assign fun l => { l with previousOverride := some operation.id })
      let hadOverride ← await .overrideExists
      await (.assign fun l => { l with hadOverride := hadOverride })
      let installRoot ← liftExcept (validInstallRoot env.installRoot)
      await (.assign fun l => { l with installRoot := installRoot })
      updateOperation env fun o => { o with
        status := .running
        stage := .verifying
        message := "Verifying the signed platform release" }
      let manifest ← await (.verify (env.verifyRelease plan.release operation.fromVersion))
      if env.sha256 (renderOverride manifest) = manifest.composeSha256 then
        runIf hadOverride (await (.copyToSaved operation.id))
        await (.assign fun l => { l with overridePrepared := true })
        switchRelease env operation.id installRoot hadOverride manifest
      else throw "Generated Compose override does not match the signed release"
    else throw "Platform update operation state is missing"

def restoreOverride (l : Locals) : Updating Unit :=
  if l.overridePrepared then
    match l.hadOverride, l.previousOverride with
    | true, some id => ignoreError (await (.copyFromSaved id))
    | _, _ => await .removeOverride
  else pure ()

def recordRollBack (l : Locals) (error : String) : Updating Unit :=
  match l.previousState, l.operation with
  | some previous, some operation =>
    ignoreError (await (.saveState { previous with operation := some { operation with
      status := .rolledBack
      stage := .rolledBack
      message := sliceUnits 500 s!"Update rolled back: {error}" } }))
  | _, _ => pure ()

def restoreContainers (l : Locals) : Updating Unit :=
  runIf (l.installRoot != "") (ignoreError
    (docker (.up (composeArgs l.installRoot l.hadOverride) [.api, .web, .supervisor])))

/-- The `catch` block of `applyPlan`. -/
def rollBack (error : String) : Updating Unit := do
  let l ← await .locals
  restoreOverride l
  recordRollBack l error
  restoreContainers l
  throw error

def removeSavedCopy : Option Id → Updating Unit
  | some id => await (.removeSaved id)
  | none => pure ()

/-- The `finally` block. -/
def cleanUp (planId : Id) : Updating Unit := do
  await (.removePlan planId)
  let l ← await .locals
  removeSavedCopy l.previousOverride
  await .removeLock

def applyPlan (planId : Id) : Updating Unit := do
  await .makeDirectory
  await .createLock
  await (.assign fun _ => {})
  ensure (tryCatch (applyVerified env planId) rollBack) (cleanUp planId)

/-! ## Recovery -/

/-- `up` of some services as recovery does it, with the override if there was a saved copy. -/
def recoveryUp (hadPrevious : Bool) (services : List Service) : Updating Unit := do
  let installRoot ← liftExcept (validInstallRoot env.installRoot)
  docker (.up (composeArgs installRoot hadPrevious) services)

/-- The saved copy becomes the override again; without one only a source installation goes on. -/
def putBack (state : SupervisorState) (operation : UpdateOperation) (hadPrevious : Bool) :
    Updating Unit :=
  if hadPrevious then await (.renameSaved operation.id)
  else if state.currentImages.isSome then
    throw "Previous signed platform release descriptor is missing"
  else await .removeOverride

def restoreDescriptor (state : SupervisorState) (operation : UpdateOperation) : Updating Unit := do
  let hadPrevious ← await (.savedExists operation.id)
  putBack state operation hadPrevious
  recoveryUp env hadPrevious [.api, .web]

def restoreSupervisor (operation : UpdateOperation) : Updating Unit := do
  let hadPrevious ← await (.savedExists operation.id)
  recoveryUp env hadPrevious [.supervisor]

def recoveredOperation (operation : UpdateOperation) : UpdateOperation :=
  if operation.stage.changed then { operation with
    status := .rolledBack
    stage := .rolledBack
    message := "Interrupted platform update was rolled back during Supervisor recovery" }
  else { operation with
    status := .failed
    stage := .interrupted
    message := "Platform update was interrupted before any image was switched" }

/-- The `try` block of `recoverInterruptedUpdate`. -/
def restore (state : SupervisorState) (operation : UpdateOperation) : Updating Unit := do
  runIf operation.stage.changed (restoreDescriptor env state operation)
  await (.saveState { state with operation := some (recoveredOperation operation) })
  runIf (operation.stage == .supervisor) (restoreSupervisor env operation)
  await (.removePlan operation.id)
  await (.removeSaved operation.id)
  await .removeLock

def recordFailedRecovery (state : SupervisorState) (operation : UpdateOperation)
    (error : String) : Updating Unit :=
  await (.saveState { state with operation := some { operation with
    status := .failed
    stage := .recoveryFailed
    message := sliceUnits 500 s!"Automatic recovery failed: {error}" } })

def recoverInterruptedUpdate (expected : Option Id) : Updating Unit := do
  let state ← loadState env
  if expected.isSome ∧ state.operation.map (·.id) ≠ expected then
    throw "Platform recovery operation does not match durable state"
  else
    match state.operation.filter (·.status.busy) with
    | none => pure ()
    | some operation =>
      let helper ← await (.docker (.helpers .update operation.id))
      if helper = "" then
        tryCatch (restore env state operation) (recordFailedRecovery state operation)
      else if isContainerIdentity helper then pure ()
      else throw "Platform update helper identity is invalid"

/-- `/^sha256:[a-f0-9]{64}$/` -/
def isImageId (id : String) : Bool :=
  id.toList.take 7 == "sha256:".toList && (id.toList.drop 7).length == 64 &&
    (id.toList.drop 7).all isLowerHexDigit

def isReferenceChar (c : Char) : Bool :=
  c.isDigit || ('a' ≤ c && c ≤ 'z') || c == '.' || c == '_' || c == ':' || c == '/' || c == '-'

/-- `IMMUTABLE_IMAGE`: a reference in lower case that is pinned to a digest. -/
def isImmutableImage (reference : String) : Bool :=
  match reference.toList.splitOn '@' with
  | [name, digest] =>
    (name.head?.any fun c => c.isDigit || ('a' ≤ c && c ≤ 'z')) && name.all isReferenceChar &&
      isImageId (String.ofList digest)
  | _ => false

/-- `value.trim()` -/
def trimmed (line : List Char) : String :=
  String.ofList ((line.dropWhile Char.isWhitespace).reverse.dropWhile Char.isWhitespace).reverse

def helperImage (stdout : String) : Except String String :=
  let identity := stdout.toList.splitOn '\n'
  let imageId := trimmed (identity.getD 0 [])
  let configuredImage := trimmed (identity.getD 1 [])
  if isImageId imageId then
    (validInstallRoot env.installRoot).map fun _ =>
      if isImmutableImage configuredImage then configuredImage else imageId
  else .error "Running Supervisor image identity is invalid"

def helperRuntime : Updating String := do
  let stdout ← await (.docker (.inspectIdentity env.container))
  liftExcept (helperImage env stdout)

def launchHelper (planId : Id) : Updating Unit := do
  let helperImage ← helperRuntime env
  tryCatch (docker (.runHelper .update planId helperImage env.container)) fun error => do
    await (.removePlan planId)
    throw error

def launchRecoveryHelper : Updating Unit := do
  let state ← loadState env
  match state.operation.filter (·.status.busy) with
  | none => pure ()
  | some operation =>
    let activeUpdater ← await (.docker (.helpers .update operation.id))
    if activeUpdater ≠ "" then pure ()
    else
      let activeRecovery ← await (.docker (.helpers .recovery operation.id))
      if activeRecovery ≠ "" then pure ()
      else
        let helperImage ← helperRuntime env
        docker (.runHelper .recovery operation.id helperImage env.container)

end InitPad.Supervisor
