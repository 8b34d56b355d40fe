import InitPad.Agents.Projection
import InitPad.Deployment.Lifecycle

/-!
# InitPad.Agents.Jobs

The requests of an Agent to `AgentJobsService`: claim a job, report progress, complete it; and the
replay of unfinished projections when an API process starts.
-/

namespace InitPad

open Store Interleave Prog

def advanceDeploymentPhase (operationId : Option Id) (phase : OperationPhase) (message : String) :
    Async Unit :=
  match operationId with
  | none => pure ()
  | some operationId => do
    let _ ← await (.advanceDeploymentPhase operationId phase message)

/-! ## Claim -/

structure AgentJobDelivery where
  sha256 : String
  sizeBytes : Nat

structure AgentJobAssignment where
  job : ClaimedJob
  delivery : Option AgentJobDelivery

/-- `claim` answers with the job, if any, and the delay until the next poll in seconds. -/
structure ClaimResponse where
  job : Option AgentJobAssignment
  nextPollSeconds : Nat

def assertDeliveryBinding (b : LeaseBinding) : Except Err (BuildArtifact × String × Environment) :=
  match b.artifact, b.artifact.bind (·.storageRef), b.environment with
  | some artifact, some storageRef, some environment =>
    if storageRef.isEmpty ∨ ¬ artifact.available ∨ ¬ artifact.objectStore ∨
        environment.targetId ≠ some b.job.targetId ∨
        environment.allocationId ≠ b.job.allocationId then
      .error (.badRequest "Agent job is not bound to an available deployment artifact")
    else .ok (artifact, storageRef, environment)
  | _, _, _ => .error (.badRequest "Agent job is not bound to an available deployment artifact")

def safeSize (value : Nat) : Except Err Nat :=
  if 1 ≤ value ∧ value ≤ 9007199254740991 then .ok value
  else .error (.badRequest "Build artifact has an invalid size")

def stripPrefix (start s : List Char) : List Char :=
  if start.isPrefixOf s then s.drop start.length else s

def normalizedDigest (value : String) : Except Err String :=
  let digest := stripPrefix "sha256:".toList (value.map Char.toLower).toList
  if digest.length = 64 ∧ digest.all isLowerHex then .ok (String.ofList digest)
  else .error (.badRequest "Build artifact has an invalid SHA-256 digest")

def deliveryForLease (api : Api) (agent : AuthenticatedAgent) (jobId : Id) (leaseToken : String) :
    Async AgentJobDelivery := do
  let now ← await .readClock
  let found ← await (.findLease agent jobId leaseToken (some now))
  match found with
  | none => throw lostLease
  | some binding =>
    let (artifact, storageRef, environment) ← liftExcept (assertDeliveryBinding binding)
    if binding.job.payload.configFingerprint =
        some (api.platform.configFingerprint environment.configVars) then
      let sizeBytes ← liftExcept (safeSize artifact.sizeBytes)
      let object ← await (.readArtifactObject storageRef)
      if object = some sizeBytes then
        await (.decryptConfig jobId)
        let sha256 ← liftExcept (normalizedDigest artifact.digest)
        pure ⟨sha256, sizeBytes⟩
      else throw (.notFound "Verified build artifact is no longer available")
    else throw (.badRequest
      "Application config changed after this deployment was queued; start a new deployment")

def failInvalidDelivery (api : Api) (agent : AuthenticatedAgent) (jobId : Id)
    (leaseToken : String) (message : String) : Async Unit := do
  let now ← await .readClock
  let failed ← await (.failJob agent jobId leaseToken now message)
  if failed = 1 then reconcileTerminalJob api.platform jobId

/-- The delivery of a claimed job; `none` when it could not be prepared and the job has failed. -/
def prepareDelivery (api : Api) (agent : AuthenticatedAgent) (job : ClaimedJob) :
    Async (Option AgentJobAssignment) :=
  if job.row.kind = .deploy ∨ job.row.kind = .rollback then
    tryCatch
      (do
        let delivery ← deliveryForLease api agent job.row.id job.leaseToken
        pure (some ⟨job, some delivery⟩))
      fun error => do
        failInvalidDelivery api agent job.row.id job.leaseToken error.message
        pure none
  else pure (some ⟨job, none⟩)

def claimLoop (api : Api) (agent : AuthenticatedAgent) : Nat → Async ClaimResponse
  | 0 => pure ⟨none, 1⟩
  | tries + 1 => do
    let attempt ← claimOnce agent
    match attempt with
    | .empty => pure ⟨none, 2⟩
    | .raced => claimLoop api agent tries
    | .claimed job =>
      if job.row.kind = .logs then
        let _ ← await (.markDiagnosticRunning job.row.id "Claimed by Agent")
      advanceDeploymentPhase job.row.deploymentOperationId .assigned "Claimed by Agent"
      let assignment ← prepareDelivery api agent job
      match assignment with
      | some assignment => pure ⟨some assignment, 2⟩
      | none => claimLoop api agent tries

def claim (api : Api) (credential : Option String) : Async ClaimResponse := do
  let agent ← authenticate credential
  claimLoop api agent 3

/-! ## Progress -/

structure AgentJobProgressDto where
  leaseToken : String
  sequence : Nat
  percent : Nat
  stage : ProgressStage
  message : String

def progressPhase (stage : ProgressStage) : OperationPhase :=
  match stage with
  | .verifying => .verifying
  | .working => .running
  | _ => .assigned

/-- `mirrorDeploymentProgress`. The statement carries the sequence of the report whose text it
mirrors; the code drops it here, and the statement's effect does not read it. -/
def mirrorDeploymentProgress (jobId : Id) (stage : ProgressStage) (message : String)
    (sequence : Nat) : Async Unit := do
  let found ← await (.query fun db => .ok
    ((db.agentJobs.find? jobId).bind (·.deploymentOperationId)))
  match found with
  | none => pure ()
  | some operationId =>
    await (.mirrorDeploymentProgress operationId (progressPhase stage) message sequence)

def mirrorGatewayPreflightProgress (jobId : Id) : Async Unit := do
  let found ← await (.query fun db => .ok (db.agentJobs.find? jobId))
  match found.filter fun job => job.kind == .gatewayPreflight with
  | none => pure ()
  | some job => do
    let _ ← await (.mirrorGatewayPreflight job.targetId job.id)

def mirrorProgress (jobId : Id) (stage : ProgressStage) (message : String) (sequence : Nat) :
    Async Unit := do
  mirrorDeploymentProgress jobId stage message sequence
  mirrorGatewayPreflightProgress jobId
  let _ ← await (.markDiagnosticRunning jobId message)

def progress (credential : Option String) (jobId : Id) (dto : AgentJobProgressDto) :
    Async AgentJob := do
  let agent ← authenticate credential
  let now ← await .readClock
  let advanced ← await (.progressJob agent jobId dto.leaseToken now dto.sequence dto.percent
    dto.stage dto.message)
  if advanced = 1 then
    let current ← readJob jobId
    mirrorProgress jobId dto.stage dto.message dto.sequence
    pure current
  else
    let found ← await (.findLease agent jobId dto.leaseToken (some now))
    match found with
    | none => throw lostLease
    | some binding =>
      -- A late report repeats the text that has already won.
      let current := binding.job
      mirrorProgress jobId current.progressStage (current.message.getD dto.message)
        current.progressSequence
      pure current

/-! ## Completion -/

def diagnosticHealthValid (state : RunState) (health : String) : Bool :=
  match state with
  | .running => health == "healthy" || health == "unhealthy"
  | .stopped => health == "not-running"
  | .missing => health == "missing"

/-- The checks of `complete` on the request itself. -/
def validateCompletion (kind : JobKind) (dto : AgentJobCompleteDto) : Except Err Unit := do
  let diagnosticJob := kind == .logs
  rejectUnless (dto.gatewayCaSha256.all (·.isEmpty) || kind == .gatewayPreflight)
    "A gateway CA fingerprint is accepted only for a gateway preflight"
  rejectUnless (dto.diagnostic.isNone || diagnosticJob)
    "Diagnostic output is accepted only for a logs job"
  rejectUnless (!(diagnosticJob && dto.succeeded && (dto.result.isNone || dto.diagnostic.isNone)))
    "A successful logs job requires runtime and diagnostic output"
  match dto.result, dto.diagnostic with
  | some result, some diagnostic =>
    rejectUnless (!diagnosticJob || diagnosticHealthValid result.state diagnostic.health)
      "Diagnostic health does not match the workload state"
  | _, _ => pure ()

/-- `sameResult`: the stored result is what the request repeats. -/
def sameResult (stored received : Option JobResult) : Bool :=
  match received with
  | none => stored.isNone
  | some received => jobResult stored == some received

def sameDiagnostic (stored : Option WorkloadDiagnostic) (dto : AgentJobCompleteDto) : Bool :=
  stored.any fun d =>
    d.status == (if dto.succeeded then .succeeded else .failed) && d.message == some dto.message &&
      (!dto.succeeded || match dto.result, dto.diagnostic with
        | some result, some diagnostic =>
          d.runtimeState == some result.state && d.revision == result.revision &&
            d.exitCode == diagnostic.exitCode && d.health == some diagnostic.health &&
            d.logs == diagnostic.logs
        | _, _ => false)

def AgentJobCompleteDto.status (dto : AgentJobCompleteDto) : JobStatus :=
  if dto.succeeded then .succeeded else .failed

/-- Whether `current` is what an earlier delivery of the same completion has stored. -/
def repeatsCompletion (dto : AgentJobCompleteDto) (current : AgentJob) : Bool :=
  current.status == dto.status && current.message == some dto.message &&
    current.resultCode == dto.resultCode && sameResult current.result dto.result

def assertSameDiagnostic (jobId : Id) (dto : AgentJobCompleteDto) : Async Unit := do
  let stored ← await (.query fun db => .ok
    (db.diagnostics.findFirst? fun d => d.currentJobId == some jobId))
  if sameDiagnostic stored dto then pure () else throw lostLease

def projectCompletion (api : Api) (jobId : Id) : Async Unit := do
  reconcileGatewayPreflight jobId
  reconcileGatewayRoute jobId
  reconcileTerminalJob api.platform jobId

def auditAgentUpdate (job : AgentJob) : Async Unit :=
  if job.kind = .agentUpdate then await (.recordAudit job.id) else pure ()

def completeJob (api : Api) (credential : Option String) (jobId : Id) (leaseToken : String)
    (dto : AgentJobCompleteDto) : Async AgentJob := do
  let agent ← authenticate credential
  let now ← await .readClock
  let found ← await (.findLease agent jobId leaseToken none)
  match found with
  | none => throw lostLease
  | some binding =>
    liftExcept (validateCompletion binding.job.kind dto)
    let diagnosticJob := binding.job.kind == .logs
    let completed ← await (.completeJob agent jobId leaseToken now diagnosticJob dto)
    if completed = 1 then
      projectCompletion api jobId
      let current ← readJob jobId
      auditAgentUpdate current
      pure current
    else
      let found ← await (.findLease agent jobId leaseToken none)
      match found.filter fun b => repeatsCompletion dto b.job with
      | none => throw lostLease
      | some current => do
        if diagnosticJob then assertSameDiagnostic jobId dto
        projectCompletion api jobId
        auditAgentUpdate current.job
        pure current.job

def Db.pendingProjections (db : Db) : List Id :=
  (db.agentJobs.findMany fun j => j.status.terminal &&
    (j.deploymentOperationId.bind db.operations.find?).any fun o =>
      o.status == .running && o.finishedAt.isNone).map (·.id)

def Db.pendingPreflights (db : Db) : List Id :=
  (db.targets.findMany fun t =>
    t.gatewayPreflightStatus == .queued || t.gatewayPreflightStatus == .running).filterMap
      (·.gatewayPreflightJobId)

def Db.pendingRoutes (db : Db) : List Id := db.gatewayRoutes.rows.filterMap (·.reconcileJobId)

/-- A list that the code replaces by the empty one when it cannot be read. -/
def readList (f : Db → List Id) : Async (List Id) :=
  tryCatch (await (.query fun db => .ok (f db))) fun _ => pure []

def replayJob (api : Api) (jobId : Id) : Async Unit := do
  ignoreError (reconcileGatewayRoute jobId)
  ignoreError (reconcileTerminalJob api.platform jobId)

def onModuleInit (api : Api) : Async Unit := do
  let pendingOperations ← readList Db.pendingProjections
  forEach (replayJob api) pendingOperations
  let pendingPreflights ← readList Db.pendingPreflights
  forEach (fun jobId => ignoreError (reconcileGatewayPreflight jobId)) pendingPreflights
  let pendingRoutes ← readList Db.pendingRoutes
  forEach (fun jobId => ignoreError (reconcileGatewayRoute jobId)) pendingRoutes

end InitPad
