import InitPad.Gateway.Text

/-!
# InitPad.Agents.LeaseDeadline

`executeClaimedJob` in time. A claimed job has a lease of thirty seconds; the Agent executes the
job, for as long as that takes, and completes it. Meanwhile the lease is to be renewed: beside the
runner by `renewLeaseLoop`, by the probe between its reports, and by the logs job not at all.

A clock is in milliseconds. It keeps a record of all waits, each with the expiry of the lease that
the API has stored at that time.

* `Clock.LeaseHolds`: at every instant up to now the expiry lay in the future.
* `lease_outlives_job_iff`: this is so for every job, except for a logs job that takes too long.
-/

namespace InitPad.JobWorker

def renewEveryMs : Nat := 10000

def progressEveryMs : Nat := 5000

def leaseMs : Nat := 30000

/-- An answer of the control plane is prompt if it takes less than this. -/
def promptMs : Nat := 5000

structure Wait where
  begins : Nat
  lasts : Nat
  /-- The expiry that is stored during the wait. -/
  leaseExpiresAt : Nat
  deriving DecidableEq

structure Clock where
  now : Nat
  /-- The expiry in the row of the job. -/
  leaseExpiresAt : Nat
  /-- The expiry that the Agent knows. -/
  leaseDeadline : Nat
  waits : List Wait
  deriving DecidableEq

namespace Clock

/-- The lease that `claimOnce` gives. -/
def claimed : Clock where
  now := 0
  leaseExpiresAt := leaseMs
  leaseDeadline := leaseMs
  waits := []

def pass (c : Clock) (ms : Nat) : Clock :=
  { c with
    now := c.now + ms
    waits := c.waits ++ [⟨c.now, ms, c.leaseExpiresAt⟩] }

/-- The API renews the lease. -/
def extend (c : Clock) : Clock := { c with leaseExpiresAt := c.now + leaseMs }

/-- The Agent reads the new expiry in the answer. -/
def learn (c : Clock) : Clock := { c with leaseDeadline := c.leaseExpiresAt }

/-- At every instant of every wait the expiry lies in the future. -/
def LeaseHolds (c : Clock) : Prop :=
  ∀ w ∈ c.waits, ∀ t, w.begins ≤ t → t ≤ w.begins + w.lasts → t < w.leaseExpiresAt

end Clock

/-! ## Calls of the control plane -/

inductive JobError where
  | controlPlane (status : Nat) (message : String)
  | error (message : String)
  /-- A thrown value that is not an `Error` -/
  | other
  deriving DecidableEq

def JobError.isControlPlane : JobError → Bool
  | .controlPlane _ _ => true
  | _ => false

def JobError.isClientError : JobError → Bool
  | .controlPlane status _ => decide (400 ≤ status) && decide (status < 500)
  | _ => false

/-- `[401, 403, 409].includes(error.status)` -/
def JobError.isFenced : JobError → Bool
  | .controlPlane status _ => status == 401 || status == 403 || status == 409
  | _ => false

def JobError.text (default : String) : JobError → String
  | .controlPlane _ message => message
  | .error message => message
  | .other => default

structure Renewal where
  carriedOut : Nat
  answered : Nat
  prompt : carriedOut + answered < promptMs

def Renewal.lasts (r : Renewal) : Nat := r.carriedOut + r.answered

def renew (r : Renewal) (c : Clock) : Clock := ((c.pass r.carriedOut).extend.pass r.answered).learn

structure Attempt where
  lasts : Nat
  answer : Except JobError Unit

/-- The result, and when the call is over. The Agent is stopped when there are no more attempts. -/
def retryProtocolCall (leaseDeadline : Nat) : List Attempt → Nat → Nat → Except JobError Unit × Nat
  | [], _, now => (.error (.error "Agent job interrupted"), now)
  | attempt :: attempts, retryMs, now =>
    let now := now + attempt.lasts
    match attempt.answer with
    | .ok () => (.ok (), now)
    | .error x =>
      if x.isClientError then (.error x, now)
      else if leaseDeadline ≤ now + retryMs then (.error x, now)
      else retryProtocolCall leaseDeadline attempts (min 2000 (retryMs * 2)) (now + retryMs)

def firstRetryMs : Nat := 500

/-- The time that the attempts take if all of them are made. -/
def spent : List Attempt → Nat → Nat
  | [], _ => 0
  | attempt :: attempts, retryMs =>
    attempt.lasts + (retryMs + spent attempts (min 2000 (retryMs * 2)))

/-- A progress report that `executeClaimedJob` sends itself. -/
structure Report where
  attempts : List Attempt
  prompt : spent attempts firstRetryMs < promptMs

def Report.send (r : Report) (leaseDeadline now : Nat) : Except JobError Unit × Nat :=
  retryProtocolCall leaseDeadline r.attempts firstRetryMs now

def progress (r : Report) (c : Clock) : Except JobError Unit × Clock :=
  let (result, ends) := r.send c.leaseDeadline c.now
  (result, c.pass (ends - c.now))

inductive JobKind where
  | probe | lifecycleTest | gatewayPreflight | gatewayRoute | deploy | start | stop | remove | logs
  | agentUpdate
  /-- A kind that is not in the list. -/
  | unsupported
  deriving DecidableEq

inductive DesiredState where
  | present | absent
  deriving DecidableEq

def DesiredState.text : DesiredState → String
  | .present => "present"
  | .absent => "absent"

structure ProbePayload where
  /-- Unless it is no integer. -/
  durationSeconds : Option Int

structure Job where
  kind : JobKind
  protocolVersion : Nat
  /-- What the parser of the payload says. -/
  invalid : Option JobError := none
  probePayload : Option ProbePayload := none
  generation : Nat := 0
  desiredState : DesiredState := .present

inductive CompletionStatus where
  | succeeded | failed
  deriving DecidableEq

structure Completion where
  status : CompletionStatus
  message : String
  resultCode : String
  deriving DecidableEq

/-- How `executeClaimedJob` ends. -/
inductive Outcome where
  /-- `complete` is called. -/
  | complete (input : Completion)
  | handedOff
  | interrupted
  | thrown (error : JobError)
  deriving DecidableEq

def failed (message resultCode : String) : Outcome := .complete ⟨.failed, message, resultCode⟩

def succeeded (message : String) (resultCode : String := "ok") : Outcome :=
  .complete ⟨.succeeded, message, resultCode⟩

/-- `error.message.slice(0, 240)` -/
def failedWith (x : JobError) (default resultCode : String) : Outcome :=
  failed (String.ofList (takeUnits 240 (x.text default).toList)) resultCode

/-! ## Jobs with a renewal loop -/

/-- What the runner does beside the loop, its reports included. -/
structure Body where
  lasts : Nat
  result : Except JobError Unit
  /-- The Agent is stopped meanwhile. -/
  stopped : Bool := false
  cleanupComplete : Bool := true

/-- The loop is stopped in its sleep, or goes on until its call is answered. -/
def renewLeaseLoop (renewals : Nat → Renewal) (k left : Nat) (c : Clock) : Clock :=
  if left ≤ renewEveryMs then c.pass left
  else if left ≤ renewEveryMs + (renewals k).lasts then renew (renewals k) (c.pass renewEveryMs)
  else
    renewLeaseLoop renewals (k + 1) (left - (renewEveryMs + (renewals k).lasts))
      (renew (renewals k) (c.pass renewEveryMs))
termination_by left
decreasing_by
  unfold renewEveryMs at *
  omega

structure LoopKind where
  rethrows : JobError → Bool
  defaultMessage : String
  failureCode : String
  success : Outcome

def runBeside (kind : LoopKind) (renewals : Nat → Renewal) (body : Body) (c : Clock) :
    Outcome × Clock :=
  let c := renewLeaseLoop renewals 0 body.lasts c
  if body.stopped then (.interrupted, c)
  else
    match body.result with
    | .ok () => (kind.success, c)
    | .error x =>
      if kind.rethrows x then (.thrown x, c)
      else (failedWith x kind.defaultMessage kind.failureCode, c)

def agentUpdate : LoopKind where
  rethrows := JobError.isControlPlane
  defaultMessage := "Agent update failed"
  failureCode := "agent_update_failed"
  success := .handedOff

def gatewayPreflight : LoopKind where
  rethrows := JobError.isControlPlane
  defaultMessage := "Gateway preflight failed"
  failureCode := "gateway_preflight_failed"
  success := succeeded "Gateway DNS, TLS and Caddy adapter preflight passed"

def gatewayRoute (job : Job) (cleanupComplete : Bool) : LoopKind where
  rethrows := JobError.isControlPlane
  defaultMessage := "Gateway route reconcile failed"
  failureCode := "gateway_route_failed"
  success :=
    if cleanupComplete then
      succeeded s!"Gateway route generation {job.generation} reconciled to {job.desiredState.text}"
    else
      succeeded s!"Gateway route generation {job.generation} is active; superseded workload cleanup is pending"
        "ok_cleanup_pending"

def lifecycleAction (kind : String) : LoopKind where
  rethrows := JobError.isFenced
  defaultMessage := "Agent lifecycle action failed"
  failureCode := "lifecycle_failed"
  success := succeeded s!"Managed workload {kind} completed"

def deployment : LoopKind where
  rethrows := JobError.isFenced
  defaultMessage := "Agent project deployment failed"
  failureCode := "deployment_failed"
  success := succeeded "Deployment is running and healthy"

def lifecycleTest : LoopKind where
  rethrows := JobError.isControlPlane
  defaultMessage := "Docker lifecycle test failed"
  failureCode := "lifecycle_failed"
  success := succeeded "Docker lifecycle test completed and cleaned up"

/-! ## Logs -/

/-- One request of the health path; it is aborted after three seconds. -/
structure HealthCheck where
  lasts : Nat
  ok : Bool
  bounded : lasts ≤ 3000

/-- The result, and the time until it is there. -/
def waitHealthy : List HealthCheck → Bool × Nat
  | [] => (false, 0)
  | check :: checks =>
    if check.ok then (true, check.lasts)
    else ((waitHealthy checks).1, check.lasts + 500 + (waitHealthy checks).2)

inductive WorkloadState where
  | missing | running | stopped
  deriving DecidableEq

/-- What `diagnostics` finds at Docker. -/
structure Diagnostics where
  requests : Nat
  found : Except JobError WorkloadState
  checks : List HealthCheck
  bounded : checks.length ≤ 20

def Diagnostics.lasts (d : Diagnostics) : Nat :=
  match d.found with
  | .ok .running => d.requests + (waitHealthy d.checks).2
  | _ => d.requests

def Diagnostics.result (d : Diagnostics) : Except JobError (WorkloadState × String) :=
  match d.found with
  | .error x => .error x
  | .ok .missing => .ok (.missing, "missing")
  | .ok .stopped => .ok (.stopped, "not-running")
  | .ok .running => .ok (.running, if (waitHealthy d.checks).1 then "healthy" else "unhealthy")

structure LogsRun where
  working : Report
  diagnostics : Diagnostics
  verifying : Report
  stopped : Bool := false

def logsResult (run : LogsRun) (c : Clock) : Except JobError (WorkloadState × String) × Clock :=
  match progress run.working c with
  | (.error x, c) => (.error x, c)
  | (.ok (), c) =>
    match run.diagnostics.result with
    | .error x => (.error x, c.pass run.diagnostics.lasts)
    | .ok result =>
      match progress run.verifying (c.pass run.diagnostics.lasts) with
      | (.error x, c) => (.error x, c)
      | (.ok (), c) => (.ok result, c)

def logsMessage : WorkloadState × String → String
  | (.missing, _) => "Workload is missing"
  | (.running, health) => s!"Workload is running and {health}"
  | (.stopped, health) => s!"Workload is stopped and {health}"

def logs (run : LogsRun) (c : Clock) : Outcome × Clock :=
  let (result, c) := logsResult run c
  if run.stopped then (.interrupted, c)
  else
    match result with
    | .ok result => (succeeded (logsMessage result), c)
    | .error x =>
      if x.isControlPlane then (.thrown x, c)
      else (failedWith x "Workload diagnostics failed" "diagnostics_failed", c)

/-! ## The probe -/

def probePayload : Option ProbePayload → Except JobError Nat
  | none => .error (.error "Probe payload is invalid")
  | some payload =>
    match payload.durationSeconds with
    | some seconds =>
      if 5 ≤ seconds ∧ seconds ≤ 60 then .ok seconds.toNat
      else .error (.error "Probe duration is outside the supported range")
    | none => .error (.error "Probe duration is outside the supported range")

/-- What one turn of the loop meets. -/
structure ProbeTurn where
  renewal : Renewal
  report : Report
  stopped : Bool := false

structure ProbeRun where
  accepted : Report
  turns : Nat → ProbeTurn
  verifying : Report

structure Probe where
  endsAt : Nat
  nextRenewAt : Nat
  nextProgressAt : Nat
  clock : Clock

def Probe.wakeAt (p : Probe) : Nat := min p.nextRenewAt (min p.nextProgressAt p.endsAt)

def Probe.sleep (p : Probe) : Probe :=
  { p with clock := p.clock.pass (max 1 (p.wakeAt - p.clock.now)) }

def Probe.renewDue (p : Probe) (r : Renewal) : Probe :=
  if p.nextRenewAt ≤ p.clock.now then
    { p with
      clock := renew r p.clock
      nextRenewAt := (renew r p.clock).now + renewEveryMs }
  else p

def Probe.reportDue (p : Probe) (r : Report) : Except JobError Unit × Probe :=
  if p.nextProgressAt ≤ p.clock.now ∧ p.clock.now < p.endsAt then
    let (result, clock) := progress r p.clock
    (result, { p with clock := clock, nextProgressAt := clock.now + progressEveryMs })
  else (.ok (), p)

/-- A report that fails ends the job. -/
def thrownBy : Except JobError Unit → Option Outcome
  | .ok () => none
  | .error x => some (.thrown x)

/-- One turn of the loop, which can be the last one. -/
def probeTurn (turn : ProbeTurn) (p : Probe) : Option Outcome × Probe :=
  if turn.stopped then (some .interrupted, p.sleep)
  else
    let (result, p) := (p.sleep.renewDue turn.renewal).reportDue turn.report
    (thrownBy result, p)

@[simp] theorem Clock.now_pass (c : Clock) (ms : Nat) : (c.pass ms).now = c.now + ms := rfl

@[simp] theorem Clock.leaseExpiresAt_pass (c : Clock) (ms : Nat) :
    (c.pass ms).leaseExpiresAt = c.leaseExpiresAt := rfl

@[simp] theorem now_renew (r : Renewal) (c : Clock) : (renew r c).now = c.now + r.lasts :=
  Nat.add_assoc ..

@[simp] theorem endsAt_renewDue (p : Probe) (r : Renewal) : (p.renewDue r).endsAt = p.endsAt := by
  unfold Probe.renewDue
  split <;> rfl

theorem now_le_renewDue (p : Probe) (r : Renewal) : p.clock.now ≤ (p.renewDue r).clock.now := by
  unfold Probe.renewDue
  split
  · simp
  · exact Nat.le_refl _

@[simp] theorem endsAt_reportDue (p : Probe) (r : Report) : (p.reportDue r).2.endsAt = p.endsAt := by
  unfold Probe.reportDue
  split <;> rfl

theorem now_le_reportDue (p : Probe) (r : Report) : p.clock.now ≤ (p.reportDue r).2.clock.now := by
  unfold Probe.reportDue
  split
  · simp [progress]
  · exact Nat.le_refl _

theorem endsAt_probeTurn (turn : ProbeTurn) (p : Probe) : (probeTurn turn p).2.endsAt = p.endsAt := by
  unfold probeTurn
  split
  · rfl
  · exact (endsAt_reportDue _ _).trans (endsAt_renewDue _ _)

theorem now_sleep (p : Probe) : p.clock.now < p.sleep.clock.now := by
  simp only [Probe.sleep, Clock.now_pass]
  omega

theorem now_probeTurn (turn : ProbeTurn) (p : Probe) : p.clock.now < (probeTurn turn p).2.clock.now := by
  unfold probeTurn
  split
  · exact now_sleep p
  · exact Nat.lt_of_lt_of_le (now_sleep p)
      (Nat.le_trans (now_le_renewDue _ _) (now_le_reportDue _ _))

def probeLoop (turns : Nat → ProbeTurn) (k : Nat) (p : Probe) : Option Outcome × Probe :=
  if p.clock.now < p.endsAt then
    if (probeTurn (turns k) p).1.isSome then probeTurn (turns k) p
    else probeLoop turns (k + 1) (probeTurn (turns k) p).2
  else (none, p)
termination_by p.endsAt - p.clock.now
decreasing_by
  have hnow := now_probeTurn (turns k) p
  rw [endsAt_probeTurn]
  omega

def probe (run : ProbeRun) (seconds : Nat) (c : Clock) : Outcome × Clock :=
  match progress run.accepted c with
  | (.error x, c) => (.thrown x, c)
  | (.ok (), c) =>
    match probeLoop run.turns 0
      ⟨c.now + seconds * 1000, c.now + renewEveryMs, c.now + progressEveryMs, c⟩ with
    | (some outcome, p) => (outcome, p.clock)
    | (none, p) =>
      match progress run.verifying p.clock with
      | (.error x, c) => (.thrown x, c)
      | (.ok (), c) => (succeeded "Agent job protocol probe completed", c)

structure Execution where
  /-- The answer of the claim. -/
  delivered : Nat
  delivered_prompt : delivered < promptMs
  /-- The runner, or the client, has the methods that the kind needs. -/
  supported : Bool
  renewals : Nat → Renewal
  body : Body
  logs : LogsRun
  probe : ProbeRun

def Job.parsed (job : Job) (default : String) (next : Clock → Outcome × Clock) (c : Clock) :
    Outcome × Clock :=
  match job.invalid with
  | some x => (failed (x.text default) "invalid_payload", c)
  | none => next c

def Execution.supports (e : Execution) (message : String) (next : Clock → Outcome × Clock)
    (c : Clock) : Outcome × Clock :=
  if e.supported then next c else (failed message "unsupported_job", c)

def executeKind (job : Job) (e : Execution) (c : Clock) : Outcome × Clock :=
  let beside (kind : LoopKind) := runBeside kind e.renewals e.body
  let lifecycle (kind : String) :=
    job.parsed "Project lifecycle payload is invalid"
      (e.supports "Agent does not support project lifecycle operations"
        (beside (lifecycleAction kind)))
  match job.kind with
  | .unsupported => (failed "Agent does not support this job kind" "unsupported_job", c)
  | .agentUpdate => beside agentUpdate c
  | .gatewayPreflight =>
    job.parsed "Gateway preflight payload is invalid" (beside gatewayPreflight) c
  | .logs =>
    job.parsed "Workload diagnostic payload is invalid"
      (e.supports "Agent does not support bounded workload diagnostics" (logs e.logs)) c
  | .gatewayRoute =>
    job.parsed "Gateway route payload is invalid"
      (beside (gatewayRoute job e.body.cleanupComplete)) c
  | .start => lifecycle "start" c
  | .stop => lifecycle "stop" c
  | .remove => lifecycle "remove" c
  | .deploy =>
    job.parsed "Project deployment payload is invalid"
      (e.supports "Agent does not support project artifact delivery" (beside deployment)) c
  | .lifecycleTest => job.parsed "Lifecycle payload is invalid" (beside lifecycleTest) c
  | .probe =>
    match probePayload job.probePayload with
    | .error x => (failed (x.text "Probe payload is invalid") "invalid_payload", c)
    | .ok seconds => probe e.probe seconds c

def executeClaimedJob (job : Job) (e : Execution) : Outcome × Clock :=
  let c := Clock.claimed.pass e.delivered
  if job.protocolVersion = 1 then executeKind job e c
  else (failed "Agent does not support this protocol version" "unsupported_job", c)

/-! ## Leases that hold -/

namespace Clock

variable {c : Clock} {ms : Nat}

theorem leaseHolds_pass (c : Clock) (ms : Nat) :
    (c.pass ms).LeaseHolds ↔ c.LeaseHolds ∧ c.now + ms < c.leaseExpiresAt := by
  simp only [LeaseHolds, pass, List.forall_mem_append, List.forall_mem_singleton]
  refine and_congr_right fun _ => ⟨fun h => h _ (Nat.le_add_right _ _) (Nat.le_refl _), ?_⟩
  intro hends t _ ht
  exact Nat.lt_of_le_of_lt ht hends

theorem LeaseHolds.extend (h : c.LeaseHolds) : c.extend.LeaseHolds := h

theorem LeaseHolds.learn (h : c.LeaseHolds) : c.learn.LeaseHolds := h

theorem leaseHolds_claimed : claimed.LeaseHolds := fun _ hw => by cases hw

/-- The lease holds, and it will for as long as `ms`. -/
structure Ahead (c : Clock) (ms : Nat) : Prop where
  holds : c.LeaseHolds
  margin : c.now + ms ≤ c.leaseExpiresAt

theorem Ahead.pass {d : Nat} (h : c.Ahead ms) (hd : d < ms) : (c.pass d).Ahead (ms - d) where
  holds := by
    have hmargin := h.margin
    refine (leaseHolds_pass c d).mpr ⟨h.holds, ?_⟩
    omega
  margin := by
    have hmargin := h.margin
    simp only [now_pass, leaseExpiresAt_pass]
    omega

theorem Ahead.mono {ms' : Nat} (h : c.Ahead ms) (hle : ms' ≤ ms) : c.Ahead ms' where
  holds := h.holds
  margin := Nat.le_trans (Nat.add_le_add_left hle _) h.margin

theorem Ahead.extend (h : c.Ahead ms) : c.extend.Ahead leaseMs where
  holds := h.holds
  margin := Nat.le_refl _

theorem Ahead.learn (h : c.Ahead ms) : c.learn.Ahead ms := ⟨h.holds, h.margin⟩

end Clock

open Clock

theorem Clock.Ahead.renew {c : Clock} (h : c.Ahead promptMs) (r : Renewal) :
    (renew r c).Ahead (leaseMs - promptMs) := by
  have hprompt := r.prompt
  have hcarried : r.carriedOut < promptMs := by omega
  have hanswered : r.answered < leaseMs := by
    simp only [promptMs, leaseMs] at hprompt ⊢
    omega
  exact (((h.pass hcarried).extend.pass hanswered).mono (by omega)).learn

theorem ends_retryProtocolCall (leaseDeadline : Nat) (attempts : List Attempt) (retryMs now : Nat) :
    now ≤ (retryProtocolCall leaseDeadline attempts retryMs now).2 ∧
      (retryProtocolCall leaseDeadline attempts retryMs now).2 ≤ now + spent attempts retryMs := by
  induction attempts generalizing retryMs now with
  | nil => exact ⟨Nat.le_refl _, Nat.le_refl _⟩
  | cons attempt attempts ih =>
    have hrest := ih (min 2000 (retryMs * 2)) (now + attempt.lasts + retryMs)
    unfold retryProtocolCall spent
    dsimp only
    split
    · dsimp only
      omega
    · split
      · dsimp only
        omega
      · split
        · dsimp only
          omega
        · omega

theorem progress_clock (r : Report) (c : Clock) :
    ∃ ms, ms < promptMs ∧ (progress r c).2 = c.pass ms := by
  have hends := (ends_retryProtocolCall c.leaseDeadline r.attempts firstRetryMs c.now).2
  have hprompt := r.prompt
  refine ⟨(r.send c.leaseDeadline c.now).2 - c.now, ?_, rfl⟩
  unfold Report.send
  omega

theorem leaseHolds_renewLeaseLoop (renewals : Nat → Renewal) (k left : Nat) (c : Clock)
    (h : c.Ahead (renewEveryMs + promptMs)) : (renewLeaseLoop renewals k left c).LeaseHolds := by
  induction k, left, c using renewLeaseLoop.induct renewals with
  | case1 k left c hasleep =>
    rw [renewLeaseLoop, if_pos hasleep]
    refine (h.pass ?_).holds
    unfold promptMs
    omega
  | case2 k left c hawake hanswered =>
    rw [renewLeaseLoop, if_neg hawake, if_pos hanswered]
    exact ((h.pass (by decide)).renew (renewals k)).holds
  | case3 k left c hawake hgoes ih =>
    rw [renewLeaseLoop, if_neg hawake, if_neg hgoes]
    exact ih (((h.pass (by decide)).renew (renewals k)).mono (by decide))

theorem leaseHolds_runBeside {c : Clock} (h : c.Ahead (renewEveryMs + promptMs)) (kind : LoopKind)
    (renewals : Nat → Renewal) (body : Body) : (runBeside kind renewals body c).2.LeaseHolds := by
  have hloop := leaseHolds_renewLeaseLoop renewals 0 body.lasts c h
  unfold runBeside
  dsimp only
  split
  · exact hloop
  · split
    · exact hloop
    · split <;> exact hloop

/-! ## The probe -/

/-- The next renewal is not late by more than a report, and the lease holds for longer. -/
structure Paced (p : Probe) (late : Nat) : Prop where
  holds : p.clock.LeaseHolds
  due : p.clock.now < p.nextRenewAt + late
  margin : p.nextRenewAt + 2 * promptMs ≤ p.clock.leaseExpiresAt

theorem Paced.sleep {p : Probe} (h : Paced p promptMs) : Paced p.sleep (promptMs + 1) := by
  have hdue := h.due
  have hmargin := h.margin
  have hwake : p.wakeAt ≤ p.nextRenewAt := Nat.min_le_left _ _
  have hslept : p.clock.now + max 1 (p.wakeAt - p.clock.now) < p.nextRenewAt + (promptMs + 1) := by
    omega
  refine ⟨(leaseHolds_pass _ _).mpr ⟨h.holds, ?_⟩, hslept, hmargin⟩
  simp only [promptMs] at hslept hmargin
  omega

theorem Paced.renewDue {p : Probe} (h : Paced p (promptMs + 1)) (r : Renewal) :
    Paced (p.renewDue r) 0 := by
  have hdue := h.due
  have hmargin := h.margin
  unfold Probe.renewDue
  split
  · rename_i hlate
    have hahead : p.clock.Ahead promptMs := ⟨h.holds, by omega⟩
    have hrenewed := hahead.renew r
    refine ⟨hrenewed.holds, Nat.lt_add_of_pos_right (by decide), ?_⟩
    have hnew := hrenewed.margin
    simp only [renewEveryMs, promptMs, leaseMs] at hnew ⊢
    omega
  · exact ⟨h.holds, by omega, hmargin⟩

theorem Paced.reportDue {p : Probe} (h : Paced p 0) (r : Report) :
    Paced (p.reportDue r).2 promptMs := by
  have hdue := h.due
  have hmargin := h.margin
  unfold Probe.reportDue
  split
  · obtain ⟨ms, hms, hclock⟩ := progress_clock r p.clock
    dsimp only
    rw [hclock]
    refine ⟨(leaseHolds_pass _ _).mpr ⟨h.holds, by omega⟩, ?_, hmargin⟩
    simp only [now_pass]
    omega
  · exact ⟨h.holds, Nat.lt_of_lt_of_le hdue (Nat.add_le_add_left (Nat.zero_le _) _), hmargin⟩

theorem Paced.turn {p : Probe} (h : Paced p promptMs) (turn : ProbeTurn) :
    (probeTurn turn p).2.clock.LeaseHolds ∧
      ((probeTurn turn p).1 = none → Paced (probeTurn turn p).2 promptMs) := by
  unfold probeTurn
  split
  · exact ⟨h.sleep.holds, fun hnone => by cases hnone⟩
  · have hturned := (h.sleep.renewDue turn.renewal).reportDue turn.report
    exact ⟨hturned.holds, fun _ => hturned⟩

theorem Paced.loop (turns : Nat → ProbeTurn) (k : Nat) (p : Probe) (h : Paced p promptMs) :
    (probeLoop turns k p).2.clock.LeaseHolds ∧
      ((probeLoop turns k p).1 = none → Paced (probeLoop turns k p).2 promptMs) := by
  induction k, p using probeLoop.induct turns with
  | case1 k p hgoes hended =>
    rw [probeLoop, if_pos hgoes, if_pos hended]
    exact h.turn (turns k)
  | case2 k p hgoes hnext ih =>
    rw [probeLoop, if_pos hgoes, if_neg hnext]
    exact ih ((h.turn (turns k)).2 (by simpa using hnext))
  | case3 k p hover =>
    rw [probeLoop, if_neg hover]
    exact ⟨h.holds, fun _ => h⟩

theorem leaseHolds_probe (run : ProbeRun) (seconds : Nat) {c : Clock} (h : c.LeaseHolds)
    (hnow : c.now < promptMs) (hlease : c.leaseExpiresAt = leaseMs) :
    (probe run seconds c).2.LeaseHolds := by
  obtain ⟨ms, hms, hclock⟩ := progress_clock run.accepted c
  have haccepted : (c.pass ms).LeaseHolds := by
    refine (leaseHolds_pass c ms).mpr ⟨h, ?_⟩
    simp only [hlease, promptMs, leaseMs] at hms hnow ⊢
    omega
  have hpaced : Paced ⟨c.now + ms + seconds * 1000, c.now + ms + renewEveryMs,
      c.now + ms + progressEveryMs, c.pass ms⟩ promptMs := by
    refine ⟨haccepted, ?_, ?_⟩
    · simp only [now_pass, renewEveryMs]
      omega
    · simp only [leaseExpiresAt_pass, hlease, renewEveryMs, promptMs, leaseMs] at hms hnow ⊢
      omega
  have hloop := Paced.loop run.turns 0 _ hpaced
  unfold probe
  cases haccept : progress run.accepted c with
  | mk result accepted =>
    rw [haccept] at hclock
    obtain rfl : accepted = c.pass ms := hclock
    cases result with
    | error x => exact haccepted
    | ok =>
      dsimp only [now_pass]
      cases hran : probeLoop run.turns 0 ⟨c.now + ms + seconds * 1000, c.now + ms + renewEveryMs,
          c.now + ms + progressEveryMs, c.pass ms⟩ with
      | mk ended p =>
        rw [hran] at hloop
        cases ended with
        | some outcome => exact hloop.1
        | none =>
          have hlast : Paced p promptMs := hloop.2 rfl
          obtain ⟨ms', hms', hverified⟩ := progress_clock run.verifying p.clock
          have hdue := hlast.due
          have hmargin := hlast.margin
          have hend : (p.clock.pass ms').LeaseHolds :=
            (leaseHolds_pass _ _).mpr ⟨hlast.holds, by omega⟩
          dsimp only
          cases hverify : progress run.verifying p.clock with
          | mk result' verified =>
            rw [hverify] at hverified
            obtain rfl : verified = p.clock.pass ms' := hverified
            cases result' with
            | error x => exact hend
            | ok => exact hend

/-! ## Logs -/

/-- When the result of a logs job is there, if the job is delivered at `now`. -/
def LogsRun.ends (run : LogsRun) (now : Nat) : Nat :=
  let (working, now) := run.working.send leaseMs now
  match working with
  | .error _ => now
  | .ok () =>
    let now := now + run.diagnostics.lasts
    match run.diagnostics.result with
    | .error _ => now
    | .ok _ => (run.verifying.send leaseMs now).2

/-- The lease has not been renewed, and the last wait has lasted until now. -/
structure Unrenewed (c : Clock) (now : Nat) : Prop where
  now_eq : c.now = now
  deadline : c.leaseDeadline = leaseMs
  holds_iff : c.LeaseHolds ↔ c.now < leaseMs
  expiry : c.leaseExpiresAt = leaseMs

theorem Unrenewed.pass {c : Clock} {now : Nat} (h : Unrenewed c now) (ms : Nat) :
    Unrenewed (c.pass ms) (now + ms) where
  now_eq := by rw [now_pass, h.now_eq]
  deadline := h.deadline
  holds_iff := by
    rw [leaseHolds_pass, h.holds_iff, h.expiry, now_pass]
    omega
  expiry := h.expiry

theorem Unrenewed.progress {c : Clock} {now : Nat} (h : Unrenewed c now) (r : Report) :
    (progress r c).1 = (r.send leaseMs now).1 ∧
      Unrenewed (progress r c).2 (r.send leaseMs now).2 := by
  have hends : now ≤ (r.send leaseMs now).2 :=
    (ends_retryProtocolCall leaseMs r.attempts firstRetryMs now).1
  have hsame : r.send c.leaseDeadline c.now = r.send leaseMs now := by rw [h.deadline, h.now_eq]
  have hpass := h.pass ((r.send leaseMs now).2 - now)
  rw [Nat.add_sub_cancel' hends] at hpass
  unfold JobWorker.progress
  rw [hsame, h.now_eq]
  exact ⟨rfl, hpass⟩

theorem unrenewed_logs {c : Clock} {now : Nat} (h : Unrenewed c now) (run : LogsRun) :
    Unrenewed (logs run c).2 (run.ends now) := by
  have hclock : (logs run c).2 = (logsResult run c).2 := by
    unfold logs
    dsimp only
    split
    · rfl
    · split
      · rfl
      · split <;> rfl
  rw [hclock]
  obtain ⟨hresult, hworking⟩ := h.progress run.working
  unfold logsResult LogsRun.ends
  cases hsent : run.working.send leaseMs now with
  | mk sent now₁ =>
    cases hreport : progress run.working c with
    | mk result c₁ =>
      rw [hsent, hreport] at hresult hworking
      obtain rfl : result = sent := hresult
      cases result with
      | error x => exact hworking
      | ok =>
        have hran := hworking.pass run.diagnostics.lasts
        cases hfound : run.diagnostics.result with
        | error x => exact hran
        | ok found =>
          obtain ⟨-, hverified⟩ := hran.progress run.verifying
          dsimp only at hverified ⊢
          cases hverify : progress run.verifying (c₁.pass run.diagnostics.lasts) with
          | mk result' c₂ =>
            rw [hverify] at hverified
            cases result' with
            | error x => exact hverified
            | ok => exact hverified

/-! ## All jobs -/

def RunsLogs (job : Job) (e : Execution) : Prop :=
  job.kind = .logs ∧ job.protocolVersion = 1 ∧ job.invalid = none ∧ e.supported = true

theorem leaseHolds_parsed {job : Job} {default : String} {next : Clock → Outcome × Clock} {c : Clock}
    (h : c.LeaseHolds) (hnext : (next c).2.LeaseHolds) :
    (job.parsed default next c).2.LeaseHolds := by
  unfold Job.parsed
  split
  · exact h
  · exact hnext

theorem leaseHolds_supports {e : Execution} {message : String} {next : Clock → Outcome × Clock}
    {c : Clock} (h : c.LeaseHolds) (hnext : (next c).2.LeaseHolds) :
    (e.supports message next c).2.LeaseHolds := by
  unfold Execution.supports
  split
  · exact hnext
  · exact h

/-- The clock when the Agent has the claim. -/
def Execution.start (e : Execution) : Clock := claimed.pass e.delivered

theorem Execution.ahead (e : Execution) : e.start.Ahead (renewEveryMs + promptMs) := by
  have hprompt := e.delivered_prompt
  refine ⟨(leaseHolds_pass _ _).mpr ⟨leaseHolds_claimed, ?_⟩, ?_⟩
  all_goals
    simp only [start, now_pass, leaseExpiresAt_pass, claimed, renewEveryMs, promptMs, leaseMs]
      at hprompt ⊢
    omega

theorem Execution.unrenewed (e : Execution) : Unrenewed e.start e.delivered where
  now_eq := Nat.zero_add _
  deadline := rfl
  holds_iff := by
    rw [start, leaseHolds_pass]
    exact and_iff_right leaseHolds_claimed
  expiry := rfl

theorem leaseHolds_executeKind (job : Job) (e : Execution)
    (h : ¬ (job.kind = .logs ∧ job.invalid = none ∧ e.supported = true)) :
    (executeKind job e e.start).2.LeaseHolds := by
  have hstart := e.ahead.holds
  have hbeside : ∀ kind : LoopKind,
      (runBeside kind e.renewals e.body e.start).2.LeaseHolds := fun kind =>
    leaseHolds_runBeside e.ahead kind e.renewals e.body
  unfold executeKind
  cases hkind : job.kind with
  | unsupported => exact hstart
  | agentUpdate => exact hbeside _
  | gatewayPreflight => exact leaseHolds_parsed hstart (hbeside _)
  | gatewayRoute => exact leaseHolds_parsed hstart (hbeside _)
  | start => exact leaseHolds_parsed hstart (leaseHolds_supports hstart (hbeside _))
  | stop => exact leaseHolds_parsed hstart (leaseHolds_supports hstart (hbeside _))
  | remove => exact leaseHolds_parsed hstart (leaseHolds_supports hstart (hbeside _))
  | deploy => exact leaseHolds_parsed hstart (leaseHolds_supports hstart (hbeside _))
  | lifecycleTest => exact leaseHolds_parsed hstart (hbeside _)
  | logs =>
    dsimp only [Job.parsed, Execution.supports]
    cases hinvalid : job.invalid with
    | some x => exact hstart
    | none =>
      have hunsupported : e.supported ≠ true := fun hs => h ⟨hkind, hinvalid, hs⟩
      dsimp only
      rw [if_neg hunsupported]
      exact hstart
  | probe =>
    dsimp only
    split
    · exact hstart
    · exact leaseHolds_probe e.probe _ hstart (e.unrenewed.now_eq ▸ e.delivered_prompt) rfl

/-- At every instant before a job is completed its lease holds, unless the job is a logs job whose
result is there too late. -/
theorem lease_outlives_job_iff (job : Job) (e : Execution) :
    (executeClaimedJob job e).2.LeaseHolds ↔
      (RunsLogs job e → e.logs.ends e.delivered < leaseMs) := by
  unfold executeClaimedJob
  dsimp only
  by_cases hversion : job.protocolVersion = 1
  · rw [if_pos hversion]
    by_cases hlogs : job.kind = .logs ∧ job.invalid = none ∧ e.supported = true
    · obtain ⟨hkind, hinvalid, hsupported⟩ := hlogs
      have hruns : RunsLogs job e := ⟨hkind, hversion, hinvalid, hsupported⟩
      have hlast := unrenewed_logs e.unrenewed e.logs
      have heq : (executeKind job e e.start).2 = (logs e.logs e.start).2 := by
        simp only [executeKind, hkind, Job.parsed, hinvalid, Execution.supports, hsupported,
          if_true]
      change (executeKind job e e.start).2.LeaseHolds ↔ _
      rw [heq, hlast.holds_iff, hlast.now_eq]
      exact ⟨fun h _ => h, fun h => h hruns⟩
    · exact iff_of_true (leaseHolds_executeKind job e hlogs)
        fun hruns => absurd ⟨hruns.1, hruns.2.2⟩ hlogs
  · rw [if_neg hversion]
    exact iff_of_true e.ahead.holds fun hruns => absurd hruns.2.1 hversion

def silentCheck : HealthCheck where
  lasts := 3000
  ok := false
  bounded := Nat.le_refl _

/-- Twenty requests of the health path, and none is answered. -/
def silentWorkload : Diagnostics where
  requests := 100
  found := .ok .running
  checks := List.replicate 20 silentCheck
  bounded := by decide

def promptReport : Report where
  attempts := [⟨100, .ok ()⟩]
  prompt := by decide

def promptRenewal : Renewal where
  carriedOut := 50
  answered := 50
  prompt := by decide

def silentExecution : Execution where
  delivered := 100
  delivered_prompt := by decide
  supported := true
  renewals := fun _ => promptRenewal
  body := ⟨0, .ok (), false, true⟩
  logs := ⟨promptReport, silentWorkload, promptReport, false⟩
  probe := ⟨promptReport, fun _ => ⟨promptRenewal, promptReport, false⟩, promptReport⟩

def logsJob : Job where
  kind := .logs
  protocolVersion := 1

theorem silent_lease_ends : (executeClaimedJob logsJob silentExecution).2.waits.any
    (fun w => w.leaseExpiresAt ≤ w.begins + w.lasts) = true := by decide

/-- The lease is over before the diagnostics of a silent workload are. -/
theorem logs_outlives_lease :
    ¬ ∀ (job : Job) (e : Execution), (executeClaimedJob job e).2.LeaseHolds := by
  intro h
  obtain ⟨w, hw, hover⟩ := List.any_eq_true.mp silent_lease_ends
  have hends := h logsJob silentExecution w hw _ (Nat.le_add_right _ _) (Nat.le_refl _)
  exact Nat.not_lt.mpr (of_decide_eq_true hover) hends

end InitPad.JobWorker
