import InitPad.Deployment.Keys

/-!
# InitPad.Deployment.JobSteps

What one statement can do to the rows of `AgentJob`: rewrite them one by one (`JobStep`) and add at
most one row (`AddsJob`). A job that is terminal or cancelled never changes again, and what a job
was created with never changes at all.
-/

namespace InitPad

open Store Interleave

/-- What a job keeps from its creation to its end. -/
structure SameJob (j j' : AgentJob) : Prop where
  id : j'.id = j.id
  deploymentOperationId : j'.deploymentOperationId = j.deploymentOperationId
  operationStep : j'.operationStep = j.operationStep
  gatewayRouteId : j'.gatewayRouteId = j.gatewayRouteId
  dedupeKey : j'.dedupeKey = j.dedupeKey
  kind : j'.kind = j.kind
  payload : j'.payload = j.payload

theorem SameJob.refl (j : AgentJob) : SameJob j j := ⟨rfl, rfl, rfl, rfl, rfl, rfl, rfl⟩

def Stmt.cancelsJob {β : Type} (w : World) : Stmt β → AgentJob → Bool
  | .cancelAgentOperation o _ _, j => j.deploymentOperationId == some o && j.pending
  | .cancelEnvironmentJobs environmentId _, j =>
    j.pending && ((j.deploymentOperationId.bind w.op?).any fun o =>
      o.environmentId == environmentId)
  | .cancelBlockedJob jobId, j => j.id == jobId && j.status == .blocked
  | .queueRouteJob route _ _ _ _, j => j.gatewayRouteId == some route.id && j.status == .queued
  | .failManagedOperation o _ _ _ _, j =>
    j.deploymentOperationId == some o && (j.status == .blocked || j.status == .queued)
  | _, _ => false

def Stmt.releasesJob {β : Type} : Stmt β → AgentJob → Bool
  | .unblockWorkload o _, j =>
    j.deploymentOperationId == some o && j.operationStep == some 2 && j.status == .blocked
  | _, _ => false

/-- The job that `queueDeployment` or `queueLifecycle` creates, unless its key exists. -/
def Stmt.upserts {β : Type} : Stmt β → Option AgentJob
  | .upsertJob job => some job
  | _ => none

/-- The arguments of the transaction of `queueReconcile`. -/
structure RouteQueueing where
  route : GatewayRoute
  targetId : Id
  allocation : TargetAllocation
  name : EnvName
  request : GatewayRouteReconcileRequest

def Stmt.queuesRoute {β : Type} : Stmt β → Option RouteQueueing
  | .queueRouteJob route targetId allocation name request =>
    some ⟨route, targetId, allocation, name, request⟩
  | _ => none

/-- The route job that the transaction creates when the route is at `current`. -/
def RouteQueueing.job (q : RouteQueueing) (current : GatewayRoute) (i : Input) (w : World) :
    AgentJob :=
  routeJob q.route (current.generation + 1) q.targetId q.allocation q.name q.request w.db.nextId
    i.correlationId w.db.clock

/-- The row that `upsert` creates. -/
def AgentJob.created (job : AgentJob) (w : World) : AgentJob :=
  { job with id := w.db.nextId, createdAt := w.db.clock }

/-- The change that `e` may make to one job. -/
inductive JobStep {β : Type} (e : Stmt β) (w : World) (j j' : AgentJob) : Prop where
  | kept : j' = j → JobStep e w j j'
  | cancelled : e.cancelsJob w j = true → SameJob j j' → j'.status = .cancelled → JobStep e w j j'
  | released : e.releasesJob j = true → SameJob j j' → j'.status = .queued → JobStep e w j j'
  | leased : j.status = .queued ∨ j.status = .leased → SameJob j j' → j'.status = .leased →
      JobStep e w j j'
  | ended : j.status = .leased → SameJob j j' → j'.status = .succeeded ∨ j'.status = .failed →
      JobStep e w j j'

/-- The job that `e` may add, with the checks of the insertion. -/
inductive AddsJob {β : Type} (e : Stmt β) (i : Input) (w : World) : List AgentJob → Prop where
  | nothing : AddsJob e i w []
  | upsert {job : AgentJob} : e.upserts = some job → w.db.jobWithKey job.dedupeKey = none →
      w.db.agentJobs.count (job.created w).sameStep = 0 → AddsJob e i w [job.created w]
  | route {q : RouteQueueing} {current : GatewayRoute} : e.queuesRoute = some q →
      w.db.jobWithKey (.gatewayRoute q.route.id q.request.requestId) = none →
      w.route? q.route.id = some current →
      w.db.agentJobs.count (q.job current i w).sameStep = 0 → AddsJob e i w [q.job current i w]

section Rewriting

variable {β : Type} {e : Stmt β} {i : Input} {w w' : World}

/-- The table after `e`: rewritten rows, and at most one new row. -/
def JobsAfter (e : Stmt β) (i : Input) (w : World) (w' : World) : Prop :=
  ∃ (u : AgentJob → AgentJob) (added : List AgentJob),
    w'.db.agentJobs.rows = w.db.agentJobs.rows.map u ++ added ∧
      (∀ j, JobStep e w j (u j)) ∧ AddsJob e i w added

theorem jobsAfter_kept (h : w'.db.agentJobs = w.db.agentJobs) : JobsAfter e i w w' :=
  ⟨id, [], by simp [h], fun _ => .kept rfl, .nothing⟩

theorem jobsAfter_updated {p : AgentJob → Bool} {d : AgentJob → AgentJob}
    (hw : w'.db.agentJobs = w.db.agentJobs.updateMany p d)
    (h : ∀ j, p j = true → JobStep e w j (d j)) : JobsAfter e i w w' := by
  refine ⟨fun j => if p j then d j else j, [], by simp [hw, Table.updateMany], fun j => ?_, .nothing⟩
  by_cases hp : p j = true
  · simp only [hp, if_true]; exact h j hp
  · simp only [hp]; exact .kept rfl

theorem status_of_activeLease {agent : AuthenticatedAgent} {jobId : Id} {leaseToken : String}
    {now : Time} {j : AgentJob} (h : w.activeLease agent jobId leaseToken now j = true) :
    j.status = .leased := by
  simp only [World.activeLease, Bool.and_eq_true, beq_iff_eq] at h
  exact h.1.2

theorem jobs_run (e : Stmt β) (i : Input) (w : World) : JobsAfter e i w (e.run i w).2 := by
  cases hw : e.writesJobs with
  | false => exact jobsAfter_kept (agentJobs_run_of_reads e i w hw)
  | true =>
    cases e with
    | cancelAgentOperation o environmentId now =>
      simp only [Stmt.run, World.snd_requireRows]
      split
      · exact jobsAfter_updated rfl fun j hj =>
          .cancelled hj ⟨rfl, rfl, rfl, rfl, rfl, rfl, rfl⟩ rfl
      · exact jobsAfter_kept rfl
    | cancelEnvironmentJobs | cancelBlockedJob | failManagedOperation =>
      exact jobsAfter_updated rfl fun j hj =>
        .cancelled hj ⟨rfl, rfl, rfl, rfl, rfl, rfl, rfl⟩ rfl
    | unblockWorkload =>
      exact jobsAfter_updated rfl fun j hj =>
        .released hj ⟨rfl, rfl, rfl, rfl, rfl, rfl, rfl⟩ rfl
    | claimJob agent jobId status leaseTokenHash now =>
      refine jobsAfter_updated rfl fun j hj => .leased ?_ ⟨rfl, rfl, rfl, rfl, rfl, rfl, rfl⟩ rfl
      simp only [World.claimableJob, Bool.and_eq_true, beq_iff_eq] at hj
      split at hj
      · exact .inl (beq_iff_eq.mp hj.2)
      · rw [Bool.and_eq_true, Bool.and_eq_true, beq_iff_eq] at hj
        exact .inr hj.2.1.1
    | renewJob agent jobId leaseToken now =>
      refine jobsAfter_updated rfl fun j hj => ?_
      have hs := status_of_activeLease hj
      exact .leased (.inr hs) ⟨rfl, rfl, rfl, rfl, rfl, rfl, rfl⟩ hs
    | progressJob agent jobId leaseToken now sequence percent stage message =>
      refine jobsAfter_updated rfl fun j hj => ?_
      have hs := status_of_activeLease (Bool.and_eq_true _ _ ▸ hj).1
      exact .leased (.inr hs) ⟨rfl, rfl, rfl, rfl, rfl, rfl, rfl⟩ hs
    | completeJob agent jobId leaseToken now diagnosticJob dto =>
      have h : JobsAfter (Stmt.completeJob agent jobId leaseToken now diagnosticJob dto) i w
          (w.updateJobs (w.activeLease agent jobId leaseToken now) (·.complete dto now)) := by
        refine jobsAfter_updated rfl fun j hj =>
          .ended (status_of_activeLease hj) ⟨rfl, rfl, rfl, rfl, rfl, rfl, rfl⟩ ?_
        simp only [AgentJob.complete]
        cases dto.succeeded
        · exact .inr rfl
        · exact .inl rfl
      simp only [Stmt.run]
      split <;> split <;> exact h
    | failJob agent jobId leaseToken now message =>
      exact jobsAfter_updated rfl fun j hj =>
        .ended (status_of_activeLease hj) ⟨rfl, rfl, rfl, rfl, rfl, rfl, rfl⟩ (.inr rfl)
    | upsertJob job =>
      simp only [Stmt.run]
      split
      · exact jobsAfter_kept rfl
      · rename_i hkey
        split
        · exact jobsAfter_kept rfl
        · rename_i hstep
          exact ⟨id, _, by simp [World.insertJob, Table.insert, AgentJob.created], fun _ => .kept rfl,
            .upsert rfl hkey (not_not.mp hstep)⟩
    | queueRouteJob route targetId allocation name request =>
      simp only [Stmt.run, World.queueRouteJob]
      split
      · exact jobsAfter_kept rfl
      · rename_i hkey
        split
        · exact jobsAfter_kept rfl
        · rename_i current hcurrent
          split
          · exact jobsAfter_kept rfl
          · rename_i hstep
            let q : RouteQueueing := ⟨route, targetId, allocation, name, request⟩
            refine ⟨fun j => if j.gatewayRouteId == some route.id && j.status == .queued then
              { j.cancel "Superseded by a newer gateway route generation" i.now with
                progressStage := .cancelled } else j, [q.job current i w], rfl, fun j => ?_,
              .route (q := q) rfl hkey hcurrent (not_not.mp hstep)⟩
            by_cases hj : (j.gatewayRouteId == some route.id && j.status == .queued) = true
            · simp only [hj, if_true]
              exact .cancelled hj ⟨rfl, rfl, rfl, rfl, rfl, rfl, rfl⟩ rfl
            · simp only [hj]
              exact .kept rfl
    | _ => cases hw

theorem jobs_exec (e : Stmt β) (i : Input) (w : World) :
    JobsAfter e i (w.tick i.dbNow) (exec e i w).2 := by
  rcases exec_cases e i w with ⟨_, _, he⟩ | ⟨_, he⟩
  · rw [he]; exact jobsAfter_kept rfl
  · rw [he]; exact jobs_run e i _

theorem JobStep.same {j j' : AgentJob} (h : JobStep e w j j') : SameJob j j' := by
  cases h with
  | kept h => rw [h]; exact .refl j
  | cancelled _ h _ => exact h
  | released _ h _ => exact h
  | leased _ h _ => exact h
  | ended _ h _ => exact h

theorem pending_of_cancelsJob {j : AgentJob} (h : e.cancelsJob w j = true) :
    j.pending = true := by
  cases e with
  | cancelAgentOperation =>
    simp only [Stmt.cancelsJob, Bool.and_eq_true] at h
    exact h.2
  | cancelEnvironmentJobs =>
    simp only [Stmt.cancelsJob, Bool.and_eq_true] at h
    exact h.1
  | cancelBlockedJob | queueRouteJob =>
    simp only [Stmt.cancelsJob, Bool.and_eq_true, beq_iff_eq] at h
    simp [AgentJob.pending, h.2]
  | failManagedOperation =>
    simp only [Stmt.cancelsJob, Bool.and_eq_true, Bool.or_eq_true, beq_iff_eq] at h
    rcases h.2 with h | h <;> simp [AgentJob.pending, h]
  | _ => cases h

theorem JobStep.of_settled {j j' : AgentJob} (h : JobStep e w j j') (hj : j.pending = false) :
    j' = j := by
  cases h with
  | kept h => exact h
  | cancelled hc _ _ => rw [pending_of_cancelsJob hc] at hj; cases hj
  | released hr _ _ =>
    cases e with
    | unblockWorkload =>
      simp only [Stmt.releasesJob, Bool.and_eq_true, beq_iff_eq] at hr
      simp [AgentJob.pending, hr.2] at hj
    | _ => cases hr
  | leased hs _ _ => rcases hs with hs | hs <;> simp [AgentJob.pending, hs] at hj
  | ended hs _ _ => simp [AgentJob.pending, hs] at hj

theorem job?_after {id : Id} {j : AgentJob} (h : JobsAfter e i w w') (hj : w.job? id = some j) :
    ∃ j', w'.job? id = some j' ∧ JobStep e w j j' := by
  obtain ⟨u, added, hrows, hu, _⟩ := h
  refine ⟨u j, ?_, hu j⟩
  simp only [World.job?, Table.find?] at hj ⊢
  have hkey : ((fun r => decide (Keyed.key r = id)) ∘ u) = fun r : AgentJob => decide (Keyed.key r = id) := by
    funext r
    exact congrArg (fun k : Id => decide (k = id)) (hu r).same.id
  rw [hrows, List.find?_append, List.find?_map, hkey, hj]
  rfl

def World.StepsUnique (w : World) : Prop :=
  ∀ j ∈ w.db.agentJobs.rows, ∀ j' ∈ w.db.agentJobs.rows, j.sameStep j' = true → j = j'

theorem sameStep_symm {j j' : AgentJob} (h : j.sameStep j' = true) : j'.sameStep j = true := by
  simp only [AgentJob.sameStep, Bool.and_eq_true, beq_iff_eq] at h ⊢
  obtain ⟨⟨⟨h₁, h₂⟩, h₃⟩, h₄⟩ := h
  exact ⟨⟨⟨h₃ ▸ h₁, h₄ ▸ h₂⟩, h₃.symm⟩, h₄.symm⟩

theorem SameJob.sameStep {a a' b b' : AgentJob} (ha : SameJob a a') (hb : SameJob b b') :
    a'.sameStep b' = a.sameStep b := by
  simp only [AgentJob.sameStep, ha.deploymentOperationId, ha.operationStep,
    hb.deploymentOperationId, hb.operationStep]

theorem AddsJob.fresh {added : List AgentJob} (h : AddsJob e i w added) :
    ∀ j ∈ w.db.agentJobs.rows, ∀ j' ∈ added, j'.sameStep j = false := by
  intro j hj j' hj'
  cases h with
  | nothing => cases hj'
  | upsert _ _ hnone =>
    rw [List.mem_singleton.mp hj']
    exact Bool.eq_false_iff.mpr ((Table.count_eq_zero_iff _ _).mp hnone j hj)
  | route _ _ _ hnone =>
    rw [List.mem_singleton.mp hj']
    exact Bool.eq_false_iff.mpr ((Table.count_eq_zero_iff _ _).mp hnone j hj)

theorem stepsUnique_after (h : JobsAfter e i w w') (hw : w.StepsUnique) : w'.StepsUnique := by
  obtain ⟨u, added, hrows, hu, hadded⟩ := h
  have hmem : ∀ j ∈ w'.db.agentJobs.rows, (∃ a ∈ w.db.agentJobs.rows, u a = j) ∨ j ∈ added := by
    intro j hj
    rw [hrows] at hj
    exact (List.mem_append.mp hj).imp_left List.mem_map.mp
  have hnew : ∀ a ∈ w.db.agentJobs.rows, ∀ j ∈ added, j.sameStep (u a) = false := by
    intro a ha j hj
    rw [(SameJob.refl j).sameStep (hu a).same]
    exact hadded.fresh a ha j hj
  intro j hj j' hj' hsame
  rcases hmem j hj with ⟨a, ha, rfl⟩ | hj <;> rcases hmem j' hj' with ⟨b, hb, rfl⟩ | hj'
  · rw [(hu a).same.sameStep (hu b).same] at hsame
    rw [hw a ha b hb hsame]
  · have hsame' := sameStep_symm hsame
    rw [hnew a ha j' hj'] at hsame'
    cases hsame'
  · rw [hnew b hb j hj] at hsame
    cases hsame
  · cases hadded with
    | nothing => cases hj
    | upsert | route => rw [List.mem_singleton.mp hj, List.mem_singleton.mp hj']

end Rewriting

end InitPad
