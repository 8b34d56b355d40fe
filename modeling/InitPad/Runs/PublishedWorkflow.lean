import InitPad.Runs.AgentWorkflow

/-!
# InitPad.Runs.PublishedWorkflow

The order of the two steps of a managed workflow, and when an operation is published as running.
A teardown releases its workload only after its route is down, and a deployment asks for its route
only after its workload runs. The publication compares the route with the generation of its job in
a row that it has read before; it is true exactly when no newer generation has been observed
in between.
-/

namespace InitPad

open Store Interleave Prog

namespace World

/-- The route job of the first step of operation `id` has succeeded. -/
def routeDown (w : World) (id : Id) : Prop :=
  ∃ j ∈ w.db.agentJobs.rows, j.deploymentOperationId = some id ∧ j.kind = .gatewayRoute ∧
    j.operationStep = some 1 ∧ j.status = .succeeded

/-- The workload job of the first step has reported the revision of `o` as running. -/
def workloadRuns (w : World) (o : DeploymentOperation) : Prop :=
  ∃ j ∈ w.db.agentJobs.rows, j.deploymentOperationId = some o.id ∧
    (j.kind = .deploy ∨ j.kind = .start) ∧ j.operationStep = some 1 ∧ j.status = .succeeded ∧
    ∃ result, jobResult j.result = some result ∧ result.state = .running ∧
      result.revision = o.version

structure InOrder (w : World) : Prop where
  released : ∀ j ∈ w.db.agentJobs.rows, j.kind ≠ .gatewayRoute → j.operationStep = some 2 →
    j.status ≠ .blocked → j.status ≠ .cancelled →
      ∀ id, j.deploymentOperationId = some id → w.routeDown id
  routed : ∀ j ∈ w.db.agentJobs.rows, j.kind = .gatewayRoute →
    ∀ id, j.deploymentOperationId = some id →
      ∃ o, w.op? id = some o ∧ (o.kind.teardown = true ∨ w.workloadRuns o)

end World

/-! ## Order -/

section Order

variable {w w' : World} {v : TerminalView}

theorem mem_of_persists (hk : w.WellKeyed) (h : Persists w w') {j : AgentJob}
    (hj : j ∈ w.db.agentJobs.rows) (ht : j.status.terminal = true) :
    j ∈ w'.db.agentJobs.rows :=
  Table.mem_of_find? (h.job j.id j (hk.agentJobs.find?_of_mem hj) ht)

theorem Persists.routeDown (hk : w.WellKeyed) (h : Persists w w') {id : Id} (hd : w.routeDown id) :
    w'.routeDown id := by
  obtain ⟨j, hj, hop, hkind, hstep, hs⟩ := hd
  exact ⟨j, mem_of_persists hk h hj (by rw [hs]; rfl), hop, hkind, hstep, hs⟩

theorem Persists.workloadRuns (hk : w.WellKeyed) (h : Persists w w') {o o' : DeploymentOperation}
    (hid : o'.id = o.id) (hversion : o'.version = o.version) (hr : w.workloadRuns o) :
    w'.workloadRuns o' := by
  obtain ⟨j, hj, hop, hkind, hstep, hs, result, hresult, hstate, hrevision⟩ := hr
  exact ⟨j, mem_of_persists hk h hj (by rw [hs]; rfl), by rw [hid]; exact hop, hkind, hstep, hs,
    result, hresult, hstate, by rw [hversion]; exact hrevision⟩

theorem TerminalView.Known.succeeded (h : v.Known w) (hs : v.job.status ≠ .failed) :
    v.job.status = .succeeded := by
  have ht := h.terminal
  cases hstatus : v.job.status with
  | succeeded => rfl
  | failed => exact absurd hstatus hs
  | blocked | queued | leased | cancelled => rw [hstatus] at ht; cases ht

theorem routeDown_of_releases (h : v.Known w) (hr : v.releasesWorkload) :
    w.routeDown v.operation.id :=
  ⟨v.job, Table.mem_of_find? h.job, h.bound, hr.kind, hr.step, h.succeeded hr.succeeded⟩

theorem workloadRuns_of_activates {request : GatewayRouteReconcileRequest}
    {o : DeploymentOperation} (h : v.Known w) (ho : w.op? v.operation.id = some o)
    (hsame : SameRequest v.operation o) (ha : v.activates request) : w.workloadRuns o := by
  have hid : o.id = v.operation.id := Table.find?_key ho
  have hrequest := ha.request
  unfold activationRequest at hrequest
  split at hrequest
  · rename_i result _ _ _ hresult _ _ _
    split at hrequest
    · rename_i hchecks
      exact ⟨v.job, Table.mem_of_find? h.job, by rw [hid]; exact h.bound, hchecks.1, ha.step,
        h.succeeded ha.succeeded, result, hresult, hchecks.2.1,
        by rw [hsame.version]; exact hchecks.2.2.2.1⟩
    · cases hrequest
  · cases hrequest

variable {β : Type} {e : Stmt β} {i : Input} {foreign : GatewayRouteReconcileRequest → Prop}
  {scope : World → Prop}

theorem routed_of_queues (hforeign : ∀ q, foreign q → q.deploymentOperationId = none)
    (hg : e.Grounded foreign scope w) {q : RouteQueueing} (hq : e.queuesRoute = some q) {id : Id}
    (hid : q.request.deploymentOperationId = some id) :
    ∃ o, w.op? id = some o ∧ (o.kind.teardown = true ∨ w.workloadRuns o) := by
  rcases hg.queues q hq with ⟨v, hv, ha⟩ | htakes | hother
  · obtain ⟨o, ho, hsame⟩ := hv.operation
    obtain rfl := Option.some.inj
      (hid.symm.trans (deploymentOperationId_of_activationRequest ha.request))
    exact ⟨o, ho, .inr (workloadRuns_of_activates hv ho hsame ha)⟩
  · obtain ⟨id', o, hid', ho, hteardown⟩ := htakes.operation
    obtain rfl := Option.some.inj (hid.symm.trans hid')
    exact ⟨o, ho, .inl hteardown⟩
  · rw [hforeign _ hother] at hid
    cases hid

/-- A step-2 workload job that stops being blocked is released by the projection of its
operation's route job. -/
theorem routeDown_of_jobStep (hg : e.Grounded foreign scope w) (hw : w.InOrder) {w₀ : World}
    {j j' : AgentJob} (hj : j ∈ w.db.agentJobs.rows) (h : JobStep e w₀ j j')
    (hkind : j.kind ≠ .gatewayRoute) (hstep : j.operationStep = some 2)
    (hblocked : j'.status ≠ .blocked) (hcancelled : j'.status ≠ .cancelled) {id : Id}
    (hid : j.deploymentOperationId = some id) : w.routeDown id := by
  cases h with
  | kept h => rw [h] at hblocked hcancelled; exact hw.released j hj hkind hstep hblocked hcancelled id hid
  | cancelled _ _ hs => exact absurd hs hcancelled
  | released hr _ _ =>
    cases e with
    | unblockWorkload o message =>
      obtain ⟨v, hv, _, rfl, hreleases⟩ := hg.projection rfl
      simp only [Stmt.releasesJob, hid, Bool.and_eq_true, beq_iff_eq, Option.some.injEq] at hr
      rw [hr.1.1]
      exact routeDown_of_releases hv hreleases
    | _ => cases hr
  | leased hs _ _ =>
    refine hw.released j hj hkind hstep ?_ ?_ id hid
    · intro hb
      rcases hs with hs | hs <;> cases hs.symm.trans hb
    · intro hc
      rcases hs with hs | hs <;> cases hs.symm.trans hc
  | ended hs _ _ =>
    refine hw.released j hj hkind hstep ?_ ?_ id hid
    · intro hb
      cases hs.symm.trans hb
    · intro hc
      cases hs.symm.trans hc

theorem inOrder_exec (hforeign : ∀ q, foreign q → q.deploymentOperationId = none)
    (hk : w.WellKeyed) (hg : e.Grounded foreign scope w) (hw : w.InOrder) :
    (exec e i w).2.InOrder := by
  have hp := persists_exec e i w
  have hrouted : ∀ {id : Id}, (∃ o, w.op? id = some o ∧
      (o.kind.teardown = true ∨ w.workloadRuns o)) → ∃ o, (exec e i w).2.op? id = some o ∧
        (o.kind.teardown = true ∨ (exec e i w).2.workloadRuns o) := by
    rintro id ⟨o, ho, h⟩
    obtain ⟨o', ho', hsame⟩ := hp.operation id o ho
    have hid : o'.id = o.id := (Table.find?_key ho').trans (Table.find?_key ho).symm
    exact ⟨o', ho', h.imp (fun h => by rw [hsame.kind]; exact h)
      (hp.workloadRuns hk hid hsame.version)⟩
  obtain ⟨u, added, hrows, hu, hadded⟩ := jobs_exec e i w
  have hmem : ∀ j' ∈ (exec e i w).2.db.agentJobs.rows,
      (∃ j ∈ w.db.agentJobs.rows, u j = j') ∨ j' ∈ added := by
    intro j' hj'
    rw [hrows] at hj'
    exact (List.mem_append.mp hj').imp_left List.mem_map.mp
  constructor
  · intro j' hj' hkind hstep hblocked hcancelled id hid
    rcases hmem j' hj' with ⟨j, hj, rfl⟩ | hnew
    · have hsame := (hu j).same
      rw [hsame.kind] at hkind
      rw [hsame.operationStep] at hstep
      rw [hsame.deploymentOperationId] at hid
      exact hp.routeDown hk
        (routeDown_of_jobStep hg hw hj (hu j) hkind hstep hblocked hcancelled hid)
    · cases hadded with
      | nothing => cases hnew
      | @upsert job hupsert _ _ =>
        obtain rfl := List.mem_singleton.mp hnew
        rcases (hg.workload job hupsert).step with h | ⟨_, h⟩
        · change job.operationStep = some 2 at hstep
          rw [h] at hstep
          cases hstep
        · exact absurd h hblocked
      | route =>
        obtain rfl := List.mem_singleton.mp hnew
        exact absurd rfl hkind
  · intro j' hj' hkind id hid
    rcases hmem j' hj' with ⟨j, hj, rfl⟩ | hnew
    · have hsame := (hu j).same
      rw [hsame.kind] at hkind
      rw [hsame.deploymentOperationId] at hid
      exact hrouted (hw.routed j hj hkind id hid)
    · cases hadded with
      | nothing => cases hnew
      | @upsert job hupsert _ _ =>
        obtain rfl := List.mem_singleton.mp hnew
        exact absurd hkind (hg.workload job hupsert).kind
      | route hq _ _ _ =>
        obtain rfl := List.mem_singleton.mp hnew
        exact hrouted (routed_of_queues hforeign hg hq hid)

end Order

/-! ## Publication -/

def Stmt.publishesRunning {β : Type} : Stmt β → Option (Id × Id)
  | .finishProjection operationId environmentId .succeeded _ data _ =>
    if data.status = some .running then some (operationId, environmentId) else none
  | _ => none

namespace World

def onGateway (w : World) (environmentId : Id) : Prop :=
  ((w.env? environmentId).bind w.db.environmentTarget).any
    (fun t => t.routingMode == .managedGateway) = true

instance (w : World) (environmentId : Id) : Decidable (w.onGateway environmentId) :=
  inferInstanceAs (Decidable (_ = true))

/-- The route job of the second step of operation `id`. -/
def secondStep (w : World) (id : Id) : Option AgentJob :=
  w.db.agentJobs.findFirst? fun j => j.deploymentOperationId == some id && j.operationStep == some 2

end World

/-- The route serves the version of `o`, at the generation of the route job `j`. -/
structure GatewayRoute.Serves (r : GatewayRoute) (o : DeploymentOperation) (j : AgentJob) : Prop where
  state : r.observedState = .active
  revision : r.observedRevision = o.version
  generation : j.payload.generation = some r.observedGeneration

/-- When the environment is published as running, its route serves the operation's version. -/
def PublishesTruly (environmentId : Id) (x : Step) : Prop :=
  ∀ id, x.stmt.publishesRunning = some (id, environmentId) →
    ∃ o j r, x.pre.state.op? id = some o ∧ x.pre.state.secondStep id = some j ∧
      x.pre.state.db.environmentRoute environmentId = some r ∧ r.Serves o j

/-- When the environment is published as running, no newer generation of its route has been
observed than that of the operation's route job. -/
def PublishesInTime (environmentId : Id) (x : Step) : Prop :=
  ∀ id j r generation, x.stmt.publishesRunning = some (id, environmentId) →
    x.pre.state.secondStep id = some j →
    x.pre.state.db.environmentRoute environmentId = some r →
    j.payload.generation = some generation → r.observedGeneration ≤ generation

theorem publishesInTime_of_truly {environmentId : Id} {x : Step}
    (h : PublishesTruly environmentId x) : PublishesInTime environmentId x := by
  intro id j r generation hx hj hr hgeneration
  obtain ⟨o, j', r', _, hj', hr', hserves⟩ := h id hx
  obtain rfl := Option.some.inj (hj.symm.trans hj')
  obtain rfl := Option.some.inj (hr.symm.trans hr')
  exact Nat.le_of_eq (Option.some.inj (hserves.generation.symm.trans hgeneration))

section Publication

variable {w : World} {v : TerminalView} {environmentId : Id}

theorem projection_of_publishesRunning {β : Type} {e : Stmt β} {t : Id × Id}
    (h : e.publishesRunning = some t) : e.projection = true := by
  cases e with
  | finishProjection => rfl
  | _ => cases h

theorem publishes_of_projects {β : Type} {e : Stmt β} {id : Id}
    (h : e.publishesRunning = some (id, environmentId)) (hp : e.Projects v) :
    id = v.operation.id ∧ environmentId = v.operation.environmentId ∧
      ((v.target.any fun t => t.routingMode == .managedGateway) = true →
        v.job.operationStep = some 2 ∧ v.job.status ≠ .failed ∧
          ∃ route, publishedRoute v = some route) := by
  cases e with
  | finishProjection o environment status message data now =>
    cases status with
    | succeeded =>
      simp only [Stmt.publishesRunning] at h
      split at h
      · rename_i hrunning
        cases h
        exact ⟨hp.1, hp.2.1, fun hmanaged => hp.2.2 hmanaged rfl hrunning⟩
      · cases h
    | failed | cancelled => cases h
  | _ => cases h

theorem managed_of_readIn {scope : World → Prop} (h : v.ReadIn scope)
    (hscope : ∀ w, scope w → w.onGateway v.operation.environmentId) :
    (v.target.any fun t => t.routingMode == .managedGateway) = true := by
  obtain ⟨⟨w, hw, hview⟩, _⟩ := h
  have hgateway := hscope w hw
  unfold Db.terminalView at hview
  simp only [Option.bind_eq_some_iff, Option.map_eq_some_iff] at hview
  obtain ⟨job, _, o, _, environment, henv, hv⟩ := hview
  have ho : v.operation = o := by rw [← hv]
  have ht : v.target = w.db.environmentTarget environment := by rw [← hv]
  unfold World.onGateway World.env? at hgateway
  rw [ho, henv] at hgateway
  rw [ht]
  exact hgateway

theorem serves_of_since {route r : GatewayRoute} {o : DeploymentOperation}
    (hroute : publishedRoute v = some route) (hsame : SameRequest v.operation o)
    (hsince : route.Since r)
    (htime : ∀ g, v.job.payload.generation = some g → r.observedGeneration ≤ g) :
    r.Serves o v.job := by
  unfold publishedRoute at hroute
  obtain ⟨_, hchecks⟩ := Option.filter_eq_some_iff.mp hroute
  simp only [Bool.and_eq_true, beq_iff_eq] at hchecks
  obtain ⟨⟨⟨_, hstate⟩, hrevision⟩, hgeneration⟩ := hchecks
  rcases hsince with hlt | hobserved
  · exact absurd hlt (Nat.not_lt.mpr (htime _ hgeneration))
  · have hs : r.observedState = route.observedState := congrArg (fun o => o.1) hobserved
    have hr : r.observedRevision = route.observedRevision := congrArg (fun o => o.2.1) hobserved
    have hg : r.observedGeneration = route.observedGeneration :=
      congrArg (fun o => o.2.2) hobserved
    exact ⟨hs.trans hstate, hr.trans (hrevision.trans hsame.version.symm), by rw [hg]; exact hgeneration⟩

theorem secondStep_of_mem {j : AgentJob} {id : Id} (hu : w.StepsUnique)
    (hj : j ∈ w.db.agentJobs.rows) (hid : j.deploymentOperationId = some id)
    (hstep : j.operationStep = some 2) : w.secondStep id = some j := by
  refine Table.findFirst?_of_unique hj (by simp [hid, hstep]) fun j' hj' hp => ?_
  simp only [Bool.and_eq_true, beq_iff_eq] at hp
  exact hu j' hj' j hj (by simp [AgentJob.sameStep, hp.1, hp.2, hid, hstep])

theorem environmentRoute_of_mem {r : GatewayRoute} (hu : w.RoutesUnique)
    (hr : r ∈ w.db.gatewayRoutes.rows) : w.db.environmentRoute r.environmentId = some r :=
  Table.findFirst?_of_unique hr (beq_self_eq_true _) fun r' hr' hp =>
    hu r' hr' r hr (beq_iff_eq.mp hp)

theorem publishesTruly_of_inTime {foreign : GatewayRouteReconcileRequest → Prop}
    {scope : World → Prop} {x : Step} (hg : x.stmt.Grounded foreign scope x.pre.state)
    (hsteps : x.pre.state.StepsUnique) (hroutes : x.pre.state.RoutesUnique)
    (hscope : ∀ w, scope w → w.onGateway environmentId)
    (h : PublishesInTime environmentId x) : PublishesTruly environmentId x := by
  intro id hx
  obtain ⟨v, hv, hread, hprojects⟩ := hg.projection (projection_of_publishesRunning hx)
  obtain ⟨rfl, rfl, hpublishes⟩ := publishes_of_projects hx hprojects
  obtain ⟨hstep, _, route, hroute⟩ := hpublishes (managed_of_readIn hread hscope)
  obtain ⟨o, ho, hsame⟩ := hv.operation
  have hread' : v.route = some route := Option.filter_eq_some_iff.mp hroute |>.1
  obtain ⟨r, hr, henvironment, hsince⟩ := hv.route route hread'
  have hj := secondStep_of_mem hsteps (Table.mem_of_find? hv.job) hv.bound hstep
  have hr' := environmentRoute_of_mem hroutes (Table.mem_of_find? hr)
  rw [henvironment] at hr'
  exact ⟨o, v.job, r, ho, hj, hr', serves_of_since hroute hsame hsince fun g hgeneration =>
    h v.operation.id v.job r g hx hj hr' hgeneration⟩

end Publication

/-! ## Runs -/

/-- What a managed workflow starts from. -/
structure World.WorkflowReady (w : World) : Prop where
  keys : w.WellKeyed
  fenced : w.RoutesFenced
  steps : w.StepsUnique
  routes : w.RoutesUnique
  order : w.InOrder

/-- The steps of every operation are taken in their order in every run, and an environment on a
managed gateway is published truly in exactly the runs that publish it in time. -/
theorem managed_workflow {foreign : GatewayRouteReconcileRequest → Prop} {w : World} {c : System}
    {tr : List Step} (hforeign : ∀ q, foreign q → q.deploymentOperationId = none)
    (hw : w.WorkflowReady) (h : Run (Workflow foreign) (Config.start w) tr c) :
    c.moment.state.InOrder ∧ ∀ environmentId,
      (∀ x ∈ tr, x.post.state.onGateway environmentId) →
        ((∀ x ∈ tr, PublishesTruly environmentId x) ↔
          ∀ x ∈ tr, PublishesInTime environmentId x) := by
  have hready : ∀ {scope : World → Prop} (x : Step), x.stmt.Grounded foreign scope x.pre.state →
      x.pre.state.WorkflowReady → x.post.state.WorkflowReady := fun x hg hx =>
    { keys := hx.keys.exec x.stmt x.input
      fenced := routesFenced_exec hx.keys hx.fenced
      steps := stepsUnique_after (jobs_exec x.stmt x.input x.pre.state) hx.steps
      routes := routesUnique_exec hx.routes
      order := inOrder_exec hforeign hx.keys hg hx.order }
  have hground : ∀ x ∈ tr, x.stmt.Grounded foreign (fun _ => True) x.pre.state :=
    grounded_run hw.keys hw.fenced h fun _ _ _ => trivial
  let P : Instant → Prop := fun m => m.state.WorkflowReady
  refine ⟨(h.preserves P _ hready hground hw).order,
    fun environmentId hgateway => ⟨fun htruly x hx => publishesInTime_of_truly (htruly x hx),
      fun hin x hx => ?_⟩⟩
  have hscoped : ∀ x ∈ tr,
      x.stmt.Grounded foreign (fun w => w.onGateway environmentId) x.pre.state :=
    grounded_run hw.keys hw.fenced h fun x hx _ => hgateway x hx
  have hpre := h.preserves_pre P _ hready hscoped hw x hx
  exact publishesTruly_of_inTime (hscoped x hx) hpre.steps hpre.routes (fun _ hw => hw) (hin x hx)

def publishesInTime (environmentId : Id) (x : Step) : Bool :=
  x.stmt.publishesRunning.all fun t =>
    (x.pre.state.secondStep t.1).all fun j =>
      (x.pre.state.db.environmentRoute environmentId).all fun r =>
        j.payload.generation.all fun generation => decide (r.observedGeneration ≤ generation)

theorem publishesInTime_of_check {environmentId : Id} {x : Step}
    (h : publishesInTime environmentId x = true) : PublishesInTime environmentId x := by
  intro id j r generation hx hj hr hgeneration
  simp only [publishesInTime, hx, hj, hr, hgeneration, Option.all_some, decide_eq_true_eq] at h
  exact h

theorem deployingGateway_ready : deployingGateway.WorkflowReady where
  keys := deployingGateway_wellKeyed
  fenced := deployingGateway_fenced
  steps := by
    intro j hj
    cases hj
  routes := by
    intro r hr
    cases hr
  order := by
    constructor
    · intro j hj
      cases hj
    · intro j hj
      cases hj

/-- The sample deployment publishes its environment once, and truly. -/
theorem managed_workflow_deployment : ∃ (c : System) (tr : List Step),
    Run (Workflow fun _ => False) (Config.start deployingGateway) tr c ∧
      c.moment.state.InOrder ∧ (∀ x ∈ tr, PublishesTruly 0 x) ∧
        tr.any (fun x => x.stmt.publishesRunning == some (1, 0)) = true := by
  obtain ⟨tr, c, hrun, hcheck⟩ := run_of_plays (Config.start deployingGateway) managedDeployment
    managedSchedule (fun tr _ => tr.all (fun x => decide (x.post.state.onGateway 0) &&
      publishesInTime 0 x) && tr.any fun x => x.stmt.publishesRunning == some (1, 0))
    workflow_of_mem_managedDeployment (by decide)
  simp only [Bool.and_eq_true, List.all_eq_true, decide_eq_true_eq] at hcheck
  obtain ⟨horder, htruly⟩ := managed_workflow (fun _ => False.elim) deployingGateway_ready hrun
  exact ⟨c, tr, hrun, horder, (htruly 0 fun x hx => (hcheck.1 x hx).1).mpr
    (fun x hx => publishesInTime_of_check (hcheck.1 x hx).2), hcheck.2⟩

/-! A stop is cancelled while its `queueLifecycle` is about to queue the route job, and the
environment is redeployed. The projection of the redeployment's route job reads the route; then the
late transaction takes the route down, and the projection publishes what it has read. -/

def stoppingGateway : World :=
  let w := gatewayWorld { gatewayEnvironment with activeOperationId := some 1 }
    [{ sampleOperation .stop with version := some sampleCommit }] []
  { w with db := { w.db with gatewayRoutes := ⟨[reservedRoute]⟩ } }

/-- The first two statements of `cancelAgentBacked`. -/
def cancelStop : Async Unit := do
  let now ← await .readClock
  await (.cancelAgentOperation 1 0 now)

def redeployDuringStop : List (Async Unit) :=
  [queueLifecycle (sampleApi 0).platform 1 .stop sampleIntent, cancelStop,
    ignoreError (begin 0 .dev .redeploy (some sampleCommit) (some 5) none),
    queueDeployment (sampleApi 0).platform true 11 sampleIntent,
    agentClaims, agentCompletes 12 (agentSuccess (some runningWorkload)),
    agentClaims, agentCompletes 13 (agentSuccess none),
    agentClaims, agentCompletes 14 (agentSuccess none)]

def overtakenSchedule : List (Nat × Input) :=
  agentTurns 0 6 ++ agentTurns 1 2 ++ agentTurns 2 3 ++ agentTurns 3 3 ++ agentTurns 4 10 ++
    agentTurns 5 16 ++ agentTurns 6 6 ++ agentTurns 7 10 ++ agentTurns 0 1 ++ agentTurns 8 6 ++
    agentTurns 9 8 ++ agentTurns 7 1

theorem outside_begin {projectId : Id} {envName : EnvName} {kind : OperationKind}
    {version : Option String} {buildArtifactId : Option Id}
    {expected : Option ExpectedProductionState} :
    Outside (begin projectId envName kind version buildArtifactId expected) := by
  refine .bind (.await rfl) fun found => ?_
  split
  · exact .ret _
  · dsimp only
    split
    · exact .ret _
    · refine .bind (.await rfl) fun (operation, claimed) => ?_
      dsimp only
      split
      · refine .bind ?_ fun _ => .bind (.tryCatch (.await rfl) fun _ =>
          .bind (.await rfl) fun _ => .ret _) fun _ => .ret _
        unfold recheckExpectedState
        split
        · exact .ret _
        · refine .bind (.await rfl) fun same => ?_
          split
          · exact .ret _
          · exact .bind (.await rfl) fun _ => .ret _
      · exact .bind (.await rfl) fun _ => .ret _

theorem workflow_of_mem_redeployDuringStop {foreign : GatewayRouteReconcileRequest → Prop} :
    ∀ p ∈ redeployDuringStop, Workflow foreign (Config.start stoppingGateway).moment p := by
  intro p hp
  simp only [redeployDuringStop, List.mem_cons, List.not_mem_nil, or_false] at hp
  rcases hp with rfl | rfl | rfl | rfl | rfl | rfl | rfl | rfl | rfl | rfl
  · exact .queueLifecycle _ _ _ _ (o := { sampleOperation .stop with version := some sampleCommit })
      rfl rfl
  · exact .other _ (.bind (.await rfl) fun _ => .await rfl)
  · exact .other _ outside_begin.ignoreError
  · exact .queueDeployment _ _ _ _
  · exact .claim _ _
  · exact .completeJob _ _ _ _ _
  · exact .claim _ _
  · exact .completeJob _ _ _ _ _
  · exact .claim _ _
  · exact .completeJob _ _ _ _ _

theorem stoppingGateway_ready : stoppingGateway.WorkflowReady where
  keys := ⟨by decide, by decide, by decide, by decide, by decide, by decide, by decide⟩
  fenced := by
    intro r hr
    rw [List.mem_singleton.mp hr]
    exact fenced_reserved ⟨rfl, rfl, rfl⟩
  steps := by
    intro j hj
    cases hj
  routes := by
    intro r hr r' hr' _
    rw [List.mem_singleton.mp hr, List.mem_singleton.mp hr']
  order := by
    constructor
    · intro j hj
      cases hj
    · intro j hj
      cases hj

def publishesInactive (environmentId : Id) (x : Step) : Bool :=
  x.stmt.publishesRunning.any fun t => t.2 == environmentId &&
    !(x.pre.state.db.environmentRoute environmentId).any fun r => r.observedState == .active

theorem not_publishesTruly_of_inactive {environmentId : Id} {x : Step}
    (h : publishesInactive environmentId x = true) : ¬ PublishesTruly environmentId x := by
  intro htruly
  unfold publishesInactive at h
  cases hx : x.stmt.publishesRunning with
  | none => rw [hx] at h; cases h
  | some t =>
    obtain ⟨id, environment⟩ := t
    simp only [hx, Option.any_some, Bool.and_eq_true, beq_iff_eq] at h
    obtain ⟨rfl, hinactive⟩ := h
    obtain ⟨o, j, r, _, _, hr, hserves⟩ := htruly id hx
    simp [hr, hserves.state] at hinactive

/-- The redeployment is published as running although the gateway serves nothing any more. -/
theorem managed_workflow_overtaken : ¬ ∀ (w : World) (c : System) (tr : List Step),
    w.WorkflowReady → Run (Workflow fun _ => False) (Config.start w) tr c →
      c.moment.state.InOrder ∧ ∀ environmentId,
        (∀ x ∈ tr, x.post.state.onGateway environmentId) →
          ∀ x ∈ tr, PublishesTruly environmentId x := by
  intro h
  obtain ⟨tr, c, hrun, hcheck⟩ := run_of_plays (Config.start stoppingGateway) redeployDuringStop
    overtakenSchedule (fun tr _ => tr.all (fun x => decide (x.post.state.onGateway 0)) &&
      tr.any (publishesInactive 0)) workflow_of_mem_redeployDuringStop (by decide)
  simp only [Bool.and_eq_true, List.all_eq_true, List.any_eq_true, decide_eq_true_eq] at hcheck
  obtain ⟨x, hx, hinactive⟩ := hcheck.2
  exact not_publishesTruly_of_inactive hinactive
    ((h stoppingGateway c tr stoppingGateway_ready hrun).2 0 hcheck.1 x hx)

end InitPad
