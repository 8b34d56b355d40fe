import InitPad.Agents.ProjectionRules
import InitPad.Deployment.RouteSteps
import InitPad.Runs.Requests

/-!
# InitPad.Runs.AgentWorkflow

The runs in which operations are handed to Agents: `queueDeployment` and `queueLifecycle`, the
requests of Agents, the replay at start, and any other program that does not queue or project jobs.

A projection acts on a row that it has read some statements earlier. `TerminalView.Known` is what
remains true of that row, `Stmt.Grounded` says that a statement acts on such a row, and
`grounded_run` that every statement of every run does.
-/

namespace InitPad

open Store Interleave Prog

def OperationKind.lifecycleJob : OperationKind → Option JobKind
  | .start => some .start
  | .stop => some .stop
  | .remove => some .remove
  | _ => none

/-- The programs that hand over, execute and project Agent jobs. `foreign` are the requests with
which code outside the projections and `queueLifecycle` may call `queueReconcile`. -/
inductive Workflow (foreign : GatewayRouteReconcileRequest → Prop) : Instant → Async Unit → Prop where
  | queueDeployment {m} (platform : Platform) (durable : Bool) (operationId : Id)
      (intent : AgentDeploymentIntent) :
      Workflow foreign m (queueDeployment platform durable operationId intent)
  | queueLifecycle {m} (platform : Platform) (operationId : Id) (kind : JobKind)
      (intent : AgentDeploymentIntent) {o : DeploymentOperation} :
      m.state.op? operationId = some o → o.kind.lifecycleJob = some kind →
      Workflow foreign m (queueLifecycle platform operationId kind intent)
  | queueReconcile {m} (platform : Platform) (environmentId : Id)
      (request : GatewayRouteReconcileRequest) : foreign request →
      Workflow foreign m (ignoreError (queueReconcile platform environmentId request))
  | claim {m} (api : Api) (credential : Option String) :
      Workflow foreign m (ignoreError (claim api credential))
  | renew {m} (credential : Option String) (jobId : Id) (leaseToken : String) :
      Workflow foreign m (ignoreError (renew credential jobId leaseToken))
  | progress {m} (credential : Option String) (jobId : Id) (dto : AgentJobProgressDto) :
      Workflow foreign m (ignoreError (progress credential jobId dto))
  | completeJob {m} (api : Api) (credential : Option String) (jobId : Id) (leaseToken : String)
      (dto : AgentJobCompleteDto) :
      Workflow foreign m (ignoreError (completeJob api credential jobId leaseToken dto))
  | onModuleInit {m} (api : Api) : Workflow foreign m (onModuleInit api)
  | other {m} (p : Async Unit) : Outside p → Workflow foreign m p

/-! ## What stays true of a row that was read -/

theorem not_pending_of_terminal {j : AgentJob} (h : j.status.terminal = true) :
    j.pending = false := by
  unfold AgentJob.pending
  cases hs : j.status with
  | succeeded | failed | cancelled => rfl
  | blocked | queued | leased => rw [hs] at h; cases h

structure Persists (w w' : World) : Prop where
  job : ∀ id j, w.job? id = some j → j.status.terminal = true → w'.job? id = some j
  operation : ∀ id o, w.op? id = some o → ∃ o', w'.op? id = some o' ∧ SameRequest o o'

theorem SameRequest.trans {o₁ o₂ o₃ : DeploymentOperation} (h : SameRequest o₁ o₂)
    (h' : SameRequest o₂ o₃) : SameRequest o₁ o₃ :=
  ⟨h'.1.trans h.1, h'.2.trans h.2, h'.3.trans h.3, h'.4.trans h.4⟩

theorem Persists.refl (w : World) : Persists w w :=
  ⟨fun _ _ h _ => h, fun _ o h => ⟨o, h, rfl, rfl, rfl, rfl⟩⟩

theorem Persists.trans {w₁ w₂ w₃ : World} (h : Persists w₁ w₂) (h' : Persists w₂ w₃) :
    Persists w₁ w₃ := by
  refine ⟨fun id j hj ht => h'.job id j (h.job id j hj ht) ht, fun id o ho => ?_⟩
  obtain ⟨o₂, ho₂, hs⟩ := h.operation id o ho
  obtain ⟨o₃, ho₃, hs'⟩ := h'.operation id o₂ ho₂
  exact ⟨o₃, ho₃, hs.trans hs'⟩

theorem persists_exec {β : Type} (e : Stmt β) (i : Input) (w : World) :
    Persists w (exec e i w).2 := by
  refine ⟨fun id j hj ht => ?_, fun id o ho => ?_⟩
  · obtain ⟨j', hj', hstep⟩ := job?_after (jobs_exec e i w) hj
    rw [hj', hstep.of_settled (not_pending_of_terminal ht)]
  · have hsome : (w.op? id).isSome := by rw [ho]; rfl
    obtain ⟨o', ho'⟩ := Option.isSome_iff_exists.mp (op?_isSome_exec (e := e) (i := i) hsome)
    exact ⟨o', ho', sameRequest_exec ho ho'⟩

/-- The route still shows what it showed when it was read, unless a newer generation has been
observed. -/
def GatewayRoute.Since (r r' : GatewayRoute) : Prop :=
  r.observedGeneration < r'.observedGeneration ∨ r'.observed = r.observed

theorem RouteStep.since {β : Type} {e : Stmt β} {w : World} {r r' r'' : GatewayRoute}
    (h : RouteStep e w r' r'') (hf : r'.Fenced) (hsince : r.Since r') : r.Since r'' := by
  have hsame : r''.observed = r'.observed → r.Since r'' := by
    intro ho
    rcases hsince with hlt | heq
    · exact .inl (by rw [RouteStep.observedGeneration ho]; exact hlt)
    · exact .inr (ho.trans heq)
  cases h with
  | kept h => rw [h]; exact hsince
  | queued _ _ _ _ ho _ => exact hsame ho
  | @observed o _ _ ha ho _ _ _ =>
    have hobs : r''.observedGeneration = r'.generation :=
      (congrArg (fun o => o.2.2) ho).trans ha.1.symm
    -- A route whose observation is up to date awaits no job.
    have hlt : r'.observedGeneration < r'.generation := by
      refine Nat.lt_of_le_of_ne hf.le fun heq => ?_
      have hnone := hf.settled heq
      rw [ha.2] at hnone
      cases hnone
    refine .inl ?_
    rw [hobs]
    rcases hsince with h | h
    · exact h.trans hlt
    · rw [← RouteStep.observedGeneration h]
      exact hlt
  | failed ho _ _ _ => exact hsame ho

structure TerminalView.Known (v : TerminalView) (w : World) : Prop where
  job : w.job? v.job.id = some v.job
  operation : ∃ o, w.op? v.operation.id = some o ∧ SameRequest v.operation o
  bound : v.job.deploymentOperationId = some v.operation.id
  terminal : v.job.status.terminal = true
  route : ∀ r, v.route = some r → ∃ r', w.route? r.id = some r' ∧
    r'.environmentId = v.operation.environmentId ∧ r.Since r'

section Known

variable {w : World} {v : TerminalView}

theorem jobId_of_terminalView {jobId : Id} (h : w.db.terminalView jobId = some v) :
    v.job.id = jobId := by
  unfold Db.terminalView at h
  simp only [Option.bind_eq_some_iff, Option.map_eq_some_iff] at h
  obtain ⟨job, hjob, _, _, _, _, rfl⟩ := h
  exact Table.find?_key hjob

theorem known_of_terminalView {jobId : Id} (hk : w.WellKeyed)
    (h : w.db.terminalView jobId = some v) (ht : v.job.status.terminal = true) : v.Known w := by
  unfold Db.terminalView at h
  simp only [Option.bind_eq_some_iff, Option.map_eq_some_iff] at h
  obtain ⟨job, hjob, o, ⟨oid, hoid, ho⟩, environment, henv, rfl⟩ := h
  have hjobId : job.id = jobId := Table.find?_key hjob
  have hopId : o.id = oid := Table.find?_key ho
  have henvId : environment.id = o.environmentId := Table.find?_key henv
  refine ⟨hjobId ▸ hjob, ⟨o, hopId ▸ ho, rfl, rfl, rfl, rfl⟩, by rw [hoid, hopId], ht, ?_⟩
  intro r hr
  change w.db.environmentRoute environment.id = some r at hr
  have henvironment : r.environmentId = environment.id := by
    simpa using List.find?_some hr
  exact ⟨r, hk.gatewayRoutes.find?_of_mem (List.mem_of_find?_eq_some hr),
    henvironment.trans henvId, .inr rfl⟩

theorem TerminalView.Known.exec {β : Type} (h : v.Known w) (hf : w.RoutesFenced) (e : Stmt β) (i : Input) : v.Known (exec e i w).2 := by
  have hp := persists_exec e i w
  obtain ⟨o, ho, hs⟩ := h.operation
  obtain ⟨o', ho', hs'⟩ := hp.operation _ o ho
  refine ⟨hp.job _ _ h.job h.terminal, ⟨o', ho', hs.trans hs'⟩, h.bound, h.terminal, ?_⟩
  intro r hr
  obtain ⟨r', hr', henv, hsince⟩ := h.route r hr
  obtain ⟨r'', hr'', hstep⟩ := route?_after (routes_exec e i w) hr'
  refine ⟨r'', hr'', ?_, hstep.since (hf r' (Table.mem_of_find? hr')) hsince⟩
  exact (congrArg (fun k => k.2.1) hstep.identity).trans henv

end Known

/-! ## Grounded statements -/

/-- A workload job as `queueDeployment` and `queueLifecycle` create it. -/
structure AgentJob.Workload (j : AgentJob) : Prop where
  kind : j.kind ≠ .gatewayRoute
  key : ∀ routeId requestId, j.dedupeKey ≠ .gatewayRoute routeId requestId
  route : j.gatewayRouteId = none
  step : j.operationStep = some 1 ∨ (j.operationStep = some 2 ∧ j.status = .blocked)

/-- The request with which `queueLifecycle` takes down the route of a stop or remove. -/
structure GatewayRouteReconcileRequest.TakesDown (request : GatewayRouteReconcileRequest)
    (w : World) : Prop where
  operation : ∃ id o, request.deploymentOperationId = some id ∧ w.op? id = some o ∧
    o.kind.teardown = true
  state : request.desiredState ≠ .active

def Stmt.projection {β : Type} : Stmt β → Bool
  | .finishProjection .. | .failManagedOperation .. | .unblockWorkload ..
  | .publishManagedProgress .. => true
  | _ => false

def Stmt.reads {β : Type} : Stmt β → Bool
  | .query _ => true
  | _ => false

/-- The job whose success a statement lets the route observe. -/
structure Observation.Earned (o : Observation) (w : World) : Prop where
  job : ∃ j, w.job? o.jobId = some j ∧ j.status = .succeeded ∧ j.kind = .gatewayRoute ∧
    j.gatewayRouteId = some o.routeId ∧
    routeIntent j.payload = some (o.generation, o.state, o.revision)

/-- `v` is what a projection read in a state of `scope`. -/
structure TerminalView.ReadIn (v : TerminalView) (scope : World → Prop) : Prop where
  view : ∃ w, scope w ∧ w.db.terminalView v.job.id = some v
  running : v.operation.status = .running

/-- The statement acts on rows that are as its program has read them, in a state of `scope`. -/
structure Stmt.Grounded {β : Type} (foreign : GatewayRouteReconcileRequest → Prop)
    (scope : World → Prop) (e : Stmt β) (w : World) : Prop where
  workload : ∀ job, e.upserts = some job → job.Workload
  projection : e.projection = true →
    ∃ v : TerminalView, v.Known w ∧ v.ReadIn scope ∧ e.Projects v
  queues : ∀ q, e.queuesRoute = some q →
    (∃ v : TerminalView, v.Known w ∧ v.activates q.request) ∨ q.request.TakesDown w ∨
      foreign q.request
  observes : ∀ o, e.observes = some o → o.Earned w

section Foreign

variable {foreign : GatewayRouteReconcileRequest → Prop} {scope : World → Prop}

theorem forall_of_none {α : Type} {a? : Option α} {P : α → Prop} (h : a? = none) :
    ∀ a, a? = some a → P a := by
  rintro a rfl
  cases h

theorem imp_of_false {b : Bool} {P : Prop} (h : b = false) : b = true → P := by
  rintro rfl
  cases h

theorem quiet_of_outside {β : Type} {e : Stmt β} (h : e.outside = true) :
    e.upserts = none ∧ e.observes = none ∧ e.projection = false ∧ e.queuesRoute = none := by
  cases e with
  | upsertJob | queueRouteJob | observeRoute | finishProjection | failManagedOperation
  | unblockWorkload | publishManagedProgress => cases h
  | _ => exact ⟨rfl, rfl, rfl, rfl⟩

theorem quiet_of_projects {β : Type} {e : Stmt β} {v : TerminalView} (h : e.Projects v) :
    e.upserts = none ∧ e.observes = none := by
  cases e with
  | upsertJob | observeRoute => exact False.elim h
  | _ => exact ⟨rfl, rfl⟩

theorem grounded_of_outside {β : Type} {e : Stmt β} (h : e.outside = true) (w : World) :
    e.Grounded foreign scope w := by
  obtain ⟨hu, ho, hp, hq⟩ := quiet_of_outside h
  exact ⟨forall_of_none hu, imp_of_false hp, forall_of_none hq, forall_of_none ho⟩

theorem activates_of_projects {β : Type} {e : Stmt β} {v : TerminalView} {q : RouteQueueing}
    (h : e.Projects v) (hq : e.queuesRoute = some q) : v.activates q.request := by
  cases e with
  | queueRouteJob => cases hq; exact h
  | _ => cases hq

theorem grounded_of_projects {β : Type} {e : Stmt β} {v : TerminalView} {w : World}
    (h : e.Projects v) (hv : v.Known w) (hread : v.ReadIn scope) : e.Grounded foreign scope w := by
  obtain ⟨hu, ho⟩ := quiet_of_projects h
  exact ⟨forall_of_none hu, fun _ => ⟨v, hv, hread, h⟩,
    fun _ hq => .inl ⟨v, hv, activates_of_projects h hq⟩, forall_of_none ho⟩

/-- Every thread acts on rows that it has read and that cannot have changed since. -/
def groundedContract (foreign : GatewayRouteReconcileRequest → Prop) (scope : World → Prop) :
    Contract Stmt Input World Err where
  ok x := x.stmt.reads = true → scope x.post.state
  inv m := m.state.WellKeyed ∧ m.state.RoutesFenced
  rely _ m m' := Persists m.state m'.state ∧
    ∀ v : TerminalView, v.Known m.state → v.Known m'.state
  guar x := x.stmt.Grounded foreign scope x.pre.state
  rely_refl _ m := ⟨.refl m.state, fun _ h => h⟩
  rely_trans _ _ _ _ h h' := ⟨h.1.trans h'.1, fun v hv => h'.2 v (h.2 v hv)⟩
  inv_post x h _ _ := ⟨h.1.exec x.stmt x.input, routesFenced_exec h.1 h.2⟩
  rely_of_guar x _ h _ _ _ :=
    ⟨persists_exec x.stmt x.input x.pre.state, fun _ hv => hv.exec h.2 x.stmt x.input⟩

/-- No thread can undo `A`. -/
def Lasting (foreign : GatewayRouteReconcileRequest → Prop) (scope A : World → Prop) : Prop :=
  (groundedContract foreign scope).Persistent fun m => A m.state

/-- The program acts on rows as it has read them, from every moment with `A`. -/
def GroundedFrom (foreign : GatewayRouteReconcileRequest → Prop) (scope A : World → Prop)
    {α : Type} (p : Async α) : Prop :=
  (groundedContract foreign scope).Respects (fun m => A m.state) p

section Programs

variable {α β : Type} {A : World → Prop}

variable (foreign scope) in
theorem lasting_known (v : TerminalView) : Lasting foreign scope v.Known :=
  ⟨fun _ _ _ h hv => h.2 v hv, fun x hi _ _ hv => hv.exec hi.2 x.stmt x.input⟩

variable (foreign scope) in
theorem lasting_job (j : AgentJob) (ht : j.status.terminal = true) :
    Lasting foreign scope fun w => w.job? j.id = some j :=
  ⟨fun _ _ _ h hj => h.1.job _ j hj ht,
    fun x _ _ _ hj => (persists_exec x.stmt x.input x.pre.state).job _ j hj ht⟩

/-- The operation has a kind of which `p` holds. -/
def World.kindOf (w : World) (id : Id) (p : OperationKind → Prop) : Prop :=
  ∃ o, w.op? id = some o ∧ p o.kind

theorem Persists.kindOf {w w' : World} (h : Persists w w') {id : Id} {p : OperationKind → Prop}
    (hk : w.kindOf id p) : w'.kindOf id p := by
  obtain ⟨o, ho, hp⟩ := hk
  obtain ⟨o', ho', hs⟩ := h.operation id o ho
  exact ⟨o', ho', by rw [hs.kind]; exact hp⟩

variable (foreign scope) in
theorem lasting_kindOf (id : Id) (p : OperationKind → Prop) : Lasting foreign scope fun w => w.kindOf id p :=
  ⟨fun _ _ _ h hk => h.1.kindOf hk,
    fun x _ _ _ hk => (persists_exec x.stmt x.input x.pre.state).kindOf hk⟩

theorem lasting_any : Lasting foreign scope fun _ => True :=
  Contract.persistent_true

variable (hA : Lasting foreign scope A)

include hA

theorem grounded_compositional : Compositional (E := Stmt) (ε := Err) fun p => GroundedFrom foreign scope A p :=
  Contract.respects_compositional hA

theorem grounded_await {e : Stmt α} (h : ∀ w, A w → e.Grounded foreign scope w) : GroundedFrom foreign scope A (await e) :=
  Contract.respects_await hA fun _ m _ _ _ hm => h m.state hm

theorem grounded_outside {p : Async α} (hp : Outside p) : GroundedFrom foreign scope A p :=
  hp.compose (grounded_compositional hA) fun _ he =>
    grounded_await hA fun w _ => grounded_of_outside he w

theorem grounded_query {f : Db → Except Err α} {g : α → Async β}
    (h : ∀ w a, w.WellKeyed → scope w → A w → f w.db = .ok a →
      ∃ B : World → Prop, B w ∧ GroundedFrom foreign scope B (g a)) :
    GroundedFrom foreign scope A (await (.query f) >>= g) := by
  have hguar : ∀ m : Instant, (Stmt.query f).Grounded foreign scope m.state :=
    fun m => grounded_of_outside rfl m.state
  refine Contract.respects_await_bind hA (fun _ m _ _ _ _ => hguar m) ?_
  intro t m i a hi hok hm ha
  have hinv := (groundedContract foreign scope).inv_post ⟨m, t, .query f, i⟩ hi hok (hguar m)
  have hpost := hA.step ⟨m, t, .query f, i⟩ hi hok (hguar m) hm
  rcases exec_cases (.query f) i m.state with ⟨_, _, he⟩ | ⟨_, he⟩
  · rw [he] at ha; cases ha
  · have hstate : (m.next t (.query f) i).state = m.state.tick i.dbNow := by
      rw [Moment.next_state, he]; rfl
    rw [he] at ha
    obtain ⟨B, hB, hg⟩ := h _ a hinv.1 (hok rfl) hpost (by
      change f (m.next t (.query f) i).state.db = .ok a
      rw [hstate]; exact ha)
    exact hg t _ hinv hB

end Programs

/-! ## The programs -/

section Projections

variable {A : World → Prop} (hA : Lasting foreign scope A)

include hA

theorem grounded_reconcileGatewayRoute (jobId : Id) :
    GroundedFrom foreign scope A (reconcileGatewayRoute jobId) := by
  refine grounded_query hA fun w found _ _ _ hfound => ?_
  have hnothing : GroundedFrom foreign scope (fun _ => True) (pure () : Async Unit) :=
    (grounded_compositional lasting_any).ret _
  split
  · exact ⟨_, trivial, hnothing⟩
  · rename_i job
    have hjob : w.job? jobId = some job := Except.ok.inj hfound
    have hid : job.id = jobId := Table.find?_key hjob
    split
    · rename_i routeId generation state revision hroute hintent
      split
      · rename_i hterminal
        have hlasting := lasting_job foreign scope job hterminal.2
        refine ⟨fun w => w.job? job.id = some job, hid ▸ hjob, ?_⟩
        have hC := grounded_compositional hlasting
        refine hC.bind (grounded_outside hlasting (.await rfl)) fun clock => ?_
        dsimp only
        split
        · rename_i hs
          refine hC.bind (grounded_await hlasting fun w hw => ?_) fun _ => hC.ret _
          refine ⟨forall_of_none rfl, imp_of_false rfl, forall_of_none rfl, fun o ho => ?_⟩
          cases ho
          exact ⟨job, hw, hs, hterminal.1, hroute, hintent⟩
        · exact hC.bind (grounded_await hlasting fun w _ => ⟨forall_of_none rfl,
            imp_of_false rfl, forall_of_none rfl, forall_of_none rfl⟩) fun _ => hC.ret _
      · exact ⟨_, trivial, hnothing⟩
    · exact ⟨_, trivial, hnothing⟩

variable {platform : Platform} {follow : Id → Async Unit}

theorem grounded_reconcileTerminalWith
    (hfollow : ∀ id, GroundedFrom foreign scope (fun _ => True) (follow id)) (jobId : Id) :
    GroundedFrom foreign scope A (reconcileTerminalWith platform follow jobId) := by
  have hC := grounded_compositional hA
  refine hC.bind (grounded_query hA fun w found hk hscope _ hfound => ?_) fun _ =>
    compose_recordJobResult hC (fun _ => grounded_outside hA (.await rfl))
      (fun _ => grounded_outside hA (.await rfl)) jobId
  have hnothing : GroundedFrom foreign scope (fun _ => True) (pure () : Async Unit) :=
    (grounded_compositional lasting_any).ret _
  split
  · exact ⟨_, trivial, hnothing⟩
  · rename_i v
    split
    · rename_i hactive
      have hview := Except.ok.inj hfound
      have hv := known_of_terminalView hk hview hactive.1
      have hread : v.ReadIn scope :=
        ⟨⟨w, hscope, by rw [jobId_of_terminalView hview]; exact hview⟩, hactive.2.1⟩
      have hlasting := lasting_known foreign scope v
      have hstmt : ∀ {β : Type} (e : Stmt β), e.Projects v → GroundedFrom foreign scope v.Known (await e) :=
        fun e he => grounded_await hlasting fun w hw => grounded_of_projects he hw hread
      refine ⟨v.Known, hv, ?_⟩
      split
      · exact compose_reconcileManagedTerminalJob (grounded_compositional hlasting) hstmt
          (grounded_reconcileGatewayRoute hlasting)
          fun id => (hfollow id).mono fun _ _ => trivial
      · rename_i hdirect
        exact compose_reconcileDirectTerminalJob (grounded_compositional hlasting) hstmt
          (Bool.eq_false_iff.mpr hdirect)
    · exact ⟨_, trivial, hnothing⟩

theorem grounded_reconcileTerminalJob (jobId : Id) :
    GroundedFrom foreign scope A (reconcileTerminalJob platform jobId) :=
  grounded_reconcileTerminalWith hA (grounded_reconcileTerminalWith lasting_any
    fun _ => (grounded_compositional lasting_any).ret _) jobId

theorem grounded_onModuleInit (api : Api) : GroundedFrom foreign scope A (onModuleInit api) := by
  have hC := grounded_compositional hA
  have houtside : ∀ {β : Type} (e : Stmt β), e.outside = true → GroundedFrom foreign scope A (await e) :=
    fun _ he => grounded_outside hA (.await he)
  exact compose_onModuleInit hC (fun _ => houtside _ rfl)
    (compose_reconcileGatewayPreflight hC (fun _ => houtside _ rfl) (houtside _ rfl)
      fun _ _ _ _ _ => houtside _ rfl)
    (grounded_reconcileGatewayRoute hA) (grounded_reconcileTerminalJob hA)

end Projections

section Handoff

variable {A : World → Prop} (hA : Lasting foreign scope A)

include hA

theorem grounded_upsertWorkload {platform : Platform} {v : OperationView} {target : Target}
    {allocation : TargetAllocation} {intent : AgentDeploymentIntent} {kind : JobKind}
    {key : DedupeKey} {step : Nat} {status : JobStatus} (hkind : kind ≠ .gatewayRoute)
    (hkey : ∀ routeId requestId, key ≠ .gatewayRoute routeId requestId)
    (hstep : step = 1 ∨ (step = 2 ∧ status = .blocked)) :
    GroundedFrom foreign scope A (await (.upsertJob
      (workloadJob platform v target allocation intent kind key step status))) := by
  refine grounded_await hA fun _ _ =>
    ⟨fun job hjob => ?_, imp_of_false rfl, forall_of_none rfl, forall_of_none rfl⟩
  cases hjob
  refine ⟨hkind, hkey, rfl, ?_⟩
  rcases hstep with rfl | ⟨rfl, rfl⟩
  · exact .inl rfl
  · exact .inr ⟨rfl, rfl⟩

theorem grounded_loadOperation {β : Type} {operationId : Id} {f : OperationView → Async β}
    (h : ∀ v : OperationView, v.operation.id = operationId → GroundedFrom foreign scope A (f v)) :
    GroundedFrom foreign scope A (loadOperation operationId >>= f) := by
  have hC := grounded_compositional hA
  unfold loadOperation
  rw [bind_assoc]
  refine grounded_query hA fun w found _ _ hw hfound => ⟨A, hw, ?_⟩
  split
  · exact hC.ret _
  · rename_i v
    have hid : v.operation.id = operationId := by
      have hv := Except.ok.inj hfound
      simp only [Option.bind_eq_some_iff, Option.map_eq_some_iff] at hv
      obtain ⟨o, ho, _, _, rfl⟩ := hv
      exact Table.find?_key ho
    split
    · exact h v hid
    · exact hC.ret _

theorem grounded_queueDeployment {platform : Platform} {durable : Bool} {operationId : Id}
    {intent : AgentDeploymentIntent} :
    GroundedFrom foreign scope A (queueDeployment platform durable operationId intent) := by
  have hC := grounded_compositional hA
  unfold queueDeployment
  split
  · exact hC.ret _
  · refine grounded_loadOperation hA fun v _ => hC.bind (hC.ret _) fun (target, allocation) => ?_
    dsimp only
    split
    · refine hC.bind (grounded_upsertWorkload hA nofun (fun _ _ => nofun) (.inl rfl)) fun row => ?_
      split
      · exact grounded_outside hA (.await rfl)
      · exact hC.ret _
    · exact hC.ret _

end Handoff

theorem teardown_of_lifecycleJob {k : OperationKind} {kind : JobKind}
    (h : k.lifecycleJob = some kind) (hkind : (kind == .stop || kind == .remove) = true) :
    k.teardown = true := by
  cases k with
  | stop | remove => rfl
  | start => cases h; cases hkind
  | _ => cases h

theorem ne_gatewayRoute_of_lifecycleJob {k : OperationKind} {kind : JobKind}
    (h : k.lifecycleJob = some kind) : kind ≠ .gatewayRoute := by
  cases k with
  | start | stop | remove => cases h; exact nofun
  | _ => cases h

theorem grounded_queueLifecycle {platform : Platform} {operationId : Id} {kind : JobKind}
    {intent : AgentDeploymentIntent} :
    GroundedFrom foreign scope (fun w => w.kindOf operationId fun k => k.lifecycleJob = some kind)
      (queueLifecycle platform operationId kind intent) := by
  have hA := lasting_kindOf foreign scope operationId fun k => k.lifecycleJob = some kind
  have hC := grounded_compositional hA
  refine grounded_loadOperation hA fun v hv => hC.bind (hC.ret _) fun (target, allocation) => ?_
  dsimp only
  refine hC.bind ?_ fun row => ?_
  · intro t m hi hm
    obtain ⟨o, _, hkind⟩ := hm
    have hne := ne_gatewayRoute_of_lifecycleJob hkind
    refine grounded_upsertWorkload lasting_any hne (fun _ _ h => by cases h) ?_ t m hi trivial
    split
    · exact .inr ⟨rfl, rfl⟩
    · exact .inl rfl
  · have hpublish : ∀ {removing : Bool}, GroundedFrom foreign scope
        (fun w => w.kindOf operationId fun k => k.lifecycleJob = some kind)
        (await (.publishQueued operationId v.view.environment.id allocation.id removing)) :=
      grounded_outside hA (.await rfl)
    split
    · rename_i hteardown
      split
      · refine hC.bind (hC.tryCatch (hC.bind ?_ fun _ => hC.ret _) fun error => ?_)
          fun _ => hpublish
        · refine compose_queueReconcile hC (fun _ => grounded_outside hA (.await rfl))
            (fun _ _ _ _ => grounded_await hA fun w _ => ⟨forall_of_none rfl, imp_of_false rfl,
              forall_of_none rfl, forall_of_none rfl⟩)
            fun _ _ _ _ => grounded_await hA fun w hw =>
              ⟨forall_of_none rfl, imp_of_false rfl, fun q hq => .inr (.inl ?_), forall_of_none rfl⟩
          cases hq
          obtain ⟨o, ho, hkind⟩ := hw
          have hstop : (kind == .stop || kind == .remove) = true := by
            simp only [Bool.and_eq_true] at hteardown
            exact hteardown.2
          refine ⟨⟨operationId, o, by rw [← hv]; rfl, ho, teardown_of_lifecycleJob hkind hstop⟩, ?_⟩
          change (if kind = .stop then RouteState.stopped else .absent) ≠ .active
          split
          · exact nofun
          · exact nofun
        · exact hC.bind (grounded_outside hA (.await rfl)) fun _ => hC.ret _
      · exact hC.ret _
    · split
      · exact hpublish
      · exact hC.ret _

theorem grounded_workflow {m : Instant} {p : Async Unit} (h : Workflow foreign m p) :
    ∃ A : World → Prop, A m.state ∧ GroundedFrom foreign scope A p := by
  have hany : Lasting foreign scope fun _ => True := lasting_any
  have hC := grounded_compositional hany
  have houtside : ∀ {β : Type} (e : Stmt β), e.outside = true →
      GroundedFrom foreign scope (fun _ => True) (await e) := fun _ he => grounded_outside hany (.await he)
  cases h with
  | queueDeployment => exact ⟨_, trivial, grounded_queueDeployment hany⟩
  | queueLifecycle platform operationId kind intent ho hkind =>
    exact ⟨_, ⟨_, ho, hkind⟩, grounded_queueLifecycle⟩
  | queueReconcile platform environmentId request hrequest =>
    refine ⟨_, trivial, hC.ignoreError (compose_queueReconcile hC (fun _ => houtside _ rfl)
      (fun _ _ _ _ => grounded_await hany fun w _ => ⟨forall_of_none rfl, imp_of_false rfl,
        forall_of_none rfl, forall_of_none rfl⟩)
      fun _ _ _ _ => grounded_await hany fun w _ =>
        ⟨forall_of_none rfl, imp_of_false rfl, fun q hq => .inr (.inr ?_), forall_of_none rfl⟩)⟩
    cases hq
    exact hrequest
  | claim api credential =>
    exact ⟨_, trivial, hC.ignoreError
      (compose_claim hC (fun e he => houtside e (outside_of_byAgent he))
        (grounded_reconcileTerminalJob hany))⟩
  | renew => exact ⟨_, trivial, hC.ignoreError (grounded_outside hany byAgent_renew.outside)⟩
  | progress => exact ⟨_, trivial, hC.ignoreError (grounded_outside hany byAgent_progress.outside)⟩
  | completeJob api credential jobId leaseToken dto =>
    exact ⟨_, trivial, hC.ignoreError (compose_completeJob hC
      (fun e he => houtside e (outside_of_byAgent he))
      (grounded_reconcileTerminalJob hany) (grounded_reconcileGatewayRoute hany))⟩
  | onModuleInit api => exact ⟨_, trivial, grounded_onModuleInit hany api⟩
  | other p hp => exact ⟨_, trivial, grounded_outside hany hp⟩

/-- Every statement of every run of the workflow acts on rows as its program has read them, in a
state that the run has reached. -/
theorem grounded_run {w : World} {c : System} {tr : List Step} (hk : w.WellKeyed)
    (hf : w.RoutesFenced) (h : Run (Workflow foreign) (Config.start w) tr c)
    (hscope : ∀ x ∈ tr, x.stmt.reads = true → scope x.post.state) :
    ∀ x ∈ tr, x.stmt.Grounded foreign scope x.pre.state := by
  have hentry : ∀ (m : Instant) (p : Async Unit) (t : Nat), (groundedContract foreign scope).inv m →
      (∀ e ∈ m.history, e.thread ≠ t) → Workflow foreign m p →
        Safe (groundedContract foreign scope) t (fun _ _ => True) p m := by
    intro m p t hi _ hp
    obtain ⟨A, hA, hg⟩ := grounded_workflow hp
    exact hg t m hi hA
  exact (h.safe (groundedContract foreign scope) hentry (Run.sound_start (groundedContract foreign scope) w ⟨hk, hf⟩)
    hscope).2

end Foreign

/-! ## A deployment on a managed gateway

The sample Agent claims and completes the workload job `10` of operation `1` and then its route
job `12`. -/

def deployingGateway : World :=
  gatewayWorld { gatewayEnvironment with activeOperationId := some 1 }
    [{ sampleOperation .redeploy with version := some sampleCommit }] []

def agentSuccess (result : Option JobResult) : AgentJobCompleteDto where
  succeeded := true
  message := "done"
  resultCode := none
  result := result
  gatewayCaSha256 := none
  diagnostic := none

def runningWorkload : JobResult := ⟨.running, some sampleCommit, some 8080, some "0123456789ab"⟩

def agentClaims : Async Unit := ignoreError (claim (sampleApi 0) (some "credential"))

def agentCompletes (jobId : Id) (dto : AgentJobCompleteDto) : Async Unit :=
  ignoreError (completeJob (sampleApi 0) (some "credential") jobId "token" dto)

def managedDeployment : List (Async Unit) :=
  [queueDeployment (sampleApi 0).platform true 1 sampleIntent, agentClaims,
    agentCompletes 10 (agentSuccess (some runningWorkload)), agentClaims,
    agentCompletes 12 (agentSuccess none)]

theorem workflow_of_mem_managedDeployment {foreign : GatewayRouteReconcileRequest → Prop}
    {m : Instant} :
    ∀ p ∈ managedDeployment, Workflow foreign m p := by
  intro p hp
  simp only [managedDeployment, List.mem_cons, List.not_mem_nil, or_false] at hp
  rcases hp with rfl | rfl | rfl | rfl | rfl
  · exact .queueDeployment _ _ _ _
  · exact .claim _ _
  · exact .completeJob _ _ _ _ _
  · exact .claim _ _
  · exact .completeJob _ _ _ _ _

/-- Thread `t` executes `n` statements of an Agent that holds the lease token. -/
def agentTurns (t n : Nat) : List (Nat × Input) :=
  List.replicate n (t, { leaseToken := "token", objectSize := some 1 })

def managedSchedule : List (Nat × Input) :=
  agentTurns 0 3 ++ agentTurns 1 10 ++ agentTurns 2 17 ++ agentTurns 3 6 ++ agentTurns 4 14

theorem deployingGateway_wellKeyed : deployingGateway.WellKeyed :=
  ⟨by decide, by decide, by decide, by decide, by decide, by decide, by decide⟩

theorem deployingGateway_fenced : deployingGateway.RoutesFenced := nofun

end InitPad
