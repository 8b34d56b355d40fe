import InitPad.Deployment.JobSteps

/-!
# InitPad.Deployment.RouteSteps

What one statement can do to the rows of `GatewayRoute`: a transaction of `queueReconcile` starts
the next generation, and the projections of route jobs observe a generation or record its failure.
-/

namespace InitPad

open Store Interleave

/-- The arguments with which `reconcileGatewayRoute` observes a succeeded route job. -/
structure Observation where
  routeId : Id
  generation : Nat
  jobId : Id
  state : RouteState
  revision : Option String

def Stmt.observes {β : Type} : Stmt β → Option Observation
  | .observeRoute routeId generation jobId state revision _ =>
    some ⟨routeId, generation, jobId, state, revision⟩
  | _ => none

def GatewayRoute.awaits (r : GatewayRoute) (generation : Nat) (jobId : Id) : Prop :=
  r.generation = generation ∧ r.reconcileJobId = some jobId

/-- The columns that a route keeps from its reservation on. -/
def GatewayRoute.identity (r : GatewayRoute) : Id × Id × Id × Id :=
  (r.id, r.environmentId, r.targetId, r.allocationId)

def GatewayRoute.observed (r : GatewayRoute) : RouteState × Option String × Nat :=
  (r.observedState, r.observedRevision, r.observedGeneration)

/-- The change that `e` may make to one route. -/
inductive RouteStep {β : Type} (e : Stmt β) (w : World) (r r' : GatewayRoute) : Prop where
  | kept : r' = r → RouteStep e w r r'
  | queued {q : RouteQueueing} {current : GatewayRoute} : e.queuesRoute = some q →
      q.route.id = r.id → w.route? r.id = some current → r'.generation = current.generation + 1 →
      r'.observed = r.observed → r'.identity = r.identity → RouteStep e w r r'
  | observed {o : Observation} : e.observes = some o → o.routeId = r.id →
      r.awaits o.generation o.jobId →
      r'.observed = (o.state, if o.state = .absent then none else o.revision, o.generation) →
      r'.generation = r.generation → r'.reconcileJobId = none → r'.identity = r.identity →
      RouteStep e w r r'
  | failed : r'.observed = r.observed → r'.generation = r.generation → r'.reconcileJobId = none →
      r'.identity = r.identity → RouteStep e w r r'

/-- The row of a reservation. -/
structure GatewayRoute.Reserved (r : GatewayRoute) : Prop where
  generation : r.generation = 0
  observedGeneration : r.observedGeneration = 0
  reconcileJobId : r.reconcileJobId = none

/-- The route that a statement may add: an environment has at most one. -/
inductive AddsRoute (w : World) : List GatewayRoute → Prop where
  | nothing : AddsRoute w []
  | reserved {r : GatewayRoute} : r.Reserved →
      (∀ x ∈ w.db.gatewayRoutes.rows, x.environmentId ≠ r.environmentId) → AddsRoute w [r]

def RoutesAfter {β : Type} (e : Stmt β) (w w' : World) : Prop :=
  ∃ (u : GatewayRoute → GatewayRoute) (added : List GatewayRoute),
    w'.db.gatewayRoutes.rows = w.db.gatewayRoutes.rows.map u ++ added ∧
      (∀ r, RouteStep e w r (u r)) ∧ AddsRoute w added

section Rewriting

variable {β : Type} {e : Stmt β} {i : Input} {w w' : World}

theorem routesAfter_kept (h : w'.db.gatewayRoutes = w.db.gatewayRoutes) : RoutesAfter e w w' :=
  ⟨id, [], by simp [h], fun _ => .kept rfl, .nothing⟩

theorem routesAfter_updated {p : GatewayRoute → Bool} {d : GatewayRoute → GatewayRoute}
    (hw : w'.db.gatewayRoutes = w.db.gatewayRoutes.updateMany p d)
    (h : ∀ r, p r = true → RouteStep e w r (d r)) : RoutesAfter e w w' := by
  refine ⟨fun r => if p r then d r else r, [], by simp [hw, Table.updateMany], fun r => ?_, .nothing⟩
  by_cases hp : p r = true
  · simp only [hp, if_true]; exact h r hp
  · simp only [hp]; exact .kept rfl

theorem routes_run (e : Stmt β) (i : Input) (w : World) : RoutesAfter e w (e.run i w).2 := by
  cases hw : e.writesRoutes with
  | false => exact routesAfter_kept (gatewayRoutes_run_of_reads e i w hw)
  | true =>
    cases e with
    | createRoute environmentId targetId allocationId hostname =>
      simp only [Stmt.run]
      split
      · exact routesAfter_kept rfl
      · rename_i hnone
        refine ⟨id, _, by rw [List.map_id]; rfl, fun _ => .kept rfl, .reserved ⟨rfl, rfl, rfl⟩ ?_⟩
        intro x hx heq
        have hother := (Table.count_eq_zero_iff _ _).mp (not_not.mp hnone) x hx
        simp [heq] at hother
    | queueRouteJob route targetId allocation name request =>
      simp only [Stmt.run, World.queueRouteJob]
      split
      · exact routesAfter_kept rfl
      · split
        · exact routesAfter_kept rfl
        · rename_i current hcurrent
          split
          · exact routesAfter_kept rfl
          · refine routesAfter_updated rfl fun r hr => ?_
            have hid : r.id = route.id := beq_iff_eq.mp hr
            exact .queued (q := ⟨route, targetId, allocation, name, request⟩) rfl hid.symm
              (hid ▸ hcurrent) rfl rfl rfl
    | observeRoute routeId generation jobId state revision now =>
      refine routesAfter_updated rfl fun r hr => ?_
      simp only [Bool.and_eq_true, beq_iff_eq] at hr
      exact .observed (o := ⟨routeId, generation, jobId, state, revision⟩) rfl hr.1.1.symm
        ⟨hr.1.2, hr.2⟩ rfl rfl rfl rfl
    | failRoute =>
      exact routesAfter_updated rfl fun r hr => .failed rfl rfl rfl rfl
    | _ => cases hw

theorem routes_exec (e : Stmt β) (i : Input) (w : World) :
    RoutesAfter e (w.tick i.dbNow) (exec e i w).2 := by
  rcases exec_cases e i w with ⟨_, _, he⟩ | ⟨_, he⟩
  · rw [he]; exact routesAfter_kept rfl
  · rw [he]; exact routes_run e i _

theorem RouteStep.identity {r r' : GatewayRoute} (h : RouteStep e w r r') :
    r'.identity = r.identity := by
  cases h with
  | kept h => rw [h]
  | queued _ _ _ _ _ h => exact h
  | observed _ _ _ _ _ _ h => exact h
  | failed _ _ _ h => exact h

theorem RouteStep.id {r r' : GatewayRoute} (h : RouteStep e w r r') : r'.id = r.id :=
  congrArg Prod.fst h.identity

theorem route?_after {id : Id} {r : GatewayRoute} (h : RoutesAfter e w w')
    (hr : w.route? id = some r) : ∃ r', w'.route? id = some r' ∧ RouteStep e w r r' := by
  obtain ⟨u, added, hrows, hu, _⟩ := h
  refine ⟨u r, ?_, hu r⟩
  simp only [World.route?, Table.find?] at hr ⊢
  have hkey : ((fun r => decide (Keyed.key r = id)) ∘ u) =
      fun r : GatewayRoute => decide (Keyed.key r = id) := by
    funext r
    exact congrArg (fun k : Id => decide (k = id)) (hu r).id
  rw [hrows, List.find?_append, List.find?_map, hkey, hr]
  rfl

/-- The observed generation does not exceed the current one, and once it is the current one no
projection of a route job is due. -/
structure GatewayRoute.Fenced (r : GatewayRoute) : Prop where
  le : r.observedGeneration ≤ r.generation
  settled : r.observedGeneration = r.generation → r.reconcileJobId = none

def World.RoutesFenced (w : World) : Prop := ∀ r ∈ w.db.gatewayRoutes.rows, r.Fenced

theorem fenced_reserved {r : GatewayRoute} (h : r.Reserved) : r.Fenced :=
  ⟨Nat.le_of_eq (by rw [h.generation, h.observedGeneration]), fun _ => h.reconcileJobId⟩

theorem RouteStep.observedGeneration {r r' : GatewayRoute} (h : r'.observed = r.observed) :
    r'.observedGeneration = r.observedGeneration := congrArg (fun o => o.2.2) h

theorem RouteStep.fenced {r r' : GatewayRoute} (h : RouteStep e w r r')
    (hcurrent : w.route? r.id = some r) (hr : r.Fenced) : r'.Fenced := by
  cases h with
  | kept h => rw [h]; exact hr
  | queued _ _ hc hg ho _ =>
    obtain rfl := Option.some.inj (hc.symm.trans hcurrent)
    have hobs := RouteStep.observedGeneration ho
    have hle := hr.le
    refine ⟨by omega, fun h => ?_⟩
    omega
  | @observed o _ _ ha ho hg hj _ =>
    have hobs : r'.observedGeneration = o.generation := congrArg (fun o => o.2.2) ho
    exact ⟨Nat.le_of_eq (by rw [hobs, hg, ha.1]), fun _ => hj⟩
  | failed ho hg hj _ =>
    refine ⟨?_, fun _ => hj⟩
    rw [RouteStep.observedGeneration ho, hg]
    exact hr.le

theorem routesFenced_exec (hk : w.WellKeyed) (hf : w.RoutesFenced) :
    (exec e i w).2.RoutesFenced := by
  obtain ⟨u, added, hrows, hu, hadded⟩ := routes_exec e i w
  intro r' hr'
  rw [hrows] at hr'
  rcases List.mem_append.mp hr' with hr' | hr'
  · obtain ⟨r, hr, rfl⟩ := List.mem_map.mp hr'
    exact (hu r).fenced (hk.gatewayRoutes.find?_of_mem hr) (hf r hr)
  · cases hadded with
    | nothing => cases hr'
    | reserved h _ =>
      rw [List.mem_singleton.mp hr']
      exact fenced_reserved h

def World.RoutesUnique (w : World) : Prop :=
  ∀ r ∈ w.db.gatewayRoutes.rows, ∀ r' ∈ w.db.gatewayRoutes.rows,
    r.environmentId = r'.environmentId → r = r'

theorem routesUnique_exec (hw : w.RoutesUnique) : (exec e i w).2.RoutesUnique := by
  obtain ⟨u, added, hrows, hu, hadded⟩ := routes_exec e i w
  have henv : ∀ r, (u r).environmentId = r.environmentId :=
    fun r => congrArg (fun k => k.2.1) (hu r).identity
  have hmem : ∀ r ∈ (exec e i w).2.db.gatewayRoutes.rows,
      (∃ a ∈ w.db.gatewayRoutes.rows, u a = r) ∨ r ∈ added := by
    intro r hr
    rw [hrows] at hr
    exact (List.mem_append.mp hr).imp_left List.mem_map.mp
  have hnew : ∀ a ∈ w.db.gatewayRoutes.rows, ∀ r ∈ added, (u a).environmentId ≠ r.environmentId := by
    intro a ha r hr
    cases hadded with
    | nothing => cases hr
    | reserved _ h =>
      rw [List.mem_singleton.mp hr, henv]
      exact h a ha
  intro r hr r' hr' heq
  rcases hmem r hr with ⟨a, ha, rfl⟩ | hr <;> rcases hmem r' hr' with ⟨b, hb, rfl⟩ | hr'
  · rw [henv, henv] at heq
    rw [hw a ha b hb heq]
  · exact absurd heq (hnew a ha r' hr')
  · exact absurd heq.symm (hnew b hb r hr)
  · cases hadded with
    | nothing => cases hr
    | reserved => rw [List.mem_singleton.mp hr, List.mem_singleton.mp hr']

end Rewriting

end InitPad
