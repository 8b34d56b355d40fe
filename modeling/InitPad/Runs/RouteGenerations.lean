import InitPad.Runs.AgentWorkflow

/-!
# InitPad.Runs.RouteGenerations

The generations of one gateway route. Every accepted request id creates one route job with the
next generation, and a route observes the outcome of a job only while the job's generation is the
newest one. `route_generations` follows one route along every interleaving of `queueReconcile`
calls and Agent requests.
-/

namespace InitPad

open Store Interleave Prog

def World.routeJobs (w : World) (routeId : Id) : List AgentJob :=
  w.db.agentJobs.rows.filter fun j => j.gatewayRouteId == some routeId

def DedupeKey.routeRequest : DedupeKey → Option Id
  | .gatewayRoute _ requestId => some requestId
  | _ => none

/-- The request ids that got a job, oldest first. -/
def World.routeRequests (w : World) (routeId : Id) : List Id :=
  (w.routeJobs routeId).filterMap fun j => j.dedupeKey.routeRequest

structure World.Generations (w : World) (routeId : Id) : Prop where
  keys : ∀ j ∈ w.db.agentJobs.rows, ∀ id,
    j.gatewayRouteId = some id ↔ ∃ requestId, j.dedupeKey = .gatewayRoute id requestId
  distinct : (w.routeRequests routeId).Nodup
  numbered : ∃ r, w.route? routeId = some r ∧
    (w.routeJobs routeId).map (·.payload.generation) = (List.range' 1 r.generation).map some

section Rows

variable {w w' : World} {routeId : Id} {u : AgentJob → AgentJob} {added : List AgentJob}

theorem routeJobs_rewritten (hrows : w'.db.agentJobs.rows = w.db.agentJobs.rows.map u ++ added)
    (hu : ∀ j, SameJob j (u j)) :
    w'.routeJobs routeId = (w.routeJobs routeId).map u ++
      added.filter fun j => j.gatewayRouteId == some routeId := by
  unfold World.routeJobs
  rw [hrows, List.filter_append, List.filter_map]
  congr 3
  funext j
  simp only [Function.comp, (hu j).gatewayRouteId]

theorem routeGenerations_rewritten
    (hrows : w'.db.agentJobs.rows = w.db.agentJobs.rows.map u ++ added)
    (hu : ∀ j, SameJob j (u j)) :
    (w'.routeJobs routeId).map (·.payload.generation) =
      (w.routeJobs routeId).map (·.payload.generation) ++
        (added.filter fun j => j.gatewayRouteId == some routeId).map (·.payload.generation) := by
  rw [routeJobs_rewritten hrows hu, List.map_append, List.map_map]
  congr 2
  funext j
  simp only [Function.comp, (hu j).payload]

theorem routeRequests_rewritten
    (hrows : w'.db.agentJobs.rows = w.db.agentJobs.rows.map u ++ added)
    (hu : ∀ j, SameJob j (u j)) :
    w'.routeRequests routeId = w.routeRequests routeId ++
      (added.filter fun j => j.gatewayRouteId == some routeId).filterMap
        fun j => j.dedupeKey.routeRequest := by
  rw [World.routeRequests, routeJobs_rewritten hrows hu, List.filterMap_append, List.filterMap_map]
  congr 2
  funext j
  simp only [Function.comp, (hu j).dedupeKey]

theorem keys_rewritten (hrows : w'.db.agentJobs.rows = w.db.agentJobs.rows.map u ++ added)
    (hu : ∀ j, SameJob j (u j)) (h : w.Generations routeId)
    (hadded : ∀ j ∈ added, ∀ id,
      j.gatewayRouteId = some id ↔ ∃ requestId, j.dedupeKey = .gatewayRoute id requestId) :
    ∀ j ∈ w'.db.agentJobs.rows, ∀ id,
      j.gatewayRouteId = some id ↔ ∃ requestId, j.dedupeKey = .gatewayRoute id requestId := by
  intro j' hj' id
  rw [hrows] at hj'
  rcases List.mem_append.mp hj' with hj' | hj'
  · obtain ⟨j, hj, rfl⟩ := List.mem_map.mp hj'
    rw [(hu j).gatewayRouteId, (hu j).dedupeKey]
    exact h.keys j hj id
  · exact hadded j' hj' id

theorem not_mem_routeRequests (h : w.Generations routeId) {requestId : Id}
    (hkey : w.db.jobWithKey (.gatewayRoute routeId requestId) = none) :
    requestId ∉ w.routeRequests routeId := by
  intro hmem
  obtain ⟨j, hj, hrequest⟩ := List.mem_filterMap.mp hmem
  obtain ⟨hrow, hroute⟩ := List.mem_filter.mp hj
  obtain ⟨q, hq⟩ := (h.keys j hrow routeId).mp (beq_iff_eq.mp hroute)
  rw [hq] at hrequest
  obtain rfl := Option.some.inj hrequest
  have hnone := List.find?_eq_none.mp hkey j hrow
  rw [hq] at hnone
  exact hnone (beq_self_eq_true _)

end Rows

/-- One statement accepts at most one new request id for the route, and its generation grows by
exactly one when it does. -/
inductive NextGeneration {β : Type} (routeId : Id) (e : Stmt β) (w w' : World) : Prop where
  | kept {r r' : GatewayRoute} : w.route? routeId = some r → w'.route? routeId = some r' →
      r'.generation = r.generation → w'.routeRequests routeId = w.routeRequests routeId →
      NextGeneration routeId e w w'
  | accepted {r r' : GatewayRoute} {q : RouteQueueing} : w.route? routeId = some r →
      w'.route? routeId = some r' → e.queuesRoute = some q → q.route.id = routeId →
      q.request.requestId ∉ w.routeRequests routeId → r'.generation = r.generation + 1 →
      w'.routeRequests routeId = w.routeRequests routeId ++ [q.request.requestId] →
      NextGeneration routeId e w w'

section Steps

variable {β : Type} {e : Stmt β} {i : Input} {w w' : World} {routeId : Id}
  {foreign : GatewayRouteReconcileRequest → Prop} {scope : World → Prop}

theorem generations_kept {u : AgentJob → AgentJob} {added : List AgentJob} {r r' : GatewayRoute}
    (h : w.Generations routeId)
    (hrows : w'.db.agentJobs.rows = w.db.agentJobs.rows.map u ++ added)
    (hu : ∀ j, SameJob j (u j))
    (hadded : ∀ j ∈ added, ∀ id,
      j.gatewayRouteId = some id ↔ ∃ requestId, j.dedupeKey = .gatewayRoute id requestId)
    (hother : ∀ j ∈ added, j.gatewayRouteId ≠ some routeId)
    (hr : w.route? routeId = some r) (hr' : w'.route? routeId = some r')
    (hgeneration : r'.generation = r.generation) :
    w'.Generations routeId ∧ NextGeneration routeId e w w' := by
  have hnone : (added.filter fun j => j.gatewayRouteId == some routeId) = [] :=
    List.filter_eq_nil_iff.mpr fun j hj => by simpa using hother j hj
  have hrequests : w'.routeRequests routeId = w.routeRequests routeId := by
    rw [routeRequests_rewritten hrows hu, hnone]
    exact List.append_nil _
  have hgenerations : (w'.routeJobs routeId).map (·.payload.generation) =
      (w.routeJobs routeId).map (·.payload.generation) := by
    rw [routeGenerations_rewritten hrows hu, hnone]
    exact List.append_nil _
  obtain ⟨r₀, hr₀, hnumbered⟩ := h.numbered
  obtain rfl := Option.some.inj (hr.symm.trans hr₀)
  refine ⟨⟨keys_rewritten hrows hu h hadded, hrequests ▸ h.distinct, r', hr', ?_⟩,
    .kept hr hr' hgeneration hrequests⟩
  rw [hgenerations, hgeneration]
  exact hnumbered

theorem generations_same (h : w.Generations routeId) (hjobs : w'.db.agentJobs = w.db.agentJobs)
    (hroutes : w'.db.gatewayRoutes = w.db.gatewayRoutes) :
    w'.Generations routeId ∧ NextGeneration routeId e w w' := by
  obtain ⟨r, hr, _⟩ := h.numbered
  have hr' : w'.route? routeId = some r := by rw [World.route?, hroutes]; exact hr
  have hrows : w'.db.agentJobs.rows = w.db.agentJobs.rows.map id ++ [] := by simp [hjobs]
  exact generations_kept h hrows (fun j => .refl j)
    (fun _ hj => absurd hj List.not_mem_nil) (fun _ hj => absurd hj List.not_mem_nil) hr hr' rfl

theorem generations_accepted {u : AgentJob → AgentJob} {j : AgentJob} {r r' : GatewayRoute}
    {q : RouteQueueing} (h : w.Generations routeId)
    (hrows : w'.db.agentJobs.rows = w.db.agentJobs.rows.map u ++ [j])
    (hu : ∀ j, SameJob j (u j)) (hq : e.queuesRoute = some q) (hid : q.route.id = routeId)
    (hfresh : w.db.jobWithKey (.gatewayRoute routeId q.request.requestId) = none)
    (hroute : j.gatewayRouteId = some routeId)
    (hkey : j.dedupeKey = .gatewayRoute routeId q.request.requestId)
    (hpayload : j.payload.generation = some (r.generation + 1))
    (hr : w.route? routeId = some r) (hr' : w'.route? routeId = some r')
    (hgeneration : r'.generation = r.generation + 1) :
    w'.Generations routeId ∧ NextGeneration routeId e w w' := by
  have hnew : [j].filter (fun j => j.gatewayRouteId == some routeId) = [j] :=
    List.filter_eq_self.mpr fun a ha => by
      rw [List.mem_singleton.mp ha]
      exact beq_iff_eq.mpr hroute
  have hnot := not_mem_routeRequests h hfresh
  have hrequests : w'.routeRequests routeId =
      w.routeRequests routeId ++ [q.request.requestId] := by
    rw [routeRequests_rewritten hrows hu, hnew]
    simp [hkey, DedupeKey.routeRequest]
  obtain ⟨r₀, hr₀, hnumbered⟩ := h.numbered
  obtain rfl := Option.some.inj (hr.symm.trans hr₀)
  refine ⟨⟨keys_rewritten hrows hu h ?_, ?_, r', hr', ?_⟩,
    .accepted hr hr' hq hid hnot hgeneration hrequests⟩
  · intro a ha id
    rw [List.mem_singleton.mp ha, hroute, hkey]
    constructor
    · intro hid
      obtain rfl := Option.some.inj hid
      exact ⟨_, rfl⟩
    · rintro ⟨_, hrequest⟩
      cases hrequest
      rfl
  · rw [hrequests]
    exact List.nodup_append.mpr ⟨h.distinct, List.nodup_singleton _, fun a ha b hb hab => hnot (by
      rw [← List.mem_singleton.mp hb, ← hab]; exact ha)⟩
  · rw [routeGenerations_rewritten hrows hu, hnew, hnumbered, hgeneration, List.range'_concat,
      List.map_append]
    simp [hpayload, Nat.add_comm]

theorem generations_queueRouteJob {route : GatewayRoute} {targetId : Id}
    {allocation : TargetAllocation} {name : EnvName} {request : GatewayRouteReconcileRequest}
    (h : w.Generations routeId) :
    (w.queueRouteJob route targetId allocation name request i).2.Generations routeId ∧
      NextGeneration routeId (Stmt.queueRouteJob route targetId allocation name request) w
        (w.queueRouteJob route targetId allocation name request i).2 := by
  simp only [World.queueRouteJob]
  split
  · exact generations_same h rfl rfl
  · rename_i hkey
    split
    · exact generations_same h rfl rfl
    · rename_i current hcurrent
      split
      · exact generations_same h rfl rfl
      · let q : RouteQueueing := ⟨route, targetId, allocation, name, request⟩
        let u : AgentJob → AgentJob := fun j =>
          if j.gatewayRouteId == some route.id && j.status == .queued then
            { j.cancel "Superseded by a newer gateway route generation" i.now with
              progressStage := .cancelled }
          else j
        have hu : ∀ j, SameJob j (u j) := by
          intro j
          simp only [u]
          split
          · exact ⟨rfl, rfl, rfl, rfl, rfl, rfl, rfl⟩
          · exact .refl j
        let d : GatewayRoute → GatewayRoute := fun r =>
          { r with
            generation := current.generation + 1
            desiredState := request.desiredState
            desiredRevision := request.revision
            reconcileJobId := some (q.job current i w).id }
        obtain ⟨r, hr, _⟩ := h.numbered
        have hafter := Table.find?_updateMany w.db.gatewayRoutes (fun r => r.id == route.id)
          (d := d) (fun _ => rfl) routeId
        rw [show w.db.gatewayRoutes.find? routeId = some r from hr, Option.map_some] at hafter
        have hrid : r.id = routeId := Table.find?_key hr
        by_cases hid : route.id = routeId
        · subst hid
          obtain rfl := Option.some.inj (hr.symm.trans hcurrent)
          rw [if_pos (beq_iff_eq.mpr hrid)] at hafter
          exact generations_accepted (u := u) (q := q) h rfl hu rfl rfl hkey rfl rfl rfl hr hafter
            rfl
        · rw [if_neg (by rw [hrid]; simpa using fun h => hid h.symm)] at hafter
          refine generations_kept (u := u) h rfl hu ?_ ?_ hr hafter rfl
          · intro j hj id
            obtain rfl := List.mem_singleton.mp hj
            constructor
            · intro hid
              obtain rfl := Option.some.inj hid
              exact ⟨request.requestId, rfl⟩
            · rintro ⟨_, hrequest⟩
              cases hrequest
              rfl
          · intro j hj
            rw [List.mem_singleton.mp hj]
            exact fun heq => hid (Option.some.inj heq)

theorem generations_exec (hg : e.Grounded foreign scope w) (h : w.Generations routeId) :
    (exec e i w).2.Generations routeId ∧ NextGeneration routeId e w (exec e i w).2 := by
  rcases exec_cases e i w with ⟨_, _, he⟩ | ⟨_, he⟩
  · rw [he]
    exact generations_same h rfl rfl
  have htick : (w.tick i.dbNow).Generations routeId := ⟨h.keys, h.distinct, h.numbered⟩
  rw [he]
  cases hq : e.queuesRoute with
  | some q =>
    cases e with
    | queueRouteJob route targetId allocation name request =>
      have hqueue : ((w.tick i.dbNow).queueRouteJob route targetId allocation name request
          i).2.Generations routeId ∧ _ := generations_queueRouteJob htick
      obtain ⟨hgenerations, hnext⟩ := hqueue
      refine ⟨hgenerations, ?_⟩
      cases hnext with
      | kept hr hr' hgeneration hrequests => exact .kept hr hr' hgeneration hrequests
      | accepted hr hr' hq hid hnot hgeneration hrequests =>
        exact .accepted hr hr' hq hid hnot hgeneration hrequests
    | _ => cases hq
  | none =>
    obtain ⟨u, added, hrows, hu, hadded⟩ := jobs_run e i (w.tick i.dbNow)
    obtain ⟨r, hr, _⟩ := h.numbered
    have hr₀ : (w.tick i.dbNow).route? routeId = some r := hr
    obtain ⟨r', hr', hstep⟩ := route?_after (routes_run e i (w.tick i.dbNow)) hr₀
    have hneutral : ∀ j ∈ added, j.gatewayRouteId = none ∧
        ∀ id requestId, j.dedupeKey ≠ .gatewayRoute id requestId := by
      intro j hj
      cases hadded with
      | nothing => cases hj
      | @upsert job hupsert _ _ =>
        rw [List.mem_singleton.mp hj]
        have hworkload := hg.workload job hupsert
        exact ⟨hworkload.route, hworkload.key⟩
      | route hqueue => rw [hq] at hqueue; cases hqueue
    refine generations_kept (w := w) h hrows (fun j => (hu j).same) ?_ ?_ hr hr' ?_
    · intro j hj id
      obtain ⟨hroute, hkey⟩ := hneutral j hj
      rw [hroute]
      exact ⟨nofun, fun ⟨requestId, h⟩ => absurd h (hkey id requestId)⟩
    · intro j hj
      rw [(hneutral j hj).1]
      exact nofun
    · cases hstep with
      | kept h => rw [h]
      | queued hqueue _ _ _ _ _ => rw [hq] at hqueue; cases hqueue
      | observed _ _ _ _ h _ _ => exact h
      | failed _ h _ _ => exact h

theorem mem_routeRequests {j : AgentJob} {requestId : Id} (hj : j ∈ w.db.agentJobs.rows)
    (hroute : j.gatewayRouteId = some routeId)
    (hkey : j.dedupeKey = .gatewayRoute routeId requestId) : requestId ∈ w.routeRequests routeId := by
  refine List.mem_filterMap.mpr ⟨j, List.mem_filter.mpr ⟨hj, beq_iff_eq.mpr hroute⟩, ?_⟩
  rw [hkey]
  rfl

theorem answered_queueRouteJob {route : GatewayRoute} {targetId : Id}
    {allocation : TargetAllocation} {name : EnvName} {request : GatewayRouteReconcileRequest}
    {job : GatewayRouteReconcileJob} (h : w.Generations route.id)
    (hok : (w.queueRouteJob route targetId allocation name request i).1 = .ok job) :
    request.requestId ∈
      (w.queueRouteJob route targetId allocation name request i).2.routeRequests route.id := by
  revert hok
  simp only [World.queueRouteJob]
  split
  · rename_i duplicate hduplicate
    intro _
    have hrow := List.mem_of_find?_eq_some hduplicate
    have hkey : duplicate.dedupeKey = .gatewayRoute route.id request.requestId := by
      simpa using List.find?_some hduplicate
    exact mem_routeRequests hrow ((h.keys duplicate hrow route.id).mpr ⟨_, hkey⟩) hkey
  · split
    · intro hok; cases hok
    · split
      · intro hok; cases hok
      · intro _
        exact mem_routeRequests (List.mem_append_right _ (List.mem_singleton_self _)) rfl rfl

theorem answered_exec {e : Stmt β} {q : RouteQueueing} {a : β} (h : w.Generations routeId)
    (hq : e.queuesRoute = some q) (hid : q.route.id = routeId) (hok : (exec e i w).1 = .ok a) :
    q.request.requestId ∈ (exec e i w).2.routeRequests routeId := by
  rcases exec_cases e i w with ⟨_, _, he⟩ | ⟨_, he⟩
  · rw [he] at hok; cases hok
  · rw [he] at hok ⊢
    have htick : (w.tick i.dbNow).Generations routeId := ⟨h.keys, h.distinct, h.numbered⟩
    cases e with
    | queueRouteJob route targetId allocation name request =>
      cases hq
      subst hid
      exact answered_queueRouteJob htick hok
    | _ => cases hq

end Steps

/-- The triple comes from a succeeded job of the route whose payload carries the route's current
generation. -/
def World.observesJob (w : World) (r r' : GatewayRoute) : Prop :=
  ∃ j state revision, w.job? j.id = some j ∧ j.status = .succeeded ∧
    j.gatewayRouteId = some r.id ∧ routeIntent j.payload = some (r.generation, state, revision) ∧
    r'.observed = (state, if state = .absent then none else revision, r.generation)

structure ObservationFenced (w : World) (r r' : GatewayRoute) : Prop where
  monotone : r.observedGeneration ≤ r'.observedGeneration
  earned : r'.observed ≠ r.observed → w.observesJob r r'

theorem observationFenced_of_step {β : Type} {e : Stmt β} {w w₀ : World} {r r' : GatewayRoute}
    {foreign : GatewayRouteReconcileRequest → Prop} {scope : World → Prop}
    (hg : e.Grounded foreign scope w)
    (hf : r.Fenced) (h : RouteStep e w₀ r r') : ObservationFenced w r r' := by
  have hsame : r'.observed = r.observed → ObservationFenced w r r' := fun h =>
    ⟨Nat.le_of_eq (RouteStep.observedGeneration h).symm, fun hne => absurd h hne⟩
  cases h with
  | kept h => exact hsame (by rw [h])
  | queued _ _ _ _ h _ => exact hsame h
  | failed h _ _ _ => exact hsame h
  | @observed o ho hid ha hobserved _ _ _ =>
    obtain ⟨j, hj, hs, _, hroute, hintent⟩ := (hg.observes o ho).job
    have hjid : j.id = o.jobId := Table.find?_key hj
    refine ⟨?_, fun _ => ⟨j, o.state, o.revision, hjid ▸ hj, hs, hid ▸ hroute, ?_, ?_⟩⟩
    · have hgeneration : r'.observedGeneration = o.generation := congrArg (fun o => o.2.2) hobserved
      rw [hgeneration, ← ha.1]
      exact hf.le
    · rw [ha.1]; exact hintent
    · rw [ha.1]; exact hobserved

/-! ## Runs -/

/-- The generations of a route that has accepted the requests `routeRequests`. -/
structure World.Numbered (w : World) (routeId : Id) (r : GatewayRoute) : Prop where
  row : w.route? routeId = some r
  distinct : (w.routeRequests routeId).Nodup
  generation : r.generation = (w.routeRequests routeId).length
  observed : r.observedGeneration ≤ r.generation
  current : ∀ j ∈ w.routeJobs routeId, ∀ j' ∈ w.routeJobs routeId,
    j.pending = true → j'.pending = true → j.payload.generation = some r.generation →
      j'.payload.generation = some r.generation → j = j'

theorem numbered_of_generations {w : World} {routeId : Id} (hf : w.RoutesFenced)
    (h : w.Generations routeId) : ∃ r, w.Numbered routeId r := by
  obtain ⟨r, hr, hnumbered⟩ := h.numbered
  refine ⟨r, hr, h.distinct, ?_, (hf r (Table.mem_of_find? hr)).le, ?_⟩
  · have hlength : (w.routeRequests routeId).length = (w.routeJobs routeId).length := by
      rw [World.routeRequests, List.length_filterMap_eq_countP]
      refine List.countP_eq_length.mpr fun j hj => ?_
      obtain ⟨hrow, hroute⟩ := List.mem_filter.mp hj
      obtain ⟨q, hq⟩ := (h.keys j hrow routeId).mp (beq_iff_eq.mp hroute)
      rw [hq]
      rfl
    have hcount := congrArg List.length hnumbered
    simp only [List.length_map, List.length_range'] at hcount
    rw [hlength, hcount]
  · intro j hj j' hj' _ _ hgeneration hgeneration'
    have hnodup : ((w.routeJobs routeId).map (·.payload.generation)).Nodup := by
      rw [hnumbered]
      exact (List.nodup_range' (h := by decide)).map (Option.some_injective _)
    exact List.inj_on_of_nodup_map hnodup hj hj' (hgeneration.trans hgeneration'.symm)

/-- One transition of a run, for one route. -/
structure RouteFenced (routeId : Id) (x : Step) : Prop where
  next : NextGeneration routeId x.stmt x.pre.state x.post.state
  answered : ∀ q a, x.stmt.queuesRoute = some q → q.route.id = routeId → x.result = .ok a →
    q.request.requestId ∈ x.post.state.routeRequests routeId
  observation : ∃ r r', x.pre.state.route? routeId = some r ∧
    x.post.state.route? routeId = some r' ∧ ObservationFenced x.pre.state r r'

/-- Along every interleaving of `queueReconcile` calls with any request ids, Agent requests and
projections, the generation of a route counts its distinct request ids, every observation is that
of a succeeded job of the generation that is then the newest, observed generations never decrease
nor exceed the generation, and at most one job that is not terminal has the current one. -/
theorem route_generations {foreign : GatewayRouteReconcileRequest → Prop} {w : World} {c : System}
    {tr : List Step} {routeId : Id} (hk : w.WellKeyed) (hf : w.RoutesFenced)
    (hw : w.Generations routeId) (h : Run (Workflow foreign) (Config.start w) tr c) :
    (∀ x ∈ tr, RouteFenced routeId x) ∧ ∃ r, c.moment.state.Numbered routeId r := by
  have hground : ∀ x ∈ tr, x.stmt.Grounded foreign (fun _ => True) x.pre.state :=
    grounded_run hk hf h fun _ _ _ => trivial
  let P : Instant → Prop := fun m =>
    m.state.WellKeyed ∧ m.state.RoutesFenced ∧ m.state.Generations routeId
  have hstep : ∀ x : Step, x.stmt.Grounded foreign (fun _ => True) x.pre.state → P x.pre → P x.post :=
    fun x hx hm => ⟨hm.1.exec x.stmt x.input, routesFenced_exec hm.1 hm.2.1,
      (generations_exec hx hm.2.2).1⟩
  have hend := h.preserves P _ hstep hground ⟨hk, hf, hw⟩
  refine ⟨fun x hx => ?_, numbered_of_generations hend.2.1 hend.2.2⟩
  have hpre := h.preserves_pre P _ hstep hground ⟨hk, hf, hw⟩ x hx
  refine ⟨(generations_exec (hground x hx) hpre.2.2).2,
    fun q a hq hid hok => answered_exec hpre.2.2 hq hid hok, ?_⟩
  obtain ⟨r, hr, _⟩ := hpre.2.2.numbered
  obtain ⟨r', hr', hroute⟩ := route?_after (routes_exec x.stmt x.input x.pre.state) hr
  exact ⟨r, r', hr, hr', observationFenced_of_step (hground x hx)
    (hpre.2.1 r (Table.mem_of_find? hr)) hroute⟩

/-! Request `1` is claimed, request `2` starts the next generation while its job is leased, and is
repeated; then both jobs complete. -/

def routeRequest (requestId : Id) (revision : String) : GatewayRouteReconcileRequest where
  requestId := requestId
  desiredState := .active
  revision := some revision
  projectSlug := "shop"
  containerPort := 8080
  healthPath := "/health"
  workloadSlot := some "0123456789ab"
  activation := some .deploy
  deploymentOperationId := none
  operationStep := none
  correlationId := none

def routedGateway : World :=
  let w := gatewayWorld gatewayEnvironment [] []
  { w with db := { w.db with gatewayRoutes := ⟨[reservedRoute]⟩ } }

def queueRequest (requestId : Id) (revision : String) : Async Unit :=
  ignoreError (queueReconcile (sampleApi 0).platform 0 (routeRequest requestId revision))

def overlappingRequests : List (Async Unit) :=
  [queueRequest 1 "first", agentClaims, queueRequest 2 "second", queueRequest 2 "second",
    agentCompletes 10 (agentSuccess none), agentClaims, agentCompletes 11 (agentSuccess none)]

theorem workflow_of_mem_overlappingRequests {m : Instant} :
    ∀ p ∈ overlappingRequests, Workflow (fun _ => True) m p := by
  intro p hp
  simp only [overlappingRequests, List.mem_cons, List.not_mem_nil, or_false] at hp
  rcases hp with rfl | rfl | rfl | rfl | rfl | rfl | rfl
  · exact .queueReconcile _ _ _ trivial
  · exact .claim _ _
  · exact .queueReconcile _ _ _ trivial
  · exact .queueReconcile _ _ _ trivial
  · exact .completeJob _ _ _ _ _
  · exact .claim _ _
  · exact .completeJob _ _ _ _ _

theorem routedGateway_wellKeyed : routedGateway.WellKeyed :=
  ⟨by decide, by decide, by decide, by decide, by decide, by decide, by decide⟩

theorem routedGateway_fenced : routedGateway.RoutesFenced := by
  intro r hr
  rw [List.mem_singleton.1 hr]
  exact fenced_reserved ⟨rfl, rfl, rfl⟩

theorem routedGateway_generations : routedGateway.Generations 7 where
  keys := by
    intro j hj
    exact absurd hj (List.not_mem_nil)
  distinct := List.nodup_nil
  numbered := ⟨reservedRoute, rfl, rfl⟩

/-- Both generations are observed in the end, although the first was reported after the second was
queued. -/
theorem route_generations_overlapping : ∃ (c : System) (tr : List Step) (r : GatewayRoute),
    Run (Workflow fun _ => True) (Config.start routedGateway) tr c ∧
      (∀ x ∈ tr, RouteFenced 7 x) ∧ c.moment.state.Numbered 7 r ∧
      r.generation = 2 ∧ r.observedGeneration = 2 ∧ r.observedRevision = some "second" := by
  obtain ⟨tr, c, hrun, hcheck⟩ := run_of_plays (Config.start routedGateway) overlappingRequests
    (agentTurns 0 5 ++ agentTurns 1 5 ++ agentTurns 2 5 ++ agentTurns 3 4 ++ agentTurns 4 11 ++
      agentTurns 5 5 ++ agentTurns 6 11)
    (fun _ c => c.moment.state.db.gatewayRoutes.rows.all fun r => r.generation == 2 &&
      r.observedGeneration == 2 && r.observedRevision == some "second")
    workflow_of_mem_overlappingRequests (by decide)
  obtain ⟨hfenced, r, hr⟩ := route_generations routedGateway_wellKeyed routedGateway_fenced
    routedGateway_generations hrun
  simp only [List.all_eq_true, Bool.and_eq_true, beq_iff_eq] at hcheck
  have hlast := hcheck r (Table.mem_of_find? hr.row)
  exact ⟨c, tr, r, hrun, hfenced, hr, hlast.1.1, hlast.1.2, hlast.2⟩

end InitPad
