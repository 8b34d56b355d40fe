import InitPad.Gateway.Reconciler
import Mathlib.Data.List.Nodup

/-!
# InitPad.Gateway.HostRules

Which part of the machine each function of the reconciler can change, and what the functions that
change something have done when they succeed.
-/

namespace InitPad

open Interleave Prog

/-- The parts of a machine that calls change. -/
inductive HostPart where
  | routes | members | containers
  deriving DecidableEq

def HttpCall.part {β : Type} : HttpCall β → Option HostPart
  | .patchRoutes .. => some .routes
  | .connectNetwork .. | .disconnectNetwork .. => some .members
  | .removeContainer _ | .stopContainer _ => some .containers
  | _ => none

/-- No progress report, and no call that changes a part other than those. -/
def HostStmt.confined (parts : List HostPart) {β : Type} : HostStmt β → Bool
  | .http c => c.part.all parts.contains
  | .report _ => false
  | _ => true

def Confined (parts : List HostPart) {α : Type} (p : OnHost α) : Prop :=
  p.Only fun e => e.confined parts = true

section Frames

variable {α β : Type} {parts : List HostPart} {m m' : HostMoment}

theorem exec_http (call : HttpCall β) (i : HostInput) (h : GatewayHost) :
    exec (HostStmt.http call) i h =
      (i.response call h, if i.applies call then (call.answer h).2 else h) := rfl

theorem answer_frame {call : HttpCall β} (h : GatewayHost) :
    (call.part ≠ some .routes → (call.answer h).2.caddy = h.caddy) ∧
      (call.part ≠ some .containers → (call.answer h).2.containers = h.containers) ∧
      (call.part ≠ some .members → call.part ≠ some .containers →
        (call.answer h).2.networks = h.networks) := by
  cases call with
  | patchRoutes =>
    refine ⟨fun hp => absurd rfl hp, fun _ => ?_, fun _ _ => ?_⟩
    all_goals simp only [HttpCall.answer]; split <;> rfl
  | connectNetwork =>
    refine ⟨fun _ => ?_, fun _ => ?_, fun hp => absurd rfl hp⟩
    all_goals simp only [HttpCall.answer, GatewayHost.connectNetwork]; split <;> rfl
  | disconnectNetwork =>
    refine ⟨fun _ => ?_, fun _ => ?_, fun hp => absurd rfl hp⟩
    all_goals
      simp only [HttpCall.answer, GatewayHost.disconnectNetwork]
      split
      · rfl
      · split <;> rfl
  | removeContainer =>
    refine ⟨fun _ => ?_, fun hp => absurd rfl hp, fun _ hp => absurd rfl hp⟩
    simp only [HttpCall.answer, GatewayHost.removeContainer]
    split <;> rfl
  | stopContainer =>
    refine ⟨fun _ => ?_, fun hp => absurd rfl hp, fun _ hp => absurd rfl hp⟩
    simp only [HttpCall.answer, GatewayHost.stopContainer]
    split
    · rfl
    · split <;> rfl
  | _ => exact ⟨fun _ => rfl, fun _ => rfl, fun _ _ => rfl⟩

theorem answer_caddy {call : HttpCall β} (h : GatewayHost) (hp : call.part ≠ some .routes) :
    (call.answer h).2.caddy = h.caddy := (answer_frame h).1 hp

theorem answer_containers {call : HttpCall β} (h : GatewayHost)
    (hp : call.part ≠ some .containers) : (call.answer h).2.containers = h.containers :=
  (answer_frame h).2.1 hp

theorem answer_networks {call : HttpCall β} (h : GatewayHost) (hp : call.part ≠ some .members)
    (hc : call.part ≠ some .containers) : (call.answer h).2.networks = h.networks :=
  (answer_frame h).2.2 hp hc

theorem exec_part {γ : Type} {f : GatewayHost → γ} {part : HostPart} {e : HostStmt β}
    (hf : ∀ {δ : Type} (call : HttpCall δ) (h : GatewayHost), call.part ≠ some part →
      f (call.answer h).2 = f h) (hp : part ∉ parts) (he : e.confined parts = true)
    (i : HostInput) (h : GatewayHost) : f (exec e i h).2 = f h := by
  cases e with
  | http call =>
    rw [exec_http]
    split
    · refine hf call h fun hpart => hp ?_
      simpa [HostStmt.confined, hpart] using he
    · rfl
  | _ => rfl

variable {p : OnHost α} {r : Except AgentError α}

theorem Confined.caddy (hp : Confined parts p) (hparts : HostPart.routes ∉ parts)
    (h : Ends p m r m') : m'.state.caddy = m.state.caddy :=
  h.keeps (A := fun m₁ => m₁.state.caddy = m.state.caddy)
    (fun _ i m₁ he hm => (exec_part (f := fun h => h.caddy) (fun _ h hc => answer_caddy h hc)
      hparts he i m₁.state).trans hm) hp rfl

theorem Confined.containers (hp : Confined parts p) (hparts : HostPart.containers ∉ parts)
    (h : Ends p m r m') : m'.state.containers = m.state.containers :=
  h.keeps (A := fun m₁ => m₁.state.containers = m.state.containers)
    (fun _ i m₁ he hm => (exec_part (f := fun h => h.containers)
      (fun _ h hc => answer_containers h hc) hparts he i m₁.state).trans hm) hp rfl

theorem Confined.networks (hp : Confined parts p) (hm : HostPart.members ∉ parts)
    (hc : HostPart.containers ∉ parts) (h : Ends p m r m') :
    m'.state.networks = m.state.networks := by
  refine h.keeps (A := fun m₁ => m₁.state.networks = m.state.networks) (fun e i m₁ he hm₁ => ?_)
    hp rfl
  refine Eq.trans ?_ hm₁
  cases e with
  | http c =>
    change (exec _ i m₁.state).2.networks = _
    rw [exec_http]
    split
    · simp only [HostStmt.confined, Option.all_eq_true, List.contains_iff_mem] at he
      exact answer_networks _ (fun h => hm (he _ h)) fun h => hc (he _ h)
    · rfl
  | _ => rfl

theorem Confined.same (hp : Confined [] p) (h : Ends p m r m') : m'.state = m.state := by
  have hcaddy := hp.caddy List.not_mem_nil h
  have hcontainers := hp.containers List.not_mem_nil h
  have hnetworks := hp.networks List.not_mem_nil List.not_mem_nil h
  cases hs : m'.state
  cases hs' : m.state
  simp_all

theorem Confined.mono {parts' : List HostPart} (hp : Confined parts p)
    (h : ∀ part ∈ parts, part ∈ parts') : Confined parts' p := by
  refine Only.mono (fun e he => ?_) hp
  cases e with
  | http call =>
    simp only [HostStmt.confined, Option.all_eq_true, List.contains_iff_mem] at he ⊢
    exact fun part hpart => h part (he part hpart)
  | report => cases he
  | _ => rfl

end Frames

/-! ## The functions and their parts -/

section Functions

variable {agent : GatewayAgent} {payload : GatewayRoutePayload}

theorem confined_request {β : Type} {call : HttpCall β} {parts : List HostPart}
    (h : call.part.all parts.contains = true) : Confined parts (request call) := .await h

theorem confined_readRoutes : Confined [] readRoutes := by
  refine .bind (confined_request rfl) fun response => ?_
  split
  · exact .ret _
  · split
    · exact .ret _
    · split <;> exact .ret _

theorem confined_currentRoute {id hostname : String} : Confined [] (currentRoute id hostname) := by
  refine .bind confined_readRoutes fun current => ?_
  split
  · exact .ret _
  · split
    · exact .ret _
    · split <;> exact .ret _
  · exact .ret _

theorem confined_verifyRoute {intent : CaddyRouteIntent} : Confined [] (verifyRoute intent) := by
  refine .bind confined_readRoutes fun verified => ?_
  dsimp only
  split
  · exact .ret _
  · split <;> exact .ret _

theorem confined_reconcileAttempts {intent : CaddyRouteIntent} :
    ∀ attempts, Confined [.routes] (reconcileAttempts intent attempts)
  | 0 => .ret _
  | attempts + 1 => by
    refine .bind (confined_readRoutes.mono fun _ h => absurd h List.not_mem_nil) fun current => ?_
    dsimp only
    split
    · exact .ret _
    · split
      · exact .ret _
      · refine .bind (confined_request rfl) fun response => ?_
        split
        · exact confined_reconcileAttempts attempts
        · split
          · exact .ret _
          · exact confined_verifyRoute.mono fun _ h => absurd h List.not_mem_nil

theorem confined_reconcileRoute {intent : CaddyRouteIntent} :
    Confined [.routes] (reconcileRoute intent) := confined_reconcileAttempts _

theorem confined_inspectGateway : Confined [] agent.inspectGateway := by
  unfold GatewayAgent.inspectGateway
  split
  · exact .ret _
  · refine .bind (confined_request rfl) fun response => .bind (.ret _) fun gateway => ?_
    split <;> exact .ret _

theorem confined_ownedWorkloads : Confined [] (agent.ownedWorkloads payload) := by
  refine .bind (confined_request rfl) fun response => .bind (.ret _) fun containers => ?_
  split
  · exact .ret _
  · split
    · exact .ret _
    · split <;> exact .ret _

theorem confined_activeWorkload : Confined [] (agent.activeWorkload payload) := by
  unfold GatewayAgent.activeWorkload
  split
  · refine .bind confined_ownedWorkloads fun containers => ?_
    split <;> exact .ret _
  · exact .ret _

theorem confined_inspectNetwork {name : String} {legacy : Bool} :
    Confined [] (agent.inspectNetwork payload name legacy) := by
  refine .bind (confined_request rfl) fun response => ?_
  split
  · exact .ret _
  · refine .bind (.ret _) fun network => ?_
    split
    · exact .ret _
    · split <;> exact .ret _

theorem confined_ownedNetworks : Confined [] (agent.ownedNetworks payload) :=
  .bind confined_inspectNetwork fun _ => .bind confined_inspectNetwork fun _ => .ret _

theorem confined_connect : Confined [.members] (agent.connect payload) := by
  have hread : ∀ {α : Type} {p : OnHost α}, Confined [] p → Confined [.members] p :=
    fun hp => hp.mono fun _ h => absurd h List.not_mem_nil
  refine .bind (hread confined_inspectGateway) fun gateway =>
    .bind (hread confined_activeWorkload) fun workload =>
      .bind (hread confined_ownedNetworks) fun networks => ?_
  split
  · split
    · exact .ret _
    · refine .bind (confined_request rfl) fun response => ?_
      split
      · exact .ret _
      · refine .bind (hread confined_inspectNetwork) fun verified => ?_
        split <;> exact .ret _
  · exact .ret _

theorem confined_leaveNetwork {gateway : Container} {name : String} {network : WorkloadNetwork} :
    Confined [.members] (agent.leaveNetwork payload gateway name network) := by
  unfold GatewayAgent.leaveNetwork
  split
  · exact .ret _
  · refine .bind (confined_request rfl) fun response => ?_
    split
    · exact .ret _
    · refine .bind (confined_inspectNetwork.mono fun _ h => absurd h List.not_mem_nil)
        fun verified => ?_
      split <;> exact .ret _

theorem confined_disconnect : Confined [.members] (agent.disconnect payload) := by
  have hread : ∀ {α : Type} {p : OnHost α}, Confined [] p → Confined [.members] p :=
    fun hp => hp.mono fun _ h => absurd h List.not_mem_nil
  exact .bind (hread confined_inspectGateway) fun gateway =>
    .bind (hread confined_ownedNetworks) fun networks =>
      .forEach (fun entry => confined_leaveNetwork) networks

theorem confined_resolveUpstream : Confined [] (agent.resolveUpstream payload) := by
  refine .bind confined_activeWorkload fun workload => ?_
  split <;> exact .ret _

theorem confined_rollback : Confined [.containers] (agent.rollback payload) := by
  refine .bind (confined_activeWorkload.mono fun _ h => absurd h List.not_mem_nil)
    fun active => ?_
  split
  · refine .bind (confined_request rfl) fun response => ?_
    split <;> exact .ret _
  · refine .bind (confined_request rfl) fun response => ?_
    split <;> exact .ret _
  · exact .ret _

theorem confined_verifyAttempts {lastFailure : String} :
    ∀ attempts, Confined [] (verifyAttempts payload lastFailure attempts)
  | 0 => .ret _
  | attempts + 1 => by
    refine .bind (.await rfl) fun aborted => ?_
    split
    · exact .ret _
    · refine .bind (.tryCatch (.bind (confined_request rfl) fun response => ?_) fun _ => .ret _)
        fun failure => ?_
      · split <;> exact .ret _
      · split
        · exact .ret _
        · exact .bind (.await rfl) fun _ => confined_verifyAttempts attempts

end Functions

/-! ## What a success means -/

section Success

variable {agent : GatewayAgent} {payload : GatewayRoutePayload} {m m' : HostMoment}

theorem request_ok {β : Type} {call : HttpCall β} {response : Response β}
    (h : Ends (request call) m (.ok response) m') :
    (response = (call.answer m.state).1 ∧ m'.state = (call.answer m.state).2) ∨
      (call.refuses response.statusCode = true ∧ response.body = none) := by
  obtain ⟨i, hr, rfl⟩ := ends_await.mp h
  have hresponse : i.response call m.state = .ok response := hr.symm
  have hstate : (m.next 0 (HostStmt.http call) i).state =
      if i.applies call then (call.answer m.state).2 else m.state := rfl
  rw [hstate]
  obtain ⟨trouble, aborted⟩ := i
  cases trouble with
  | none => cases hresponse; exact .inl ⟨rfl, rfl⟩
  | some trouble =>
    cases trouble with
    | thrown => cases hresponse
    | controlPlane => cases hresponse; exact .inl ⟨rfl, rfl⟩
    | refused statusCode detail applied =>
      simp only [HostInput.response] at hresponse
      split at hresponse
      · rename_i hrefuses
        cases hresponse
        exact .inr ⟨hrefuses, rfl⟩
      · rename_i hrefuses
        cases hresponse
        exact .inl ⟨rfl, by simp [HostInput.applies, hrefuses]⟩

theorem statusCode_of_refuses {β : Type} {call : HttpCall β} {statusCode : Nat}
    (h : call.refuses statusCode = true) :
    400 ≤ statusCode ∧ (call.isPublic = true ∨ statusCode ≠ 404) := by
  simpa [HttpCall.refuses] using h

theorem readRoutes_ok {document : RouteDocument} (h : Ends readRoutes m (.ok document) m') :
    document = m.state.caddy ∧ m'.state = m.state := by
  refine ⟨?_, confined_readRoutes.same h⟩
  obtain ⟨response, m₁, hresponse, h⟩ := ends_bind_ok.mp h
  rcases request_ok hresponse with ⟨rfl, _⟩ | ⟨hrefused, _⟩
  · rw [if_neg (by simp [HttpCall.answer, answered])] at h
    simp only [HttpCall.answer, answered] at h
    split at h
    · exact absurd (ends_throw.mp h).1 nofun
    · exact Except.ok.inj (ends_pure.mp h).1
  · have hcode := (statusCode_of_refuses hrefused).1
    rw [if_pos (by omega)] at h
    exact absurd (ends_throw.mp h).1 nofun

/-- The upstreams of the routes with the identity `id`. -/
def RouteDocument.upstreams (document : RouteDocument) (id : String) : List (Option String) :=
  (document.owned id).map (·.upstream)

theorem currentRoute_ok {id hostname : String} {previous : Option String}
    (h : Ends (currentRoute id hostname) m (.ok previous) m') :
    m.state.caddy.upstreams id = (previous.map some).toList ∧ m'.state = m.state := by
  refine ⟨?_, confined_currentRoute.same h⟩
  obtain ⟨current, m₁, hread, h⟩ := ends_bind_ok.mp h
  obtain ⟨rfl, _⟩ := readRoutes_ok hread
  unfold RouteDocument.upstreams
  split at h
  · rename_i hnone
    cases (ends_pure.mp h).1
    rw [hnone]
    rfl
  · rename_i route hroute
    split at h
    · exact absurd (ends_throw.mp h).1 nofun
    · split at h
      · exact absurd (ends_throw.mp h).1 nofun
      · rename_i upstream hupstream
        cases (ends_pure.mp h).1
        rw [hroute, List.map_singleton, (Option.filter_eq_some_iff.mp hupstream).1]
        rfl
  · exact absurd (ends_throw.mp h).1 nofun

/-- What the intent wants to see. -/
def CaddyRouteIntent.upstreams (intent : CaddyRouteIntent) : List (Option String) :=
  if intent.present then [some intent.upstream] else []

theorem upstreams_of_settled {intent : CaddyRouteIntent} {document : RouteDocument}
    (h : intent.settled document = true) : document.upstreams intent.id = intent.upstreams := by
  unfold CaddyRouteIntent.settled at h
  unfold RouteDocument.upstreams CaddyRouteIntent.upstreams
  split at h
  · rename_i hnone
    rw [hnone, if_neg (by simpa using h)]
    rfl
  · rename_i route hroute
    simp only [Bool.and_eq_true, beq_iff_eq] at h
    rw [hroute, if_pos h.1.1, List.map_singleton, h.2]
  · cases h

theorem upstreams_apply (intent : CaddyRouteIntent) (document : RouteDocument) (etag : Nat) :
    RouteDocument.upstreams ⟨intent.apply document, etag⟩ intent.id = intent.upstreams := by
  have hothers : (document.routes.filter fun route => route.id != some intent.id).filter
      (fun route => route.id == some intent.id) = [] := by
    rw [List.filter_filter, List.filter_eq_nil_iff]
    intro route _
    simp
  unfold RouteDocument.upstreams RouteDocument.owned CaddyRouteIntent.apply
    CaddyRouteIntent.upstreams
  dsimp only
  split
  · rw [List.filter_append, hothers]
    simp [managedRoute]
  · rw [hothers]
    rfl

theorem reconcileAttempts_ok {intent : CaddyRouteIntent} {attempts : Nat}
    (h : Ends (reconcileAttempts intent attempts) m (.ok ()) m') :
    m'.state.caddy.upstreams intent.id = intent.upstreams := by
  induction attempts generalizing m with
  | zero => exact absurd (ends_throw.mp h).1 nofun
  | succ attempts ih =>
    obtain ⟨current, m₁, hread, h⟩ := ends_bind_ok.mp h
    obtain ⟨rfl, hm₁⟩ := readRoutes_ok hread
    dsimp only at h
    split at h
    · exact absurd (ends_throw.mp h).1 nofun
    · split at h
      · rename_i hsettled
        rw [(ends_pure.mp h).2, hm₁]
        exact upstreams_of_settled hsettled
      · obtain ⟨response, m₂, hresponse, h⟩ := ends_bind_ok.mp h
        split at h
        · exact ih h
        · split at h
          · exact absurd (ends_throw.mp h).1 nofun
          · rename_i hconflict hcode
            rcases request_ok hresponse with ⟨rfl, hm₂⟩ | ⟨hrefused, _⟩
            · rw [confined_verifyRoute.caddy List.not_mem_nil h, hm₂, hm₁]
              simp only [HttpCall.answer, if_true]
              exact upstreams_apply intent _ _
            · have hcode' := (statusCode_of_refuses hrefused).1
              exact absurd (Or.inr (by omega)) hcode

theorem reconcileRoute_ok {intent : CaddyRouteIntent}
    (h : Ends (reconcileRoute intent) m (.ok ()) m') :
    m'.state.caddy.upstreams intent.id = intent.upstreams := reconcileAttempts_ok h

/-! ### Workloads -/

/-- The one running container of the payload's slot and revision. -/
def GatewayHost.candidate (h : GatewayHost) (agent : GatewayAgent)
    (payload : GatewayRoutePayload) : Option Container :=
  match payload.workloadSlot, payload.revision with
  | some slot, some _ =>
    match (h.containers.filter fun c => (GatewayAgent.workloadFilter agent payload).all
        fun entry => c.labels.lookup entry.1 == some entry.2).filter
          (agent.isCandidate payload slot) with
    | [container] => some container
    | _ => none
  | _, _ => none

theorem mem_of_candidate {h : GatewayHost} {c : Container}
    (hc : h.candidate agent payload = some c) : c ∈ h.containers ∧ c.running = true := by
  unfold GatewayHost.candidate at hc
  split at hc
  · split at hc
    · rename_i slot revision hslot hrevision container hlist
      cases hc
      have hmem : c ∈ [c] := List.mem_singleton_self c
      rw [← hlist, List.mem_filter, List.mem_filter] at hmem
      refine ⟨hmem.1.1, ?_⟩
      have hcandidate := hmem.2
      simp only [GatewayAgent.isCandidate, Bool.and_eq_true] at hcandidate
      exact hcandidate.1.1
    · cases hc
  · cases hc

theorem ends_lift_ok {α : Type} {x : Except AgentError α} {a : α}
    (h : Ends (Prog.ret x : OnHost α) m (.ok a) m') : x = .ok a ∧ m' = m := by
  obtain ⟨hx, hm⟩ := ends_ret.mp h
  exact ⟨hx.symm, hm⟩

theorem responseJson_ok {β : Type} {response : Response β} {action : String} {value : β}
    (h : responseJson response action = .ok value) :
    response.body = some value ∧ response.statusCode < 300 := by
  unfold responseJson at h
  split at h
  · cases h
  · split at h
    · cases h
    · rename_i hcode _ hbody
      cases h
      exact ⟨hbody, by omega⟩

theorem ownedWorkloads_ok {containers : List Container}
    (h : Ends (agent.ownedWorkloads payload) m (.ok containers) m') :
    containers = m.state.containers.filter fun c =>
      (GatewayAgent.workloadFilter agent payload).all fun entry =>
        c.labels.lookup entry.1 == some entry.2 := by
  obtain ⟨response, m₁, hresponse, h⟩ := ends_bind_ok.mp h
  obtain ⟨listed, m₂, hlisted, h⟩ := ends_bind_ok.mp h
  obtain ⟨hbody, hcode⟩ := responseJson_ok (ends_lift_ok hlisted).1
  have heq : containers = listed := by
    split at h
    · exact absurd (ends_throw.mp h).1 nofun
    · split at h
      · exact absurd (ends_throw.mp h).1 nofun
      · split at h
        · exact absurd (ends_throw.mp h).1 nofun
        · exact Except.ok.inj (ends_pure.mp h).1
  rcases request_ok hresponse with ⟨rfl, _⟩ | ⟨hrefused, _⟩
  · rw [heq]
    exact (Option.some.inj hbody).symm
  · have := (statusCode_of_refuses hrefused).1
    omega

theorem activeWorkload_ok {c : Container} (h : Ends (agent.activeWorkload payload) m (.ok c) m') :
    m.state.candidate agent payload = some c := by
  unfold GatewayAgent.activeWorkload at h
  split at h
  · rename_i slot revision hslot hrevision
    obtain ⟨containers, m₁, hcontainers, h⟩ := ends_bind_ok.mp h
    generalize hlist : containers.filter (agent.isCandidate payload slot) = candidates at h
    unfold GatewayHost.candidate
    rw [hslot, hrevision]
    dsimp only
    rw [← ownedWorkloads_ok hcontainers, hlist]
    split at h
    · rename_i container
      exact congrArg some (Except.ok.inj (ends_pure.mp h).1).symm
    · exact absurd (ends_throw.mp h).1 nofun
  · exact absurd (ends_throw.mp h).1 nofun

theorem resolveUpstream_ok {upstream : String}
    (h : Ends (agent.resolveUpstream payload) m (.ok upstream) m') :
    ∃ c, m.state.candidate agent payload = some c ∧
      upstream = GatewayAgent.upstreamOf payload c := by
  obtain ⟨c, m₁, hactive, h⟩ := ends_bind_ok.mp h
  split at h
  · exact absurd (ends_throw.mp h).1 nofun
  · exact ⟨c, activeWorkload_ok hactive, Except.ok.inj (ends_pure.mp h).1⟩

def GatewayHost.runs (h : GatewayHost) (id : String) : Prop :=
  ∃ c ∈ h.containers, c.id = id ∧ c.running = true

theorem container?_of_mem {h : GatewayHost} {c : Container}
    (hids : (h.containers.map (·.id)).Nodup) (hc : c ∈ h.containers) :
    h.container? c.id = some c := by
  unfold GatewayHost.container?
  cases hf : h.containers.find? (fun c' => c'.id == c.id) with
  | none => exact absurd (List.find?_eq_none.mp hf c hc) (by simp)
  | some c' =>
    have hid : c'.id = c.id := by simpa using List.find?_some hf
    have hmem := List.mem_of_find?_eq_some hf
    rw [List.inj_on_of_nodup_map hids hmem hc hid]

theorem runs_removeContainer {h : GatewayHost} {id id' : String} :
    ((h.removeContainer id).2.runs id' ↔ h.runs id' ∧ id' ≠ id) ∨
      (h.container? id).isNone = true := by
  unfold GatewayHost.removeContainer
  split
  · rename_i hnone
    exact .inr hnone
  · refine .inl ?_
    simp only [GatewayHost.runs, GatewayHost.detach, List.mem_filter, bne_iff_ne]
    constructor
    · rintro ⟨c, ⟨hc, hne⟩, rfl, hrunning⟩
      exact ⟨⟨c, hc, rfl, hrunning⟩, hne⟩
    · rintro ⟨⟨c, hc, rfl, hrunning⟩, hne⟩
      exact ⟨c, ⟨hc, hne⟩, rfl, hrunning⟩

theorem runs_stopContainer {h : GatewayHost} {id id' : String} {c : Container}
    (hc : h.container? id = some c) (hr : c.running = true) :
    (h.stopContainer id).2.runs id' ↔ h.runs id' ∧ id' ≠ id := by
  unfold GatewayHost.stopContainer
  rw [hc]
  simp only [hr, if_true, GatewayHost.runs, GatewayHost.detach, List.mem_map]
  constructor
  · rintro ⟨c', ⟨c₀, hc₀, rfl⟩, hid, hrunning⟩
    by_cases heq : c₀.id = id
    · simp [heq] at hrunning
    · simp only [heq, beq_iff_eq, if_false] at hid hrunning
      exact ⟨⟨c₀, hc₀, hid, hrunning⟩, hid ▸ heq⟩
  · rintro ⟨⟨c₀, hc₀, rfl, hrunning⟩, hne⟩
    exact ⟨c₀, ⟨c₀, hc₀, by simp [hne]⟩, rfl, hrunning⟩

theorem rollback_ok (hids : (m.state.containers.map (·.id)).Nodup)
    (hactivation : payload.activation ≠ none)
    (h : Ends (agent.rollback payload) m (.ok ()) m') :
    ∃ active, m.state.candidate agent payload = some active ∧
      ∀ id, m'.state.runs id ↔ m.state.runs id ∧ id ≠ active.id := by
  obtain ⟨active, m₁, hactive, h⟩ := ends_bind_ok.mp h
  have hcandidate := activeWorkload_ok hactive
  obtain ⟨hmem, hrunning⟩ := mem_of_candidate hcandidate
  have hcontainer := container?_of_mem hids hmem
  have hm₁ : m₁.state = m.state := confined_activeWorkload.same hactive
  refine ⟨active, hcandidate, fun id => ?_⟩
  split at h
  · obtain ⟨response, m₂, hresponse, h⟩ := ends_bind_ok.mp h
    split at h
    · exact absurd (ends_throw.mp h).1 nofun
    · rename_i hcode
      rw [(ends_pure.mp h).2]
      rcases request_ok hresponse with ⟨_, hm₂⟩ | ⟨hrefused, hbody⟩
      · rw [hm₂, hm₁]
        have hfound : ¬(m.state.container? active.id).isNone = true := by
          rw [hcontainer]
          exact Bool.false_ne_true
        exact runs_removeContainer.resolve_right hfound
      · have := statusCode_of_refuses hrefused
        simp only [HttpCall.isPublic, Bool.false_eq_true, false_or] at this
        omega
  · obtain ⟨response, m₂, hresponse, h⟩ := ends_bind_ok.mp h
    split at h
    · exact absurd (ends_throw.mp h).1 nofun
    · rename_i hcode
      rw [(ends_pure.mp h).2]
      rcases request_ok hresponse with ⟨_, hm₂⟩ | ⟨hrefused, hbody⟩
      · rw [hm₂, hm₁]
        exact runs_stopContainer hcontainer hrunning
      · have := (statusCode_of_refuses hrefused).1
        omega
  · rename_i hnone
    exact absurd hnone hactivation

end Success

end InitPad
