import InitPad.Gateway.RouteEnds

/-!
# InitPad.Gateway.ServingWorkload

A failed activation and the workload that serves behind the previous route. The compensation
discards the candidate unless the candidate's upstream is the previous one; so the serving workload
survives exactly if it is not the candidate, or the failure came after the upstream was resolved and
the previous route had the same text.
-/

namespace InitPad

open Interleave Prog

/-- The upstream leads to this container: by the alias that its id gives it, or by its name. -/
def Dials (upstream : String) (container : Container) : Prop :=
  ∃ port, upstream = GatewayAgent.shortId container ++ ":" ++ port ∨
    ∃ name, GatewayAgent.containerName container = some name ∧ upstream = name ++ ":" ++ port

def HostStmt.progress {β : Type} : HostStmt β → Option GatewayRouteProgress
  | .report progress => some progress
  | _ => none

/-- The activation came to the update of the route, so its upstream was resolved. -/
def Resolved (m : HostMoment) : Prop :=
  ∃ ev ∈ m.history, ev.stmt.progress = some ⟨60, false, GatewayAgent.applyingMessage⟩

/-- The route leads to `upstream`, and the containers that `upstream` led to are still running. -/
structure StillServing (before after : GatewayHost) (payload : GatewayRoutePayload)
    (upstream : String) : Prop where
  route : after.caddy.upstreams (caddyRouteId payload) = [some upstream]
  workload : ∀ c ∈ before.containers, c.running = true → Dials upstream c → after.runs c.id

/-- If the candidate is what serves behind `upstream`, then the activation has resolved it to the
same upstream. -/
def SparesServing (before : GatewayHost) (after : HostMoment) (agent : GatewayAgent)
    (payload : GatewayRoutePayload) (upstream : String) : Prop :=
  ∀ c, before.candidate agent payload = some c → Dials upstream c →
    Resolved after ∧ upstream = GatewayAgent.upstreamOf payload c

section Activation

variable {agent : GatewayAgent} {payload : GatewayRoutePayload} {m m' : HostMoment}

theorem progress_of_confined {β : Type} {parts : List HostPart} {e : HostStmt β}
    (h : e.confined parts = true) : e.progress = none := by
  cases e with
  | report => cases h
  | _ => rfl

theorem resolved_ends {α : Type} {p : OnHost α} {r : Except AgentError α} (h : Ends p m r m')
    (hm : Resolved m) : Resolved m' := by
  obtain ⟨rest, hrest⟩ := h.history
  obtain ⟨ev, hev, hprogress⟩ := hm
  exact ⟨ev, by rw [hrest]; exact List.mem_append_left _ hev, hprogress⟩

theorem resolved_confined {α : Type} {parts : List HostPart} {p : OnHost α}
    {r : Except AgentError α} (hp : Confined parts p) (h : Ends p m r m') :
    Resolved m' ↔ Resolved m := by
  obtain ⟨rest, hrest, hevents⟩ := h.events hp
  refine ⟨?_, resolved_ends h⟩
  rintro ⟨ev, hev, hprogress⟩
  rw [hrest] at hev
  rcases List.mem_append.mp hev with hev | hev
  · exact ⟨ev, hev, hprogress⟩
  · rw [progress_of_confined (hevents ev hev)] at hprogress
    cases hprogress

theorem resolved_report {percent : Nat} {verifying : Bool} {message : String}
    {r : Except AgentError Unit} (h : Ends (report percent verifying message) m r m') :
    m'.state = m.state ∧ (Resolved m' ↔ Resolved m ∨
      (⟨percent, verifying, message⟩ : GatewayRouteProgress) =
        ⟨60, false, GatewayAgent.applyingMessage⟩) := by
  obtain ⟨i, _, rfl⟩ := ends_await.mp h
  refine ⟨rfl, ?_⟩
  simp [Resolved, or_and_right, exists_or, HostStmt.progress]

theorem publish_ends {α : Type} {upstream : String} {a : α} {r : Except AgentError α}
    (h : Ends (do
      report 60 false GatewayAgent.applyingMessage
      reconcileRoute (caddyIntent payload upstream true)
      report 78 true "Verifying the public HTTPS application path"
      verifyPublicHealth payload
      pure a) m r m') : m'.state.containers = m.state.containers ∧ Resolved m' := by
  have hreport : ∀ {r} {m₁ : HostMoment},
      Ends (report 60 false GatewayAgent.applyingMessage) m r m₁ →
      m₁.state.containers = m.state.containers ∧ Resolved m₁ := fun h =>
    ⟨congrArg _ (resolved_report h).1, (resolved_report h).2.mpr (.inr rfl)⟩
  rcases ends_bind.mp h with ⟨⟨⟩, m₁, h₁, h⟩ | ⟨x, h₁, _⟩
  · obtain ⟨hc₁, hresolved⟩ := hreport h₁
    refine ⟨?_, resolved_ends h hresolved⟩
    rw [← hc₁]
    rcases ends_bind.mp h with ⟨⟨⟩, m₂, h₂, h⟩ | ⟨x, h₂, _⟩
    · rw [← confined_reconcileRoute.containers (by decide) h₂]
      rcases ends_bind.mp h with ⟨⟨⟩, m₃, h₃, h⟩ | ⟨x, h₃, _⟩
      · rw [← (resolved_report h₃).1]
        have hconfined : Confined [] (verifyPublicHealth payload >>= fun _ => pure a) :=
          .bind (confined_verifyAttempts _) fun _ => .ret _
        exact hconfined.containers List.not_mem_nil h
      · rw [(resolved_report h₃).1]
    · exact confined_reconcileRoute.containers (by decide) h₂
  · exact hreport h₁

theorem activate_failed {attempt : GatewayAgent.Attempt} {error : AgentError}
    (h : Ends (agent.activate payload) m (.ok attempt) m') (hfailure : attempt.failure = some error)
    (hm : ¬ Resolved m) : m'.state.containers = m.state.containers ∧
      ((attempt.upstream = none ∧ ¬ Resolved m') ∨
        (Resolved m' ∧ ∃ c, m.state.candidate agent payload = some c ∧
          attempt.upstream = some (GatewayAgent.upstreamOf payload c))) := by
  have hconnect : ∀ {r} {m₁ : HostMoment}, Ends (agent.connect payload) m r m₁ →
      m₁.state.containers = m.state.containers ∧ ¬ Resolved m₁ := fun h =>
    ⟨confined_connect.containers (by decide) h, fun hr => hm ((resolved_confined confined_connect h).mp hr)⟩
  rcases ends_tryCatch.mp h with ⟨a, h, heq⟩ | ⟨x, m₁, h, hret⟩
  · cases heq
    obtain ⟨⟨⟩, m₁, h₁, h⟩ := ends_bind_ok.mp h
    obtain ⟨upstream, m₂, h₂, h⟩ := ends_bind_ok.mp h
    obtain ⟨hcontainers, hnot⟩ := hconnect h₁
    have hm₂ : m₂.state = m₁.state := confined_resolveUpstream.same h₂
    obtain ⟨c, hcandidate, rfl⟩ := resolveUpstream_ok h₂
    rcases ends_tryCatch.mp h with ⟨a, h, heq⟩ | ⟨x, m₃, h, hret⟩
    · cases heq
      obtain ⟨_, _, _, h⟩ := ends_bind_ok.mp h
      obtain ⟨_, _, _, h⟩ := ends_bind_ok.mp h
      obtain ⟨_, _, _, h⟩ := ends_bind_ok.mp h
      obtain ⟨_, _, _, h⟩ := ends_bind_ok.mp h
      rw [Except.ok.inj (ends_pure.mp h).1] at hfailure
      cases hfailure
    · obtain ⟨hattempt, rfl⟩ := ends_pure.mp hret
      obtain ⟨hc, hresolved⟩ := publish_ends h
      rw [Except.ok.inj hattempt]
      refine ⟨hc.trans ((congrArg _ hm₂).trans hcontainers), .inr ⟨hresolved, c, ?_, rfl⟩⟩
      rw [← hcandidate]
      unfold GatewayHost.candidate
      rw [hcontainers]
  · obtain ⟨hattempt, rfl⟩ := ends_pure.mp hret
    rw [Except.ok.inj hattempt]
    rcases ends_bind.mp h with ⟨⟨⟩, m₂, h₁, h⟩ | ⟨x', h₁, _⟩
    · obtain ⟨hcontainers, hnot⟩ := hconnect h₁
      rcases ends_bind.mp h with ⟨upstream, m₃, h₂, h⟩ | ⟨x', h₂, _⟩
      · rcases ends_tryCatch.mp h with ⟨_, _, heq⟩ | ⟨_, _, _, h⟩
        · cases heq
        · exact absurd (ends_pure.mp h).1 nofun
      · refine ⟨(confined_resolveUpstream.containers (by decide) h₂).trans hcontainers,
          .inl ⟨rfl, fun hr => hnot ((resolved_confined confined_resolveUpstream h₂).mp hr)⟩⟩
    · exact ⟨(hconnect h₁).1, .inl ⟨rfl, (hconnect h₁).2⟩⟩

theorem candidate_of_containers {h h' : GatewayHost} (hc : h'.containers = h.containers) :
    h'.candidate agent payload = h.candidate agent payload := by
  unfold GatewayHost.candidate
  rw [hc]

/-- The compensation of a failed activation, from the state in which the route job started. -/
structure RolledBack (host : GatewayHost) (after : HostMoment) (agent : GatewayAgent)
    (payload : GatewayRoutePayload) (upstream : String) (attempted : Option String) : Prop where
  route : after.state.caddy.upstreams (caddyRouteId payload) = [some upstream]
  attempt : (attempted = none ∧ ¬ Resolved after) ∨ (Resolved after ∧ ∃ c,
    host.candidate agent payload = some c ∧
      attempted = some (GatewayAgent.upstreamOf payload c))
  discarded : some upstream ≠ attempted → ∃ active, host.candidate agent payload = some active ∧
    ∀ id, after.state.runs id ↔ host.runs id ∧ id ≠ active.id
  kept : some upstream = attempted → after.state.containers = host.containers

theorem rolledBack_of_restored {host : GatewayHost} {cause : String} {serving : Bool}
    {upstream : String} (hids : (host.containers.map (·.id)).Nodup)
    (hactive : payload.desiredState = .active) (hactivation : payload.activation ≠ none)
    (hprevious : host.caddy.upstreams (caddyRouteId payload) = [some upstream])
    (h : Ends (agent.run payload) ⟨host, []⟩ (.error (.restored cause serving)) m') :
    ∃ attempted, RolledBack host m' agent payload upstream attempted := by
  obtain ⟨_, m₁, m₂, m₃, m₄, previous, attempt, error, h₁, h₂, h₃, h₄, hfailure, h₅⟩ :=
    (run_restored h).resolve_right fun hn => hn.1 hactive
  obtain ⟨hs₁, hr₁⟩ := resolved_report h₁
  obtain ⟨hs₂, hr₂⟩ := resolved_report h₂
  obtain ⟨hcurrent, hs₃⟩ := currentRoute_ok h₃
  have hhost : m₃.state = host := hs₃.trans (hs₂.trans hs₁)
  have hunresolved : ¬ Resolved m₃ := by
    rw [resolved_confined confined_currentRoute h₃, hr₂, hr₁]
    rintro ((⟨_, hev, _⟩ | heq) | heq)
    · cases hev
    · exact absurd heq (by simp)
    · exact absurd heq (by simp)
  obtain rfl : previous = some upstream := by
    have heq : [some upstream] = (previous.map some).toList := by
      rw [← hprevious, ← hcurrent, hs₂, hs₁]
    cases previous with
    | none => cases heq
    | some => cases heq; rfl
  obtain ⟨hcontainers, hattempt⟩ := activate_failed h₄ hfailure hunresolved
  obtain ⟨_, _, m₅, m₆, hroute, hdiscard, hdisconnect⟩ := rollbackActivation_restored h₅
  obtain rfl : m' = m₆ := hdisconnect.elim (fun hn => absurd hn.1 nofun) (·.2)
  have hs₅ : m₅.state.containers = host.containers :=
    (confined_reconcileRoute.containers (by decide) hroute).trans (hcontainers.trans (by rw [hhost]))
  have hupstreams : m₅.state.caddy.upstreams (caddyRouteId payload) = [some upstream] :=
    reconcileRoute_ok hroute
  have hresolved₅ := resolved_confined confined_reconcileRoute hroute
  have hresolved : Resolved m' ↔ Resolved m₄ := by
    rcases hdiscard with ⟨_, hrollback⟩ | ⟨_, rfl⟩
    · exact (resolved_confined confined_rollback hrollback).trans hresolved₅
    · exact hresolved₅
  refine ⟨attempt.upstream, ?_, ?_, fun hne => ?_, fun heq => ?_⟩
  · rcases hdiscard with ⟨_, hrollback⟩ | ⟨_, rfl⟩
    · rw [confined_rollback.caddy (by decide) hrollback, hupstreams]
    · exact hupstreams
  · rw [hresolved, ← hhost]
    exact hattempt
  · rcases hdiscard with ⟨_, hrollback⟩ | ⟨hn, _⟩
    · obtain ⟨active, hcandidate, hruns⟩ := rollback_ok (by rw [hs₅]; exact hids) hactivation hrollback
      refine ⟨active, (candidate_of_containers hs₅).symm.trans hcandidate, fun id => ?_⟩
      rw [hruns id, GatewayHost.runs, GatewayHost.runs, hs₅]
    · exact absurd (.inr hne) hn
  · rcases hdiscard with ⟨hn, _⟩ | ⟨_, rfl⟩
    · exact absurd heq (hn.resolve_left nofun)
    · exact hs₅

/-- When an activation has failed and all parts of its compensation have succeeded, the previous
route is back, and what served behind it is still running, if and only if the candidate was not what
served, or was recognised by its upstream. -/
theorem activation_spares_serving {host : GatewayHost} {cause : String} {serving : Bool}
    {upstream : String} (hids : (host.containers.map (·.id)).Nodup)
    (hactive : payload.desiredState = .active) (hactivation : payload.activation ≠ none)
    (hprevious : host.caddy.upstreams (caddyRouteId payload) = [some upstream])
    (h : Ends (agent.run payload) ⟨host, []⟩ (.error (.restored cause serving)) m') :
    StillServing host m'.state payload upstream ↔
      SparesServing host m' agent payload upstream := by
  obtain ⟨attempted, hback⟩ := rolledBack_of_restored hids hactive hactivation hprevious h
  constructor
  · intro hserving c hcandidate hdials
    obtain ⟨hmem, hrunning⟩ := mem_of_candidate hcandidate
    have hruns := hserving.workload c hmem hrunning hdials
    by_cases heq : some upstream = attempted
    · rcases hback.attempt with ⟨hnone, _⟩ | ⟨hresolved, c', hcandidate', hattempted⟩
      · rw [hnone] at heq
        cases heq
      · obtain rfl := Option.some.inj (hcandidate.symm.trans hcandidate')
        exact ⟨hresolved, Option.some.inj (heq.trans hattempted)⟩
    · obtain ⟨active, hactive', hruns'⟩ := hback.discarded heq
      obtain rfl := Option.some.inj (hcandidate.symm.trans hactive')
      exact absurd rfl ((hruns' c.id).mp hruns).2
  · refine fun hspares => ⟨hback.route, fun c hmem hrunning hdials => ?_⟩
    have hruns : host.runs c.id := ⟨c, hmem, rfl, hrunning⟩
    by_cases heq : some upstream = attempted
    · rw [GatewayHost.runs, hback.kept heq]
      exact hruns
    · obtain ⟨active, hcandidate, hruns'⟩ := hback.discarded heq
      refine (hruns' c.id).mpr ⟨hruns, fun hid => heq ?_⟩
      obtain rfl := List.inj_on_of_nodup_map hids hmem (mem_of_candidate hcandidate).1 hid
      obtain ⟨hresolved, hupstream⟩ := hspares c hcandidate hdials
      rcases hback.attempt with ⟨_, hnot⟩ | ⟨_, c', hcandidate', hattempted⟩
      · exact absurd hresolved hnot
      · obtain rfl := Option.some.inj (hcandidate.symm.trans hcandidate')
        rw [hattempted, hupstream]

end Activation

/-! A redeployment of the revision that is being served. -/

def hostAgent : GatewayAgent := ⟨"target", "gateway", fun _ => "0123456789abcdef"⟩

def servingPayload : GatewayRoutePayload where
  routeId := "r"
  generation := 2
  desiredState := .active
  hostname := "shop.example.test"
  allocationId := "a"
  namespace_ := "team"
  projectSlug := "shop"
  environment := "dev"
  revision := some "v1"
  containerPort := 8080
  healthPath := "/health"
  workloadSlot := some "111111111111"
  activation := some .deploy

def sampleLabels : List (String × String) :=
  [("com.initpad.managed", "true"), ("com.initpad.target", "target"),
    ("com.initpad.allocation.id", "a"), ("com.initpad.allocation.namespace", "team"),
    ("com.initpad.project", "shop"), ("com.initpad.environment", "dev"),
    ("com.initpad.workload", "a:shop:dev"), ("com.initpad.routing.mode", "managed-gateway")]

def servingWorkload : Container where
  id := String.ofList (List.replicate 64 'd')
  names := ["/initpad-team-a0123456789ab-shop-dev-rev-111111111111"]
  image := none
  running := true
  labels := sampleLabels ++
    [("com.initpad.revision", "v1"), ("com.initpad.workload.slot", "111111111111")]

def gatewayContainer : Container where
  id := String.ofList (List.replicate 64 'e')
  names := ["/gateway"]
  image := none
  running := true
  labels := [("com.initpad.gateway", "true")]

def servingUpstream : String := "dddddddddddd:8080"

def servingHost : GatewayHost where
  caddy := ⟨[⟨some "initpad_route_r", some "shop.example.test", some servingUpstream⟩], 1⟩
  containers := [gatewayContainer, servingWorkload]
  networks := [⟨"net-team-a0123456789ab-shop-dev", sampleLabels,
    [gatewayContainer.id, servingWorkload.id]⟩]

def working : HostInput := {}

def broken (message : String) : HostInput := { trouble := some (.thrown { message := message } false) }

def restoredCause : Except AgentError Bool → Option String
  | .error (.restored cause true) => some cause
  | _ => none

theorem restoredCause_eq {r : Except AgentError Bool} {cause : String}
    (h : restoredCause r = some cause) : r = .error (.restored cause true) := by
  unfold restoredCause at h
  split at h
  · cases h; rfl
  · cases h

theorem dials_serving : Dials servingUpstream servingWorkload := ⟨"8080", .inl (by decide)⟩

/-- The control plane is lost when the route is about to be updated: the redeployed workload stays. -/
theorem activation_spares_serving_redeploy : ∃ m', StillServing servingHost m' servingPayload
    servingUpstream := by
  obtain ⟨r, m', h, hcheck⟩ := ends_of_performs (hostAgent.run servingPayload)
    (List.replicate 8 working ++ [broken "lost", working]) ⟨servingHost, []⟩
    (fun r m' => restoredCause r == some "lost" && m'.history.any fun ev =>
      ev.stmt.progress == some ⟨60, false, GatewayAgent.applyingMessage⟩) (by decide)
  simp only [Bool.and_eq_true, beq_iff_eq, List.any_eq_true] at hcheck
  rw [restoredCause_eq hcheck.1] at h
  refine ⟨m'.state, (activation_spares_serving (by decide) rfl (by decide) (by decide)
    h).mpr fun c hc _ => ⟨hcheck.2, ?_⟩⟩
  have hcandidate : servingHost.candidate hostAgent servingPayload = some servingWorkload := by
    decide
  cases hcandidate.symm.trans hc
  decide

/-- Docker does not answer when the gateway is to be connected: the compensation takes the workload
that serves for a failed candidate, and removes it. -/
theorem serving_workload_removed : ¬ ∀ (agent : GatewayAgent) (payload : GatewayRoutePayload)
    (host : GatewayHost) (m' : HostMoment) (cause upstream : String),
    (host.containers.map (·.id)).Nodup → payload.desiredState = .active →
      payload.activation ≠ none → host.caddy.upstreams (caddyRouteId payload) = [some upstream] →
      Ends (agent.run payload) ⟨host, []⟩ (.error (.restored cause true)) m' →
      StillServing host m'.state payload upstream := by
  intro hall
  obtain ⟨r, m', h, hcheck⟩ := ends_of_performs (hostAgent.run servingPayload)
    (List.replicate 3 working ++ [broken "socket hang up", working, working, working])
    ⟨servingHost, []⟩ (fun r m' => restoredCause r == some "socket hang up" &&
      m'.state.containers.all fun c => c.id != servingWorkload.id) (by decide)
  simp only [Bool.and_eq_true, beq_iff_eq, List.all_eq_true, bne_iff_ne] at hcheck
  rw [restoredCause_eq hcheck.1] at h
  obtain ⟨c, hc, hid, _⟩ := (hall hostAgent servingPayload servingHost m' _ servingUpstream
    (by decide) rfl (by decide) (by decide) h).workload servingWorkload (by decide)
    rfl dials_serving
  exact hcheck.2 c hc hid

end InitPad
