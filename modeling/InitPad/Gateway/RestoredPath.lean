import InitPad.Gateway.ServingWorkload

/-!
# InitPad.Gateway.RestoredPath

A failed deactivation that ends with the previous route restored. Only the route is put back: the
data path is complete again exactly if no request to disconnect the gateway has taken effect.
-/

namespace InitPad

open Interleave Prog

def GatewayHost.attached (h : GatewayHost) (name containerId : String) : Prop :=
  ∃ network, h.network? name = some network ∧ containsContainer network containerId = true

structure PathRestored (before after : GatewayHost) (agent : GatewayAgent)
    (payload : GatewayRoutePayload) : Prop where
  route : after.caddy.upstreams (caddyRouteId payload) =
    before.caddy.upstreams (caddyRouteId payload)
  attached : ∀ gateway name, before.named agent.gatewayContainer = some gateway →
    before.attached name gateway.id → after.attached name gateway.id

def HostStmt.disconnects {β : Type} : HostStmt β → HostInput → Bool
  | .http (.disconnectNetwork name containerId), i =>
    i.applies (.disconnectNetwork name containerId)
  | _, _ => false

/-- No request to disconnect the gateway has taken effect. -/
def Undisconnected (m : HostMoment) : Prop :=
  ∀ ev ∈ m.history, ev.stmt.disconnects ev.input = false

section Deactivation

variable {agent : GatewayAgent} {payload : GatewayRoutePayload} {m m' : HostMoment}
  {gateway : Container} {name containerId : String}

theorem undisconnected_next {β : Type} {e : HostStmt β} {i : HostInput} :
    Undisconnected (m.next 0 e i) ↔ Undisconnected m ∧ e.disconnects i = false := by
  simp [Undisconnected, or_imp, forall_and]

theorem not_undisconnected_ends {α : Type} {p : OnHost α} {r : Except AgentError α}
    (h : Ends p m r m') (hm : ¬ Undisconnected m) : ¬ Undisconnected m' := by
  obtain ⟨rest, hrest⟩ := h.history
  intro hm'
  exact hm fun ev hev => hm' ev (by rw [hrest]; exact List.mem_append_left _ hev)

theorem disconnects_of_confined {β : Type} {parts : List HostPart} {e : HostStmt β} {i : HostInput}
    (hp : HostPart.members ∉ parts) (h : e.confined parts = true) : e.disconnects i = false := by
  cases e with
  | http c =>
    cases c with
    | disconnectNetwork => exact absurd (by simpa [HostStmt.confined, HttpCall.part] using h) hp
    | _ => rfl
  | _ => rfl

theorem undisconnected_confined {α : Type} {parts : List HostPart} {p : OnHost α}
    {r : Except AgentError α} (hp : Confined parts p) (hparts : HostPart.members ∉ parts)
    (h : Ends p m r m') : Undisconnected m' ↔ Undisconnected m := by
  refine ⟨fun hm' => ?_, fun hm => ?_⟩
  · exact not_not.mp fun hn => not_undisconnected_ends h hn hm'
  · exact h.keeps (fun _ _ _ he hm => undisconnected_next.2
      ⟨hm, disconnects_of_confined hparts he⟩) hp hm

theorem read_ends {α : Type} {p : OnHost α} {r : Except AgentError α} (hp : Confined [] p)
    (h : Ends p m r m') : m'.state = m.state ∧ (Undisconnected m' ↔ Undisconnected m) :=
  ⟨hp.same h, undisconnected_confined hp List.not_mem_nil h⟩

theorem network?_updateNetwork {h : GatewayHost} {d : WorkloadNetwork → WorkloadNetwork}
    (hd : ∀ n, (d n).name = n.name) (name name' : String) :
    (h.updateNetwork name d).network? name' =
      (h.network? name').map fun n => if n.name == name then d n else n := by
  unfold GatewayHost.network? GatewayHost.updateNetwork
  rw [List.find?_map]
  congr 2
  funext n
  simp only [Function.comp]
  split
  · rw [hd]
  · rfl

theorem containsContainer_filter {network : WorkloadNetwork} {containerId' : String}
    (h : containsContainer { network with
      members := network.members.filter fun m => !sameContainer m containerId' } containerId = true) :
    containsContainer network containerId = true ∧ containerId ≠ containerId' := by
  simp only [containsContainer, List.any_filter, List.any_eq_true, Bool.and_eq_true,
    Bool.not_eq_true'] at h ⊢
  obtain ⟨memberId, hmem, hnot, hsame⟩ := h
  refine ⟨⟨memberId, hmem, hsame⟩, ?_⟩
  rintro rfl
  rw [hsame] at hnot
  cases hnot

/-- What is attached after a disconnection was attached before, and it was not what was
disconnected. -/
theorem attached_disconnectNetwork {h : GatewayHost} {name' containerId' : String}
    (hn : (h.disconnectNetwork name' containerId').2.attached name containerId) :
    h.attached name containerId ∧ ¬ (name = name' ∧ containerId = containerId') := by
  unfold GatewayHost.disconnectNetwork at hn
  split at hn
  · rename_i hnone
    refine ⟨hn, ?_⟩
    rintro ⟨rfl, _⟩
    obtain ⟨network, hnetwork, _⟩ := hn
    rw [hnone] at hnetwork
    cases hnetwork
  · rename_i network hnetwork
    split at hn
    · obtain ⟨after, hafter, hcontains⟩ := hn
      rw [network?_updateNetwork (by intro n; rfl)] at hafter
      obtain ⟨before, hbefore, rfl⟩ := Option.map_eq_some_iff.mp hafter
      have hname : before.name = name := by simpa using List.find?_some hbefore
      split at hcontains
      · rename_i hsame
        obtain ⟨hcontains, hne⟩ := containsContainer_filter hcontains
        exact ⟨⟨before, hbefore, hcontains⟩, fun heq => hne heq.2⟩
      · rename_i hdiff
        refine ⟨⟨before, hbefore, hcontains⟩, fun heq => ?_⟩
        rw [hname, heq.1] at hdiff
        exact hdiff (beq_self_eq_true name')
    · rename_i hnot
      refine ⟨hn, ?_⟩
      rintro ⟨rfl, rfl⟩
      obtain ⟨after, hafter, hcontains⟩ := hn
      rw [hnetwork] at hafter
      cases hafter
      exact hnot hcontains

/-! ## One network after the other -/

theorem leaveNetwork_ends {network : WorkloadNetwork} {r : Except AgentError Unit}
    (h : Ends (agent.leaveNetwork payload gateway name network) m r m') :
    (m'.state = m.state ∧ (Undisconnected m' ↔ Undisconnected m)) ∨
      (containsContainer network gateway.id = true ∧ ¬ Undisconnected m' ∧
        m'.state = (m.state.disconnectNetwork name gateway.id).2) := by
  unfold GatewayAgent.leaveNetwork at h
  split at h
  · exact .inl (read_ends (.ret _) h)
  · rename_i hcontains
    have hcontains : containsContainer network gateway.id = true := by simpa using hcontains
    have hrequest : ∀ {r} {m₁ : HostMoment},
        Ends (request (.disconnectNetwork name gateway.id)) m r m₁ →
        (m₁.state = m.state ∧ (Undisconnected m₁ ↔ Undisconnected m)) ∨
          (¬ Undisconnected m₁ ∧ m₁.state = (m.state.disconnectNetwork name gateway.id).2) := by
      intro r m₁ h
      obtain ⟨i, _, rfl⟩ := ends_await.mp h
      have hstate : (m.next 0 (HostStmt.http (.disconnectNetwork name gateway.id)) i).state =
          if i.applies (.disconnectNetwork name gateway.id) then
            (m.state.disconnectNetwork name gateway.id).2 else m.state := rfl
      have hstmt : (HostStmt.http (.disconnectNetwork name gateway.id)).disconnects i =
          i.applies (.disconnectNetwork name gateway.id) := rfl
      rw [undisconnected_next, hstate, hstmt]
      cases i.applies (.disconnectNetwork name gateway.id) with
      | true => exact .inr ⟨fun hn => absurd hn.2 (by decide), rfl⟩
      | false => exact .inl ⟨rfl, and_iff_left rfl⟩
    have hrest : ∀ (response : Response Unit) {r} {m₁ : HostMoment},
        Ends (if response.statusCode ≠ 200 ∧ response.statusCode ≠ 403 then
            throw (dockerError response "disconnect gateway from workload network")
          else do
            let verified ← agent.inspectNetwork payload name false
            if verified.all fun network => containsContainer network gateway.id then
              throw (newError
                "Docker did not disconnect the configured gateway from the workload network")
            else pure ()) m₁ r m' →
        m'.state = m₁.state ∧ (Undisconnected m' ↔ Undisconnected m₁) := by
      intro response r m₁ h
      refine read_ends ?_ h
      split
      · exact .ret _
      · refine .bind confined_inspectNetwork fun verified => ?_
        split <;> exact .ret _
    rcases ends_bind.mp h with ⟨response, m₁, h₁, h⟩ | ⟨x, h₁, _⟩
    · obtain ⟨hs, hu⟩ := hrest response h
      rw [hs, hu]
      exact (hrequest h₁).imp_right fun hr => ⟨hcontains, hr⟩
    · exact (hrequest h₁).imp_right fun hr => ⟨hcontains, hr⟩

/-- Statements that read, or disconnect. -/
def HostStmt.leaves {β : Type} : HostStmt β → Bool
  | .http (.disconnectNetwork ..) => true
  | e => e.confined []

theorem leaves_of_confined {β : Type} (e : HostStmt β) (h : e.confined [] = true) :
    e.leaves = true := by
  cases e with
  | http c =>
    cases c with
    | disconnectNetwork => rfl
    | _ => exact h
  | _ => exact h

theorem attached_of_leaves {β : Type} {e : HostStmt β} {i : HostInput} {h : GatewayHost}
    (he : e.leaves = true) (hn : (exec e i h).2.attached name containerId) :
    h.attached name containerId := by
  have hsame : e.confined [] = true → (exec e i h).2 = h := by
    intro hc
    have hend : Ends (await e : OnHost β) ⟨h, []⟩ (exec e i h).1 ((⟨h, []⟩ : HostMoment).next 0 e i) :=
      ends_await.mpr ⟨i, rfl, rfl⟩
    exact Confined.same (p := (await e : OnHost β)) (.await hc) hend
  cases e with
  | http c =>
    cases c with
    | disconnectNetwork name' containerId' =>
      rw [exec_http] at hn
      dsimp only at hn
      split at hn
      · exact (attached_disconnectNetwork hn).1
      · exact hn
    | _ => rw [hsame he] at hn; exact hn
  | _ => rw [hsame he] at hn; exact hn

theorem leaves_leaveNetwork {network : WorkloadNetwork} :
    (agent.leaveNetwork payload gateway name network).Only fun e => e.leaves = true := by
  unfold GatewayAgent.leaveNetwork
  split
  · exact .ret _
  · refine .bind (.await rfl) fun response => ?_
    split
    · exact .ret _
    · refine .bind (Only.mono leaves_of_confined confined_inspectNetwork) fun verified => ?_
      split <;> exact .ret _

theorem leaveNetworks_ends {host : GatewayHost} {r : Except AgentError Unit} :
    ∀ (entries : List (String × WorkloadNetwork)) (m : HostMoment),
      (∀ entry ∈ entries, host.network? entry.1 = some entry.2) →
      Ends (Prog.forEach (fun entry => agent.leaveNetwork payload gateway entry.1 entry.2) entries)
        m r m' →
      (m'.state = m.state ∧ (Undisconnected m' ↔ Undisconnected m)) ∨
        (¬ Undisconnected m' ∧ ∃ name, host.attached name gateway.id ∧
          ¬ m'.state.attached name gateway.id)
  | [], m, _, h => .inl (read_ends (.ret _) h)
  | entry :: entries, m, hentries, h => by
    obtain ⟨hentry, hrest⟩ := List.forall_mem_cons.mp hentries
    obtain ⟨r₁, m₁, h₁, h⟩ := ends_andThen.mp h
    rcases leaveNetwork_ends h₁ with ⟨hs, hu⟩ | ⟨hcontains, hn, hs⟩
    · cases r₁ with
      | ok =>
        rw [← hs, ← hu]
        exact leaveNetworks_ends entries m₁ hrest h
      | error =>
        obtain ⟨_, rfl⟩ := ends_ret.mp h
        exact .inl ⟨hs, hu⟩
    · refine .inr ⟨not_undisconnected_ends h hn, entry.1, ⟨entry.2, hentry, hcontains⟩, ?_⟩
      have hnot : ¬ m₁.state.attached entry.1 gateway.id := by
        rw [hs]
        exact fun hat => (attached_disconnectNetwork hat).2 ⟨rfl, rfl⟩
      refine h.keeps (P := fun e => e.leaves = true)
        (A := fun m => ¬ m.state.attached entry.1 gateway.id) (fun _ _ _ he hm hat => hm (attached_of_leaves he hat)) ?_ hnot
      cases r₁ with
      | ok => exact Only.forEach (fun _ => leaves_leaveNetwork) entries
      | error => exact .ret _

theorem inspectGateway_ok (h : Ends agent.inspectGateway m (.ok gateway) m') :
    m.state.named agent.gatewayContainer = some gateway := by
  unfold GatewayAgent.inspectGateway at h
  split at h
  · exact absurd (ends_throw.mp h).1 nofun
  · obtain ⟨response, m₁, hresponse, h⟩ := ends_bind_ok.mp h
    obtain ⟨found, m₂, hfound, h⟩ := ends_bind_ok.mp h
    obtain ⟨hbody, hcode⟩ := responseJson_ok (ends_lift_ok hfound).1
    split at h
    · exact absurd (ends_throw.mp h).1 nofun
    · cases (ends_pure.mp h).1
      rcases request_ok hresponse with ⟨rfl, _⟩ | ⟨hrefused, _⟩
      · simp only [HttpCall.answer] at hbody
        split at hbody
        · cases hbody
        · rename_i container hnamed
          rw [hnamed]
          exact hbody
      · have := (statusCode_of_refuses hrefused).1
        omega

theorem inspectNetwork_ok {network : WorkloadNetwork} {legacy : Bool}
    (h : Ends (agent.inspectNetwork payload name legacy) m (.ok (some network)) m') :
    m.state.network? name = some network := by
  obtain ⟨response, m₁, hresponse, h⟩ := ends_bind_ok.mp h
  split at h
  · exact absurd (ends_pure.mp h).1 nofun
  · obtain ⟨found, m₂, hfound, h⟩ := ends_bind_ok.mp h
    obtain ⟨hbody, hcode⟩ := responseJson_ok (ends_lift_ok hfound).1
    have heq : found = network := by
      split at h
      · exact (Option.some.inj (Except.ok.inj (ends_pure.mp h).1)).symm
      · split at h
        · exact absurd (ends_pure.mp h).1 nofun
        · exact absurd (ends_throw.mp h).1 nofun
    rcases request_ok hresponse with ⟨rfl, _⟩ | ⟨hrefused, _⟩
    · simp only [HttpCall.answer] at hbody
      split at hbody
      · cases hbody
      · rename_i container hnetwork
        rw [hnetwork, ← heq]
        exact hbody
    · have := (statusCode_of_refuses hrefused).1
      omega

theorem ownedNetworks_ok {entries : List (String × WorkloadNetwork)}
    (h : Ends (agent.ownedNetworks payload) m (.ok entries) m') :
    ∀ entry ∈ entries, m.state.network? entry.1 = some entry.2 := by
  obtain ⟨own, m₁, hown, h⟩ := ends_bind_ok.mp h
  obtain ⟨legacy, m₂, hlegacy, h⟩ := ends_bind_ok.mp h
  intro entry hentry
  rw [Except.ok.inj (ends_pure.mp h).1] at hentry
  rcases List.mem_append.mp hentry with hentry | hentry
  · obtain ⟨network, hsome, heq⟩ := Option.map_eq_some_iff.mp (Option.mem_toList.mp hentry)
    rw [hsome] at hown
    rw [← heq]
    dsimp only
    exact inspectNetwork_ok hown
  · obtain ⟨network, hsome, heq⟩ := Option.map_eq_some_iff.mp (Option.mem_toList.mp hentry)
    have hsame : m₁.state = m.state := confined_inspectNetwork.same hown
    rw [hsome] at hlegacy
    rw [← heq, ← hsame]
    dsimp only
    exact inspectNetwork_ok hlegacy

theorem disconnect_ends {r : Except AgentError Unit}
    (h : Ends (agent.disconnect payload) m r m') :
    (m'.state = m.state ∧ (Undisconnected m' ↔ Undisconnected m)) ∨
      (¬ Undisconnected m' ∧ ∃ gateway name,
        m.state.named agent.gatewayContainer = some gateway ∧ m.state.attached name gateway.id ∧
          ¬ m'.state.attached name gateway.id) := by
  rcases ends_bind.mp h with ⟨gateway, m₁, h₁, h⟩ | ⟨x, h₁, _⟩
  · obtain ⟨hs₁, hu₁⟩ := read_ends confined_inspectGateway h₁
    rcases ends_bind.mp h with ⟨entries, m₂, h₂, h⟩ | ⟨x, h₂, _⟩
    · obtain ⟨hs₂, hu₂⟩ := read_ends confined_ownedNetworks h₂
      rcases leaveNetworks_ends entries m₂ (ownedNetworks_ok h₂) h with ⟨hs, hu⟩ |
          ⟨hn, name, hbefore, hafter⟩
      · exact .inl ⟨hs.trans (hs₂.trans hs₁), hu.trans (hu₂.trans hu₁)⟩
      · rw [hs₁] at hbefore
        exact .inr ⟨hn, gateway, name, inspectGateway_ok h₁, hbefore, hafter⟩
    · obtain ⟨hs₂, hu₂⟩ := read_ends confined_ownedNetworks h₂
      exact .inl ⟨hs₂.trans hs₁, hu₂.trans hu₁⟩
  · exact .inl (read_ends confined_inspectGateway h₁)

theorem report_ends {percent : Nat} {verifying : Bool} {message : String}
    {r : Except AgentError Unit} (h : Ends (report percent verifying message) m r m') :
    m'.state = m.state ∧ (Undisconnected m' ↔ Undisconnected m) := by
  obtain ⟨i, _, rfl⟩ := ends_await.mp h
  exact ⟨rfl, by rw [undisconnected_next]; exact and_iff_left rfl⟩

theorem deactivate_failed {error : AgentError}
    (h : Ends (agent.deactivate payload) m (.error error) m') :
    (m'.state.networks = m.state.networks ∧ (Undisconnected m' ↔ Undisconnected m)) ∨
      (¬ Undisconnected m' ∧ ∃ gateway name,
        m.state.named agent.gatewayContainer = some gateway ∧ m.state.attached name gateway.id ∧
          ¬ m'.state.attached name gateway.id) := by
  have hroute : ∀ {r} {m m' : HostMoment},
      Ends (reconcileRoute (caddyIntent payload inactiveUpstream false)) m r m' →
      m'.state.networks = m.state.networks ∧ m'.state.containers = m.state.containers ∧
        (Undisconnected m' ↔ Undisconnected m) := fun h =>
    ⟨confined_reconcileRoute.networks (by decide) (by decide) h,
      confined_reconcileRoute.containers (by decide) h,
      undisconnected_confined confined_reconcileRoute (by decide) h⟩
  rcases ends_bind.mp h with ⟨⟨⟩, m₁, h₁, h⟩ | ⟨x, h₁, _⟩
  · obtain ⟨hs₁, hu₁⟩ := report_ends h₁
    rcases ends_bind.mp h with ⟨⟨⟩, m₂, h₂, h⟩ | ⟨x, h₂, _⟩
    · obtain ⟨hn₂, hc₂, hu₂⟩ := hroute h₂
      rcases ends_bind.mp h with ⟨⟨⟩, m₃, h₃, h⟩ | ⟨x, h₃, _⟩
      · obtain ⟨hs₃, hu₃⟩ := report_ends h₃
        have hnetworks : m₃.state.networks = m.state.networks := by rw [hs₃, hn₂, hs₁]
        have hcontainers : m₃.state.containers = m.state.containers := by rw [hs₃, hc₂, hs₁]
        rcases disconnect_ends h with ⟨hs, hu⟩ | ⟨hn, gateway, name, hgateway, hbefore, hafter⟩
        · exact .inl ⟨by rw [hs, hnetworks], hu.trans (hu₃.trans (hu₂.trans hu₁))⟩
        · refine .inr ⟨hn, gateway, name, ?_, ?_, hafter⟩
          · rw [← hgateway, GatewayHost.named, GatewayHost.named, hcontainers]
          · simpa only [GatewayHost.attached, GatewayHost.network?, hnetworks] using hbefore
      · obtain ⟨hs₃, hu₃⟩ := report_ends h₃
        exact .inl ⟨by rw [hs₃, hn₂, hs₁], hu₃.trans (hu₂.trans hu₁)⟩
    · obtain ⟨hn₂, _, hu₂⟩ := hroute h₂
      exact .inl ⟨by rw [hn₂, hs₁], hu₂.trans hu₁⟩
  · obtain ⟨hs₁, hu₁⟩ := report_ends h₁
    exact .inl ⟨by rw [hs₁], hu₁⟩

/-- When a deactivation has failed and reports the previous route as restored, the route is back,
and the gateway is attached to everything it was attached to, if and only if no request to
disconnect it has taken effect. -/
theorem deactivation_restores_path {host : GatewayHost} {cause : String} {serving : Bool}
    (hinactive : payload.desiredState ≠ .active)
    (h : Ends (agent.run payload) ⟨host, []⟩ (.error (.restored cause serving)) m') :
    PathRestored host m'.state agent payload ↔ Undisconnected m' := by
  obtain ⟨_, m₁, m₂, m₃, previous, error, h₁, h₂, h₃, h₄⟩ :=
    (run_restored h).resolve_left fun hn => hinactive hn.1
  obtain ⟨_, _, upstream, rfl, hroute⟩ := restoreInactiveRoute_restored h₄
  obtain ⟨hs₁, hu₁⟩ := report_ends h₁
  obtain ⟨hcurrent, hs₂⟩ := currentRoute_ok h₂
  have hu₂ := undisconnected_confined confined_currentRoute (by decide) h₂
  have hstate₁ : m₁.state = host := hs₁
  have hhost : m₂.state = host := hs₂.trans hs₁
  have hstart : Undisconnected m₂ :=
    hu₂.mpr (hu₁.mpr fun ev hev => absurd hev List.not_mem_nil)
  have hnetworks : m'.state.networks = m₃.state.networks :=
    confined_reconcileRoute.networks (by decide) (by decide) hroute
  have hundisconnected : Undisconnected m' ↔ Undisconnected m₃ :=
    undisconnected_confined confined_reconcileRoute (by decide) hroute
  have hupstreams : m'.state.caddy.upstreams (caddyRouteId payload) =
      host.caddy.upstreams (caddyRouteId payload) := by
    have hrestored : m'.state.caddy.upstreams (caddyRouteId payload) = [some upstream] :=
      reconcileRoute_ok hroute
    rw [hrestored, ← hstate₁, hcurrent]
    rfl
  have hattached : ∀ name containerId,
      m'.state.attached name containerId ↔ m₃.state.attached name containerId := by
    intro name containerId
    rw [GatewayHost.attached, GatewayHost.attached, GatewayHost.network?, GatewayHost.network?,
      hnetworks]
  rw [hundisconnected]
  rcases deactivate_failed h₃ with ⟨hn, hu⟩ | ⟨hn, gateway, name, hgateway, hbefore, hafter⟩
  · refine iff_of_true ⟨hupstreams, fun gateway name _ hbefore => ?_⟩ (hu.mpr hstart)
    rw [hattached, GatewayHost.attached, GatewayHost.network?, hn, hhost]
    exact hbefore
  · rw [hhost] at hgateway hbefore
    refine iff_of_false (fun hpath => hafter ?_) hn
    exact (hattached _ _).mp (hpath.attached gateway name hgateway hbefore)

end Deactivation

def stopPayload : GatewayRoutePayload :=
  { servingPayload with desiredState := .stopped, workloadSlot := none, activation := none }

/-- The control plane is lost before the gateway is disconnected: everything is as before. -/
theorem deactivation_restores_path_early :
    ∃ m', PathRestored servingHost m' hostAgent stopPayload := by
  obtain ⟨r, m', h, hcheck⟩ := ends_of_performs (hostAgent.run stopPayload)
    (List.replicate 6 working ++ [broken "lost", working, working, working]) ⟨servingHost, []⟩
    (fun r m' => restoredCause r == some "lost" && m'.history.all fun ev =>
      !ev.stmt.disconnects ev.input) (by decide)
  simp only [Bool.and_eq_true, beq_iff_eq, List.all_eq_true, Bool.not_eq_true'] at hcheck
  rw [restoredCause_eq hcheck.1] at h
  exact ⟨m'.state, (deactivation_restores_path (by decide) h).mpr hcheck.2⟩

/-- The gateway has left the network when the verification of that fails: the route is restored, but
the gateway cannot reach its upstream. -/
theorem restored_route_unreachable : ¬ ∀ (agent : GatewayAgent) (payload : GatewayRoutePayload)
    (host : GatewayHost) (m' : HostMoment) (cause : String), payload.desiredState ≠ .active →
      Ends (agent.run payload) ⟨host, []⟩ (.error (.restored cause true)) m' →
      PathRestored host m'.state agent payload := by
  intro hall
  obtain ⟨r, m', h, hcheck⟩ := ends_of_performs (hostAgent.run stopPayload)
    (List.replicate 11 working ++ [broken "socket hang up", working, working, working])
    ⟨servingHost, []⟩ (fun r m' => restoredCause r == some "socket hang up" &&
      (m'.state.network? "net-team-a0123456789ab-shop-dev").all fun network =>
        !containsContainer network gatewayContainer.id) (by decide)
  simp only [Bool.and_eq_true, beq_iff_eq, Option.all_eq_true, Bool.not_eq_true'] at hcheck
  rw [restoredCause_eq hcheck.1] at h
  have hbefore : servingHost.attached "net-team-a0123456789ab-shop-dev" gatewayContainer.id :=
    ⟨_, List.find?_cons_of_pos (by decide), by decide⟩
  obtain ⟨network, hnetwork, hcontains⟩ := (hall hostAgent stopPayload servingHost m' _
    (by decide) h).attached gatewayContainer _ (by decide) hbefore
  rw [hcheck.2 network hnetwork] at hcontains
  cases hcontains

end InitPad
