import InitPad.Gateway.HostRules
import InitPad.Workload.Clearing

/-!
# InitPad.Workload.Isolation

A deployment behind a managed gateway leaves the containers of other slots and of other workloads
alone, unless one with another slot has the name of a candidate; and what the gateway does afterwards
removes other revisions in `commit` only, which keeps the active one.
-/

namespace InitPad.Workload

open Interleave Prog Engine

namespace Agent

variable (agent : Agent) (payload : Payload)

def carriesOtherSlot (c : Container) : Bool :=
  c.config.labels.workloadSlot.any fun slot => slot != agent.managedWorkloadSlot payload

/-- A container that the deployment of the payload has to leave alone. -/
def outside (c : Container) : Prop :=
  agent.carriesOtherSlot payload c = true ∨ agent.belongsToWorkload payload c = false

def hasOtherCandidate (d : Docker) : Prop :=
  ∃ c ∈ d.host.containers, agent.belongsToWorkload payload c = true ∧
    agent.carriesOtherSlot payload c = true ∧ agent.isCandidateName payload c.name

end Agent

/-- No container outside the deployment has been removed, stopped or renamed. -/
def Isolated (agent : Agent) (payload : Payload) (d d' : Docker) : Prop :=
  ∀ c ∈ d.host.containers, agent.outside payload c → ∃ c' ∈ d'.host.containers,
    c'.id = c.id ∧ c'.name = c.name ∧ (c.running = true → c'.running = true)

section Deploy

variable {agent : Agent} {value payload : Payload} {d d' : Docker} {c : Container}

/-! ## Deployments that isolate -/

theorem Isolated.of_host (h : d'.host = d.host) : Isolated agent payload d d' := by
  intro c hc _
  rw [h]
  exact ⟨c, hc, rfl, rfl, fun hrunning => hrunning⟩

theorem matches_of_managed (hmode : payload.routingMode = .managedGateway)
    (hnot : agent.collides payload d = false) (hcurrent : agent.currentWorkload payload d = some c) :
    agent.matches_ payload c = true := by
  unfold Agent.currentWorkload at hcurrent
  rw [hmode] at hcurrent
  rcases Option.or_eq_some_iff.mp hcurrent with hscoped | ⟨-, hlegacy⟩
  · unfold Agent.collides at hnot
    rw [hscoped, hmode] at hnot
    simp only [Option.any_some, Bool.or_eq_false_iff, Bool.and_eq_false_iff] at hnot
    simpa using hnot.2
  · exact (legacyRevision_spec hlegacy).2

theorem deploy_isolated (hw : d.host.WellFormed) (hp : validatedPayload value = .ok payload)
    (hmode : payload.routingMode = .managedGateway)
    (h : ¬(agent.prepares payload d ∧ agent.hasOtherCandidate payload d)) :
    Always anyInput (fun _ d' => Isolated agent payload d d') (deploy agent value) d := by
  cases hnot : agent.collides payload d with
  | true =>
    refine (deploy_collides hp hnot).mono ?_
    rintro r d' rfl
    exact .of_host rfl
  | false =>
    cases hcurrent : agent.currentWorkload payload d with
    | some c =>
      refine deploy_current (I := fun d' => Isolated agent payload d d') hw hp hcurrent
        (matches_of_managed hmode hnot hcurrent) (fun _ _ h' => h') ?_ (.of_host rfl)
      intro c' port _ c₁ hc₁ _
      by_cases hid : c₁.id = c'.id
      · refine ⟨startOn port c₁, ?_, rfl, rfl, fun _ => rfl⟩
        rw [← hid]
        exact Host.mem_update_self (d := startOn port) hc₁
      · exact ⟨c₁, Host.mem_update_of_ne hc₁ hid, rfl, rfl, fun hrunning => hrunning⟩
    | none =>
      by_cases hblocked : agent.networkBlocked payload d
      · refine (deploy_networkBlocked hp (fun c hc => ?_) hblocked).mono fun _ _ hhost =>
          .of_host hhost
        rw [hcurrent] at hc
        cases hc
      · refine (deploy_steps hw hnot hp).mono ?_
        rintro r d' ⟨stage, hsteps⟩ c hc houtside
        rw [hcurrent] at hsteps
        have hspared : Spared agent payload c := by
          intro howned
          rcases houtside with hslot | hforeign
          · have hname : ¬ agent.isCandidateName payload c.name := fun hname =>
              h ⟨⟨hnot, (fun c' hc' => by rw [hcurrent] at hc'; cases hc'), hblocked⟩,
                c, hc, howned, hslot, hname⟩
            exact not_or.mp hname
          · rw [hforeign] at howned
            cases howned
        obtain ⟨c', hc', hid, hname, -, -, hrunning⟩ :=
          hsteps.kept hw hspared (fun c' hc' => by cases hc') (.self hc)
        exact ⟨c', hc', hid, hname, hrunning⟩

/-- The deployments of a payload isolate just when they do not get as far as to a candidate that
carries another slot. -/
theorem deploy_isolated_iff (hw : d.host.WellFormed) (hp : validatedPayload value = .ok payload)
    (hmode : payload.routingMode = .managedGateway) :
    (∀ d', (deploy agent value).Visits d d' → Isolated agent payload d d') ↔
      ¬(agent.prepares payload d ∧ agent.hasOtherCandidate payload d) := by
  constructor
  · rintro hall ⟨hprepares, c, hc, howned, hslot, hname⟩
    obtain ⟨d', hvisits, -, hcleared⟩ := exists_cleared hw hp hprepares
    obtain ⟨c', hc', hid, -⟩ := hall d' hvisits c hc (.inl hslot)
    exact not_cleared hw hc howned hname hcleared hc' hid
  · exact fun h d' hvisits => (deploy_isolated hw hp hmode h).visits exists_idle hvisits

/-! ## Deployments of projects -/

theorem returns_loadImageArchive {ref : String} (href : isProjectImageRef ref.toList = true) :
    ∃ d', (loadImageArchive ref).Returns d (.ok ()) d' ∧ ImagesOf d d' := by
  have hloaded : Always Regular (fun r d' => r = .ok () ∧ ImagesOf d d') (loadImageArchive ref) d := by
    unfold loadImageArchive
    rw [if_neg (by rw [href]; decide)]
    refine Always.bind (Q := fun r d' => r = .ok (answered 200 none) ∧
        d' = { d with images := d.images.filter (· != ref) ++ [ref] })
      (always_request (fun hfaulty => absurd hfaulty not_faulty_regular) fun _ _ => ⟨rfl, rfl⟩) ?_
      fun x d' h => by cases h.1
    rintro response d' ⟨hresponse, rfl⟩
    cases hresponse
    rw [if_neg (by decide)]
    have hpresent : Always Regular (fun r d' => r = .ok true ∧
        d' = { d with images := d.images.filter (· != ref) ++ [ref] }) (imageExists ref)
        { d with images := d.images.filter (· != ref) ++ [ref] } := by
      refine Always.bind (Q := fun r d' => r = .ok (answered 200 (some ())) ∧
          d' = { d with images := d.images.filter (· != ref) ++ [ref] })
        (always_request (fun hfaulty => absurd hfaulty not_faulty_regular) fun _ _ => ⟨?_, rfl⟩) ?_
        fun x d' h => by cases h.1
      · simp [DockerCall.answer]
      · rintro response d' ⟨hresponse, rfl⟩
        cases hresponse
        exact ⟨rfl, rfl⟩
    refine hpresent.bind ?_ fun x d' h => by cases h.1
    rintro present d' ⟨hpresent, rfl⟩
    cases hpresent
    exact ⟨rfl, _, rfl⟩
  obtain ⟨r, d', hreturns, rfl, himages⟩ := hloaded.returns ⟨{}, regular_default⟩
  exact ⟨d', hreturns, himages⟩

theorem returns_report {progress : Progress} :
    (await (.report progress) : OnDocker Unit).Returns d (.ok ()) d := by
  have hreported : Always Regular (fun r d' => r = .ok () ∧ d' = d)
      (await (.report progress) : OnDocker Unit) d := by
    refine always_await.2 fun i hi => ⟨?_, rfl⟩
    simp [exec, AgentStmt.run, hi.trouble]
  obtain ⟨r, d', hreturns, rfl, rfl⟩ := hreported.returns ⟨{}, regular_default⟩
  exact hreturns

theorem returns_imageExists {ref : String} :
    ∃ present, (imageExists ref).Returns d (.ok present) d := by
  have hexists : Always Regular (fun r d' => (∃ present, r = .ok present) ∧ d' = d)
      (imageExists ref) d := by
    refine Always.bind (Q := fun r d' => d' = d ∧
        r = .ok ((DockerCall.inspectImage ref).answer 0 d).1)
      (always_request (fun hfaulty => absurd hfaulty not_faulty_regular) fun _ _ => ⟨rfl, rfl⟩) ?_
      fun x d' h => by cases h.2
    rintro response d' ⟨rfl, hresponse⟩
    cases hresponse
    unfold DockerCall.answer
    by_cases hpresent : d'.images.contains ref = true
    · simp only [hpresent, if_true]
      exact ⟨⟨true, rfl⟩, rfl⟩
    · simp only [hpresent]
      exact ⟨⟨false, rfl⟩, rfl⟩
  obtain ⟨r, d', hreturns, ⟨present, rfl⟩, rfl⟩ := hexists.returns ⟨{}, regular_default⟩
  exact ⟨present, hreturns⟩

theorem visits_deployProject {value : Payload} (hparse : parseProjectPayload value = .ok payload) :
    ∃ d₁, ImagesOf d d₁ ∧ ∀ d', (deploy agent payload).Visits d₁ d' →
      (deployProject agent value (.ok ())).Visits d d' := by
  obtain ⟨present, hpresent⟩ : ∃ present, (imageExists payload.imageRef).Returns d (.ok present) d :=
    returns_imageExists
  obtain ⟨d₁, hloaded, himages⟩ := returns_loadImageArchive (d := d)
    (by simpa using (accepted_of_parse hparse).1.imageRef)
  refine ⟨d₁, himages, fun d' hvisits => ?_⟩
  unfold deployProject
  rw [hparse]
  have hfirst : (tryCatch
      (do
        await (.report ⟨8, false, "Receiving verified image artifact"⟩)
        imageExists payload.imageRef)
      (discardImage payload.imageRef false) : OnDocker Bool).Returns d (.ok present) d := by
    refine Returns.andThen (returns_report.bind hpresent) ?_
    exact .ret (.ok present) d
  exact hfirst.visits_bind (Visits.andThen (hloaded.visits_bind
    (returns_report.visits_bind (Visits.andThen hvisits))))

theorem deployProject_isolated_iff {delivery : Except AgentError Unit} (hw : d.host.WellFormed)
    (hparse : parseProjectPayload value = .ok payload)
    (hmode : payload.routingMode = .managedGateway) :
    (∀ d', (deployProject agent value delivery).Visits d d' → Isolated agent payload d d') ↔
      ¬(delivery = .ok () ∧ agent.prepares payload d ∧ agent.hasOtherCandidate payload d) := by
  have hp := validatedPayload_of_parseProject hparse
  constructor
  · rintro hall ⟨rfl, hprepares, c, hc, howned, hslot, hname⟩
    obtain ⟨d₁, ⟨images, rfl⟩, hproject⟩ := @visits_deployProject agent payload d value hparse
    obtain ⟨d', hvisits, -, hcleared⟩ := exists_cleared (d := { d with images := images })
      hw hp hprepares
    obtain ⟨c', hc', hid, -⟩ := hall d' (hproject d' hvisits) c hc (.inl hslot)
    exact not_cleared hw hc howned hname hcleared hc' hid
  · intro h d' hvisits
    cases delivery with
    | error x =>
      have hsame : Always anyInput (fun _ d' => Isolated agent payload d d')
          (deployProject agent value (.error x)) d := by
        unfold deployProject
        rw [hparse]
        exact .of_host rfl
      exact hsame.visits exists_idle hvisits
    | ok =>
      refine (always_deployProject (I := fun d' => Isolated agent payload d d') ?_ ?_ ?_
        (.of_host rfl)).visits exists_idle hvisits
      · rintro d₁ d₂ ⟨images, rfl⟩ h₁
        exact h₁
      · exact fun _ _ h₁ => h₁
      · rintro payload' d₁ hparse' hp' ⟨images, rfl⟩
        rw [hparse] at hparse'
        cases hparse'
        exact deploy_isolated (d := { d with images := images }) hw hp hmode
          fun hboth => h ⟨rfl, hboth⟩

end Deploy

end InitPad.Workload

/-! ## The gateway -/

namespace InitPad

open Interleave Prog

def HostStmt.spares (id : String) {β : Type} : HostStmt β → Bool
  | .http (.removeContainer id') | .http (.stopContainer id') => id' != id
  | _ => true

section Gateway

variable {agent : GatewayAgent} {payload : GatewayRoutePayload} {m m' m₁ : HostMoment}
  {c : Container} {id : String}

theorem spares_keeps {β : Type} {e : HostStmt β} (he : e.spares c.id = true) (i : HostInput)
    {h : GatewayHost} (hc : c ∈ h.containers) : c ∈ (exec e i h).2.containers := by
  cases e with
  | http call =>
    rw [exec_http]
    split
    · by_cases hpart : call.part = some .containers
      · cases call with
        | removeContainer id' =>
          have hne : c.id ≠ id' := fun hid => by simp [HostStmt.spares, hid] at he
          simp only [HttpCall.answer, GatewayHost.removeContainer]
          split
          · exact hc
          · exact List.mem_filter.mpr ⟨hc, by simpa using hne⟩
        | stopContainer id' =>
          have hne : c.id ≠ id' := fun hid => by simp [HostStmt.spares, hid] at he
          simp only [HttpCall.answer, GatewayHost.stopContainer]
          split
          · exact hc
          · split
            · exact List.mem_map.mpr ⟨c, hc, by simp [hne]⟩
            · exact hc
        | _ => cases hpart
      · rw [answer_containers h hpart]
        exact hc
    · exact hc
  | _ => exact hc

theorem ends_spares {α : Type} {p : OnHost α} {r : Except AgentError α}
    (hp : p.Only fun e => e.spares c.id = true) (h : Ends p m r m')
    (hc : c ∈ m.state.containers) : c ∈ m'.state.containers :=
  h.keeps (A := fun m => c ∈ m.state.containers) (fun _ i _ he hm => spares_keeps he i hm) hp hc

theorem spares_request {β : Type} {call : HttpCall β}
    (h : (HostStmt.http call).spares id = true) :
    (request call).Only fun e => e.spares id = true := .await h

theorem spares_retire {workload : Container} (hne : workload.id ≠ id) :
    (GatewayAgent.retire workload).Only fun e => e.spares id = true := by
  refine .bind (spares_request (by simpa [HostStmt.spares] using hne)) fun response => ?_
  split
  · exact .ret _
  · split
    · exact .ret _
    · refine .bind (spares_request rfl) fun removed => ?_
      split
      · exact .ret _
      · exact .ret _

theorem spares_retireAll : ∀ workloads : List Container, (∀ w ∈ workloads, w.id ≠ id) →
    (Prog.forEach (fun workload => GatewayAgent.retire workload) workloads).Only
      fun e => e.spares id = true
  | [], _ => .ret _
  | w :: ws, h => by
    refine Only.andThen (spares_retire (h w List.mem_cons_self)) fun r => ?_
    cases r with
    | ok => exact spares_retireAll ws fun w' hw' => h w' (List.mem_cons_of_mem _ hw')
    | error => exact .ret _

theorem commit_keeps_active {r : Except AgentError Unit}
    (hactive : Ends (agent.activeWorkload payload) m (.ok c) m₁)
    (h : Ends (agent.commit payload) m r m') : c ∈ m'.state.containers := by
  have hcandidate := activeWorkload_ok hactive
  have hc := (mem_of_candidate hcandidate).1
  unfold GatewayAgent.commit at h
  split at h
  · rw [(ends_pure.mp h).2]
    exact hc
  · rcases ends_bind.1 h with ⟨active, m₂, hactive', h⟩ | ⟨x, hx, -⟩
    · have hsame : active = c := by
        have hcandidate' := activeWorkload_ok hactive'
        rw [hcandidate] at hcandidate'
        exact (Option.some.inj hcandidate').symm
      have hm₂ := (confined_activeWorkload).same hactive'
      rcases ends_bind.1 h with ⟨workloads, m₃, hworkloads, h⟩ | ⟨x, hx, -⟩
      · have hm₃ := (confined_ownedWorkloads).same hworkloads
        refine ends_spares (spares_retireAll _ fun w hw => ?_) h (by rw [hm₃, hm₂]; exact hc)
        rw [← hsame]
        simpa using (List.mem_filter.mp hw).2
      · rw [(confined_ownedWorkloads).same hx, hm₂]
        exact hc
    · rw [(confined_activeWorkload).same hx]
      exact hc

theorem rollback_keeps_others {r : Except AgentError Unit} (hc : c ∈ m.state.containers)
    (hother : ∀ active m₁, Ends (agent.activeWorkload payload) m (.ok active) m₁ → active.id ≠ c.id)
    (h : Ends (agent.rollback payload) m r m') : c ∈ m'.state.containers := by
  rcases ends_bind.1 h with ⟨active, m₂, hactive, h⟩ | ⟨x, hx, -⟩
  · have hne := hother active m₂ hactive
    have hm₂ := (confined_activeWorkload).same hactive
    refine ends_spares ?_ h (by rw [hm₂]; exact hc)
    split
    · refine .bind (spares_request (by simpa [HostStmt.spares] using hne)) fun response => ?_
      split
      · exact .ret _
      · exact .ret _
    · refine .bind (spares_request (by simpa [HostStmt.spares] using hne)) fun response => ?_
      split
      · exact .ret _
      · exact .ret _
    · exact .ret _
  · rw [(confined_activeWorkload).same hx]
    exact hc

end Gateway

end InitPad

namespace InitPad.Workload

open Interleave Prog Engine

/-- Deployments behind a managed gateway isolate just when they do not get as far as to a candidate
that carries another slot; later only the cleanup removes other revisions, and never the active one. -/
theorem managed_isolation {agent : Agent} {value payload : Payload}
    (hmode : payload.routingMode = .managedGateway) :
    (∀ d, d.host.WellFormed → validatedPayload value = .ok payload →
      ((∀ d', (deploy agent value).Visits d d' → Isolated agent payload d d') ↔
        ¬(agent.prepares payload d ∧ agent.hasOtherCandidate payload d))) ∧
    (∀ d delivery, d.host.WellFormed → parseProjectPayload value = .ok payload →
      ((∀ d', (deployProject agent value delivery).Visits d d' → Isolated agent payload d d') ↔
        ¬(delivery = .ok () ∧ agent.prepares payload d ∧ agent.hasOtherCandidate payload d))) ∧
    ∀ (gateway : GatewayAgent) (route : GatewayRoutePayload) (m m' m₁ : HostMoment)
      (c active : InitPad.Container), c ∈ m.state.containers →
      Ends (gateway.activeWorkload route) m (.ok active) m₁ →
      (∀ r, Ends (gateway.commit route) m r m' → active ∈ m'.state.containers) ∧
      (∀ r, Ends (gateway.rollback route) m r m' → c.id ≠ active.id → c ∈ m'.state.containers) ∧
      (∀ r, Ends (gateway.connect route) m r m' → c ∈ m'.state.containers) ∧
      (∀ r, Ends (gateway.disconnect route) m r m' → c ∈ m'.state.containers) ∧
      ∀ r, Ends (gateway.resolveUpstream route) m r m' → c ∈ m'.state.containers := by
  refine ⟨fun d hw hp => deploy_isolated_iff hw hp hmode,
    fun d delivery hw hparse => deployProject_isolated_iff hw hparse hmode, ?_⟩
  intro gateway route m m' m₁ c active hc hactive
  refine ⟨fun r h => commit_keeps_active hactive h, fun r h hne => ?_, fun r h => ?_, fun r h => ?_,
    fun r h => ?_⟩
  · refine rollback_keeps_others hc (fun active' m₂ hactive' => ?_) h
    have hcandidate := activeWorkload_ok hactive
    rw [activeWorkload_ok hactive'] at hcandidate
    rw [Option.some.inj hcandidate]
    exact hne.symm
  · rw [(confined_connect).containers (by decide) h]
    exact hc
  · rw [(confined_disconnect).containers (by decide) h]
    exact hc
  · rw [(confined_resolveUpstream).same h]
    exact hc

/-! ## Two configurations of one revision -/

/-- The digests of an allocation and of the slots of two configurations. -/
def slotAgent : Agent where
  targetId := "target"
  sha256 := fun text =>
    if text = "alloc1" then "f27f98b12ae086fcc09f74723ed3260f68d27324fe5cb1428ee9174b1a0b239c"
    else if text.toList.getLast? = some 'a' then
      "966dfea77c7134921f89c0c15b5f9f71c5050b2bc6cd3039417ef79610384c22"
    else "aa17b339cdd9718c8e20c5e5c24ee3e4bd62354eb016113443a3c8e8cb59d523"

def slotPayload (digit : Char) : Payload :=
  { shopPayload "r1" with
    imageRef := "initpad/shop:r1"
    routingMode := .managedGateway
    configFingerprint := some (String.ofList (List.replicate 64 digit)) }

def slotHost : Docker where
  host :=
    { containers := [⟨0, "initpad-team-shop-dev-next-r1",
        slotAgent.candidateConfig (slotPayload 'a'), true⟩]
      nextId := 1 }
  images := ["initpad/shop:r1"]

theorem slotHost_wellFormed : slotHost.host.WellFormed :=
  ⟨List.nodup_singleton _, List.nodup_singleton _, fun c hc => by
    rw [List.mem_singleton.mp hc]
    exact Nat.zero_lt_one⟩

theorem slot_scope (digit : Char) :
    slotAgent.allocationDockerScope (slotPayload digit).allocationId = "f27f98b12ae0" := by
  simp only [Agent.allocationDockerScope, Agent.digest, slotAgent]
  have halloc : (slotPayload digit).allocationId = "alloc1" := rfl
  rw [halloc, if_pos rfl, toList_of_letters (rfl : _ = String.ofList _)]
  rfl

theorem slot_last (digit : Char) : ((slotPayload digit).revision ++ "\x00" ++
    (slotPayload digit).imageRef ++ "\x00" ++
      (slotPayload digit).configFingerprint.getD "").toList.getLast? = some digit := by
  simp [slotPayload]

theorem slot_text_ne (digit : Char) (h : digit ≠ '1') : ((slotPayload digit).revision ++ "\x00" ++
    (slotPayload digit).imageRef ++ "\x00" ++
      (slotPayload digit).configFingerprint.getD "") ≠ "alloc1" := by
  intro hsame
  have hlast := slot_last digit
  rw [hsame, toList_of_letters (rfl : "alloc1" = String.ofList _)] at hlast
  exact h (Option.some.inj hlast).symm

theorem slot_a : slotAgent.managedWorkloadSlot (slotPayload 'a') = "966dfea77c71" := by
  simp only [Agent.managedWorkloadSlot, Agent.digest, slotAgent]
  rw [if_neg (slot_text_ne 'a' (by decide)), if_pos (slot_last 'a'),
    toList_of_letters (rfl : _ = String.ofList _)]
  rfl

theorem slot_b : slotAgent.managedWorkloadSlot (slotPayload 'b') = "aa17b339cdd9" := by
  have hother : some 'b' ≠ some 'a' := by decide
  simp only [Agent.managedWorkloadSlot, Agent.digest, slotAgent]
  rw [if_neg (slot_text_ne 'b' (by decide)), if_neg ((slot_last 'b').trans_ne hother),
    toList_of_letters (rfl : _ = String.ofList _)]
  rfl

theorem slot_containerName : slotAgent.containerName (slotPayload 'b') =
    "initpad-team-af27f98b12ae0-shop-dev-rev-aa17b339cdd9" := by
  change slotAgent.managedWorkloadContainerName _ (slotAgent.managedWorkloadSlot _) = _
  unfold Agent.managedWorkloadContainerName Agent.workloadContainerName
  rw [slot_scope, slot_b]
  decide

theorem slot_legacyName : slotAgent.legacyWorkloadContainerName (slotPayload 'b') =
    "initpad-team-shop-dev" := by
  decide

theorem slot_legacyManagedName :
    slotAgent.legacyManagedWorkloadContainerName (slotPayload 'b') "aa17b339cdd9" =
      "initpad-team-shop-dev-rev-aa17b339cdd9" := by
  unfold Agent.legacyManagedWorkloadContainerName
  rw [slot_legacyName]
  decide

theorem slot_valid_a : validatedPayload (slotPayload 'a') = .ok (slotPayload 'a') := by decide

theorem slot_valid_b : validatedPayload (slotPayload 'b') = .ok (slotPayload 'b') := by decide

theorem managed_isolation_same : slotHost.host.WellFormed ∧
    ∀ d', (deploy slotAgent (slotPayload 'a')).Visits slotHost d' →
      Isolated slotAgent (slotPayload 'a') slotHost d' :=
  ⟨slotHost_wellFormed, ((@managed_isolation slotAgent (slotPayload 'a') (slotPayload 'a') rfl).1 slotHost
    slotHost_wellFormed slot_valid_a).mpr (by
      rintro ⟨-, c, hc, -, hslot, -⟩
      rw [List.mem_singleton.mp hc] at hslot
      simp [Agent.carriesOtherSlot, Agent.candidateConfig, Agent.labels, slotPayload] at hslot)⟩

/-- The container of `slotHost`. -/
abbrev slotCandidate : Container :=
  ⟨0, "initpad-team-shop-dev-next-r1", slotAgent.candidateConfig (slotPayload 'a'), true⟩

theorem slotHost_not_collides : slotAgent.collides (slotPayload 'b') slotHost = false := by
  unfold Agent.collides
  rw [slot_containerName]
  decide

theorem slotHost_current : slotAgent.currentWorkload (slotPayload 'b') slotHost = none := by
  unfold Agent.currentWorkload Agent.managedLegacyNames
  rw [slot_containerName, slot_b, slot_legacyManagedName, slot_legacyName]
  decide

theorem slotCandidate_slot : slotAgent.carriesOtherSlot (slotPayload 'b') slotCandidate = true := by
  have hslot : slotCandidate.config.labels.workloadSlot = some "966dfea77c71" :=
    congrArg some slot_a
  unfold Agent.carriesOtherSlot
  rw [hslot, slot_b]
  decide

theorem slotCandidate_name :
    slotCandidate.name ∈ slotAgent.legacyCandidateNames (slotPayload 'b') := by
  have hnext : Agent.nextName (slotPayload 'b') "initpad-team-shop-dev" = slotCandidate.name := by
    decide
  unfold Agent.legacyCandidateNames Agent.candidateName Agent.legacyContainerNames
  rw [slot_containerName, List.mem_filter]
  refine ⟨?_, by decide⟩
  rw [List.mem_eraseDups, List.mem_flatMap]
  refine ⟨slotAgent.legacyWorkloadContainerName (slotPayload 'b'),
    List.mem_cons_of_mem _ List.mem_cons_self, ?_⟩
  rw [slot_legacyName, hnext]
  exact List.mem_cons_of_mem _ List.mem_cons_self

/-- The deployment of the other configuration removes that candidate. -/
theorem managed_isolation_fails : ¬ ∀ (agent : Agent) (value payload : Payload) (d d' : Docker),
    payload.routingMode = .managedGateway → validatedPayload value = .ok payload →
    d.host.WellFormed → (deploy agent value).Visits d d' → Isolated agent payload d d' := by
  intro h
  have hall := (@deploy_isolated_iff slotAgent (slotPayload 'b') (slotPayload 'b') slotHost
    slotHost_wellFormed slot_valid_b rfl).mp fun d' hvisits =>
      h _ _ _ _ d' rfl slot_valid_b slotHost_wellFormed hvisits
  refine hall ⟨⟨slotHost_not_collides, fun c hc => ?_, ?_⟩, slotCandidate,
    List.mem_singleton_self _, rfl, slotCandidate_slot, .inl slotCandidate_name⟩
  · rw [slotHost_current] at hc
    cases hc
  · rintro ⟨network, hnetwork, -⟩
    cases hnetwork

end InitPad.Workload
