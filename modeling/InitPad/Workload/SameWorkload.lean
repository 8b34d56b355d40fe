import InitPad.Workload.Operations

/-!
# InitPad.Workload.SameWorkload

The container that `deploy` treats as the current one is the one that the other operations act on,
unless it is a workload with a direct port under its legacy name.
-/

namespace InitPad.Workload

open Interleave Prog Engine

/-- The operations with a payload act on the container `c`, and deploying it again finds it. -/
structure ActsOn (agent : Agent) (value payload : Payload) (c : Container) (d : Docker) : Prop where
  status : Always Regular (fun r d' => r = .ok (agent.toStatus payload c) ∧ d' = d)
    (status agent value) d
  healthy : Always Regular (fun r d' => r = .ok (Agent.answers payload c) ∧ d'.host = d.host)
    (healthy agent value) d
  stop : Always Regular (fun r d' => r = .ok () ∧ d' = if c.running then d.stopped c.id else d)
    (stop agent value) d
  start : Always Regular (fun r d' => ∃ port, 1 ≤ port ∧ port ≤ 65535 ∧
      d'.host = (if c.running then d.host else (d.started port c.id).host) ∧
      (r = .ok () ↔ Agent.answers payload (if c.running then c else startOn port c) = true))
    (start agent value) d
  /-- Whatever fails, no other container is touched. -/
  onlyStop : Always anyInput (fun _ d' => d' = d ∨ d' = d.stopped c.id)
    (InitPad.Workload.stop agent value) d
  onlyStart : Always anyInput (fun _ d' => d'.host = d.host ∨
      ∃ port, d'.host = (d.started port c.id).host) (InitPad.Workload.start agent value) d
  redeployed : agent.matches_ payload c = true → Agent.answers payload c = true →
    Always Regular (fun r d' => (∃ s, r = .ok s ∧ s.state = .running ∧
      s.revision = some payload.revision) ∧ d'.host = d.host) (deploy agent value) d
  stopped : Always Regular (fun r _ => ∃ s, r = .ok s ∧ s.state = .stopped)
    (do InitPad.Workload.stop agent value; InitPad.Workload.status agent value) d

section Current

variable {agent : Agent} {value payload : Payload} {c : Container} {d : Docker}

theorem currentWorkload_of_lookup
    (h : Always Regular (fun r _ => r = .ok (some c)) (currentContainer agent payload) d) :
    agent.collides payload d = false ∧ agent.currentWorkload payload d = some c := by
  have hlookup : Always Regular (fun r _ => (∃ x, r = .error x) ∨
      (agent.collides payload d = false ∧ r = .ok (agent.currentWorkload payload d)))
      (currentContainer agent payload) d :=
    always_currentContainer (fun hfaulty => absurd hfaulty not_faulty_regular)
      (fun _ x => .inl ⟨x, rfl⟩) fun hnot => .inr ⟨hnot, rfl⟩
  obtain ⟨r, d', hr, ⟨x, hx⟩ | ⟨hnot, hcurrent⟩⟩ := (h.both hlookup).exists ⟨{}, regular_default⟩
  · rw [hx] at hr
    cases hr
  · rw [hr] at hcurrent
    exact ⟨hnot, (Except.ok.inj hcurrent).symm⟩

theorem desiredWorkload_eq (hcurrent : agent.currentWorkload payload d = some c)
    (hseen : payload.routingMode = .managedGateway ∨
      (d.host.get? (.name (agent.workloadContainerName payload))).isSome = true) :
    agent.desiredWorkload payload d = some c := by
  unfold Agent.currentWorkload at hcurrent
  unfold Agent.desiredWorkload
  cases hmode : payload.routingMode with
  | managedGateway =>
    rw [hmode] at hcurrent
    exact hcurrent
  | directPort =>
    rcases hseen with hmanaged | hscoped
    · rw [hmode] at hmanaged
      cases hmanaged
    · have hname : agent.containerName payload = agent.workloadContainerName payload := by
        unfold Agent.containerName
        rw [hmode]
      rw [hname] at hcurrent ⊢
      obtain ⟨c', hc'⟩ := Option.isSome_iff_exists.mp hscoped
      rw [hc'] at hcurrent ⊢
      exact hcurrent

theorem answers_running (h : Agent.answers payload c = true) : c.running = true := by
  unfold Agent.answers at h
  simp only [Bool.and_eq_true] at h
  exact h.1.1

theorem matches_revision (h : agent.matches_ payload c = true) :
    c.config.labels.revision = some payload.revision := by
  unfold Agent.matches_ at h
  simp only [Bool.and_eq_true, beq_iff_eq] at h
  exact h.1.1.2

end Current

/-! ## The container that the lookup finds -/

section Found

variable {agent : Agent} {value payload : Payload} {c : Container} {d : Docker}
  (hw : d.host.WellFormed) (hp : validatedPayload value = .ok payload)
  (hnot : agent.collides payload d = false) (hdesired : agent.desiredWorkload payload d = some c)
include hp hnot hdesired

theorem status_found :
    Always Regular (fun r d' => r = .ok (agent.toStatus payload c) ∧ d' = d) (status agent value) d := by
  refine always_status hp (fun hfaulty => absurd hfaulty not_faulty_regular) ?_ ?_
  · intro hcollision
    rw [hnot] at hcollision
    cases hcollision
  · intro _
    rw [hdesired]
    exact ⟨rfl, rfl⟩

theorem healthy_found :
    Always Regular (fun r d' => r = .ok (Agent.answers payload c) ∧ d'.host = d.host)
      (healthy agent value) d := by
  refine always_healthy hp (fun hfaulty => absurd hfaulty not_faulty_regular) ?_ ?_ ?_ ?_
  · intro hcollision
    rw [hnot] at hcollision
    cases hcollision
  · intro hmissing
    rw [hdesired] at hmissing
    cases hmissing
  · intro c' port hc' _ hanswers
    rw [hdesired] at hc'
    cases hc'
    exact ⟨by rw [hanswers], rfl⟩
  · rintro c' hc' (hanswers | ⟨i, hi, hirregular⟩)
    · rw [hdesired] at hc'
      cases hc'
      exact ⟨by rw [hanswers], rfl⟩
    · exact absurd hi hirregular

include hw

theorem stop_found :
    Always Regular (fun r d' => r = .ok () ∧ d' = if c.running then d.stopped c.id else d)
      (stop agent value) d := by
  refine always_stop hw hp (fun hfaulty => absurd hfaulty not_faulty_regular) ?_ ?_ ?_
  · intro hcollision
    rw [hnot] at hcollision
    cases hcollision
  · intro hidle
    rw [if_neg (by rw [hidle c hdesired]; decide)]
    exact ⟨rfl, rfl⟩
  · intro c' hc' hrunning
    rw [hdesired] at hc'
    cases hc'
    rw [if_pos hrunning]
    exact ⟨⟨rfl, rfl⟩, fun hfaulty => absurd hfaulty not_faulty_regular⟩

theorem start_found :
    Always Regular (fun r d' => ∃ port, 1 ≤ port ∧ port ≤ 65535 ∧
        d'.host = (if c.running then d.host else (d.started port c.id).host) ∧
        (r = .ok () ↔ Agent.answers payload (if c.running then c else startOn port c) = true))
      (start agent value) d := by
  refine always_start hw hp (fun hfaulty => absurd hfaulty not_faulty_regular) ?_ ?_ ?_ ?_
  · intro hcollision
    rw [hnot] at hcollision
    cases hcollision
  · intro hmissing
    rw [hdesired] at hmissing
    cases hmissing
  · intro c' hc' hrunning
    rw [hdesired] at hc'
    cases hc'
    simp only [hrunning, if_true]
    refine ⟨?_, fun port _ hanswers => ⟨1, by decide, by decide, rfl, by simp [hanswers]⟩⟩
    rintro (hanswers | ⟨i, hi, hirregular⟩) x
    · exact ⟨1, by decide, by decide, trivial, by simp [hanswers]⟩
    · exact absurd hi hirregular
  · intro c' hc' hstopped
    rw [hdesired] at hc'
    cases hc'
    simp only [hstopped, Bool.false_eq_true, if_false]
    refine ⟨fun hfaulty => absurd hfaulty not_faulty_regular, fun i hi => ⟨?_, ?_⟩⟩
    · rintro (hanswers | ⟨j, hj, hirregular⟩) x
      · exact ⟨i.hostPort, hi.port.1, hi.port.2, rfl, by simp [hanswers]⟩
      · exact absurd hj hirregular
    · exact fun hanswers => ⟨i.hostPort, hi.port.1, hi.port.2, rfl, by simp [hanswers]⟩

theorem stopped_found :
    Always Regular (fun r _ => ∃ s, r = .ok s ∧ s.state = .stopped)
      (do stop agent value; status agent value) d := by
  refine (stop_found hw hp hnot hdesired).bind ?_ ?_
  · rintro u d' ⟨-, rfl⟩
    cases hrunning : c.running with
    | true =>
      have hfound : agent.desiredWorkload payload (d.stopped c.id) = some (halt c) := by
        refine unseen_halt.desiredWorkload.trans ?_
        rw [hdesired, Option.map_some, if_pos rfl]
      rw [if_pos rfl]
      refine (status_found hp (unseen_halt.collides.trans hnot) hfound).mono ?_
      rintro r d'' ⟨rfl, -⟩
      exact ⟨_, rfl, rfl⟩
    | false =>
      rw [if_neg (by decide)]
      refine (status_found hp hnot hdesired).mono ?_
      rintro r d'' ⟨rfl, -⟩
      refine ⟨_, rfl, ?_⟩
      unfold Agent.toStatus
      rw [hrunning]
      rfl
  · rintro x d' ⟨hx, -⟩
    cases hx

theorem redeployed_found (hcurrent : agent.currentWorkload payload d = some c)
    (hmatches : agent.matches_ payload c = true) (hanswers : Agent.answers payload c = true) :
    Always Regular (fun r d' => (∃ s, r = .ok s ∧ s.state = .running ∧
      s.revision = some payload.revision) ∧ d'.host = d.host) (deploy agent value) d := by
  have hp' := validatedPayload_idem hp
  have hrunning := answers_running hanswers
  unfold deploy
  rw [hp]
  refine Always.bind (Q := fun r d' => d' = d ∧ r = .ok (some c))
    (always_currentContainer (fun hfaulty => absurd hfaulty not_faulty_regular) ?_ ?_) ?_ ?_
  · intro hcollision
    rw [hnot] at hcollision
    cases hcollision
  · exact fun _ => ⟨rfl, by rw [hcurrent]⟩
  · rintro current d' ⟨rfl, hfound⟩
    cases hfound
    simp only [Option.filter_some, hmatches, hrunning, if_true]
    refine (healthy_found hp' hnot hdesired).bind ?_ ?_
    · rintro ok d'' ⟨hok, hhost⟩
      rw [hanswers] at hok
      cases hok
      have hsame : agent.collides payload d'' = false ∧
          agent.desiredWorkload payload d'' = some c := by
        unfold Agent.collides Agent.desiredWorkload Agent.legacyRevision at *
        rw [hhost]
        exact ⟨hnot, hdesired⟩
      refine (status_found hp' hsame.1 hsame.2).mono ?_
      rintro r d''' ⟨rfl, rfl⟩
      refine ⟨⟨_, rfl, ?_, matches_revision hmatches⟩, hhost⟩
      unfold Agent.toStatus
      rw [hrunning]
      rfl
    · rintro x d'' ⟨hx, -⟩
      cases hx
  · rintro x d' ⟨-, hx⟩
    cases hx

omit hnot in
theorem onlyStop_found :
    Always anyInput (fun _ d' => d' = d ∨ d' = d.stopped c.id) (stop agent value) d := by
  refine always_stop hw hp (fun _ _ => .inl rfl) (fun _ _ => .inl rfl) (fun _ => .inl rfl) ?_
  intro c' hc' _
  rw [hdesired] at hc'
  cases hc'
  exact ⟨.inr rfl, fun _ _ => .inr rfl⟩

omit hnot in
theorem onlyStart_found :
    Always anyInput (fun _ d' => d'.host = d.host ∨ ∃ port, d'.host = (d.started port c.id).host)
      (start agent value) d := by
  refine always_start hw hp (fun _ _ => .inl rfl) (fun _ _ => .inl rfl) (fun _ _ => .inl rfl) ?_ ?_
  · exact fun _ _ _ => ⟨fun _ _ => .inl rfl, fun _ _ _ => .inl rfl⟩
  · intro c' hc' _
    rw [hdesired] at hc'
    cases hc'
    exact ⟨fun _ _ port => .inr ⟨port, rfl⟩,
      fun i _ => ⟨fun _ _ => .inr ⟨i.hostPort, rfl⟩, fun _ => .inr ⟨i.hostPort, rfl⟩⟩⟩

end Found

/-- Without a container of the scoped name the status of a workload with a direct port is
`missing`, so a container that is seen is seen under that name. -/
theorem ActsOn.seen {agent : Agent} {value payload : Payload} {c : Container} {d : Docker}
    (hacts : ActsOn agent value payload c d) (hp : validatedPayload value = .ok payload)
    (hnot : agent.collides payload d = false) : payload.routingMode = .managedGateway ∨
      (d.host.get? (.name (agent.workloadContainerName payload))).isSome = true := by
  by_contra hunseen
  rw [not_or] at hunseen
  have hmode : payload.routingMode = .directPort := by
    cases hmode : payload.routingMode with
    | managedGateway => exact absurd hmode hunseen.1
    | directPort => rfl
  have hmissing : agent.desiredWorkload payload d = none := by
    unfold Agent.desiredWorkload Agent.containerName
    rw [hmode]
    simpa using hunseen.2
  have hstatus : Always Regular (fun r _ => r = .ok ⟨.missing, none, none, none⟩)
      (InitPad.Workload.status agent value) d := by
    refine always_status hp (fun hfaulty => absurd hfaulty not_faulty_regular) ?_ ?_
    · intro hcollision
      rw [hnot] at hcollision
      cases hcollision
    · intro _
      rw [hmissing]
      rfl
  obtain ⟨r, d', ⟨hr, -⟩, hr'⟩ := (hacts.status.both hstatus).exists ⟨{}, regular_default⟩
  rw [hr'] at hr
  have hstate := congrArg DockerWorkloadStatus.state (Except.ok.inj hr)
  unfold Agent.toStatus at hstate
  dsimp only at hstate
  split at hstate
  · cases hstate
  · cases hstate

/-- All operations act on the container that `deploy` treats as the current one just when the
workload is behind a managed gateway or a container has its scoped name. -/
theorem same_workload {agent : Agent} {value payload : Payload} {c : Container} {d : Docker}
    (hw : d.host.WellFormed) (hp : validatedPayload value = .ok payload)
    (hcurrent : Always Regular (fun r _ => r = .ok (some c)) (currentContainer agent payload) d) :
    ActsOn agent value payload c d ↔ payload.routingMode = .managedGateway ∨
      (d.host.get? (.name (agent.workloadContainerName payload))).isSome = true := by
  obtain ⟨hnot, hcurrent⟩ := currentWorkload_of_lookup hcurrent
  constructor
  · exact fun hacts => hacts.seen hp hnot
  · intro hseen
    have hdesired := desiredWorkload_eq hcurrent hseen
    exact {
      status := status_found hp hnot hdesired
      healthy := healthy_found hp hnot hdesired
      stop := stop_found hw hp hnot hdesired
      start := start_found hw hp hnot hdesired
      onlyStop := onlyStop_found hw hp hdesired
      onlyStart := onlyStart_found hw hp hdesired
      redeployed := redeployed_found hw hp hnot hdesired hcurrent
      stopped := stopped_found hw hp hnot hdesired }

/-! ## Two hosts -/

theorem lookup_of_currentWorkload {agent : Agent} {payload : Payload} {d : Docker}
    {current : Option Container} (hnot : agent.collides payload d = false)
    (hcurrent : agent.currentWorkload payload d = current) :
    Always Regular (fun r d' => r = .ok current ∧ d' = d) (currentContainer agent payload) d := by
  refine always_currentContainer (fun hfaulty => absurd hfaulty not_faulty_regular) ?_ ?_
  · intro hcollision
    rw [hnot] at hcollision
    cases hcollision
  · intro _
    rw [hcurrent]
    exact ⟨rfl, rfl⟩

def shopAgent : Agent where
  targetId := "target"
  sha256 := fun text =>
    if text = "alloc1" then "f27f98b12ae086fcc09f74723ed3260f68d27324fe5cb1428ee9174b1a0b239c"
    else "d731e2c583eb1dc536b056f13362b5099458815f4819e34f1030db027a4cf7d2"

def shopImage (tag : String) : String :=
  tag ++ "@sha256:abababababababababababababababababababababababababababababababab"

def shopPayload (revision : String) : Payload where
  allocationId := "alloc1"
  namespace_ := "team"
  projectSlug := "shop"
  environment := "dev"
  revision := revision
  imageRef := shopImage revision
  containerPort := 3000
  healthPath := "/health"
  routingMode := .directPort
  configFingerprint := none
  cpuLimitMillicores := some 1000
  memoryLimitMb := some 512
  pidsLimit := some 256

def shopContainer (payload : Payload) (name : String) : Container where
  id := 0
  name := name
  config :=
    { image := payload.imageRef
      labels := shopAgent.labels payload
      network := shopAgent.workloadNetworkName payload
      containerPort := 3000
      hostPort := some 32768
      durable := true }
  running := true

def shopHost (name : String) : Docker where
  host := { containers := [shopContainer (shopPayload "r1") name], nextId := 1 }

theorem shopHost_wellFormed (name : String) : (shopHost name).host.WellFormed where
  ids := List.nodup_singleton _
  names := List.nodup_singleton _
  fresh c hc := by
    rw [List.mem_singleton.mp hc]
    exact Nat.zero_lt_one

theorem shop_valid_r1 : validatedPayload (shopPayload "r1") = .ok (shopPayload "r1") := by decide

theorem shop_valid_r2 : validatedPayload (shopPayload "r2") = .ok (shopPayload "r2") := by decide

theorem shop_scope (revision : String) :
    shopAgent.allocationDockerScope (shopPayload revision).allocationId = "f27f98b12ae0" := by
  have halloc : (shopPayload revision).allocationId = "alloc1" := rfl
  simp only [Agent.allocationDockerScope, Agent.digest, shopAgent]
  rw [halloc, if_pos rfl, toList_of_letters (rfl : _ = String.ofList _)]
  rfl

theorem shop_containerName {revision : String} :
    shopAgent.containerName (shopPayload revision) = "initpad-team-af27f98b12ae0-shop-dev" := by
  change shopAgent.boundedDockerName ("initpad-" ++ dockerNamePart "team" ++ "-a" ++
    shopAgent.allocationDockerScope (shopPayload revision).allocationId ++ "-" ++
      dockerNamePart "shop" ++ "-" ++ dockerNamePart "dev") = _
  rw [shop_scope]
  decide

theorem shopHost_not_collides {name : String} :
    shopAgent.collides (shopPayload "r1") (shopHost name) = false := by
  have howned : shopAgent.belongsToWorkload (shopPayload "r1")
      (shopContainer (shopPayload "r1") name) = true := rfl
  unfold Agent.collides
  cases hget : (shopHost name).host.get? (.name (shopAgent.containerName (shopPayload "r1"))) with
  | none => rfl
  | some c =>
    rw [List.mem_singleton.mp (Host.mem_of_get? hget).1, Option.any_some, howned]
    rfl

theorem shopHost_get? {name : String} : (shopHost name).host.get? (.name name) =
    some (shopContainer (shopPayload "r1") name) :=
  (shopHost_wellFormed name).get?_name (List.mem_singleton_self _)

theorem shopHost_scoped_current :
    shopAgent.currentWorkload (shopPayload "r1") (shopHost "initpad-team-af27f98b12ae0-shop-dev") =
      some (shopContainer (shopPayload "r1") "initpad-team-af27f98b12ae0-shop-dev") := by
  unfold Agent.currentWorkload
  rw [shop_containerName, shopHost_get?, Option.some_or]

theorem shop_legacyName {revision : String} :
    shopAgent.legacyWorkloadContainerName (shopPayload revision) = "initpad-team-shop-dev" := by
  change shopAgent.boundedDockerName ("initpad-" ++ dockerNamePart "team" ++ "-" ++
    dockerNamePart "shop" ++ "-" ++ dockerNamePart "dev") = _
  decide

theorem shopHost_legacy_get? : (shopHost "initpad-team-shop-dev").host.get?
    (.name (shopAgent.containerName (shopPayload "r1"))) = none := by
  rw [shop_containerName]
  decide

theorem shopHost_legacy_current :
    shopAgent.currentWorkload (shopPayload "r1") (shopHost "initpad-team-shop-dev") =
      some (shopContainer (shopPayload "r1") "initpad-team-shop-dev") := by
  unfold Agent.currentWorkload
  rw [shopHost_legacy_get?, Option.none_or, shop_legacyName]
  change ((shopHost "initpad-team-shop-dev").host.get? (.name "initpad-team-shop-dev")).filter _ = _
  rw [shopHost_get?, Option.filter_some]
  rfl

theorem same_workload_scoped : ActsOn shopAgent (shopPayload "r1") (shopPayload "r1")
    (shopContainer (shopPayload "r1") "initpad-team-af27f98b12ae0-shop-dev")
    (shopHost "initpad-team-af27f98b12ae0-shop-dev") :=
  (same_workload (shopHost_wellFormed _) shop_valid_r1
    ((lookup_of_currentWorkload shopHost_not_collides shopHost_scoped_current).mono
      fun _ _ h => h.1)).mpr (.inr (by
        have hname : shopAgent.workloadContainerName (shopPayload "r1") =
          "initpad-team-af27f98b12ae0-shop-dev" := shop_containerName
        rw [hname, shopHost_get?]
        rfl))

/-- A workload that runs under its legacy name is current, but its status is `missing`. -/
theorem same_workload_legacy : ¬ ∀ (agent : Agent) (value payload : Payload) (c : Container)
    (d : Docker), d.host.WellFormed → validatedPayload value = .ok payload →
    Always Regular (fun r _ => r = .ok (some c)) (currentContainer agent payload) d →
    ActsOn agent value payload c d := by
  intro h
  have hacts := h shopAgent (shopPayload "r1") (shopPayload "r1")
    (shopContainer (shopPayload "r1") "initpad-team-shop-dev") (shopHost "initpad-team-shop-dev")
    (shopHost_wellFormed _) shop_valid_r1
    ((lookup_of_currentWorkload shopHost_not_collides shopHost_legacy_current).mono
      fun _ _ h => h.1)
  rcases hacts.seen shop_valid_r1 shopHost_not_collides with hmode | hsome
  · cases hmode
  · have hnone := shopHost_legacy_get?
    change (shopHost "initpad-team-shop-dev").host.get?
      (.name (shopAgent.workloadContainerName (shopPayload "r1"))) = none at hnone
    rw [hnone] at hsome
    cases hsome

end InitPad.Workload
