import InitPad.Workload.Operations

/-!
# InitPad.Workload.Phases

How the phases of a deployment end: the network, the leftovers that are removed, the candidate that
is started and verified, and its publication.
-/

namespace InitPad.Workload

open Interleave Prog Engine

section Rules

variable {P : Input → Prop} {d : Docker} {agent : Agent} {payload : Payload}
  {Q : Except AgentError Unit → Docker → Prop}

/-! ## The network -/

def Docker.withNetwork (d : Docker) (network : Network) : Docker :=
  { d with networks := d.networks ++ [network] }

def Agent.ownNetwork (agent : Agent) (payload : Payload) : Network :=
  ⟨agent.workloadNetworkName payload, agent.networkLabels payload⟩

theorem answer_inspectNetwork_none {name : String} {port : Nat} (h : d.network? name = none) :
    (DockerCall.inspectNetwork name).answer port d = (answered 404 none, d) := by
  simp only [DockerCall.answer, h]

theorem answer_inspectNetwork_some {name : String} {port : Nat} {network : Network}
    (h : d.network? name = some network) : (DockerCall.inspectNetwork name).answer port d =
      (answered 200 (some (network, d.occupied name)), d) := by
  simp only [DockerCall.answer, h]

theorem answer_createNetwork {network : Network} {port : Nat} (h : d.network? network.name = none) :
    (DockerCall.createNetwork network).answer port d = (answered 201 none, d.withNetwork network) := by
  simp only [DockerCall.answer, Docker.createNetwork, h]
  rfl

theorem not_created_of_refuses {statusCode : Nat} (h : refuses statusCode = true) :
    statusCode ≠ 200 ∧ statusCode ≠ 201 := by
  unfold refuses at h
  simp only [Bool.and_eq_true, decide_eq_true_eq] at h
  omega

theorem ownNetwork_belongs :
    agent.networkBelongsToAllocation payload (agent.ownNetwork payload) = true := by
  unfold Agent.networkBelongsToAllocation Agent.ownNetwork Agent.networkLabels
  cases payload.routingMode with
  | managedGateway => simp [Agent.routingModeText]
  | directPort => simp [Agent.routingModeText]

theorem network?_withNetwork {network : Network} (h : d.network? network.name = none) :
    (d.withNetwork network).network? network.name = some network := by
  unfold Docker.network? Docker.withNetwork at *
  rw [List.find?_append, h]
  simp

theorem always_racedNetwork {name : String} (hfault : Faulty P → ∀ x, Q (.error x) d)
    (hmissing : d.network? name = none → ∀ x, Q (.error x) d)
    (hpresent : ∀ network, d.network? name = some network →
      agent.networkBelongsToAllocation payload network = true ∧ Q (.ok ()) d) :
    Always P Q (do
      let raced ← request (.inspectNetwork name)
      let network ← .ret (responseJson raced "inspect raced network")
      .ret (assertNetworkOwnership agent payload network.1)) d := by
  refine Always.bind (Q := fun r d' => d' = d ∧ match r with
    | .ok response => response = ((DockerCall.inspectNetwork name).answer 0 d).1 ∨
        (Faulty P ∧ refuses response.statusCode = true)
    | .error _ => Faulty P) (always_request ?_ ?_) ?_ ?_
  · intro hfaulty i r d' _ hfailed hd'
    refine ⟨hd'.elim id id, ?_⟩
    rcases hfailed with ⟨x, rfl⟩ | ⟨response, rfl, hrefuses⟩
    · exact hfaulty
    · exact .inr ⟨hfaulty, hrefuses⟩
  · exact fun i _ => ⟨rfl, .inl rfl⟩
  · rintro raced d' ⟨rfl, rfl | ⟨hfaulty, hrefuses⟩⟩
    · cases hnetwork : d'.network? name with
      | none =>
        rw [answer_inspectNetwork_none hnetwork]
        exact hmissing hnetwork _
      | some network =>
        rw [answer_inspectNetwork_some hnetwork]
        change Always P Q (.ret (assertNetworkOwnership agent payload network)) d'
        obtain ⟨howned, hok⟩ := hpresent network hnetwork
        unfold assertNetworkOwnership
        rw [if_pos howned]
        exact hok
    · obtain ⟨x, hx⟩ := responseJson_refused "inspect raced network" hrefuses
      rw [hx]
      exact hfault hfaulty x
  · rintro x d' ⟨rfl, hfaulty⟩
    exact hfault hfaulty x

theorem always_ensureNetwork
    (hfault : Faulty P → ∀ x d', (d' = d ∨ d' = d.withNetwork (agent.ownNetwork payload)) →
      Q (.error x) d')
    (hforeign : ∀ network, d.network? (agent.workloadNetworkName payload) = some network →
      agent.networkBelongsToAllocation payload network = false → ∀ x, Q (.error x) d)
    (hpresent : ∀ network, d.network? (agent.workloadNetworkName payload) = some network →
      agent.networkBelongsToAllocation payload network = true → Q (.ok ()) d)
    (hcreated : d.network? (agent.workloadNetworkName payload) = none →
      Q (.ok ()) (d.withNetwork (agent.ownNetwork payload))) :
    Always P Q (ensureNetwork agent payload) d := by
  refine Always.bind (Q := fun r d' => d' = d ∧ match r with
    | .ok response =>
      response = ((DockerCall.inspectNetwork (agent.workloadNetworkName payload)).answer 0 d).1 ∨
        (Faulty P ∧ refuses response.statusCode = true)
    | .error _ => Faulty P) (always_request ?_ ?_) ?_ ?_
  · intro hfaulty i r d' _ hfailed hd'
    refine ⟨hd'.elim id id, ?_⟩
    rcases hfailed with ⟨x, rfl⟩ | ⟨response, rfl, hrefuses⟩
    · exact hfaulty
    · exact .inr ⟨hfaulty, hrefuses⟩
  · exact fun i _ => ⟨rfl, .inl rfl⟩
  · rintro inspected d' ⟨rfl, rfl | ⟨hfaulty, hrefuses⟩⟩
    · cases hnetwork : d'.network? (agent.workloadNetworkName payload) with
      | some network =>
        rw [answer_inspectNetwork_some hnetwork]
        change Always P Q (.ret (assertNetworkOwnership agent payload network)) d'
        unfold assertNetworkOwnership
        cases howned : agent.networkBelongsToAllocation payload network with
        | true => exact hpresent network hnetwork howned
        | false => exact hforeign network hnetwork howned _
      | none =>
        rw [answer_inspectNetwork_none hnetwork]
        refine Always.bind (Q := fun r d'' => match r with
          | .ok response => (response.statusCode = 201 ∧
              d'' = d'.withNetwork (agent.ownNetwork payload)) ∨
              (Faulty P ∧ refuses response.statusCode = true ∧
                (d'' = d' ∨ d'' = d'.withNetwork (agent.ownNetwork payload)))
          | .error x => Q (.error x) d'') (always_request ?_ ?_) ?_ fun _ _ hx => hx
        · intro hfaulty i r d'' _ hfailed hd''
          rw [answer_createNetwork hnetwork] at hd''
          rcases hfailed with ⟨x, rfl⟩ | ⟨response, rfl, hrefuses⟩
          · exact hfault hfaulty x d'' hd''
          · exact .inr ⟨hfaulty, hrefuses, hd''⟩
        · intro i _
          rw [answer_createNetwork hnetwork]
          exact .inl ⟨rfl, rfl⟩
        · rintro created d'' (⟨hcode, rfl⟩ | ⟨hfaulty, hrefuses, hd''⟩)
          · rw [if_pos hcode]
            exact hcreated hnetwork
          · rw [if_neg (not_created_of_refuses hrefuses).2]
            split
            · exact hfault hfaulty _ _ hd''
            · rcases hd'' with rfl | rfl
              · refine always_racedNetwork (fun hfaulty x => hfault hfaulty x _ (.inl rfl))
                  (fun _ x => hfault hfaulty x _ (.inl rfl)) fun network hsome => ?_
                rw [hnetwork] at hsome
                cases hsome
              · refine always_racedNetwork (fun hfaulty x => hfault hfaulty x _ (.inr rfl))
                  (fun _ x => hfault hfaulty x _ (.inr rfl)) fun network hsome => ?_
                have hown : (d'.withNetwork (agent.ownNetwork payload)).network?
                    (agent.workloadNetworkName payload) = some (agent.ownNetwork payload) :=
                  network?_withNetwork hnetwork
                rw [hown] at hsome
                cases hsome
                exact ⟨ownNetwork_belongs, hcreated hnetwork⟩
    · rw [if_neg (not_created_of_refuses hrefuses).1, if_pos (not_404_of_refuses hrefuses)]
      exact hfault hfaulty _ _ (.inl rfl)
  · rintro x d' ⟨rfl, hfaulty⟩
    exact hfault hfaulty x _ (.inl rfl)

/-! ## Leftovers -/

theorem always_removeLegacy {name : String} (hfault : Faulty P → ∀ x, Q (.error x) d)
    (hnone : (∀ c, d.host.get? (.name name) = some c → agent.belongsToWorkload payload c = false) →
      Q (.ok ()) d)
    (hsome : ∀ c, d.host.get? (.name name) = some c → agent.belongsToWorkload payload c = true →
      Q (.ok ()) (d.removed c.id) ∧ (Faulty P → ∀ x, Q (.error x) (d.removed c.id))) :
    Always P Q (removeLegacy agent payload name) d := by
  refine Always.bind (Q := fun r d' => d' = d ∧ match r with
    | .ok c => c = (d.host.get? (.name name)).filter (agent.belongsToWorkload payload)
    | .error _ => Faulty P)
    (always_legacyOwnedContainer (fun hfaulty _ => ⟨rfl, hfaulty⟩) ⟨rfl, rfl⟩) ?_ ?_
  · rintro container d' ⟨rfl, rfl⟩
    cases hget : d'.host.get? (.name name) with
    | none => exact hnone (by rw [hget]; exact fun c hc => by cases hc)
    | some c =>
      cases howned : agent.belongsToWorkload payload c with
      | false =>
        simp only [Option.filter_some, howned]
        exact hnone (by rw [hget]; exact fun c' hc => by cases hc; exact howned)
      | true =>
        simp only [Option.filter_some, howned, if_true]
        obtain ⟨hok, herror⟩ := hsome c hget howned
        refine always_removeContainer ?_ hok
        rintro hfaulty x d'' (rfl | rfl)
        · exact hfault hfaulty x
        · exact herror hfaulty x
  · rintro x d' ⟨rfl, hfaulty⟩
    exact hfault hfaulty x

theorem always_removeOwned {name : String} (hfault : Faulty P → ∀ x, Q (.error x) d)
    (hforeign : ∀ c, d.host.get? (.name name) = some c →
      agent.belongsToWorkload payload c = false → ∀ x, Q (.error x) d)
    (hnone : d.host.get? (.name name) = none → Q (.ok ()) d)
    (hsome : ∀ c, d.host.get? (.name name) = some c → agent.belongsToWorkload payload c = true →
      Q (.ok ()) (d.removed c.id) ∧ (Faulty P → ∀ x, Q (.error x) (d.removed c.id))) :
    Always P Q (removeOwned agent payload name) d := by
  refine Always.bind (Q := fun r d' => d' = d ∧ match r with
    | .ok c => c = d.host.get? (.name name) ∧ ∀ c', d.host.get? (.name name) = some c' →
        agent.belongsToWorkload payload c' = true
    | .error x => Q (.error x) d)
    (always_ownedContainer (fun hfaulty x => ⟨rfl, hfault hfaulty x⟩)
      (fun c x hc hforeign' => ⟨rfl, hforeign c hc hforeign' x⟩) fun howned => ⟨rfl, rfl, howned⟩)
    ?_ ?_
  · rintro container d' ⟨rfl, rfl, howned⟩
    cases hget : d'.host.get? (.name name) with
    | none => exact hnone hget
    | some c =>
      obtain ⟨hok, herror⟩ := hsome c hget (howned c hget)
      refine always_removeContainer ?_ hok
      rintro hfaulty x d'' (rfl | rfl)
      · exact hfault hfaulty x
      · exact herror hfaulty x
  · rintro x d' ⟨rfl, hx⟩
    exact hx

theorem always_discardCandidate (hfault : Faulty P → ∀ x, Q (.error x) d)
    (hforeign : ∀ c, d.host.get? (.name (agent.candidateName payload)) = some c →
      agent.belongsToWorkload payload c = false → ∀ x, Q (.error x) d)
    (hkept : (∀ c, d.host.get? (.name (agent.candidateName payload)) = some c →
      agent.matches_ payload c = true) → Q (.ok ()) d)
    (hdiscarded : ∀ c, d.host.get? (.name (agent.candidateName payload)) = some c →
      agent.belongsToWorkload payload c = true → agent.matches_ payload c = false →
      Q (.ok ()) (d.removed c.id) ∧ (Faulty P → ∀ x, Q (.error x) (d.removed c.id))) :
    Always P Q (discardCandidate agent payload) d := by
  refine Always.bind (Q := fun r d' => d' = d ∧ match r with
    | .ok c => c = d.host.get? (.name (agent.candidateName payload)) ∧
        ∀ c', d.host.get? (.name (agent.candidateName payload)) = some c' →
          agent.belongsToWorkload payload c' = true
    | .error x => Q (.error x) d)
    (always_ownedContainer (fun hfaulty x => ⟨rfl, hfault hfaulty x⟩)
      (fun c x hc hforeign' => ⟨rfl, hforeign c hc hforeign' x⟩) fun howned => ⟨rfl, rfl, howned⟩)
    ?_ ?_
  · rintro container d' ⟨rfl, rfl, howned⟩
    cases hget : d'.host.get? (.name (agent.candidateName payload)) with
    | none => exact hkept (by rw [hget]; exact fun c hc => by cases hc)
    | some c =>
      cases hmatches : agent.matches_ payload c with
      | true =>
        simp only [hmatches, if_true]
        exact hkept (by rw [hget]; exact fun c' hc => by cases hc; exact hmatches)
      | false =>
        simp only [hmatches, Bool.false_eq_true, if_false]
        obtain ⟨hok, herror⟩ := hdiscarded c hget (howned c hget) hmatches
        refine always_removeContainer ?_ hok
        rintro hfaulty x d'' (rfl | rfl)
        · exact hfault hfaulty x
        · exact herror hfaulty x
  · rintro x d' ⟨rfl, hx⟩
    exact hx

/-! ## The candidate -/

def Agent.candidateConfig (agent : Agent) (payload : Payload) : ContainerConfig where
  image := payload.imageRef
  labels := agent.labels payload
  network := agent.workloadNetworkName payload
  containerPort := payload.containerPort

def Agent.newCandidate (agent : Agent) (payload : Payload) (d : Docker) : Container :=
  ⟨d.host.nextId, agent.candidateName payload, agent.candidateConfig payload, false⟩

def Docker.withCandidate (d : Docker) (agent : Agent) (payload : Payload) : Docker :=
  d.created (agent.candidateName payload) (agent.candidateConfig payload)

theorem get?_startOn {c : Container} {hostPort : Nat} (hw : d.host.WellFormed)
    (hc : c ∈ d.host.containers) :
    (d.started hostPort c.id).host.get? (.id c.id) = some (startOn hostPort c) := by
  have hw' : (d.started hostPort c.id).host.WellFormed :=
    hw.update_config (fun _ => rfl) fun _ => rfl
  exact hw'.get?_id (c := startOn hostPort c) (Host.mem_update_self hc)

section Candidate

variable {Q : Except AgentError (Option Container) → Docker → Prop}

theorem always_startAndInspect {c : Container} (hw : d.host.WellFormed)
    (hc : c ∈ d.host.containers) (hstopped : c.running = false)
    (hfault : Faulty P → ∀ x d', (d' = d ∨ ∃ port, d' = d.started port c.id) → Q (.error x) d')
    (hok : ∀ i, P i → Q (.ok (some (startOn i.hostPort c))) (d.started i.hostPort c.id)) :
    Always P Q (do
      expect [204, 304] (.startContainer c.id) "start candidate"
      Agent.inspectContainer (.id c.id)) d := by
  refine Always.bind (Q := fun r d' => match r with
      | .ok () => ∃ i, P i ∧ d' = d.started i.hostPort c.id
      | .error x => Q (.error x) d')
    (always_startContainer hw hc hfault ?_ ?_) ?_ fun _ _ hx => hx
  · intro hrunning
    rw [hstopped] at hrunning
    cases hrunning
  · exact fun _ i hi => ⟨i, hi, rfl⟩
  · rintro u d' ⟨i, hi, rfl⟩
    refine always_inspectContainer (fun hfaulty x => hfault hfaulty x _ (.inr ⟨_, rfl⟩)) ?_
    rw [get?_startOn hw hc]
    exact hok i hi

theorem answer_createContainer {name : String} {config : ContainerConfig} {port : Nat}
    (hfree : d.host.get? (.name name) = none) (himage : config.image ∈ d.images) :
    (DockerCall.createContainer name config).answer port d =
      (answered 201 (some d.host.nextId), d.created name config) := by
  change d.createContainer name config = _
  unfold Docker.createContainer
  rw [if_neg (by simpa using himage), hfree]
  rfl

theorem answer_createContainer_missing {name : String} {config : ContainerConfig} {port : Nat}
    (himage : config.image ∉ d.images) :
    (DockerCall.createContainer name config).answer port d = (answered 404 none, d) := by
  change d.createContainer name config = _
  unfold Docker.createContainer
  rw [if_pos (by simpa using himage)]

theorem always_startCandidate (hw : d.host.WellFormed)
    (hfault : Faulty P → ∀ x, Q (.error x) d)
    (himage : d.host.get? (.name (agent.candidateName payload)) = none →
      payload.imageRef ∉ d.images → ∀ x, Q (.error x) d)
    (hcreated : d.host.get? (.name (agent.candidateName payload)) = none →
      payload.imageRef ∈ d.images →
      (Faulty P → ∀ x, Q (.error x) (d.withCandidate agent payload) ∧
        ∀ port, Q (.error x) ((d.withCandidate agent payload).started port d.host.nextId)) ∧
      ∀ i, P i → Q (.ok (some (startOn i.hostPort (agent.newCandidate payload d))))
        ((d.withCandidate agent payload).started i.hostPort d.host.nextId))
    (hrunning : ∀ c, d.host.get? (.name (agent.candidateName payload)) = some c →
      c.running = true → Q (.ok (some c)) d)
    (hstopped : ∀ c, d.host.get? (.name (agent.candidateName payload)) = some c →
      c.running = false →
      (Faulty P → ∀ x port, Q (.error x) (d.started port c.id)) ∧
      ∀ i, P i → Q (.ok (some (startOn i.hostPort c))) (d.started i.hostPort c.id)) :
    Always P Q (startCandidate agent payload) d := by
  refine Always.bind (Q := fun r d' => d' = d ∧ match r with
    | .ok c => c = d.host.get? (.name (agent.candidateName payload))
    | .error _ => Faulty P)
    (always_inspectContainer (fun hfaulty _ => ⟨rfl, hfaulty⟩) ⟨rfl, rfl⟩) ?_ ?_
  · rintro candidate d' ⟨rfl, rfl⟩
    cases hget : d'.host.get? (.name (agent.candidateName payload)) with
    | some c =>
      have hc := (Host.mem_of_get? hget).1
      cases hstate : c.running with
      | true =>
        simp only [hstate, if_true]
        exact hrunning c hget hstate
      | false =>
        simp only [hstate, Bool.false_eq_true, if_false]
        obtain ⟨herror, hok⟩ := hstopped c hget hstate
        refine always_startAndInspect hw hc hstate ?_ hok
        rintro hfaulty x d'' (rfl | ⟨port, rfl⟩)
        · exact hfault hfaulty x
        · exact herror hfaulty x port
    | none =>
      by_cases hpresent : payload.imageRef ∈ d'.images
      · obtain ⟨herror, hok⟩ := hcreated hget hpresent
        have hanswer : ∀ port, (DockerCall.createContainer (agent.candidateName payload)
            (agent.candidateConfig payload)).answer port d' =
            (answered 201 (some d'.host.nextId), d'.withCandidate agent payload) :=
          fun port => answer_createContainer hget hpresent
        refine Always.bind (Q := fun r d'' => match r with
            | .ok response => (response = answered 201 (some d'.host.nextId) ∧
                d'' = d'.withCandidate agent payload) ∨
                (refuses response.statusCode = true ∧ ∀ x, Q (.error x) d'')
            | .error x => Q (.error x) d'') (always_request ?_ ?_) ?_ fun _ _ hx => hx
        · intro hfaulty i r d'' _ hfailed hd''
          have hend : ∀ x, Q (.error x) d'' := by
            intro x
            rcases hd'' with rfl | rfl
            · exact hfault hfaulty x
            · change Q (.error x) ((DockerCall.createContainer (agent.candidateName payload)
                (agent.candidateConfig payload)).answer i.hostPort d').2
              rw [hanswer]
              exact (herror hfaulty x).1
          rcases hfailed with ⟨x, rfl⟩ | ⟨response, rfl, hrefuses⟩
          · exact hend x
          · exact .inr ⟨hrefuses, hend⟩
        · intro i _
          change ((DockerCall.createContainer (agent.candidateName payload)
            (agent.candidateConfig payload)).answer i.hostPort d').1 = _ ∧
            ((DockerCall.createContainer (agent.candidateName payload)
            (agent.candidateConfig payload)).answer i.hostPort d').2 = _ ∨ _
          rw [hanswer]
          exact .inl ⟨rfl, rfl⟩
        · rintro response d'' (⟨rfl, rfl⟩ | ⟨hrefuses, hend⟩)
          · have hw' : (d'.withCandidate agent payload).host.WellFormed :=
              hw.create fun c hc hname => by
                have hnot := Host.get?_eq_none.mp hget c hc
                simp only [Ref.denotes, hname, beq_self_eq_true] at hnot
                cases hnot
            refine always_startAndInspect (c := agent.newCandidate payload d') hw'
              (Host.mem_create.mpr (.inr rfl)) rfl ?_ hok
            rintro hfaulty x d'' (rfl | ⟨port, rfl⟩)
            · exact (herror hfaulty x).1
            · exact (herror hfaulty x).2 port
          · obtain ⟨x, hx⟩ := responseJson_refused "create container" hrefuses
            rw [hx]
            exact hend x
      · have hanswer : ∀ port, (DockerCall.createContainer (agent.candidateName payload)
            (agent.candidateConfig payload)).answer port d' = (answered 404 none, d') :=
          fun port => answer_createContainer_missing hpresent
        refine Always.bind (Q := fun r d'' => d'' = d' ∧ match r with
            | .ok response => refuses response.statusCode = true ∨ response = answered 404 none
            | .error _ => True) (always_request ?_ ?_) ?_ ?_
        · intro _ i r d'' _ hfailed hd''
          change d'' = d' ∨ d'' = ((DockerCall.createContainer (agent.candidateName payload)
            (agent.candidateConfig payload)).answer i.hostPort d').2 at hd''
          rw [hanswer] at hd''
          refine ⟨hd''.elim id id, ?_⟩
          rcases hfailed with ⟨x, rfl⟩ | ⟨response, rfl, hrefuses⟩
          · trivial
          · exact .inl hrefuses
        · intro i _
          change ((DockerCall.createContainer (agent.candidateName payload)
            (agent.candidateConfig payload)).answer i.hostPort d').2 = _ ∧ (_ ∨
            ((DockerCall.createContainer (agent.candidateName payload)
            (agent.candidateConfig payload)).answer i.hostPort d').1 = _)
          rw [hanswer]
          exact ⟨rfl, .inr rfl⟩
        · rintro response d'' ⟨rfl, hrefuses | rfl⟩
          · obtain ⟨x, hx⟩ := responseJson_refused "create container" hrefuses
            rw [hx]
            exact himage hget hpresent x
          · exact himage hget hpresent _
        · rintro x d'' ⟨rfl, -⟩
          exact himage hget hpresent x
  · rintro x d' ⟨rfl, hfaulty⟩
    exact hfault hfaulty x

end Candidate

theorem always_verifyCandidate {Q : Except AgentError Container → Docker → Prop} {c : Container}
    (hverified : ∀ port, c.config.hostPort = some port → Agent.answers payload c = true →
      Q (.ok c) (d.checked port))
    (hrejected : Unsure P payload c → ∀ x,
      Q (.error x) (d.removed c.id) ∧ (Faulty P → Q (.error x) d)) :
    Always P Q (verifyCandidate payload (some c)) d := by
  refine Always.bind (Q := fun r d' => match r with
      | .ok true => Q (.ok c) d'
      | .ok false => d' = d ∧ Unsure P payload c
      | .error _ => False)
    (always_waitHealthy hverified fun h => ⟨rfl, h⟩) ?_ fun _ _ hx => hx.elim
  intro ok d' hok
  cases ok with
  | true => exact hok
  | false =>
    obtain ⟨rfl, hunsure⟩ := hok
    refine Always.bind (Q := fun r d'' => ∀ x, Q (.error x) d'') (Always.ignoreError
      (Q := fun _ d'' => ∀ x, Q (.error x) d'') (always_removeContainer ?_ ?_) fun _ _ h => h)
      (fun _ _ h => h _) fun x _ h => h x
    · rintro hfaulty _ d'' (rfl | rfl) x
      · exact (hrejected hunsure x).2 hfaulty
      · exact (hrejected hunsure x).1
    · exact fun x => (hrejected hunsure x).1

def Docker.without (d : Docker) (current : Option Container) : Docker :=
  current.elim d fun c => d.removed c.id

theorem always_publish {current : Option Container} {c : Container} (hw : d.host.WellFormed)
    (hc : c ∈ d.host.containers) (hne : ∀ c', current = some c' → c'.id ≠ c.id)
    (hfault : Faulty P → ∀ x d', (d' = d ∨ d' = d.updated c.id ∨
      d' = (d.updated c.id).without current) → Q (.error x) d')
    (htaken : (((d.updated c.id).without current).host.get?
      (.name (agent.containerName payload))).isSome = true →
      ∀ x, Q (.error x) ((d.updated c.id).without current))
    (hpublished : ((d.updated c.id).without current).host.get?
      (.name (agent.containerName payload)) = none →
      (Faulty P → ∀ x, Q (.error x) (((d.updated c.id).without current).renamed c.id
        (agent.containerName payload))) ∧
      Q (.ok ()) (((d.updated c.id).without current).renamed c.id (agent.containerName payload))) :
    Always P Q (publish agent payload current c) d := by
  refine Always.bind (Q := fun r d' => match r with
      | .ok () => d' = d.updated c.id
      | .error x => Q (.error x) d')
    (always_updateContainer hw hc ?_ rfl) ?_ fun _ _ hx => hx
  · rintro hfaulty x d' (rfl | rfl)
    · exact hfault hfaulty x _ (.inl rfl)
    · exact hfault hfaulty x _ (.inr (.inl rfl))
  rintro u d' rfl
  have hw' : (d.updated c.id).host.WellFormed := hw.update_config (fun _ => rfl) fun _ => rfl
  have hc' : makeDurable c ∈ (d.updated c.id).host.containers :=
    Host.mem_update_self (d := makeDurable) hc
  -- The name of the candidate is changed last, with the current container out of the way.
  have hrename : ((d.updated c.id).without current).host.WellFormed →
      makeDurable c ∈ ((d.updated c.id).without current).host.containers →
      Always P Q (expect [204] (.renameContainer c.id (agent.containerName payload))
        "publish candidate") ((d.updated c.id).without current) := by
    intro hw'' hc''
    refine always_renameContainer (c := makeDurable c) hw'' hc'' ?_ htaken fun hfree => (hpublished hfree).2
    rintro hfaulty x d' (rfl | ⟨hfree, rfl⟩)
    · exact hfault hfaulty x _ (.inr (.inr rfl))
    · exact (hpublished hfree).1 hfaulty x
  cases current with
  | none => exact hrename hw' hc'
  | some c' =>
    refine Always.bind (Q := fun r d' => match r with
        | .ok () => d' = (d.updated c.id).removed c'.id
        | .error x => Q (.error x) d')
      (always_removeContainer ?_ rfl) ?_ fun _ _ hx => hx
    · rintro hfaulty x d' (rfl | rfl)
      · exact hfault hfaulty x _ (.inr (.inl rfl))
      · exact hfault hfaulty x _ (.inr (.inr rfl))
    · rintro u d' rfl
      exact hrename hw'.remove (Host.mem_remove.mpr ⟨hc', (hne c' rfl).symm⟩)

end Rules

end InitPad.Workload
