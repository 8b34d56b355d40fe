import InitPad.Workload.Deployment
import InitPad.Workload.Leftovers

/-!
# InitPad.Workload.Removal

The removal of a project. With a managed gateway it finds the containers of the workload by their
labels, with a direct port by the names that its own payload gives, so a candidate that the
interrupted deployment of another revision has left is not removed.
-/

namespace InitPad.Workload

open Interleave Prog Engine

namespace Agent

variable (agent : Agent) (payload : Payload) (d : Docker)

def removedNames : List String :=
  [agent.containerName payload, agent.candidateName payload] ++ agent.legacyContainerNames payload

/-- The removal finds the container, if it is the workload's. -/
def inReach (c : Container) : Bool :=
  match payload.routingMode with
  | .managedGateway => c.config.labels.managed == some "true" &&
      c.config.labels.routingMode == some "managed-gateway"
  | .directPort => (agent.removedNames payload).contains c.name

/-- The containers that a removal with a managed gateway lists. -/
def revisions : List Container :=
  d.host.containers.filter fun c => (revisionFilter agent payload).match c.config.labels

/-- The removal stops before it has removed the containers. -/
def containersBlocked : Prop :=
  match payload.routingMode with
  | .managedGateway => 256 < (agent.revisions payload d).length ∨
      ∃ c ∈ agent.revisions payload d, isRevision agent payload c = false
  | .directPort => ∃ c ∈ d.host.containers,
      c.name ∈ [agent.containerName payload, agent.candidateName payload] ∧
        agent.belongsToWorkload payload c = false

def networkBlocked : Prop :=
  ∃ network, d.network? (agent.workloadNetworkName payload) = some network ∧
    agent.networkBelongsToAllocation payload network = false

end Agent

section Rules

variable {P : Input → Prop} {d : Docker} {agent : Agent} {value payload : Payload}

/-! ## The containers -/

def ContainersGone (agent : Agent) (payload : Payload) (d d' : Docker) : Prop :=
  d'.networks = d.networks ∧ ∀ c, c ∈ d'.host.containers ↔ c ∈ d.host.containers ∧
    ¬(agent.belongsToWorkload payload c = true ∧ agent.inReach payload c = true)

theorem always_remove (hw : d.host.WellFormed) (hp : validatedPayload value = .ok payload)
    (hmode : payload.routingMode = .directPort) :
    Always P (fun r d' => match r with
      | .ok () => ContainersGone agent payload d d' ∧ ¬ agent.containersBlocked payload d
      | .error _ => Faulty P ∨ agent.containersBlocked payload d) (remove agent value) d := by
  unfold remove Agent.containersBlocked
  rw [hp, hmode]
  refine (always_removeOwnedAll hw).bind (fun _ d₁ h₁ => ?_) fun _ _ hx => hx
  obtain ⟨rfl, howned⟩ := h₁
  refine (always_removeLegacyAll (purged_wellFormed hw)).mono fun r d₂ h₂ => ?_
  cases r with
  | error => exact .inl h₂
  | ok =>
    dsimp only at h₂ ⊢
    rw [h₂, purged_append]
    refine ⟨⟨rfl, fun c => ?_⟩, ?_⟩
    · rw [mem_purged]
      unfold Agent.inReach Agent.removedNames
      rw [hmode]
      simp only [List.contains_eq_mem, decide_eq_true_eq]
    · rintro ⟨c, hc, hname, hforeign⟩
      rw [howned c hc hname] at hforeign
      cases hforeign

theorem match_revisionFilter {c : Container} (hmode : payload.routingMode = .managedGateway) :
    (revisionFilter agent payload).match c.config.labels = true ↔
      agent.belongsToWorkload payload c = true ∧ agent.inReach payload c = true := by
  unfold Labels.match revisionFilter Agent.belongsToWorkload Agent.inReach
  rw [hmode]
  simp only [Option.all_some, Bool.and_eq_true]
  tauto

theorem always_ownedManagedRevisions :
    Always P (fun r d' => d' = d ∧ match r with
      | .ok revisions => revisions = agent.revisions payload d ∧ revisions.length ≤ 256 ∧
          ∀ c ∈ revisions, isRevision agent payload c = true
      | .error _ => Faulty P ∨ 256 < (agent.revisions payload d).length ∨
          ∃ c ∈ agent.revisions payload d, isRevision agent payload c = false)
      (ownedManagedRevisions agent payload) d := by
  refine Always.bind (Q := fun r d' => d' = d ∧ match r with
    | .ok response => response = answered 200 (some (agent.revisions payload d)) ∨
        (Faulty P ∧ refuses response.statusCode = true)
    | .error _ => Faulty P) (always_request ?_ fun _ _ => ⟨rfl, .inl rfl⟩) ?_ ?_
  · rintro hfaulty i r d' _ hfailed hd'
    refine ⟨hd'.elim id id, ?_⟩
    rcases hfailed with ⟨x, rfl⟩ | ⟨response, rfl, hrefuses⟩
    · exact hfaulty
    · exact .inr ⟨hfaulty, hrefuses⟩
  · rintro response d' ⟨rfl, rfl | ⟨hfaulty, hrefuses⟩⟩
    · refine always_ret_bind.2 ?_
      by_cases hlength : 256 < (agent.revisions payload d').length
      · rw [if_pos hlength]
        exact ⟨rfl, .inr (.inl hlength)⟩
      · rw [if_neg hlength]
        by_cases hany : (agent.revisions payload d').any fun c => !isRevision agent payload c
        · rw [if_pos hany]
          obtain ⟨c, hc, hnot⟩ := List.any_eq_true.mp hany
          exact ⟨rfl, .inr (.inr ⟨c, hc, by simpa using hnot⟩)⟩
        · rw [if_neg hany]
          refine ⟨rfl, rfl, Nat.le_of_not_lt hlength, fun c hc => ?_⟩
          by_contra hnot
          exact hany (List.any_eq_true.mpr ⟨c, hc, by simpa using hnot⟩)
    · obtain ⟨x, hx⟩ := responseJson_refused "list managed workload revisions" hrefuses
      rw [hx]
      exact ⟨rfl, .inl hfaulty⟩
  · rintro x d' ⟨rfl, hfaulty⟩
    exact ⟨rfl, .inl hfaulty⟩

theorem always_removeAll {cs : List Container} :
    Always P (fun r d' => match r with
      | .ok () => d'.networks = d.networks ∧ ∀ c, c ∈ d'.host.containers ↔
          c ∈ d.host.containers ∧ ∀ c' ∈ cs, c.id ≠ c'.id
      | .error _ => Faulty P) (forEach (fun c => Agent.removeContainer c.id) cs) d := by
  refine always_forEach
    (A := fun rest d' => d'.networks = d.networks ∧ ∀ c,
      (c ∈ d'.host.containers ∧ ∀ c' ∈ rest, c.id ≠ c'.id) ↔
        c ∈ d.host.containers ∧ ∀ c' ∈ cs, c.id ≠ c'.id) ?_ ?_ _ _ ⟨rfl, fun c => Iff.rfl⟩
  · rintro d' ⟨hnetworks, h⟩
    refine ⟨hnetworks, fun c => ?_⟩
    rw [← h c]
    simp
  · rintro c' rest d' ⟨hnetworks, h⟩
    refine always_removeContainer (fun hfaulty _ _ _ => hfaulty) ⟨hnetworks, fun c => ?_⟩
    rw [← h c]
    unfold Docker.removed Docker.onHost
    rw [Host.mem_remove, List.forall_mem_cons]
    tauto

def removeContainers (agent : Agent) (payload : Payload) : OnDocker (List String) :=
  match payload.routingMode with
  | .managedGateway => do
    let revisions ← ownedManagedRevisions agent payload
    forEach (fun revision => Agent.removeContainer revision.id) revisions
    pure ((revisions.map (·.config.image)).filter ownImage)
  | .directPort => do
    remove agent payload
    pure []

theorem always_removeContainers (hw : d.host.WellFormed) (hp : validatedPayload payload = .ok payload) :
    Always P (fun r d' => match r with
      | .ok _ => ContainersGone agent payload d d' ∧ ¬ agent.containersBlocked payload d
      | .error _ => Faulty P ∨ agent.containersBlocked payload d)
      (removeContainers agent payload) d := by
  unfold removeContainers
  cases hmode : payload.routingMode with
  | directPort => exact (always_remove hw hp hmode).bind (fun _ _ h => h) fun _ _ h => h
  | managedGateway =>
    have hblocked : agent.containersBlocked payload d ↔
        256 < (agent.revisions payload d).length ∨
          ∃ c ∈ agent.revisions payload d, isRevision agent payload c = false := by
      unfold Agent.containersBlocked
      rw [hmode]
    refine (always_ownedManagedRevisions).bind ?_ ?_
    · rintro revisions d₁ ⟨rfl, rfl, hlength, hall⟩
      refine (always_removeAll).bind (fun _ d₂ h₂ => ?_) fun _ _ hx => .inl hx
      refine ⟨⟨h₂.1, fun c => ?_⟩, ?_⟩
      · rw [h₂.2 c, ← match_revisionFilter hmode]
        refine and_congr_right fun hc => ?_
        unfold Agent.revisions
        constructor
        · intro hne hmatch
          exact hne c (List.mem_filter.mpr ⟨hc, hmatch⟩) rfl
        · intro hnot c' hc' hid
          obtain ⟨hc', hmatch⟩ := List.mem_filter.mp hc'
          rw [hw.eq_of_id hc hc' hid] at hnot
          exact hnot hmatch
      · rw [hblocked]
        rintro (hlong | ⟨c, hc, hnot⟩)
        · omega
        · rw [hall c hc] at hnot
          cases hnot
    · rintro x d₁ ⟨rfl, hx⟩
      rw [hblocked]
      exact hx

/-! ## Images and networks -/

theorem always_removeImage {ref : String} :
    Always P (fun r d' => ImagesOf d d' ∧ ∀ x, r = .error x → Faulty P) (removeImage ref) d := by
  have hcall : ∀ port, ImagesOf d ((DockerCall.removeImage ref).answer port d).2 ∧
      ((DockerCall.removeImage ref).answer port d).1.statusCode ∈ [200, 404, 409] := by
    intro port
    change ImagesOf d (d.removeImage ref).2 ∧ (d.removeImage ref).1.statusCode ∈ _
    unfold Docker.removeImage
    split
    · exact ⟨.refl, by simp [answered]⟩
    · split
      · exact ⟨.refl, by simp [answered]⟩
      · exact ⟨⟨_, rfl⟩, by simp [answered]⟩
  refine Always.bind (Q := fun r d' => ImagesOf d d' ∧ (Faulty P ∨
    ∃ response, r = .ok response ∧ response.statusCode ∈ [200, 404, 409]))
    (always_request ?_ fun i _ => ⟨(hcall _).1, .inr ⟨_, rfl, (hcall _).2⟩⟩) ?_ ?_
  · rintro hfaulty i r d' _ - hd'
    refine ⟨?_, .inl hfaulty⟩
    rcases hd' with rfl | rfl
    · exact .refl
    · exact (hcall _).1
  · rintro response d' ⟨himages, hcode⟩
    split
    · rename_i hnot
      refine ⟨himages, fun x _ => ?_⟩
      rcases hcode with hfaulty | ⟨_, hok, hmem⟩
      · exact hfaulty
      · cases hok
        simp [hmem] at hnot
    · exact ⟨himages, fun x hr => by cases hr⟩
  · rintro x d' ⟨himages, hcode⟩
    refine ⟨himages, fun _ _ => ?_⟩
    rcases hcode with hfaulty | ⟨_, hok, -⟩
    · exact hfaulty
    · cases hok

theorem always_removeImages {refs : List String} :
    Always P (fun r d' => ImagesOf d d' ∧ ∀ x, r = .error x → Faulty P) (forEach removeImage refs) d := by
  refine always_forEach (A := fun _ d' => ImagesOf d d') (fun d' h => ⟨h, fun x hr => by cases hr⟩)
    ?_ _ _ .refl
  intro ref rest d' h
  refine (always_removeImage).mono fun r d'' h' => ?_
  cases r with
  | ok => exact h.trans h'.1
  | error x => exact ⟨h.trans h'.1, fun _ _ => h'.2 x rfl⟩

/-- The network under a name is another's, which stops the removal unless the name is a legacy one. -/
def foreignNetwork (agent : Agent) (payload : Payload) (d : Docker) (name : String) : Prop :=
  ∃ network, d.network? name = some network ∧
    agent.networkBelongsToAllocation payload network = false

theorem always_removeNetwork {name : String} {network : Network} {action : String}
    (hnetwork : d.network? name = some network) (hempty : d.occupied name = false) :
    Always P (fun r d' => d'.host = d.host ∧ ∀ x, r = .error x → Faulty P)
      (expect [204, 404] (.removeNetwork name) action) d := by
  have hanswer : ∀ port, ((DockerCall.removeNetwork name).answer port d).2.host = d.host ∧
      ((DockerCall.removeNetwork name).answer port d).1.statusCode = 204 := by
    intro port
    change (d.removeNetwork name).2.host = _ ∧ (d.removeNetwork name).1.statusCode = _
    unfold Docker.removeNetwork
    rw [hnetwork, hempty]
    exact ⟨rfl, rfl⟩
  refine always_expect (by decide) ?_ ?_ ?_
  · rintro hfaulty i x d' - (rfl | rfl)
    · exact ⟨rfl, fun _ _ => hfaulty⟩
    · exact ⟨(hanswer _).1, fun _ _ => hfaulty⟩
  · exact fun i _ _ => ⟨(hanswer _).1, fun x hr => by cases hr⟩
  · intro i x _ hnot
    rw [(hanswer _).2] at hnot
    exact absurd (by decide) hnot

theorem always_removeNamedNetwork {name : String} {legacy : Bool} :
    Always P (fun r d' => d'.host = d.host ∧ match r with
      | .ok () => legacy = true ∨ ¬ foreignNetwork agent payload d name
      | .error _ => Faulty P ∨ (legacy = false ∧ foreignNetwork agent payload d name))
      (removeNamedNetworkIfEmpty agent payload name legacy) d := by
  refine Always.bind (Q := fun r d' => d' = d ∧ match r with
    | .ok response => response = ((DockerCall.inspectNetwork name).answer 0 d).1 ∨
        (Faulty P ∧ refuses response.statusCode = true)
    | .error _ => Faulty P) (always_request ?_ fun _ _ => ⟨rfl, .inl rfl⟩) ?_ ?_
  · rintro hfaulty i r d' _ hfailed hd'
    refine ⟨hd'.elim id id, ?_⟩
    rcases hfailed with ⟨x, rfl⟩ | ⟨response, rfl, hrefuses⟩
    · exact hfaulty
    · exact .inr ⟨hfaulty, hrefuses⟩
  · rintro inspected d' ⟨rfl, rfl | ⟨hfaulty, hrefuses⟩⟩
    · cases hnetwork : d'.network? name with
      | none =>
        rw [answer_inspectNetwork_none hnetwork]
        refine ⟨rfl, .inr ?_⟩
        rintro ⟨network, hsome, -⟩
        rw [hnetwork] at hsome
        cases hsome
      | some network =>
        rw [answer_inspectNetwork_some hnetwork]
        rw [if_neg (show (answered 200 (some (network, d'.occupied name))).statusCode ≠ 404 from
          (by decide : (200 : Nat) ≠ 404))]
        refine always_ret_bind.2 ?_
        cases howned : agent.networkBelongsToAllocation payload network with
        | false =>
          have hforeign : foreignNetwork agent payload d' name := ⟨network, hnetwork, howned⟩
          cases legacy with
          | true => exact ⟨rfl, .inl rfl⟩
          | false =>
            unfold assertNetworkOwnership
            rw [howned]
            exact ⟨rfl, .inr ⟨rfl, hforeign⟩⟩
        | true =>
          have hnot : ¬ foreignNetwork agent payload d' name := by
            rintro ⟨network', hsome, hforeign⟩
            rw [hnetwork] at hsome
            cases hsome
            rw [howned] at hforeign
            cases hforeign
          unfold assertNetworkOwnership
          simp only [howned, Bool.not_true, Bool.and_false, Bool.false_eq_true, if_false, if_true]
          refine always_ret_bind.2 ?_
          cases hoccupied : d'.occupied name with
          | true => exact ⟨rfl, .inr hnot⟩
          | false =>
            refine (always_removeNetwork hnetwork hoccupied).mono fun r d'' h => ?_
            cases r with
            | ok => exact ⟨h.1, .inr hnot⟩
            | error x => exact ⟨h.1, .inl (h.2 x rfl)⟩
    · rw [if_neg (not_404_of_refuses hrefuses)]
      obtain ⟨x, hx⟩ := responseJson_refused "inspect network" hrefuses
      rw [hx]
      exact ⟨rfl, .inl hfaulty⟩
  · rintro x d' ⟨rfl, hfaulty⟩
    exact ⟨rfl, .inl hfaulty⟩

theorem always_removeNetworkIfEmpty :
    Always P (fun r d' => d'.host = d.host ∧ match r with
      | .ok () => ¬ agent.networkBlocked payload d
      | .error _ => Faulty P ∨ agent.networkBlocked payload d)
      (removeNetworkIfEmpty agent payload) d := by
  refine (always_removeNamedNetwork).bind (fun _ d₁ h₁ => ?_) fun x d₁ h₁ => ?_
  · refine (always_removeNamedNetwork).mono fun r d₂ h₂ => ?_
    have hfree := h₁.2.resolve_left (by decide)
    cases r with
    | ok => exact ⟨h₂.1.trans h₁.1, hfree⟩
    | error x =>
      rcases h₂.2 with hfaulty | ⟨hlegacy, -⟩
      · exact ⟨h₂.1.trans h₁.1, .inl hfaulty⟩
      · cases hlegacy
  · rcases h₁.2 with hfaulty | ⟨-, hforeign⟩
    · exact ⟨h₁.1, .inl hfaulty⟩
    · exact ⟨h₁.1, .inr hforeign⟩

theorem removeProject_eq (hp : validatedPayload value = .ok payload) :
    removeProject agent value = (do
      let images ← removeContainers agent payload
      forEach removeImage (payload.imageRef :: images).eraseDups
      removeNetworkIfEmpty agent payload) := by
  have hprogram : removeProject agent value = (do
      let desired ← .ret (validatedPayload value)
      let images ← removeContainers agent desired
      forEach removeImage (desired.imageRef :: images).eraseDups
      removeNetworkIfEmpty agent desired) := by
    unfold removeProject removeContainers
    congr 1
    funext desired
    cases desired.routingMode with
    | managedGateway => simp only [Prog.bind_assoc]
    | directPort => simp only [Prog.bind_assoc]
  rw [hprogram, hp]
  rfl

/-- A removal that returns has removed what is in reach, and it returns if Docker responds and
nothing of another workload is in its way. -/
theorem always_removeProject (hw : d.host.WellFormed) (hp : validatedPayload value = .ok payload) :
    Always P (fun r d' => match r with
      | .ok () => ¬(agent.containersBlocked payload d ∨ agent.networkBlocked payload d) ∧
          ∀ c, c ∈ d'.host.containers ↔ c ∈ d.host.containers ∧
            ¬(agent.belongsToWorkload payload c = true ∧ agent.inReach payload c = true)
      | .error _ => Faulty P ∨ agent.containersBlocked payload d ∨ agent.networkBlocked payload d)
      (removeProject agent value) d := by
  rw [removeProject_eq hp]
  refine (always_removeContainers hw (validatedPayload_idem hp)).bind (fun images d₁ h₁ => ?_)
    fun x d₁ h₁ => h₁.imp_right .inl
  obtain ⟨⟨hnetworks, hgone⟩, hfree⟩ := h₁
  refine (always_removeImages).bind (fun _ d₂ h₂ => ?_) fun x d₂ h₂ => .inl (h₂.2 x rfl)
  obtain ⟨⟨images', rfl⟩, -⟩ := h₂
  have hsame : agent.networkBlocked payload { d₁ with images := images' } ↔
      agent.networkBlocked payload d := by
    unfold Agent.networkBlocked Docker.network?
    rw [hnetworks]
  refine (always_removeNetworkIfEmpty).mono fun r d₃ h₃ => ?_
  rw [hsame] at h₃
  cases r with
  | ok =>
    refine ⟨not_or.mpr ⟨hfree, h₃.2⟩, fun c => ?_⟩
    rw [h₃.1]
    exact hgone c
  | error x => exact h₃.2.imp_right .inr

end Rules

end InitPad.Workload
