import InitPad.Workload.Removal
import InitPad.Workload.SameWorkload

/-!
# InitPad.Workload.CompleteRemoval

Whether a removal leaves containers of the workload behind, on any host and after any history of
jobs, each of them possibly interrupted.
-/

namespace InitPad.Workload

open Interleave Prog Engine

/-! ## Histories -/

/-- The jobs that change the containers of workloads. -/
inductive Job where
  | deploy (payload : Payload)
  | deployProject (payload : Payload) (delivery : Except AgentError Unit)
  | stop (payload : Payload)
  | start (payload : Payload)
  | remove (payload : Payload)
  | removeProject (payload : Payload)

namespace Job

def run (agent : Agent) : Job → OnDocker Unit
  | .deploy payload => do
    let _ ← InitPad.Workload.deploy agent payload
  | .deployProject payload delivery => do
    let _ ← InitPad.Workload.deployProject agent payload delivery
  | .stop payload => InitPad.Workload.stop agent payload
  | .start payload => InitPad.Workload.start agent payload
  | .remove payload => InitPad.Workload.remove agent payload
  | .removeProject payload => InitPad.Workload.removeProject agent payload

def deployed : Job → Option Payload
  | .deploy payload => some payload
  | .deployProject payload _ => some payload
  | _ => none

end Job

/-- The hosts that jobs lead to, each interrupted anywhere or not, whose deployments `C` allows. -/
inductive Reachable (agent : Agent) (C : Payload → Prop) (d₀ : Docker) : Docker → Prop where
  | initial : Reachable agent C d₀ d₀
  | job {d d' : Docker} (h : Reachable agent C d₀ d) (j : Job) (hC : ∀ p ∈ j.deployed, C p)
      (hrun : (j.run agent).Visits d d') : Reachable agent C d₀ d'

/-- What a deployment leaves behind is found by the removal with `payload`: it is of another
workload, or its names and labels are looked up. -/
def Agent.leavesInReach (agent : Agent) (payload deployed : Payload) : Prop :=
  deployed.allocationId ≠ payload.allocationId ∨
  Agent.workloadKey deployed ≠ Agent.workloadKey payload ∨
  deployed.routingMode = payload.routingMode ∧ (payload.routingMode = .directPort →
    agent.containerName deployed ∈ agent.removedNames payload ∧
    agent.candidateName deployed ∈ agent.removedNames payload)

theorem Agent.leavesInReach_self (agent : Agent) (payload : Payload) :
    agent.leavesInReach payload payload := by
  refine .inr (.inr ⟨rfl, fun _ => ⟨?_, ?_⟩⟩)
  · simp [Agent.removedNames]
  · simp [Agent.removedNames]

/-- A removal that returns leaves no container of the workload. -/
def RemovesAll (agent : Agent) (value payload : Payload) (d : Docker) : Prop :=
  Always anyInput (fun r d' => r = .ok () → ∀ c ∈ d'.host.containers,
    agent.belongsToWorkload payload c = false) (removeProject agent value) d

def AllInReach (agent : Agent) (payload : Payload) (d : Docker) : Prop :=
  ∀ c ∈ d.host.containers, agent.belongsToWorkload payload c = true →
    agent.inReach payload c = true

section Removal

variable {agent : Agent} {value payload : Payload} {d : Docker}

theorem removesAll_iff (hw : d.host.WellFormed) (hp : validatedPayload value = .ok payload) :
    RemovesAll agent value payload d ↔
      (agent.containersBlocked payload d ∨ agent.networkBlocked payload d) ∨
        AllInReach agent payload d := by
  constructor
  · intro h
    by_contra hcase
    obtain ⟨hfree, hreach⟩ := not_or.mp hcase
    obtain ⟨r, d', hall, hspec⟩ := ((Always.weaken (fun _ _ => trivial) h).both
      (always_removeProject (P := Regular) hw hp)).exists ⟨{}, regular_default⟩
    cases r with
    | error x =>
      rcases hspec with hfaulty | hblocked
      · exact not_faulty_regular hfaulty
      · exact hfree hblocked
    | ok =>
      refine hreach fun c hc howned => ?_
      by_contra hout
      have hleft := (hspec.2 c).mpr ⟨hc, fun hboth => hout hboth.2⟩
      rw [hall rfl c hleft] at howned
      cases howned
  · intro hcase
    refine (always_removeProject hw hp).mono fun r d' hspec hr c hc => ?_
    subst hr
    obtain ⟨hfree, hgone⟩ := hspec
    have hreach := hcase.resolve_left hfree
    obtain ⟨hc, hnot⟩ := (hgone c).mp hc
    by_contra howned
    rw [Bool.not_eq_false] at howned
    exact hnot ⟨howned, hreach c hc howned⟩

/-! ## What the jobs keep -/

/-- The removal will find all containers of the workload. -/
structure Tidy (agent : Agent) (payload : Payload) (d : Docker) : Prop where
  wellFormed : d.host.WellFormed
  inReach : AllInReach agent payload d

theorem inReach_congr {c c' : Container} (hlabels : c.config.labels = c'.config.labels)
    (hname : c.name = c'.name) : agent.inReach payload c = agent.inReach payload c' := by
  unfold Agent.inReach
  rw [hlabels, hname]

namespace Tidy

variable (h : Tidy agent payload d)
include h

theorem of_host {d' : Docker} (hhost : d'.host = d.host) : Tidy agent payload d' := by
  obtain ⟨hw, hreach⟩ := h
  unfold AllInReach at hreach
  rw [← hhost] at hw hreach
  exact ⟨hw, hreach⟩

theorem images {d' : Docker} (himages : ImagesOf d d') : Tidy agent payload d' := by
  obtain ⟨images, rfl⟩ := himages
  exact h.of_host rfl

theorem removed {id : Nat} : Tidy agent payload (d.removed id) where
  wellFormed := h.wellFormed.remove
  inReach c hc := h.inReach c (Host.mem_remove.mp hc).1

theorem updated {id : Nat} {f : Container → Container} (hf : Unseen f) :
    Tidy agent payload (d.onHost (d.host.update id f)) where
  wellFormed := h.wellFormed.update_config hf.id hf.name
  inReach c hc howned := by
    obtain ⟨c₀, hc₀, rfl⟩ := Host.mem_update.mp hc
    split at howned
    · rename_i hid
      rw [if_pos hid]
      rw [belongs_congr (hf.labels c₀)] at howned
      rw [inReach_congr (hf.labels c₀) (hf.name c₀)]
      exact h.inReach c₀ hc₀ howned
    · rename_i hid
      rw [if_neg hid]
      exact h.inReach c₀ hc₀ howned

theorem of_traced {deployed : Payload} {d' : Docker} (hw : d'.host.WellFormed)
    (hleaves : agent.leavesInReach payload deployed)
    (htraced : ∀ c ∈ d'.host.containers, Traced agent deployed d c) : Tidy agent payload d' where
  wellFormed := hw
  inReach c hc howned := by
    -- A container of both workloads makes them one.
    have hsame : agent.belongsToWorkload deployed c = true →
        deployed.routingMode = payload.routingMode ∧ (payload.routingMode = .directPort →
          agent.containerName deployed ∈ agent.removedNames payload ∧
          agent.candidateName deployed ∈ agent.removedNames payload) := by
      intro hdeployed
      unfold Agent.belongsToWorkload at howned hdeployed
      simp only [Bool.and_eq_true, beq_iff_eq] at howned hdeployed
      rcases hleaves with hallocation | hkey | hin
      · exact absurd (Option.some.inj (hdeployed.1.2.symm.trans howned.1.2)) hallocation
      · exact absurd (Option.some.inj (hdeployed.2.symm.trans howned.2)) hkey
      · exact hin
    have hlooked : c.name = agent.containerName deployed ∨ c.name = agent.candidateName deployed →
        agent.belongsToWorkload deployed c = true → payload.routingMode = .directPort →
        agent.inReach payload c = true := by
      intro hname hdeployed hmode
      unfold Agent.inReach
      rw [hmode]
      obtain ⟨hcontainer, hcandidate⟩ := (hsame hdeployed).2 hmode
      rcases hname with hname | hname
      · simp only [List.contains_eq_mem, decide_eq_true_eq, hname]
        exact hcontainer
      · simp only [List.contains_eq_mem, decide_eq_true_eq, hname]
        exact hcandidate
    rcases htraced c hc with ⟨c₀, hc₀, -, hlabels, -, hname⟩ | ⟨-, hlabels, -, hname⟩
    · have hreach := h.inReach c₀ hc₀ (by rw [belongs_congr hlabels]; exact howned)
      rcases hname with hname | ⟨hname, hmatches⟩
      · rw [← inReach_congr hlabels hname]
        exact hreach
      · cases hmode : payload.routingMode with
        | directPort => exact hlooked (.inl hname) (belongs_of_matches hmatches) hmode
        | managedGateway =>
          unfold Agent.inReach at hreach ⊢
          rw [hmode] at hreach ⊢
          rw [← hlabels]
          exact hreach
    · have hdeployed : agent.belongsToWorkload deployed c = true := by
        unfold Agent.belongsToWorkload
        rw [hlabels]
        simp [Agent.labels]
      cases hmode : payload.routingMode with
      | directPort => exact hlooked hname.symm hdeployed hmode
      | managedGateway =>
        have hmode' := (hsame hdeployed).1
        unfold Agent.inReach
        rw [hmode, hlabels]
        simp [Agent.labels, hmode', hmode, Agent.routingModeText]

end Tidy

/-! ## The jobs -/

theorem leavesInReach_parsed {parsed : Payload}
    (hsame : parsed = { value with
      cpuLimitMillicores := parsed.cpuLimitMillicores
      memoryLimitMb := parsed.memoryLimitMb
      pidsLimit := parsed.pidsLimit }) (h : agent.leavesInReach payload value) :
    agent.leavesInReach payload parsed := by
  rw [hsame]
  exact h

theorem tidy_deploy (hleaves : agent.leavesInReach payload value) (h : Tidy agent payload d) :
    Always anyInput (fun _ => Tidy agent payload) (deploy agent value) d := by
  cases hp : validatedPayload value with
  | error x =>
    unfold deploy
    rw [hp]
    exact h
  | ok parsed =>
    obtain ⟨-, -, -, hsame⟩ := validatedPayload_ok hp
    have hleaves := leavesInReach_parsed hsame hleaves
    cases hcollides : agent.collides parsed d with
    | true =>
      refine (deploy_collides hp hcollides).mono ?_
      rintro r d' rfl
      exact h
    | false =>
      refine (deploy_steps h.wellFormed hcollides hp).mono ?_
      rintro r d' ⟨stage, hsteps⟩
      exact h.of_traced (Deploys.wellFormed hsteps h.wellFormed) hleaves
        (hsteps.traced h.wellFormed)

theorem tidy_deployProject {delivery : Except AgentError Unit}
    (hleaves : agent.leavesInReach payload value) (h : Tidy agent payload d) :
    Always anyInput (fun _ => Tidy agent payload) (deployProject agent value delivery) d := by
  refine always_deployProject (fun _ _ himages h' => h'.images himages)
    (fun _ _ h' => h'.of_host rfl) (fun parsed d' hparse _ himages => ?_) h
  exact tidy_deploy (leavesInReach_parsed (accepted_of_parse hparse).2 hleaves) (h.images himages)

theorem tidy_stop (h : Tidy agent payload d) :
    Always anyInput (fun _ => Tidy agent payload) (stop agent value) d := by
  cases hp : validatedPayload value with
  | error x =>
    unfold stop
    rw [hp]
    exact h
  | ok parsed =>
    exact always_stop h.wellFormed hp (fun _ _ => h) (fun _ _ => h) (fun _ => h)
      fun c _ _ => ⟨h.updated unseen_halt, fun _ _ => h.updated unseen_halt⟩

theorem tidy_start (h : Tidy agent payload d) :
    Always anyInput (fun _ => Tidy agent payload) (start agent value) d := by
  cases hp : validatedPayload value with
  | error x =>
    unfold start
    rw [hp]
    exact h
  | ok parsed =>
    have hstarted : ∀ port id, Tidy agent payload (d.started port id) :=
      fun port id => h.updated unseen_startOn
    refine always_start h.wellFormed hp (fun _ _ => h) (fun _ _ => h) (fun _ _ => h) ?_ ?_
    · exact fun c _ _ => ⟨fun _ _ => h, fun _ _ _ => h.of_host rfl⟩
    · exact fun c _ _ => ⟨fun _ _ _ => hstarted _ _,
        fun i _ => ⟨fun _ _ => hstarted _ _, fun _ => (hstarted _ _).of_host rfl⟩⟩

theorem tidy_forEach {α : Type} {body : α → OnDocker Unit} {as : List α}
    (hbody : ∀ a d, Tidy agent payload d →
      Always anyInput (fun _ => Tidy agent payload) (body a) d) (h : Tidy agent payload d) :
    Always anyInput (fun _ => Tidy agent payload) (forEach body as) d := by
  refine always_forEach (A := fun _ => Tidy agent payload) (fun _ h' => h') ?_ _ _ h
  intro a as d' h'
  refine (hbody a d' h').mono fun r d'' h'' => ?_
  cases r with
  | ok => exact h''
  | error => exact h''

theorem tidy_removeContainer {id : Nat} (h : Tidy agent payload d) :
    Always anyInput (fun _ => Tidy agent payload) (Agent.removeContainer id) d := by
  refine always_removeContainer ?_ h.removed
  rintro - x d' (rfl | rfl)
  · exact h
  · exact h.removed

theorem tidy_remove (h : Tidy agent payload d) :
    Always anyInput (fun _ => Tidy agent payload) (remove agent value) d := by
  unfold remove
  cases hp : validatedPayload value with
  | error x => exact h
  | ok parsed =>
    refine always_ret_bind.mpr (Always.bind (Q := fun _ => Tidy agent payload)
      (tidy_forEach (fun name d' h' => ?_) h) (fun _ d' h' => tidy_forEach (fun name d'' h'' => ?_) h')
      fun _ _ hx => hx)
    · exact always_removeOwned (fun _ _ => h') (fun _ _ _ _ => h') (fun _ => h')
        fun c _ _ => ⟨h'.removed, fun _ _ => h'.removed⟩
    · exact always_removeLegacy (fun _ _ => h'') (fun _ => h'')
        fun c _ _ => ⟨h''.removed, fun _ _ => h''.removed⟩

theorem tidy_removeProject (h : Tidy agent payload d) :
    Always anyInput (fun _ => Tidy agent payload) (removeProject agent value) d := by
  cases hp : validatedPayload value with
  | error x =>
    unfold removeProject
    rw [hp]
    exact h
  | ok parsed =>
    rw [removeProject_eq hp]
    refine Always.bind (Q := fun _ => Tidy agent payload) ?_ (fun images d₁ h₁ =>
      always_removeImages.bind (fun _ d₂ h₂ => always_removeNetworkIfEmpty.mono fun r d₃ h₃ =>
        (h₁.images h₂.1).of_host h₃.1) fun _ _ h₂ => h₁.images h₂.1) fun _ _ hx => hx
    unfold removeContainers
    cases parsed.routingMode with
    | directPort => exact (tidy_remove h).bind (fun _ _ h' => h') fun _ _ hx => hx
    | managedGateway =>
      refine always_ownedManagedRevisions.bind ?_ ?_
      · rintro revisions d' ⟨rfl, -⟩
        exact Always.bind (Q := fun _ => Tidy agent payload)
          (tidy_forEach (fun c d'' h'' => tidy_removeContainer h'') h) (fun _ _ h' => h')
          fun _ _ hx => hx
      · rintro x d' ⟨rfl, -⟩
        exact h

theorem tidy_job {j : Job} (hleaves : ∀ p ∈ j.deployed, agent.leavesInReach payload p)
    (h : Tidy agent payload d) :
    Always anyInput (fun _ => Tidy agent payload) (j.run agent) d := by
  cases j with
  | deploy value =>
    exact Always.bind (Q := fun _ => Tidy agent payload) (tidy_deploy (hleaves value rfl) h)
      (fun _ _ h' => h') fun _ _ hx => hx
  | deployProject value delivery =>
    exact Always.bind (Q := fun _ => Tidy agent payload) (tidy_deployProject (hleaves value rfl) h)
      (fun _ _ h' => h') fun _ _ hx => hx
  | stop => exact tidy_stop h
  | start => exact tidy_start h
  | remove => exact tidy_remove h
  | removeProject => exact tidy_removeProject h

theorem tidy_reachable {d₀ : Docker} (h₀ : Tidy agent payload d₀)
    (h : Reachable agent (agent.leavesInReach payload) d₀ d) : Tidy agent payload d := by
  induction h with
  | initial => exact h₀
  | job _ j hC hrun ih => exact (tidy_job hC ih).visits exists_idle hrun

/-- A removal that returns leaves no container of its workload just when all of them are in reach,
or it never returns; and they are in reach in every history whose deployments have left what the
removal looks for. -/
theorem removal_complete {agent : Agent} {value payload : Payload}
    (hp : validatedPayload value = .ok payload) :
    (∀ d, d.host.WellFormed → (RemovesAll agent value payload d ↔
      (agent.containersBlocked payload d ∨ agent.networkBlocked payload d) ∨
        AllInReach agent payload d)) ∧
    ∀ d₀ d, d₀.host.WellFormed → AllInReach agent payload d₀ →
      Reachable agent (agent.leavesInReach payload) d₀ d → RemovesAll agent value payload d := by
  constructor
  · exact fun d hw => removesAll_iff hw hp
  · intro d₀ d hw hreach hreachable
    have htidy := tidy_reachable ⟨hw, hreach⟩ hreachable
    exact (removesAll_iff htidy.wellFormed hp).mpr (.inr htidy.inReach)

end Removal

/-! ## A candidate of another revision -/

def imagesHost : Docker where
  images := [shopImage "r1", shopImage "r2"]

theorem imagesHost_wellFormed : imagesHost.host.WellFormed :=
  ⟨List.nodup_nil, List.nodup_nil, fun _ hc => by cases hc⟩

/-- The deployment of a revision is interrupted after its candidate has been created. -/
@[irreducible] def interruptedHost : Docker :=
  ((Job.deploy (shopPayload "r1")).run shopAgent).play (List.replicate 8 {}) imagesHost

theorem interruptedHost_visited :
    ((Job.deploy (shopPayload "r1")).run shopAgent).Visits imagesHost interruptedHost := by
  unfold interruptedHost
  exact visits_play _ _ _

theorem interruptedHost_reachable {C : Payload → Prop} (hC : C (shopPayload "r1")) :
    Reachable shopAgent C imagesHost interruptedHost :=
  .job .initial (.deploy (shopPayload "r1")) (fun p hp => by cases hp; exact hC)
    interruptedHost_visited

theorem shop_networkName :
    shopAgent.workloadNetworkName (shopPayload "r1") = "net-team-af27f98b12ae0-dev" := by
  unfold Agent.workloadNetworkName
  rw [shop_scope]
  decide

theorem shop_candidateName :
    shopAgent.candidateName (shopPayload "r1") = "initpad-team-af27f98b12ae0-shop-dev-next-r1" := by
  unfold Agent.candidateName
  rw [shop_containerName]
  decide

theorem shop_legacyCandidateNames :
    shopAgent.legacyCandidateNames (shopPayload "r1") = ["initpad-team-shop-dev-next-r1"] := by
  unfold Agent.legacyCandidateNames Agent.legacyContainerNames
  rw [shop_candidateName, shop_legacyName]
  decide

theorem deploy_shop : deploy shopAgent (shopPayload "r1") = (do
    let current ← shopAgent.desiredDirectContainer (shopPayload "r1")
    match current.filter (shopAgent.matches_ (shopPayload "r1")) with
    | some container =>
      if container.running then pure () else start shopAgent (shopPayload "r1")
      let ok ← healthy shopAgent (shopPayload "r1")
      if ok then status shopAgent (shopPayload "r1")
      else throw (newError "Existing workload failed its health check")
    | none => replaceContainer shopAgent (shopPayload "r1") current) := by
  unfold deploy
  rw [shop_valid_r1]
  rfl

theorem interruptedHost_eq : interruptedHost.host.containers =
    [{ id := 0
       name := "initpad-team-af27f98b12ae0-shop-dev-next-r1"
       config := shopAgent.candidateConfig (shopPayload "r1")
       running := false }] ∧ interruptedHost.host.nextId = 1 ∧
    interruptedHost.networks = [shopAgent.ownNetwork (shopPayload "r1")] := by
  have hscoped : shopAgent.workloadContainerName (shopPayload "r1") =
    "initpad-team-af27f98b12ae0-shop-dev" := shop_containerName
  unfold interruptedHost
  -- The names are put in first, so that the run does not compute them at each step.
  simp only [Job.run, deploy_shop, Agent.desiredDirectContainer, replaceContainer, ensureNetwork,
    discardCandidate, startCandidate, Agent.candidateConfig, Agent.ownNetwork, hscoped,
    shop_networkName, shop_legacyName, shop_candidateName, shop_legacyCandidateNames]
  decide

theorem interruptedHost_wellFormed : interruptedHost.host.WellFormed := by
  obtain ⟨hcontainers, hnext, -⟩ := interruptedHost_eq
  refine ⟨?_, ?_, ?_⟩
  · rw [hcontainers]
    exact List.nodup_singleton _
  · rw [hcontainers]
    exact List.nodup_singleton _
  · intro c hc
    rw [hcontainers, List.mem_singleton] at hc
    rw [hc, hnext]
    exact Nat.zero_lt_one

theorem removal_complete_interrupted :
    RemovesAll shopAgent (shopPayload "r1") (shopPayload "r1") interruptedHost :=
  (@removal_complete shopAgent (shopPayload "r1") (shopPayload "r1") shop_valid_r1).2
    imagesHost interruptedHost imagesHost_wellFormed (fun _ hc => by cases hc)
    (interruptedHost_reachable (shopAgent.leavesInReach_self (shopPayload "r1")))

/-- The removal with the payload of the next revision returns and leaves that candidate. -/
theorem removal_incomplete : ¬ ∀ (agent : Agent) (value payload : Payload) (d₀ d : Docker),
    validatedPayload value = .ok payload → d₀.host.WellFormed → d₀.host.containers = [] →
    Reachable agent (fun _ => True) d₀ d → RemovesAll agent value payload d := by
  intro h
  have hall := h shopAgent (shopPayload "r2") (shopPayload "r2") imagesHost interruptedHost
    shop_valid_r2 imagesHost_wellFormed rfl (interruptedHost_reachable trivial)
  obtain ⟨hcontainers, -, hnetworks⟩ := interruptedHost_eq
  rcases (removesAll_iff interruptedHost_wellFormed shop_valid_r2).mp hall with
    (⟨c, hc, -, hforeign⟩ | ⟨network, hnetwork, hforeign⟩) | hreach
  · rw [hcontainers, List.mem_singleton] at hc
    rw [hc] at hforeign
    exact absurd hforeign (by decide)
  · unfold Docker.network? at hnetwork
    rw [hnetworks] at hnetwork
    rw [List.mem_singleton.mp (List.mem_of_find?_eq_some hnetwork)] at hforeign
    exact absurd hforeign (by decide)
  · unfold AllInReach at hreach
    rw [hcontainers] at hreach
    have hremoved : (shopAgent.removedNames (shopPayload "r2")).contains
        "initpad-team-af27f98b12ae0-shop-dev-next-r1" = true :=
      hreach _ (List.mem_singleton.mpr rfl) rfl
    unfold Agent.removedNames Agent.candidateName Agent.legacyContainerNames at hremoved
    rw [shop_containerName, shop_legacyName] at hremoved
    exact absurd hremoved (by decide)

end InitPad.Workload
