import InitPad.Workload.Phases
import Mathlib.Logic.Relation

/-!
# InitPad.Workload.Deployment

A deployment as a sequence of steps on the host: leftovers are discarded, a candidate is created,
started and verified, and only then the current container is removed. Whatever fails, a run of
`deploy` makes a sequence of such steps.
-/

namespace InitPad.Workload

open Interleave Prog Engine

/-- How far a deployment has come: the candidate with an id has answered on a port. -/
inductive Stage where
  | preparing
  | verified (id hostPort : Nat)
  | published

/-- A step of the deployment that is to replace `current`. -/
inductive DeployStep (agent : Agent) (payload : Payload) (current : Option Container) :
    Stage × Docker → Stage × Docker → Prop where
  | resume {d : Docker} {c : Container} {hostPort : Nat} (hc : c ∈ d.host.containers)
      (howned : agent.belongsToWorkload payload c = true) :
      DeployStep agent payload current (.preparing, d) (.preparing, d.started hostPort c.id)
  | check {d : Docker} {hostPort : Nat} :
      DeployStep agent payload current (.preparing, d) (.preparing, d.checked hostPort)
  | network {d : Docker} : DeployStep agent payload current (.preparing, d)
      (.preparing, d.withNetwork (agent.ownNetwork payload))
  | discard {d : Docker} {c : Container} (hc : c ∈ d.host.containers)
      (howned : agent.belongsToWorkload payload c = true)
      (hname : c.name ∈ agent.legacyCandidateNames payload ∨
        c.name = agent.candidateName payload ∧ agent.matches_ payload c = false) :
      DeployStep agent payload current (.preparing, d) (.preparing, d.removed c.id)
  | create {d : Docker} (hfree : d.host.get? (.name (agent.candidateName payload)) = none) :
      DeployStep agent payload current (.preparing, d)
        (.preparing, d.withCandidate agent payload)
  | reject {d : Docker} {c : Container} (hc : c ∈ d.host.containers)
      (hname : c.name = agent.candidateName payload)
      (hmatches : agent.matches_ payload c = true) :
      DeployStep agent payload current (.preparing, d) (.preparing, d.removed c.id)
  | verify {d : Docker} {c : Container} {hostPort : Nat} (hc : c ∈ d.host.containers)
      (hname : c.name = agent.candidateName payload)
      (hmatches : agent.matches_ payload c = true)
      (hport : c.config.hostPort = some hostPort) (hanswers : Agent.answers payload c = true) :
      DeployStep agent payload current (.preparing, d)
        (.verified c.id hostPort, d.checked hostPort)
  | keep {d : Docker} {id hostPort : Nat} :
      DeployStep agent payload current (.verified id hostPort, d)
        (.verified id hostPort, d.updated id)
  | replace {d : Docker} {id hostPort : Nat} {c : Container} (hcurrent : current = some c)
      (howned : agent.belongsToWorkload payload c = true)
      (hmatches : agent.matches_ payload c = false) (hne : c.id ≠ id) :
      DeployStep agent payload current (.verified id hostPort, d)
        (.verified id hostPort, d.removed c.id)
  | publish {d : Docker} {c : Container} {hostPort : Nat} (hc : c ∈ d.host.containers)
      (hname : c.name = agent.candidateName payload)
      (hmatches : agent.matches_ payload c = true)
      (hfree : d.host.get? (.name (agent.containerName payload)) = none) :
      DeployStep agent payload current (.verified c.id hostPort, d)
        (.published, d.renamed c.id (agent.containerName payload))

abbrev Deploys (agent : Agent) (payload : Payload) (current : Option Container) :
    Stage × Docker → Stage × Docker → Prop :=
  Relation.ReflTransGen (DeployStep agent payload current)

/-! ## What the steps keep -/

section Steps

variable {agent : Agent} {payload : Payload} {current : Option Container}
  {s s' : Stage × Docker} {d d' : Docker} {stage stage' : Stage} {c : Container}

theorem Agent.matches_congr {c c' : Container} (hlabels : c.config.labels = c'.config.labels)
    (himage : c.config.image = c'.config.image) :
    agent.matches_ payload c = agent.matches_ payload c' := by
  unfold Agent.matches_ Agent.belongsToWorkload
  rw [hlabels, himage]

theorem belongs_of_matches (h : agent.matches_ payload c = true) :
    agent.belongsToWorkload payload c = true := by
  unfold Agent.matches_ at h
  simp only [Bool.and_eq_true] at h
  exact h.1.1.1

theorem matches_newCandidate :
    agent.matches_ payload (agent.newCandidate payload d) = true := by
  have hfingerprint : (payload.configFingerprint.all (·.isEmpty) ||
      (payload.configFingerprint.filter fun fingerprint => !fingerprint.isEmpty) ==
        payload.configFingerprint) = true := by
    cases payload.configFingerprint with
    | none => rfl
    | some fingerprint => cases hempty : fingerprint.isEmpty <;> simp [hempty]
  unfold Agent.matches_ Agent.belongsToWorkload
  simp only [Agent.newCandidate, Agent.candidateConfig, Agent.labels, beq_self_eq_true,
    Bool.and_true, Bool.true_and]
  exact hfingerprint

theorem DeployStep.wellFormed (h : DeployStep agent payload current s s')
    (hw : s.2.host.WellFormed) : s'.2.host.WellFormed := by
  have hfree : ∀ {h : Host ContainerConfig} {name : String}, h.get? (.name name) = none →
      ∀ c ∈ h.containers, c.name ≠ name := by
    intro h name hnone c hc hname
    have hnot := Host.get?_eq_none.mp hnone c hc
    simp [Ref.denotes, hname] at hnot
  cases h with
  | resume => exact hw.update_config (fun _ => rfl) fun _ => rfl
  | check => exact hw
  | network => exact hw
  | discard => exact hw.remove
  | create h => exact hw.create (hfree h)
  | reject => exact hw.remove
  | verify => exact hw
  | keep => exact hw.update_config (fun _ => rfl) fun _ => rfl
  | replace => exact hw.remove
  | publish hc hname hmatches h => exact hw.rename (hfree h)

theorem Deploys.wellFormed (h : Deploys agent payload current s s') (hw : s.2.host.WellFormed) :
    s'.2.host.WellFormed := by
  induction h with
  | refl => exact hw
  | tail _ hstep ih => exact hstep.wellFormed ih

/-- Where a container comes from: it was there, under this name unless it has been published, or it
is the candidate. -/
def Traced (agent : Agent) (payload : Payload) (d : Docker) (c : Container) : Prop :=
  (∃ c₀ ∈ d.host.containers, c₀.id = c.id ∧ c₀.config.labels = c.config.labels ∧
    c₀.config.image = c.config.image ∧ (c₀.name = c.name ∨
      (c.name = agent.containerName payload ∧ agent.matches_ payload c = true))) ∨
  (d.host.nextId ≤ c.id ∧ c.config.labels = agent.labels payload ∧
    c.config.image = payload.imageRef ∧
    (c.name = agent.candidateName payload ∨ c.name = agent.containerName payload))

theorem Traced.update {f : Container → Container} (hf : Unseen f) (h : Traced agent payload d c) :
    Traced agent payload d (f c) := by
  unfold Traced at *
  rw [hf.id, hf.labels, hf.image, hf.name, hf.matches_]
  exact h

theorem DeployStep.traced (h : DeployStep agent payload current s s')
    (hw : s.2.host.WellFormed) (hnext : d.host.nextId ≤ s.2.host.nextId)
    (hs : ∀ c ∈ s.2.host.containers, Traced agent payload d c) :
    d.host.nextId ≤ s'.2.host.nextId ∧
      ∀ c ∈ s'.2.host.containers, Traced agent payload d c := by
  have hupdate : ∀ {h : Host ContainerConfig} {id : Nat} {f : Container → Container},
      Unseen f → (∀ c ∈ h.containers, Traced agent payload d c) →
      ∀ c ∈ (h.update id f).containers, Traced agent payload d c := by
    intro h id f hf hall c hc
    obtain ⟨c₀, hc₀, rfl⟩ := Host.mem_update.mp hc
    split
    · exact (hall c₀ hc₀).update hf
    · exact hall c₀ hc₀
  cases h with
  | resume => exact ⟨hnext, hupdate unseen_startOn hs⟩
  | check => exact ⟨hnext, hs⟩
  | network => exact ⟨hnext, hs⟩
  | discard => exact ⟨hnext, fun c hc => hs c (Host.mem_remove.mp hc).1⟩
  | create =>
    refine ⟨Nat.le_succ_of_le hnext, fun c hc => ?_⟩
    rcases Host.mem_create.mp hc with hc | rfl
    · exact hs c hc
    · exact .inr ⟨hnext, rfl, rfl, .inl rfl⟩
  | reject => exact ⟨hnext, fun c hc => hs c (Host.mem_remove.mp hc).1⟩
  | verify => exact ⟨hnext, hs⟩
  | keep => exact ⟨hnext, hupdate unseen_makeDurable hs⟩
  | replace => exact ⟨hnext, fun c hc => hs c (Host.mem_remove.mp hc).1⟩
  | publish hc hname hmatches =>
    refine ⟨hnext, fun c' hc' => ?_⟩
    obtain ⟨c₀, hc₀, rfl⟩ := Host.mem_update.mp hc'
    split
    · rename_i hid
      have hsame := hw.eq_of_id hc₀ hc hid
      rw [hsame]
      rcases hs _ hc with ⟨c₁, hc₁, hid₁, hlabels, himage, -⟩ | ⟨hnew, hlabels, himage, -⟩
      · exact .inl ⟨c₁, hc₁, hid₁, hlabels, himage, .inr ⟨rfl, hmatches⟩⟩
      · exact .inr ⟨hnew, hlabels, himage, .inr rfl⟩
    · exact hs c₀ hc₀

theorem Deploys.traced (h : Deploys agent payload current (stage, d) (stage', d'))
    (hw : d.host.WellFormed) : ∀ c ∈ d'.host.containers, Traced agent payload d c := by
  have hall : ∀ {s' : Stage × Docker}, Deploys agent payload current (stage, d) s' →
      d.host.nextId ≤ s'.2.host.nextId ∧ ∀ c ∈ s'.2.host.containers, Traced agent payload d c := by
    intro s' h
    induction h with
    | refl =>
      exact ⟨Nat.le_refl _, fun c hc => .inl ⟨c, hc, rfl, rfl, rfl, .inl rfl⟩⟩
    | tail hsteps hstep ih => exact hstep.traced (Deploys.wellFormed hsteps hw) ih.1 ih.2
  exact (hall h).2

theorem Deploys.ne_of_matches (h : Deploys agent payload current (stage, d) (stage', d'))
    (hw : d.host.WellFormed) {c' : Container} (hc : c ∈ d.host.containers)
    (hnot : agent.matches_ payload c = false) (hc' : c' ∈ d'.host.containers)
    (hmatches : agent.matches_ payload c' = true) : c.id ≠ c'.id := by
  intro hid
  rcases h.traced hw c' hc' with ⟨c₀, hc₀, hid₀, hlabels, himage, -⟩ | ⟨hnew, -⟩
  · have hsame := hw.eq_of_id hc hc₀ (hid.trans hid₀.symm)
    rw [hsame, Agent.matches_congr hlabels himage, hmatches] at hnot
    cases hnot
  · have hold := hw.fresh c hc
    omega

def Kept (c : Container) (d : Docker) : Prop :=
  ∃ c' ∈ d.host.containers, c'.id = c.id ∧ c'.name = c.name ∧
    c'.config.labels = c.config.labels ∧ c'.config.image = c.config.image ∧
    (c.running = true → c'.running = true)

/-- The container is not one that a deployment discards or publishes. -/
def Spared (agent : Agent) (payload : Payload) (c : Container) : Prop :=
  agent.belongsToWorkload payload c = true →
    c.name ∉ agent.legacyCandidateNames payload ∧ c.name ≠ agent.candidateName payload

theorem Kept.self (hc : c ∈ d.host.containers) : Kept c d := ⟨c, hc, rfl, rfl, rfl, rfl, id⟩

theorem Kept.removed {id : Nat} (h : Kept c d) (hne : c.id ≠ id) : Kept c (d.removed id) := by
  obtain ⟨c', hc', hid, hrest⟩ := h
  exact ⟨c', Host.mem_remove.mpr ⟨hc', by rw [hid]; exact hne⟩, hid, hrest⟩

theorem Kept.updated {id : Nat} {f : Container → Container} (hf : Unseen f)
    (hrunning : ∀ c, c.running = true → (f c).running = true) (h : Kept c d) :
    Kept c (d.onHost (d.host.update id f)) := by
  obtain ⟨c', hc', hid, hname, hlabels, himage, hstate⟩ := h
  by_cases hcase : c'.id = id
  · have hmem : f c' ∈ (d.host.update c'.id f).containers := Host.mem_update_self (d := f) hc'
    rw [hcase] at hmem
    exact ⟨f c', hmem, (hf.id c').trans hid, (hf.name c').trans hname,
      (hf.labels c').trans hlabels, (hf.image c').trans himage,
      fun h => hrunning c' (hstate h)⟩
  · exact ⟨c', Host.mem_update_of_ne hc' hcase, hid, hname, hlabels, himage, hstate⟩

theorem Spared.ne {c' : Container} (hspared : Spared agent payload c) (h : Kept c d)
    (hw : d.host.WellFormed) (hc' : c' ∈ d.host.containers)
    (howned : agent.belongsToWorkload payload c' = true)
    (hname : c'.name ∈ agent.legacyCandidateNames payload ∨
      c'.name = agent.candidateName payload) : c.id ≠ c'.id := by
  intro hid
  obtain ⟨c₁, hc₁, hid₁, hname₁, hlabels, -⟩ := h
  rw [hw.eq_of_id hc' hc₁ (hid.symm.trans hid₁.symm)] at howned hname
  rw [hname₁] at hname
  have howned' : agent.belongsToWorkload payload c = true := by
    unfold Agent.belongsToWorkload at howned ⊢
    rw [← hlabels]
    exact howned
  obtain ⟨hlegacy, hcandidate⟩ := hspared howned'
  exact hname.elim hlegacy hcandidate

theorem DeployStep.kept (h : DeployStep agent payload current s s') (hw : s.2.host.WellFormed)
    (hspared : Spared agent payload c) (hcurrent : ∀ c', current = some c' → c.id ≠ c'.id)
    (hk : Kept c s.2) : Kept c s'.2 := by
  cases h with
  | resume => exact hk.updated unseen_startOn fun _ _ => rfl
  | check => exact hk
  | network => exact hk
  | discard hc howned hname => exact hk.removed (hspared.ne hk hw hc howned (hname.imp_right (·.1)))
  | create =>
    obtain ⟨c', hc', hrest⟩ := hk
    exact ⟨c', Host.mem_create.mpr (.inl hc'), hrest⟩
  | reject hc hname hmatches =>
    exact hk.removed (hspared.ne hk hw hc (belongs_of_matches hmatches) (.inr hname))
  | verify => exact hk
  | keep => exact hk.updated unseen_makeDurable fun _ h => h
  | replace hcurrent' => exact hk.removed (hcurrent _ hcurrent')
  | publish hc hname hmatches =>
    have hne := hspared.ne hk hw hc (belongs_of_matches hmatches) (.inr hname)
    obtain ⟨c', hc', hid, hrest⟩ := hk
    exact ⟨c', Host.mem_update_of_ne hc' (by rw [hid]; exact hne), hid, hrest⟩

theorem Deploys.kept (h : Deploys agent payload current s s') (hw : s.2.host.WellFormed)
    (hspared : Spared agent payload c) (hcurrent : ∀ c', current = some c' → c.id ≠ c'.id)
    (hk : Kept c s.2) : Kept c s'.2 := by
  induction h with
  | refl => exact hk
  | tail hsteps hstep ih => exact hstep.kept (Deploys.wellFormed hsteps hw) hspared hcurrent ih

/-! ## The program -/

section Program

variable {Q : Except AgentError Unit → Docker → Prop}

/-- The states that a deployment has come to from `d`, before its candidate has been verified. -/
def Prepared (agent : Agent) (payload : Payload) (current : Option Container) (d d' : Docker) :
    Prop :=
  Deploys agent payload current (.preparing, d) (.preparing, d')

theorem Prepared.docker {d'' : Docker} (h : Prepared agent payload current d d')
    (hstep : DeployStep agent payload current (.preparing, d') (.preparing, d'')) :
    Prepared agent payload current d d'' := Relation.ReflTransGen.tail h hstep

theorem Prepared.wellFormed (h : Prepared agent payload current d d') (hw : d.host.WellFormed) :
    d'.host.WellFormed := Deploys.wellFormed h hw

variable (hw : d.host.WellFormed) (h : Prepared agent payload current d d')
include h

theorem ensureNetwork_steps :
    Always anyInput (fun _ d'' => Prepared agent payload current d d'')
      (ensureNetwork agent payload) d' := by
  refine always_ensureNetwork ?_ (fun _ _ _ _ => h) (fun _ _ _ => h) fun _ => h.docker .network
  rintro - x d'' (rfl | rfl)
  · exact h
  · exact h.docker .network

theorem removeLegacy_steps {name : String} (hname : name ∈ agent.legacyCandidateNames payload) :
    Always anyInput (fun _ d'' => Prepared agent payload current d d'')
      (removeLegacy agent payload name) d' := by
  refine always_removeLegacy (fun _ _ => h) (fun _ => h) fun c hget howned => ?_
  obtain ⟨hc, hdenotes⟩ := Host.mem_of_get? hget
  have hnamed : c.name = name := by simpa [Ref.denotes] using hdenotes
  have hdiscarded := h.docker (.discard hc howned (.inl (by rw [hnamed]; exact hname)))
  exact ⟨hdiscarded, fun _ _ => hdiscarded⟩

theorem removeLegacyAll_steps :
    Always anyInput (fun _ d'' => Prepared agent payload current d d'')
      (forEach (removeLegacy agent payload) (agent.legacyCandidateNames payload)) d' := by
  refine always_forEach
    (A := fun names d'' => Prepared agent payload current d d'' ∧
      ∀ name ∈ names, name ∈ agent.legacyCandidateNames payload) (fun _ hA => hA.1) ?_ _ _
    ⟨h, fun _ hname => hname⟩
  rintro name names d₁ ⟨h₁, hnames⟩
  refine (removeLegacy_steps h₁ (hnames name List.mem_cons_self)).mono ?_
  intro r d₂ h₂
  cases r with
  | error x => exact h₂
  | ok => exact ⟨h₂, fun name' hname' => hnames name' (List.mem_cons_of_mem _ hname')⟩

omit h in
def Cleared (agent : Agent) (payload : Payload) (d : Docker) : Prop :=
  ∀ c ∈ d.host.containers, c.name = agent.candidateName payload → agent.matches_ payload c = true

include hw in
theorem discardCandidate_steps :
    Always anyInput (fun r d'' => Prepared agent payload current d d'' ∧
      (r = .ok () → Cleared agent payload d'')) (discardCandidate agent payload) d' := by
  have hw' := h.wellFormed hw
  refine always_discardCandidate (fun _ _ => ⟨h, fun hr => by cases hr⟩)
    (fun _ _ _ _ => ⟨h, fun hr => by cases hr⟩) (fun hall => ⟨h, fun _ c hc hname => ?_⟩) ?_
  · exact hall c (hname ▸ hw'.get?_name hc)
  · intro c hget howned hnot
    obtain ⟨hc, hdenotes⟩ := Host.mem_of_get? hget
    have hnamed : c.name = agent.candidateName payload := by simpa [Ref.denotes] using hdenotes
    have hdiscarded := h.docker (.discard hc howned (.inr ⟨hnamed, hnot⟩))
    refine ⟨⟨hdiscarded, fun _ c' hc' hname => ?_⟩, fun _ _ => ⟨hdiscarded, fun hr => by cases hr⟩⟩
    obtain ⟨hc', hne⟩ := Host.mem_remove.mp hc'
    exact absurd (congrArg (·.id) (hw'.eq_of_name hc' hc (hname.trans hnamed.symm))) hne

include hw in
theorem startCandidate_steps (hcleared : Cleared agent payload d') :
    Always anyInput (fun r d'' => Prepared agent payload current d d'' ∧
      ∀ o, r = .ok o → ∃ c ∈ d''.host.containers, o = some c ∧
        c.name = agent.candidateName payload ∧ agent.matches_ payload c = true)
      (startCandidate agent payload) d' := by
  have hw' := h.wellFormed hw
  have hfound : ∀ c, d'.host.get? (.name (agent.candidateName payload)) = some c →
      c ∈ d'.host.containers ∧ c.name = agent.candidateName payload ∧
        agent.matches_ payload c = true := by
    intro c hget
    obtain ⟨hc, hdenotes⟩ := Host.mem_of_get? hget
    have hnamed : c.name = agent.candidateName payload := by simpa [Ref.denotes] using hdenotes
    exact ⟨hc, hnamed, hcleared c hc hnamed⟩
  refine always_startCandidate hw' (fun _ _ => ⟨h, fun _ hr => by cases hr⟩)
    (fun _ _ _ => ⟨h, fun _ hr => by cases hr⟩) ?_ ?_ ?_
  · intro hnone himage
    have hcreated := h.docker (.create hnone)
    have hnew : agent.newCandidate payload d' ∈
        (d'.withCandidate agent payload).host.containers := Host.mem_create.mpr (.inr rfl)
    have hstarted : ∀ port, Prepared agent payload current d
        ((d'.withCandidate agent payload).started port d'.host.nextId) := fun port =>
      hcreated.docker (.resume (c := agent.newCandidate payload d') hnew
        (belongs_of_matches matches_newCandidate))
    refine ⟨fun _ x => ⟨⟨hcreated, fun _ hr => by cases hr⟩,
      fun port => ⟨hstarted port, fun _ hr => by cases hr⟩⟩, fun i _ => ⟨hstarted _, ?_⟩⟩
    intro o hr
    cases hr
    exact ⟨_, Host.mem_update_self (d := startOn i.hostPort) hnew, rfl, rfl,
      (unseen_startOn.matches_ _).trans matches_newCandidate⟩
  · intro c hget _
    obtain ⟨hc, hnamed, hmatches⟩ := hfound c hget
    refine ⟨h, fun o hr => ?_⟩
    cases hr
    exact ⟨c, hc, rfl, hnamed, hmatches⟩
  · intro c hget _
    obtain ⟨hc, hnamed, hmatches⟩ := hfound c hget
    have hstarted : ∀ port, Prepared agent payload current d (d'.started port c.id) :=
      fun port => h.docker (.resume hc (belongs_of_matches hmatches))
    refine ⟨fun _ _ port => ⟨hstarted port, fun _ hr => by cases hr⟩, fun i _ => ⟨hstarted _, ?_⟩⟩
    intro o hr
    cases hr
    exact ⟨_, Host.mem_update_self (d := startOn i.hostPort) hc, rfl, hnamed,
      (unseen_startOn.matches_ _).trans hmatches⟩

theorem verifyCandidate_steps {c : Container} (hc : c ∈ d'.host.containers)
    (hname : c.name = agent.candidateName payload) (hmatches : agent.matches_ payload c = true) :
    Always anyInput (fun r d'' => match r with
      | .ok c' => c' = c ∧ c ∈ d''.host.containers ∧ ∃ port,
          Deploys agent payload current (.preparing, d) (.verified c.id port, d'')
      | .error _ => Prepared agent payload current d d'')
      (verifyCandidate payload (some c)) d' := by
  refine always_verifyCandidate (fun port hport hanswers => ?_) fun _ _ => ⟨?_, fun _ => h⟩
  · exact ⟨rfl, hc, port, Relation.ReflTransGen.tail h (.verify hc hname hmatches hport hanswers)⟩
  · exact h.docker (.reject hc hname hmatches)

end Program

theorem publish_steps {port : Nat} (hw : d.host.WellFormed)
    (h : Deploys agent payload current (.preparing, d) (.verified c.id port, d'))
    (hc : c ∈ d'.host.containers) (hname : c.name = agent.candidateName payload)
    (hmatches : agent.matches_ payload c = true)
    (hcurrent : ∀ c', current = some c' → c' ∈ d.host.containers ∧
      agent.belongsToWorkload payload c' = true ∧ agent.matches_ payload c' = false) :
    Always anyInput (fun _ d'' => ∃ stage, Deploys agent payload current (.preparing, d) (stage, d''))
      (publish agent payload current c) d' := by
  have hw' : d'.host.WellFormed := Deploys.wellFormed h hw
  have hne : ∀ c', current = some c' → c'.id ≠ c.id := fun c' hc' =>
    h.ne_of_matches hw (hcurrent c' hc').1 (hcurrent c' hc').2.2 hc hmatches
  have hkept : Deploys agent payload current (.preparing, d)
      (.verified c.id port, d'.updated c.id) := Relation.ReflTransGen.tail h .keep
  have hreplaced : Deploys agent payload current (.preparing, d)
      (.verified c.id port, (d'.updated c.id).without current) := by
    cases hcase : current with
    | none =>
      rw [hcase] at hkept
      exact hkept
    | some c' =>
      rw [hcase] at hkept
      obtain ⟨-, howned, hnot⟩ := hcurrent c' hcase
      exact Relation.ReflTransGen.tail hkept (.replace rfl howned hnot (hne c' hcase))
  refine always_publish hw' hc hne ?_ (fun _ _ => ⟨_, hreplaced⟩) fun hfree => ?_
  · rintro - x d'' (rfl | rfl | rfl)
    · exact ⟨_, h⟩
    · exact ⟨_, hkept⟩
    · exact ⟨_, hreplaced⟩
  · have hthere : makeDurable c ∈ ((d'.updated c.id).without current).host.containers := by
      have hupdated : makeDurable c ∈ (d'.updated c.id).host.containers :=
        Host.mem_update_self (d := makeDurable) hc
      cases hcase : current with
      | none => exact hupdated
      | some c' => exact Host.mem_remove.mpr ⟨hupdated, (hne c' hcase).symm⟩
    have hpublished : ∃ stage, Deploys agent payload current (.preparing, d) (stage,
        ((d'.updated c.id).without current).renamed c.id (agent.containerName payload)) :=
      ⟨_, Relation.ReflTransGen.tail hreplaced
        (.publish (c := makeDurable c) hthere hname ((unseen_makeDurable.matches_ c).trans hmatches)
          hfree)⟩
    exact ⟨fun _ _ => hpublished, hpublished⟩

/-! ## The whole deployment -/

theorem belongs_of_not_collides (hnot : agent.collides payload d = false)
    (hget : d.host.get? (.name (agent.containerName payload)) = some c) :
    agent.belongsToWorkload payload c = true := by
  unfold Agent.collides at hnot
  rw [hget] at hnot
  simp only [Option.any_some, Bool.or_eq_false_iff, Bool.not_eq_false'] at hnot
  exact hnot.1

theorem legacyRevision_spec {names : List String} (h : agent.legacyRevision payload d names = some c) :
    c ∈ d.host.containers ∧ agent.matches_ payload c = true := by
  obtain ⟨name, -, hname⟩ := List.exists_of_findSome?_eq_some h
  obtain ⟨hget, hmatches⟩ := Option.filter_eq_some_iff.mp hname
  exact ⟨(Host.mem_of_get? hget).1, hmatches⟩

theorem currentWorkload_spec (hnot : agent.collides payload d = false)
    (h : agent.currentWorkload payload d = some c) :
    c ∈ d.host.containers ∧ agent.belongsToWorkload payload c = true := by
  unfold Agent.currentWorkload at h
  rcases Option.or_eq_some_iff.mp h with hscoped | ⟨-, hlegacy⟩
  · exact ⟨(Host.mem_of_get? hscoped).1, belongs_of_not_collides hnot hscoped⟩
  · cases hmode : payload.routingMode with
    | managedGateway =>
      rw [hmode] at hlegacy
      obtain ⟨hc, hmatches⟩ := legacyRevision_spec hlegacy
      exact ⟨hc, belongs_of_matches hmatches⟩
    | directPort =>
      rw [hmode] at hlegacy
      obtain ⟨hget, howned⟩ := Option.filter_eq_some_iff.mp hlegacy
      exact ⟨(Host.mem_of_get? hget).1, howned⟩

theorem desiredWorkload_belongs (hnot : agent.collides payload d = false)
    (h : agent.desiredWorkload payload d = some c) :
    agent.belongsToWorkload payload c = true := by
  unfold Agent.desiredWorkload at h
  rcases Option.or_eq_some_iff.mp h with hscoped | ⟨-, hlegacy⟩
  · exact belongs_of_not_collides hnot hscoped
  · cases hmode : payload.routingMode with
    | managedGateway =>
      rw [hmode] at hlegacy
      exact belongs_of_matches (legacyRevision_spec hlegacy).2
    | directPort =>
      rw [hmode] at hlegacy
      cases hlegacy

variable {value : Payload}

theorem status_keeps (hp : validatedPayload value = .ok payload) :
    Always anyInput (fun _ d' => d' = d) (status agent value) d :=
  always_status hp (fun _ _ => rfl) (fun _ _ => rfl) fun _ => rfl

theorem healthy_keeps (hp : validatedPayload value = .ok payload) :
    Always anyInput (fun _ d' => d' = d ∨ ∃ port, d' = d.checked port) (healthy agent value) d :=
  always_healthy hp (fun _ _ => .inl rfl) (fun _ _ => .inl rfl) (fun _ => .inl rfl)
    (fun _ port _ _ _ => .inr ⟨port, rfl⟩) fun _ _ _ => .inl rfl

section Whole

variable (hw : d.host.WellFormed)
include hw

theorem start_keeps {I : Docker → Prop} (hp : validatedPayload value = .ok payload)
    (hcheck : ∀ d port, I d → I (d.checked port))
    (hstart : ∀ c port, agent.desiredWorkload payload d = some c → I (d.started port c.id))
    (h : I d) : Always anyInput (fun _ => I) (start agent value) d := by
  refine always_start hw hp (fun _ _ => h) (fun _ _ => h) (fun _ _ => h) ?_ ?_
  · exact fun c _ _ => ⟨fun _ _ => h, fun _ _ _ => hcheck _ _ h⟩
  · exact fun c hc _ => ⟨fun _ _ port => hstart c port hc,
      fun i _ => ⟨fun _ _ => hstart c _ hc, fun _ => hcheck _ _ (hstart c _ hc)⟩⟩

theorem redeploy_keeps {I : Docker → Prop} (hp : validatedPayload payload = .ok payload)
    (hcheck : ∀ d port, I d → I (d.checked port))
    (hstart : ∀ c port, agent.desiredWorkload payload d = some c → I (d.started port c.id))
    (h : I d) :
    Always anyInput (fun _ => I)
      (do
        if c.running then pure () else start agent payload
        let ok ← healthy agent payload
        if ok then status agent payload
        else throw (newError "Existing workload failed its health check")) d := by
  -- From where the container has been started on, nothing but health checks happens.
  have hrest : ∀ d', I d' → Always anyInput (fun _ => I)
      (do
        let ok ← healthy agent payload
        if ok then status agent payload
        else throw (newError "Existing workload failed its health check")) d' := by
    intro d' h'
    refine Always.bind (Q := fun _ => I) ((healthy_keeps hp).mono ?_) ?_ fun _ _ hx => hx
    · rintro r d'' (rfl | ⟨port, rfl⟩)
      · exact h'
      · exact hcheck _ _ h'
    · intro ok d'' h''
      cases ok with
      | false => exact h''
      | true =>
        refine (status_keeps hp).mono ?_
        rintro r d₃ rfl
        exact h''
  cases hrunning : c.running with
  | true =>
    simp only [if_true]
    exact hrest d h
  | false =>
    simp only [Bool.false_eq_true, if_false]
    exact Always.bind (Q := fun _ => I) (start_keeps hw hp hcheck hstart h)
      (fun _ d' h' => hrest d' h') fun _ _ hx => hx

theorem deploy_current {I : Docker → Prop} (hp : validatedPayload value = .ok payload)
    (hcurrent : agent.currentWorkload payload d = some c)
    (hmatches : agent.matches_ payload c = true) (hcheck : ∀ d port, I d → I (d.checked port))
    (hstart : ∀ c port, agent.desiredWorkload payload d = some c → I (d.started port c.id))
    (h : I d) : Always anyInput (fun _ => I) (deploy agent value) d := by
  unfold deploy
  rw [hp]
  refine Always.bind (Q := fun (r : Except AgentError (Option Container)) d' =>
      d' = d ∧ ∀ c, r = .ok c → c = agent.currentWorkload payload d)
    (always_currentContainer (fun _ _ => ⟨rfl, fun _ hr => by cases hr⟩)
      (fun _ _ => ⟨rfl, fun _ hr => by cases hr⟩) fun _ => ⟨rfl, fun _ hr => by cases hr; rfl⟩)
    ?_ fun x d' hx => by rw [hx.1]; exact h
  rintro current d' ⟨rfl, hfound⟩
  rw [hfound current rfl, hcurrent]
  simp only [Option.filter_some, hmatches, if_true]
  exact redeploy_keeps hw (validatedPayload_idem hp) hcheck hstart h

theorem replaceContainer_steps (hp : validatedPayload payload = .ok payload)
    (hcurrent : ∀ c, current = some c → c ∈ d.host.containers ∧
      agent.belongsToWorkload payload c = true ∧ agent.matches_ payload c = false) :
    Always anyInput (fun _ d' => ∃ stage,
      Deploys agent payload current (.preparing, d) (stage, d'))
      (replaceContainer agent payload current) d := by
  have hhere : Prepared agent payload current d d := .refl
  refine (ensureNetwork_steps hhere).bind (fun _ d₁ h₁ => ?_) fun _ _ hx => ⟨_, hx⟩
  refine (removeLegacyAll_steps h₁).bind (fun _ d₂ h₂ => ?_) fun _ _ hx => ⟨_, hx⟩
  refine (discardCandidate_steps hw h₂).bind (fun _ d₃ h₃ => ?_) fun _ _ hx => ⟨_, hx.1⟩
  refine (startCandidate_steps hw h₃.1 (h₃.2 rfl)).bind (fun o d₄ h₄ => ?_) fun _ _ hx => ⟨_, hx.1⟩
  obtain ⟨h₄, hcandidate⟩ := h₄
  obtain ⟨c, hc, rfl, hname, hmatches⟩ := hcandidate o rfl
  refine (verifyCandidate_steps h₄ hc hname hmatches).bind (fun c' d₅ h₅ => ?_)
    fun _ _ hx => ⟨_, hx⟩
  obtain ⟨rfl, hc, port, h₅⟩ := h₅
  refine (publish_steps hw h₅ hc hname hmatches hcurrent).bind (fun _ d₆ h₆ => ?_) fun _ _ hx => hx
  refine (status_keeps hp).mono ?_
  rintro r d₇ rfl
  exact h₆

theorem deploy_steps (hnot : agent.collides payload d = false)
    (hp : validatedPayload value = .ok payload) :
    Always anyInput (fun _ d' => ∃ stage, Deploys agent payload (agent.currentWorkload payload d)
      (.preparing, d) (stage, d')) (deploy agent value) d := by
  have hp' := validatedPayload_idem hp
  unfold deploy
  rw [hp]
  refine Always.bind (Q := fun r d' => d' = d ∧ ∀ c, r = .ok c → c = agent.currentWorkload payload d)
    (always_currentContainer (fun _ _ => ⟨rfl, fun _ hr => by cases hr⟩)
      (fun _ _ => ⟨rfl, fun _ hr => by cases hr⟩) fun _ => ⟨rfl, fun _ hr => by cases hr; rfl⟩)
    ?_ ?_
  · rintro current d' ⟨rfl, hfound⟩
    rw [hfound current rfl]
    cases hcurrent : agent.currentWorkload payload d' with
    | none =>
      exact replaceContainer_steps hw hp' fun c hc => by cases hc
    | some c =>
      cases hmatches : agent.matches_ payload c with
      | true =>
        simp only [Option.filter_some, hmatches, if_true]
        have hhere : Prepared agent payload (some c) d' d' := .refl
        refine (redeploy_keeps (I := Prepared agent payload (some c) d') hw hp'
          (fun _ _ h => h.docker .check) (fun c' port hc' => ?_) hhere).mono fun _ _ h => ⟨_, h⟩
        exact hhere.docker (.resume (desiredWorkload_mem hc') (desiredWorkload_belongs hnot hc'))
      | false =>
        simp only [Option.filter_some, hmatches]
        obtain ⟨hc, howned⟩ := currentWorkload_spec hnot hcurrent
        exact replaceContainer_steps hw hp'
          fun c' hc' => by cases hc'; exact ⟨hc, howned, hmatches⟩
  · rintro x d' ⟨rfl, -⟩
    exact ⟨_, .refl⟩

end Whole

theorem deploy_collides (hp : validatedPayload value = .ok payload)
    (hcollides : agent.collides payload d = true) :
    Always anyInput (fun _ d' => d' = d) (deploy agent value) d := by
  unfold deploy
  rw [hp]
  refine Always.bind (Q := fun (r : Except AgentError (Option Container)) d' =>
      d' = d ∧ ∃ x, r = .error x)
    (always_currentContainer (fun _ x => ⟨rfl, x, rfl⟩) (fun _ x => ⟨rfl, x, rfl⟩) ?_) ?_ ?_
  · intro hnot
    rw [hcollides] at hnot
    cases hnot
  · rintro current d' ⟨-, x, hx⟩
    cases hx
  · exact fun _ _ hx => hx.1

/-! ## The deployment of a project -/

section Project

/-- The hosts that differ in their images only. -/
def ImagesOf (d d' : Docker) : Prop := ∃ images, d' = { d with images := images }

theorem ImagesOf.refl : ImagesOf d d := ⟨d.images, rfl⟩

theorem ImagesOf.trans {d'' : Docker} (h : ImagesOf d d') (h' : ImagesOf d' d'') :
    ImagesOf d d'' := by
  obtain ⟨images, rfl⟩ := h
  obtain ⟨images', rfl⟩ := h'
  exact ⟨images', rfl⟩

theorem always_imageCall {β : Type} {call : DockerCall β} {P : Input → Prop}
    (hcall : ∀ port d, ImagesOf d (call.answer port d).2) :
    Always P (fun _ d' => ImagesOf d d') (request call) d := by
  refine always_request ?_ fun i _ => hcall i.hostPort d
  rintro - i r d' _ - (rfl | rfl)
  · exact .refl
  · exact hcall i.hostPort d

theorem imageExists_keeps {ref : String} {P : Input → Prop} :
    Always P (fun _ d' => ImagesOf d d') (imageExists ref) d := by
  refine (always_imageCall fun _ _ => .refl).bind (fun response d' h => ?_) fun _ _ hx => hx
  split
  · exact h
  · cases responseJson response "inspect image" with
    | ok => exact h
    | error => exact h

theorem removeImage_keeps {ref : String} {P : Input → Prop} :
    Always P (fun _ d' => ImagesOf d d') (removeImage ref) d := by
  refine (always_imageCall fun port d => ?_).bind (fun response d' h => ?_) fun _ _ hx => hx
  · simp only [DockerCall.answer, Docker.removeImage]
    split
    · exact .refl
    · split
      · exact .refl
      · exact ⟨_, rfl⟩
  · split
    · exact h
    · exact h

theorem loadImageArchive_keeps {ref : String} {P : Input → Prop} :
    Always P (fun _ d' => ImagesOf d d') (loadImageArchive ref) d := by
  unfold loadImageArchive
  split
  · exact .refl
  · refine (always_imageCall fun _ _ => ⟨_, rfl⟩).bind (fun response d' h => ?_) fun _ _ hx => hx
    split
    · exact h
    · refine (imageExists_keeps.mono fun _ _ h' => h.trans h').bind (fun present d'' h' => ?_)
        fun _ _ hx => hx
      split
      · exact h'
      · exact h'

theorem discardImage_keeps {α : Type} {ref : String} {present : Bool} {x : AgentError}
    {P : Input → Prop} :
    Always P (fun _ d' => ImagesOf d d') (discardImage (α := α) ref present x) d := by
  unfold discardImage
  split
  · exact .refl
  · refine Always.bind (Q := fun _ d' => ImagesOf d d') (always_await.mpr fun i _ => ?_)
      (fun aborted d' h => ?_) fun _ _ hx => hx
    · exact .refl
    · split
      · exact h
      · refine Always.bind (Q := fun _ d' => ImagesOf d d') (Always.ignoreError removeImage_keeps
          fun _ _ h' => h.trans h') (fun _ _ h' => h') fun _ _ h' => h'

theorem report_keeps {progress : Progress} {P : Input → Prop} :
    Always P (fun _ d' => d' = d) (await (.report progress) : OnDocker Unit) d :=
  always_await.mpr fun _ _ => rfl

/-- What the deployment of its payload and a health check keep of the host, the deployment of a
project keeps. -/
theorem always_deployProject {I : Docker → Prop} {value : Payload} {delivery : Except AgentError Unit}
    (himages : ∀ d d', ImagesOf d d' → I d → I d') (hchecked : ∀ d port, I d → I (d.checked port))
    (hdeploy : ∀ payload d', parseProjectPayload value = .ok payload →
      validatedPayload payload = .ok payload → ImagesOf d d' →
      Always anyInput (fun _ => I) (deploy agent payload) d') (h : I d) :
    Always anyInput (fun _ => I) (deployProject agent value delivery) d := by
  unfold deployProject
  cases hparse : parseProjectPayload value with
  | error => exact h
  | ok payload =>
    have hp := validatedPayload_of_parseProject hparse
    cases delivery with
    | error => exact h
    | ok =>
      refine always_ret_bind.mpr (always_ret_bind.mpr ?_)
      refine Always.bind (Q := fun _ d' => ImagesOf d d') (Always.tryCatch
        (Q := fun _ d' => ImagesOf d d') ?_ (fun _ _ h' => h')
        fun x d' h' => discardImage_keeps.mono fun _ _ h'' => h'.trans h'')
        (fun present d₁ h₁ => ?_) fun _ d₁ h₁ => himages d d₁ h₁ h
      · refine report_keeps.bind (fun _ d' hd' => ?_) fun _ d' hd' => hd' ▸ .refl
        rw [hd']
        exact imageExists_keeps
      refine Always.tryCatch (Q := fun _ => I) ?_ (fun _ _ h' => h')
        fun x d' h' => discardImage_keeps.mono fun _ d'' h'' => himages d' d'' h'' h'
      refine (loadImageArchive_keeps.mono fun _ _ h' => h₁.trans h').bind (fun _ d₂ h₂ => ?_)
        fun _ d₂ h₂ => himages d d₂ h₂ h
      refine report_keeps.bind (fun _ d₃ h₃ => ?_) fun _ d₃ h₃ => by
        rw [h₃]
        exact himages d d₂ h₂ h
      rw [h₃]
      refine Always.bind (Q := fun _ => I) (hdeploy payload d₂ hparse hp h₂) (fun s d₄ h₄ => ?_)
        fun _ _ hx => hx
      refine report_keeps.bind (fun _ d₅ h₅ => ?_) fun _ d₅ h₅ => by rw [h₅]; exact h₄
      rw [h₅]
      have hfinish : ∀ (ok : Bool) d₆, I d₆ → Always anyInput (fun _ => I)
          (if (!ok) = true then
            throw (newError "Published workload did not pass final health verification")
          else do
            await (AgentStmt.report ⟨96, true, "Publishing deployment result"⟩)
            pure s) d₆ := by
        intro ok d₆ h₆
        cases ok with
        | false => exact h₆
        | true =>
          exact report_keeps.bind (fun _ d₇ h₇ => by rw [h₇]; exact h₆)
            fun _ d₇ h₇ => by rw [h₇]; exact h₆
      split
      · exact hfinish false d₄ h₄
      · refine Always.bind (Q := fun _ => I) ((healthy_keeps hp).mono ?_) (fun ok d₆ h₆ => ?_)
          fun _ _ hx => hx
        · rintro r d₆ (rfl | ⟨port, rfl⟩)
          · exact h₄
          · exact hchecked _ _ h₄
        · exact hfinish ok d₆ h₆

end Project

end Steps

end InitPad.Workload
