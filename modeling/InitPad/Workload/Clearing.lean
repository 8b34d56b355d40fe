import InitPad.Workload.Removal
import InitPad.Workload.SameWorkload

/-!
# InitPad.Workload.Clearing

How far a deployment can come without a verified candidate: it removes every container of its
workload that has the name of a candidate.
-/

namespace InitPad.Workload

open Interleave Prog Engine

namespace Agent

variable (agent : Agent) (payload : Payload)

/-- The name is one of a candidate that a deployment of the payload discards or publishes. -/
def isCandidateName (name : String) : Prop :=
  name ∈ agent.legacyCandidateNames payload ∨ name = agent.candidateName payload

/-- The deployment gets as far as to its candidates. -/
def prepares (d : Docker) : Prop :=
  agent.collides payload d = false ∧
    (∀ c, agent.currentWorkload payload d = some c → agent.matches_ payload c = false) ∧
    ¬ agent.networkBlocked payload d

end Agent

section Clearing

variable {agent : Agent} {value payload : Payload} {d d' : Docker} {c : Container}
  {current : Option Container}

theorem Agent.isCandidateName.next {name : String} (h : agent.isCandidateName payload name) :
    "-next-".toList <:+: name.toList := by
  rcases h with hlegacy | rfl
  · have hmem := (List.mem_filter.mp hlegacy).2
    rw [Bool.and_eq_true, decide_eq_true_eq] at hmem
    exact hmem.1
  · unfold Agent.candidateName Agent.nextName
    rw [String.toList_append, String.toList_append]
    exact List.infix_append _ _ _

theorem deploy_networkBlocked (hp : validatedPayload value = .ok payload)
    (hcurrent : ∀ c, agent.currentWorkload payload d = some c → agent.matches_ payload c = false)
    (hblocked : agent.networkBlocked payload d) :
    Always anyInput (fun _ d' => d'.host = d.host) (deploy agent value) d := by
  unfold deploy
  rw [hp]
  refine Always.bind (Q := fun (r : Except AgentError (Option Container)) d' =>
      d' = d ∧ ∀ c, r = .ok c → c = agent.currentWorkload payload d)
    (always_currentContainer (fun _ _ => ⟨rfl, fun _ hr => by cases hr⟩)
      (fun _ _ => ⟨rfl, fun _ hr => by cases hr⟩) fun _ => ⟨rfl, fun _ hr => by cases hr; rfl⟩)
    ?_ fun x d' hx => by rw [hx.1]
  rintro current d' ⟨rfl, hfound⟩
  have hnot : current.filter (agent.matches_ payload) = none := by
    rw [hfound current rfl]
    refine Option.filter_eq_none_iff.mpr fun c hc => ?_
    rw [hcurrent c hc]
    decide
  rw [hnot]
  obtain ⟨network, hnetwork, hforeign⟩ := hblocked
  refine Always.bind (Q := fun r d'' => d''.host = d'.host ∧ ∃ x, r = .error x)
    (always_ensureNetwork ?_ (fun _ _ _ x => ⟨rfl, x, rfl⟩) ?_ ?_) ?_ fun _ _ hx => hx.1
  · rintro - x d'' (rfl | rfl)
    · exact ⟨rfl, x, rfl⟩
    · exact ⟨rfl, x, rfl⟩
  · intro network' hnetwork' howned
    rw [hnetwork] at hnetwork'
    cases hnetwork'
    rw [hforeign] at howned
    cases howned
  · intro hnone
    rw [hnetwork] at hnone
    cases hnone
  · rintro u d'' ⟨-, x, hx⟩
    cases hx

def Aborted (i : Input) : Prop := i.trouble = none ∧ i.aborted = true

theorem not_faulty_aborted : ¬ Faulty Aborted := fun ⟨_, hi, htrouble⟩ => htrouble hi.1

theorem always_waitHealthy_aborted :
    Always Aborted (fun r d' => r = .ok false ∧ d' = d) (Agent.waitHealthy payload c) d := by
  unfold Agent.waitHealthy
  split
  · exact ⟨rfl, rfl⟩
  · split
    · exact ⟨rfl, rfl⟩
    · split
      · exact ⟨rfl, rfl⟩
      · intro i hi
        change Always Aborted _ (if i.aborted = true then pure false else _) d
        rw [if_pos hi.2]
        exact ⟨rfl, rfl⟩

theorem always_verifyCandidate_aborted :
    Always Aborted (fun _ d' => d' = d.removed c.id) (verifyCandidate payload (some c)) d := by
  refine always_waitHealthy_aborted.bind ?_ fun x d' h => by cases h.1
  rintro ok d' ⟨hok, rfl⟩
  cases hok
  exact Always.bind (Q := fun _ d'' => d'' = d'.removed c.id) (Always.ignoreError
    (Q := fun _ d'' => d'' = d'.removed c.id)
    (always_removeContainer (fun hfaulty => absurd hfaulty not_faulty_aborted) rfl)
    fun _ _ h => h) (fun _ _ h => h) fun _ _ h => h

def LeftWithout (id : Nat) (d d' : Docker) : Prop :=
  d'.verified = d.verified ∧ ∀ c' ∈ d'.host.containers, c'.id ≠ id ∧
    ∃ c ∈ d.host.containers, c.id = c'.id

theorem LeftWithout.removed {id : Nat} : LeftWithout id d (d.removed id) := by
  refine ⟨rfl, fun c' hc' => ?_⟩
  obtain ⟨hc', hne⟩ := Host.mem_remove.mp hc'
  exact ⟨hne, c', hc', rfl⟩

theorem LeftWithout.started {id port : Nat} :
    LeftWithout id d ((d.started port id).removed id) := by
  refine ⟨rfl, fun c' hc' => ?_⟩
  obtain ⟨hc', hne⟩ := Host.mem_remove.mp hc'
  obtain ⟨c, hc, rfl⟩ := Host.mem_update.mp hc'
  refine ⟨hne, c, hc, ?_⟩
  split
  · rfl
  · rfl

/-- The rest of a deployment, from where the candidate of another deployment is discarded. -/
def fromCandidate (agent : Agent) (payload : Payload) (current : Option Container) :
    OnDocker DockerWorkloadStatus := do
  discardCandidate agent payload
  let candidate ← startCandidate agent payload
  let verified ← verifyCandidate payload candidate
  publish agent payload current verified
  status agent payload

theorem exists_discard (hw : d.host.WellFormed) (hc : c ∈ d.host.containers)
    (howned : agent.belongsToWorkload payload c = true)
    (hname : c.name = agent.candidateName payload) :
    ∃ d', (fromCandidate agent payload current).Visits d d' ∧ LeftWithout c.id d d' := by
  have hget : d.host.get? (.name (agent.candidateName payload)) = some c := hname ▸ hw.get?_name hc
  cases hmatches : agent.matches_ payload c with
  | false =>
    have hdiscarded : Always Regular (fun _ d' => d' = d.removed c.id)
        (discardCandidate agent payload) d := by
      refine always_discardCandidate (fun hfaulty => absurd hfaulty not_faulty_regular) ?_ ?_ ?_
      · intro c' hc' hforeign
        rw [hget] at hc'
        cases hc'
        rw [howned] at hforeign
        cases hforeign
      · intro hall
        rw [hall c hget] at hmatches
        cases hmatches
      · intro c' hc' _ _
        rw [hget] at hc'
        cases hc'
        exact ⟨rfl, fun hfaulty => absurd hfaulty not_faulty_regular⟩
    obtain ⟨r, d', hreturns, rfl⟩ := hdiscarded.returns ⟨{}, regular_default⟩
    exact ⟨_, hreturns.visits_andThen (.here _ _), .removed⟩
  | true =>
    -- The candidate is started, and then removed since the job is aborted.
    have hkept : Always Regular (fun r d' => r = .ok () ∧ d' = d)
        (discardCandidate agent payload) d := by
      refine always_discardCandidate (fun hfaulty => absurd hfaulty not_faulty_regular) ?_
        (fun _ => ⟨rfl, rfl⟩) ?_
      · intro c' hc' hforeign
        rw [hget] at hc'
        cases hc'
        rw [howned] at hforeign
        cases hforeign
      · intro c' hc' _ hnot
        rw [hget] at hc'
        cases hc'
        rw [hmatches] at hnot
        cases hnot
    have hstarted : Always Regular (fun r d' => ∃ c', r = .ok (some c') ∧ c'.id = c.id ∧
        (d' = d ∨ ∃ port, d' = d.started port c.id)) (startCandidate agent payload) d := by
      refine always_startCandidate hw (fun hfaulty => absurd hfaulty not_faulty_regular) ?_ ?_ ?_ ?_
      · intro hnone
        rw [hget] at hnone
        cases hnone
      · intro hnone
        rw [hget] at hnone
        cases hnone
      · intro c' hc' _
        rw [hget] at hc'
        cases hc'
        exact ⟨c, rfl, rfl, .inl rfl⟩
      · intro c' hc' _
        rw [hget] at hc'
        cases hc'
        exact ⟨fun hfaulty => absurd hfaulty not_faulty_regular,
          fun i _ => ⟨_, rfl, rfl, .inr ⟨_, rfl⟩⟩⟩
    obtain ⟨r₁, d₁, hreturns₁, rfl, rfl⟩ := hkept.returns ⟨{}, regular_default⟩
    obtain ⟨r₂, d₂, hreturns₂, c', rfl, hid, hstate⟩ := hstarted.returns ⟨{}, regular_default⟩
    have haborted : Always Aborted (fun _ d' => d' = d₂.removed c'.id)
        (verifyCandidate payload (some c')) d₂ := always_verifyCandidate_aborted
    obtain ⟨r₃, d₃, hreturns₃, rfl⟩ := haborted.returns ⟨{ aborted := true }, rfl, rfl⟩
    refine ⟨_, hreturns₁.visits_bind (hreturns₂.visits_bind
      (hreturns₃.visits_andThen (.here _ _))), ?_⟩
    rw [hid]
    rcases hstate with rfl | ⟨port, rfl⟩
    · exact .removed
    · exact .started

theorem returns_ensureNetwork (hfree : ¬ agent.networkBlocked payload d) :
    ∃ d', (ensureNetwork agent payload).Returns d (.ok ()) d' ∧ d'.host = d.host ∧
      d'.verified = d.verified := by
  have hensured : Always Regular (fun r d' => r = .ok () ∧ d'.host = d.host ∧
      d'.verified = d.verified) (ensureNetwork agent payload) d := by
    refine always_ensureNetwork (fun hfaulty => absurd hfaulty not_faulty_regular) ?_
      (fun _ _ _ => ⟨rfl, rfl, rfl⟩) fun _ => ⟨rfl, rfl, rfl⟩
    exact fun network hnetwork hforeign => absurd ⟨network, hnetwork, hforeign⟩ hfree
  obtain ⟨r, d', hreturns, rfl, hsame⟩ := hensured.returns ⟨{}, regular_default⟩
  exact ⟨d', hreturns, hsame⟩

theorem exists_cleared (hw : d.host.WellFormed) (hp : validatedPayload value = .ok payload)
    (hprepares : agent.prepares payload d) :
    ∃ d', (deploy agent value).Visits d d' ∧ d'.verified = d.verified ∧
      ∀ c' ∈ d'.host.containers, ∃ c ∈ d.host.containers, c.id = c'.id ∧
        ¬(agent.belongsToWorkload payload c = true ∧ agent.isCandidateName payload c.name) := by
  obtain ⟨hnot, hcurrent, hfree⟩ := hprepares
  obtain ⟨r₀, d₀, hreturns₀, rfl, rfl⟩ :=
    (lookup_of_currentWorkload hnot rfl).returns ⟨{}, regular_default⟩
  obtain ⟨d₁, hreturns₁, hhost, hverified⟩ := returns_ensureNetwork hfree
  have hw₁ : d₁.host.WellFormed := by
    rw [hhost]
    exact hw
  have hlegacy : Always Regular _
      (forEach (removeLegacy agent payload) (agent.legacyCandidateNames payload)) d₁ :=
    always_removeLegacyAll hw₁
  obtain ⟨r₂, d₂, hreturns₂, hpurged⟩ := hlegacy.returns ⟨{}, regular_default⟩
  cases r₂ with
  | error => exact absurd hpurged not_faulty_regular
  | ok =>
    dsimp only at hpurged
    have hreplaced : ∀ {d'},
        (fromCandidate agent payload (agent.currentWorkload payload d₀)).Visits d₂ d' →
        (deploy agent value).Visits d₀ d' := by
      intro d' hvisits
      have hnone : (agent.currentWorkload payload d₀).filter (agent.matches_ payload) = none := by
        refine Option.filter_eq_none_iff.mpr fun c hc => ?_
        rw [hcurrent c hc]
        decide
      unfold deploy
      rw [hp]
      refine hreturns₀.visits_bind ?_
      rw [hnone]
      exact hreturns₁.visits_bind (hreturns₂.visits_bind hvisits)
    have hin : ∀ c' ∈ d₂.host.containers, c' ∈ d₀.host.containers ∧
        ¬(agent.belongsToWorkload payload c' = true ∧
          c'.name ∈ agent.legacyCandidateNames payload) := by
      intro c' hc'
      rw [hpurged] at hc'
      rw [← hhost]
      exact mem_purged.mp hc'
    have hverified₂ : d₂.verified = d₀.verified := by
      rw [hpurged]
      exact hverified
    have hw₂ : d₂.host.WellFormed := by
      rw [hpurged]
      exact purged_wellFormed hw₁
    by_cases hcandidate : ∃ c ∈ d₂.host.containers, agent.belongsToWorkload payload c = true ∧
        c.name = agent.candidateName payload
    · obtain ⟨c, hc, howned, hname⟩ := hcandidate
      obtain ⟨d', hvisits, hverified', hleft⟩ := exists_discard hw₂ hc howned hname
      refine ⟨d', hreplaced hvisits, hverified'.trans hverified₂, fun c' hc' => ?_⟩
      obtain ⟨hne, c₂, hc₂, hid⟩ := hleft c' hc'
      obtain ⟨hc₀, hnot'⟩ := hin c₂ hc₂
      refine ⟨c₂, hc₀, hid, fun hboth => ?_⟩
      rcases hboth.2 with hlegacy' | hname'
      · exact hnot' ⟨hboth.1, hlegacy'⟩
      · rw [hw₂.eq_of_name hc₂ hc (hname'.trans hname.symm)] at hid
        exact hne hid.symm
    · refine ⟨d₂, hreplaced (.here _ _), hverified₂, fun c' hc' => ?_⟩
      obtain ⟨hc₀, hnot'⟩ := hin c' hc'
      refine ⟨c', hc₀, rfl, fun hboth => ?_⟩
      rcases hboth.2 with hlegacy' | hname'
      · exact hnot' ⟨hboth.1, hlegacy'⟩
      · exact hcandidate ⟨c', hc', hboth.1, hname'⟩

theorem not_cleared {c' : Container} (hw : d.host.WellFormed) (hc : c ∈ d.host.containers)
    (howned : agent.belongsToWorkload payload c = true)
    (hname : agent.isCandidateName payload c.name)
    (hcleared : ∀ c' ∈ d'.host.containers, ∃ c ∈ d.host.containers, c.id = c'.id ∧
      ¬(agent.belongsToWorkload payload c = true ∧ agent.isCandidateName payload c.name))
    (hc' : c' ∈ d'.host.containers) (hid : c'.id = c.id) : False := by
  obtain ⟨c₀, hc₀, hid₀, hnot⟩ := hcleared c' hc'
  rw [hw.eq_of_id hc₀ hc (hid₀.trans hid)] at hnot
  exact hnot ⟨howned, hname⟩

end Clearing

end InitPad.Workload
