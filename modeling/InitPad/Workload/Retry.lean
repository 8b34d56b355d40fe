import InitPad.Workload.Convergence

/-!
# InitPad.Workload.Retry

A deployment with a direct port that fails or is aborted at any call, and the one that is repeated
after it.
-/

namespace InitPad.Workload

open Interleave Prog Engine

section Retry

variable {agent : Agent} {value payload : Payload} {d d' : Docker} {current : Option Container}
  {stage : Stage} {s s' : Stage × Docker}

/-! ## What a failed deployment leaves is the workload's -/

theorem DeployStep.images (h : DeployStep agent payload current s s') :
    s'.2.images = s.2.images := by
  cases h <;> rfl

theorem Deploys.images (h : Deploys agent payload current s s') : s'.2.images = s.2.images := by
  induction h with
  | refl => rfl
  | tail _ hstep ih => exact hstep.images.trans ih

theorem not_networkBlocked_withNetwork (h : ¬ agent.networkBlocked payload d) :
    ¬ agent.networkBlocked payload (d.withNetwork (agent.ownNetwork payload)) := by
  rintro ⟨network, hnetwork, hforeign⟩
  cases hfound : d.network? (agent.workloadNetworkName payload) with
  | none =>
    have hown : (d.withNetwork (agent.ownNetwork payload)).network?
        (agent.workloadNetworkName payload) = some (agent.ownNetwork payload) :=
      network?_withNetwork hfound
    rw [hown] at hnetwork
    cases hnetwork
    rw [ownNetwork_belongs] at hforeign
    cases hforeign
  | some network' =>
    have hsame : (d.withNetwork (agent.ownNetwork payload)).network?
        (agent.workloadNetworkName payload) = some network' := by
      unfold Docker.network? Docker.withNetwork at *
      rw [List.find?_append, hfound, Option.some_or]
    rw [hsame] at hnetwork
    cases hnetwork
    exact h ⟨network, hfound, hforeign⟩

theorem DeployStep.network_free (h : DeployStep agent payload current s s')
    (hfree : ¬ agent.networkBlocked payload s.2) : ¬ agent.networkBlocked payload s'.2 := by
  cases h with
  | network => exact not_networkBlocked_withNetwork hfree
  | resume => exact hfree
  | check => exact hfree
  | discard => exact hfree
  | create => exact hfree
  | reject => exact hfree
  | verify => exact hfree
  | keep => exact hfree
  | replace => exact hfree
  | publish => exact hfree

theorem Deploys.network_free (h : Deploys agent payload current s s')
    (hfree : ¬ agent.networkBlocked payload s.2) : ¬ agent.networkBlocked payload s'.2 := by
  induction h with
  | refl => exact hfree
  | tail _ hstep ih => exact hstep.network_free ih

theorem OwnedHost.deploys (h : OwnedHost agent payload d)
    (hsteps : Deploys agent payload current (.preparing, d) (stage, d')) :
    OwnedHost agent payload d' where
  wellFormed := hsteps.wellFormed h.wellFormed
  containers c hc hname := by
    have htraced := hsteps.traced h.wellFormed c hc
    rcases htraced with ⟨c₀, hc₀, -, hlabels, -, hsame | ⟨-, hmatches⟩⟩ | ⟨-, hlabels, -⟩
    · rw [← belongs_congr hlabels]
      exact h.containers c₀ hc₀ (hsame ▸ hname)
    · exact belongs_of_matches hmatches
    · have hnew : agent.belongsToWorkload payload (agent.newCandidate payload d) = true :=
        belongs_of_matches matches_newCandidate
      rw [← hnew]
      exact belongs_congr hlabels
  network := hsteps.network_free h.network

theorem OwnedHost.visits (h : OwnedHost agent payload d) (hp : validatedPayload value = .ok payload)
    (hmode : payload.routingMode = .directPort) (hvisits : (deploy agent value).Visits d d') :
    OwnedHost agent payload d' ∧ d'.images = d.images := by
  have hsteps := (deploy_steps h.wellFormed (h.not_collides hmode) hp).visits exists_idle hvisits
  obtain ⟨stage, hsteps⟩ := hsteps
  exact ⟨h.deploys hsteps, hsteps.images⟩

end Retry

end InitPad.Workload
