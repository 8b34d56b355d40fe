import InitPad.Workload.Clearing

/-!
# InitPad.Workload.Continuity

A deployment with a direct port that fails anywhere: which of the running containers of the workload
stay until a candidate has been verified, and from which hosts the next deployment comes to an end.
-/

namespace InitPad.Workload

open Interleave Prog Engine

/-! ## Service -/

def StillRuns (c : Container) (d : Docker) : Prop :=
  ∃ c' ∈ d.host.containers, c'.id = c.id ∧ c'.running = true

/-- Since `d`, a container of the deployment has passed its health check, and it runs. -/
def Verified (agent : Agent) (payload : Payload) (d d' : Docker) : Prop :=
  ∃ c' ∈ d'.host.containers, agent.matches_ payload c' = true ∧ c'.running = true ∧
    ∃ port extra, c'.config.hostPort = some port ∧ d'.verified = d.verified ++ extra ∧ port ∈ extra

/-- The deployment replaces what is there. -/
def Agent.replaces (agent : Agent) (payload : Payload) (d : Docker) : Prop :=
  ∀ c, agent.currentWorkload payload d = some c → agent.matches_ payload c = false

/-- What the deployment has under its names is the workload's. -/
structure OwnedHost (agent : Agent) (payload : Payload) (d : Docker) : Prop where
  wellFormed : d.host.WellFormed
  containers : ∀ c ∈ d.host.containers, c.name ∈ agent.removedNames payload →
    agent.belongsToWorkload payload c = true
  network : ¬ agent.networkBlocked payload d

section Service

variable {agent : Agent} {value payload : Payload} {d d' : Docker} {c : Container}
  {current : Option Container} {s s' : Stage × Docker}

theorem OwnedHost.not_collides (h : OwnedHost agent payload d)
    (hmode : payload.routingMode = .directPort) : agent.collides payload d = false := by
  unfold Agent.collides
  cases hget : d.host.get? (.name (agent.containerName payload)) with
  | none => rfl
  | some c =>
    obtain ⟨hc, hdenotes⟩ := Host.mem_of_get? hget
    have hnamed : c.name = agent.containerName payload := by simpa [Ref.denotes] using hdenotes
    have howned := h.containers c hc (by simp [Agent.removedNames, hnamed])
    simp [howned, hmode]

/-- What serves at a stage of the deployment from `d`: first the container `c`, then the verified
candidate. -/
def Serves (agent : Agent) (payload : Payload) (d : Docker) (c : Container) : Stage × Docker → Prop
  | (.preparing, d') => Kept c d' ∧ ∃ extra, d'.verified = d.verified ++ extra
  | (.verified id port, d') => ∃ c' ∈ d'.host.containers, c'.id = id ∧
      agent.matches_ payload c' = true ∧ c'.running = true ∧ c'.config.hostPort = some port ∧
      ∃ extra, d'.verified = d.verified ++ extra ∧ port ∈ extra
  | (.published, d') => Verified agent payload d d'

theorem Serves.continues {stage : Stage} (h : Serves agent payload d c (stage, d'))
    (hrunning : c.running = true) : StillRuns c d' ∨ Verified agent payload d d' := by
  cases stage with
  | preparing =>
    obtain ⟨⟨c', hc', hid, -, -, -, hstate⟩, -⟩ := h
    exact .inl ⟨c', hc', hid, hstate hrunning⟩
  | verified id port =>
    obtain ⟨c', hc', -, hmatches, hrunning', hport, extra, hextra, hmem⟩ := h
    exact .inr ⟨c', hc', hmatches, hrunning', port, extra, hport, hextra, hmem⟩
  | published => exact .inr h

theorem OwnedHost.prepares (h : OwnedHost agent payload d)
    (hmode : payload.routingMode = .directPort) (hreplaces : agent.replaces payload d) :
    agent.prepares payload d := ⟨h.not_collides hmode, hreplaces, h.network⟩

end Service

end InitPad.Workload
