import InitPad.Workload.Continuity

/-!
# InitPad.Workload.Convergence

The deployment that is repeated after a failed one, on a host that responds: from which states it
ends with the container of its payload under the name of the workload.
-/

namespace InitPad.Workload

open Interleave Prog Engine

section Converge

variable {agent : Agent} {value payload : Payload} {d d' : Docker} {c : Container}

def Unpublished (agent : Agent) (payload : Payload) (d : Docker) : Prop :=
  ∀ c ∈ d.host.containers, c.name = agent.containerName payload → agent.matches_ payload c = false

theorem Unpublished.started {port id : Nat} (h : Unpublished agent payload d) :
    Unpublished agent payload (d.started port id) := by
  intro c hc hname
  obtain ⟨c₀, hc₀, rfl⟩ := Host.mem_update.mp hc
  have hunseen : Unseen fun c => if c.id = id then startOn port c else c := unseen_startOn.ite
  exact (hunseen.matches_ c₀).trans (h c₀ hc₀ ((hunseen.name c₀).symm.trans hname))

theorem Unpublished.removed {id : Nat} (h : Unpublished agent payload d) :
    Unpublished agent payload (d.removed id) :=
  fun c hc => h c (Host.mem_remove.mp hc).1

end Converge

end InitPad.Workload
