import InitPad.Leader.Steps

/-!
# InitPad.Leader.OneLeader

One maintenance leader at a time. `Led` relates the lease to every position of every cycle: a live
replica that holds a claim is the owner of the lease, since each of its timers renews the lease
before it ends.
-/

namespace InitPad.Leader

open Interleave Store

variable {x : LeaderStep}

/-! ## The invariant -/

def Phase.replica : Phase → Option Id
  | .idle => none
  | .sent replica | .answered replica _ => some replica
  | .inside run => some run.replica

def Reconciled (generation : Nat) (h : History) : Prop :=
  ∃ ev ∈ h, ∃ replica, ev.stmt.reconciles = some (replica, generation) ∧ ev.result.isOk = true

theorem Reconciled.mono {generation : Nat} {h h' : History} (hrec : Reconciled generation h)
    (hsub : h ⊆ h') : Reconciled generation h' := by
  obtain ⟨ev, hev, hshows⟩ := hrec
  exact ⟨ev, hsub hev, hshows⟩

variable {w : World} {tr : List LeaderStep} {c : LeaderSystem}

/-- The replica has not crashed, and its timer is set. -/
def Live (m : LeaderMoment) (replica : Id) : Prop :=
  ∃ row ∈ m.state.replicas.rows, row.id = replica ∧ row.live = true

/-- A later lease is of a later generation, unless the owner is the same. -/
def Follows (l l' : ControlPlaneLease) : Prop :=
  l.generation < l'.generation ∨ l'.generation = l.generation ∧ l'.ownerId = l.ownerId

/-- No process runs yet. -/
structure Fresh (w : World) : Prop where
  replicas : w.replicas.rows = []
  owner : ∀ l, w.projectsLease = some l → l.ownerId < w.drawn

theorem Follows.trans {l l' l'' : ControlPlaneLease} (h : Follows l l') (h' : Follows l' l'') :
    Follows l l'' := by
  rcases h with hlt | ⟨hsame, howner⟩
  · rcases h' with hlt' | ⟨hsame', -⟩
    · exact .inl (Nat.lt_trans hlt hlt')
    · exact .inl (hsame' ▸ hlt)
  · rcases h' with hlt' | ⟨hsame', howner'⟩
    · exact .inl (hsame ▸ hlt')
    · exact .inr ⟨hsame'.trans hsame, howner'.trans howner⟩

def now (t : Nat) : Nat × Input := (t, {})

end InitPad.Leader
