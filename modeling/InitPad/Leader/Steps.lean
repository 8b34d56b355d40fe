import InitPad.Leader.Cycles

/-!
# InitPad.Leader.Steps

What one step does to the lease of the projects, to the fields of the replicas and to the phase of
its cycle, where `CycleRule` allows it.
-/

namespace InitPad.Leader

open Interleave Store

/-! ## Reading a step -/

def World.projectsLease (w : World) : Option ControlPlaneLease := w.leases.find? PROJECTS_LEASE_NAME

/-- Where thread `t` is. -/
def phaseAt (m : LeaderMoment) (t : Nat) : Phase := phase (own t m.history)

def time (x : LeaderStep) : Time := x.pre.state.clock + x.input.elapsed

variable {x : LeaderStep}

abbrev Ruled (x : LeaderStep) : Prop := CycleRule x.stmt (own x.thread x.pre.history)

theorem post_run (x : LeaderStep) : x.post.state = x.pre.state.tick x.input.elapsed ∨
    ∃ b, x.stmt.run (x.pre.state.tick x.input.elapsed) = .ok (b, x.post.state) :=
  execute_state (x.stmt.fault x.input) _ _

theorem run_of_ok {b : x.β} (h : x.result = .ok b) :
    x.stmt.run (x.pre.state.tick x.input.elapsed) = .ok (b, x.post.state) := execute_ok h

theorem clock_post (x : LeaderStep) : x.post.state.clock = time x := by
  have hrun : ∀ {β : Type} {e : Stmt β} {w w' : World} {b : β}, e.run w = .ok (b, w') →
      w'.clock = w.clock := by
    intro β e w w' b h
    cases e with
    | send replica =>
      simp only [Stmt.run] at h
      split at h
      · cases h
        rfl
      · cases h
    | upsertLease name ownerId ttlMs =>
      simp only [Stmt.run, Except.ok.injEq] at h
      have hw : w' = (w.upsertLease name ownerId ttlMs).2 := by rw [h]
      rw [hw]
      unfold World.upsertLease
      split
      · rfl
      · split <;> rfl
    | resume replica claim =>
      simp only [Stmt.run] at h
      split at h
      · split at h <;> cases h <;> rfl
      · cases h
        rfl
    | _ =>
      cases h
      rfl
  rcases post_run x with hsame | ⟨b, h⟩
  · rw [hsame]
    rfl
  · rw [hrun h]
    rfl

/-! ## The lease -/

/-- `owner` has the lease from `now` on. -/
structure Takes (owner : Id) (now : Time) (lease : Option ControlPlaneLease)
    (lease' : ControlPlaneLease) : Prop where
  ownerId : lease'.ownerId = owner
  expiresAt : lease'.expiresAt = now + PROJECTS_LEASE_TTL_MS
  succeeds : ∀ l, lease = some l → l.ownerId = owner ∧ lease'.generation = l.generation ∨
    l.ownerId ≠ owner ∧ l.expiresAt ≤ now ∧ lease'.generation = l.generation + 1

/-- The fields that a started cycle has found. -/
def Finds (x : LeaderStep) (replica : Id) (claim : ControlPlaneLeaseClaim) (s : Started) : Prop :=
  ∃ row ∈ x.pre.state.replicas.rows, row.id = replica ∧ row.maintenance = none ∧
    (s.becameLeader = false → row.leaderGeneration = some claim.generation)

/-- `maintenance` behind a step that moves the cycle from one phase to another. -/
def maintenanceAfter (row : Replica) : Phase → Phase → Option Id
  | .answered _ _, .inside run => if run.replica = row.id then some run.maintenance
    else row.maintenance
  | .inside run, .idle => if run.replica = row.id ∧ row.maintenance = some run.maintenance then none
    else row.maintenance
  | _, _ => row.maintenance

structure Moves (x : LeaderStep) (row row' : Replica) : Prop where
  id : row'.id = row.id
  live : row'.live = true → row.live = true
  fired : row'.fired = row.fired ∨
    row'.fired = time x ∧ phaseAt x.post x.thread = .sent row.id
  maintenance : row'.maintenance =
    maintenanceAfter row (phaseAt x.pre x.thread) (phaseAt x.post x.thread)
  leaderGeneration : row'.leaderGeneration = row.leaderGeneration ∨
    ∃ run, phaseAt x.pre x.thread = .inside run ∧ run.reconciled = some true ∧
      row'.leaderGeneration = some run.generation

theorem moves_refl (hkept : ∀ row, maintenanceAfter row (phaseAt x.pre x.thread)
    (phaseAt x.post x.thread) = row.maintenance) (row : Replica) : Moves x row row :=
  ⟨rfl, id, .inl rfl, (hkept row).symm, .inl rfl⟩

section

variable {m : LeaderMoment} {t : Nat} {i : Input} {replica : Id}

end

end InitPad.Leader
