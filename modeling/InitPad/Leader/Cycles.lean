import InitPad.Leader.Service

/-!
# InitPad.Leader.Cycles

Where a cycle is, read off its own events: it has sent its query, it holds the answer, or it is
inside `runMaintenance`. `CycleRule` says which statements are executed where; every call keeps the
rule, and none of them ends inside `runMaintenance`.
-/

namespace InitPad.Leader

open Interleave Store
open Prog (await refuseIf)

variable {α β : Type}

abbrev LeaderMoment := Moment Stmt Input World Failure
abbrev LeaderStep := Transition Stmt Input World Failure
abbrev LeaderEvent := Event Stmt Input Failure
abbrev History := List LeaderEvent

/-- One execution of `runMaintenance`. -/
structure MaintenanceRun where
  replica : Id
  generation : Nat
  becameLeader : Bool
  maintenance : Id
  /-- Whether `reconcilePersistedState` has completed, once it has ended. -/
  reconciled : Option Bool
  deriving DecidableEq

inductive Phase where
  | idle
  | sent (replica : Id)
  | answered (replica : Id) (claim : Option ControlPlaneLeaseClaim)
  | inside (run : MaintenanceRun)
  deriving DecidableEq

/-- The query of the cycle is not answered, or its answer not looked at. -/
def Phase.waits : Phase → Option Id
  | .sent replica | .answered replica _ => some replica
  | _ => none

def Phase.run : Phase → Option MaintenanceRun
  | .inside run => some run
  | _ => none

def Phase.holds : Phase → Option (Id × Nat)
  | .answered replica claim => claim.map fun claim => (replica, claim.generation)
  | .inside run => some (run.replica, run.generation)
  | _ => none

def Stmt.phaseAfter : Stmt β → Except Failure β → Phase → Phase
  | .send replica, .ok _, _ => .sent replica
  | .upsertLease name _ _, .ok claim, .sent replica =>
    if name = PROJECTS_LEASE_NAME then .answered replica claim else .sent replica
  | .resume replica (some claim), .ok (some started), _ =>
    .inside ⟨replica, claim.generation, started.becameLeader, started.maintenance, none⟩
  | .resume _ _, .ok _, _ => .idle
  | .reconcilePersistedState _ _, r, .inside run => .inside { run with reconciled := some r.isOk }
  | .finish _ _, .ok _, _ => .idle
  | _, _, p => p

def phase (h : History) : Phase :=
  h.foldl (fun held ev => ev.stmt.phaseAfter ev.result held) .idle

/-- The run may go on with its sweeps. -/
def MaintenanceRun.ready (run : MaintenanceRun) : Prop :=
  run.becameLeader = true → run.reconciled = some true

/-- `reconcilePersistedState` is the next request of the run. -/
def MaintenanceRun.opens (run : MaintenanceRun) : Prop :=
  run.becameLeader = true ∧ run.reconciled = none

/-- Where a statement may be executed. -/
def Stmt.allowed : Stmt β → Phase → Prop
  | .send _, p => p = .idle
  | .upsertLease name ownerId ttlMs, p => name = PROJECTS_LEASE_NAME →
    p = .sent ownerId ∧ ttlMs = PROJECTS_LEASE_TTL_MS
  | .resume replica claim, p => p = .answered replica claim
  | .reconcilePersistedState replica generation, p =>
    ∃ run, p = .inside run ∧ run.replica = replica ∧ run.generation = generation ∧ run.opens
  | .setLeaderGeneration replica generation, p =>
    ∃ run, p = .inside run ∧ run.replica = replica ∧ run.generation = generation ∧
      run.reconciled = some true
  | .sweep replica generation _, p =>
    ∃ run, p = .inside run ∧ run.replica = replica ∧ run.generation = generation ∧ run.ready
  | .finish replica maintenance, p =>
    ∃ run, p = .inside run ∧ run.replica = replica ∧ run.maintenance = maintenance
  | _, _ => True

def Stmt.reconciles : Stmt β → Option (Id × Nat)
  | .reconcilePersistedState replica generation => some (replica, generation)
  | _ => none

def Stmt.sweeps : Stmt β → Option (Id × Nat)
  | .sweep replica generation _ => some (replica, generation)
  | _ => none

def Stmt.finishes : Stmt β → Bool
  | .finish _ _ => true
  | _ => false

structure CycleRule (e : Stmt β) (h : History) : Prop where
  allowed : e.allowed (phase h)
  opening : ∀ run, phase h = .inside run → run.opens →
    e.reconciles = some (run.replica, run.generation)

/-- The end of the maintenance cannot fail. -/
def Genuine (ev : LeaderEvent) : Prop := ev.stmt.finishes = true → ev.result.isOk = true

variable {t : Nat} {h : History}

/-- The thread is outside `runMaintenance`. -/
def Outside (h : History) : Prop := ∀ run, phase h ≠ .inside run

def Ran (run : MaintenanceRun) (h : History) : Prop :=
  ∃ run', phase h = .inside run' ∧ run'.replica = run.replica ∧
    run'.maintenance = run.maintenance ∧ ¬ run'.opens

/-- Statements that leave a thread idle. -/
def Quiet (e : Stmt β) : Prop := e.allowed .idle ∧ ∀ r, e.phaseAfter r .idle = .idle

end InitPad.Leader
