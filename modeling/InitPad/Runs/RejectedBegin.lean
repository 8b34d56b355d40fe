import InitPad.Runs.FinishedOperation
import InitPad.Runs.RequestRules
import InitPad.Runs.StrandedLock
import InitPad.Deployment.EnvironmentSteps
import InitPad.Interleave.Trace

/-!
# InitPad.Runs.RejectedBegin

`begin` gives an environment back when its second look at an approved production state, or the
audit log, refuses the operation. It writes back the row that it read before its transaction, so
what another operation has written in between is lost.
-/

namespace InitPad

open Store Interleave Prog

/-- The row that `begin` had read, the operation it has created, and how many rows its claim took. -/
def Stmt.begun {β : Type} : Stmt β → Except Err β → Option (Environment × Id × Nat)
  | .beginClaim view _ _ _ _, .ok (operation, claimed) =>
    some (view.environment, operation.id, claimed)
  | _, _ => none

/-- The row that a rejected `begin` writes back, and its operation. -/
def Stmt.givesBack {β : Type} : Stmt β → Option (Environment × Id)
  | .cancelClaimed operationId environment _ => some (environment, operationId)
  | _ => none

/-- The columns of an environment that `begin` writes agree. -/
structure SameColumns (r r' : Environment) : Prop where
  status : r'.status = r.status
  statusReason : r'.statusReason = r.statusReason
  deploymentRequired : r'.deploymentRequired = r.deploymentRequired

/-- The environment is in `m'` what it was in `m`, its lock included. -/
def GivenBack (id : Id) (m m' : Instant) : Prop :=
  ∃ r r', m.state.env? id = some r ∧ m'.state.env? id = some r' ∧ SameColumns r r' ∧
    r'.activeOperationId = r.activeOperationId

def Cancelled (o : Id) (m : Instant) : Prop :=
  ∃ row, m.state.op? o = some row ∧ row.status = .cancelled ∧ row.finishedAt.isSome

/-- The write of the rejection `y` reaches the row: it is committed and finds the lock of `o`. -/
def Reaches (y : Step) (environment : Environment) (o : Id) : Prop :=
  y.input.fault = false ∧ y.pre.state.lock environment.id = some o

/-- The row that `begin` had read still is the row that its claim `x` took. -/
def Fresh (x : Step) (environment : Environment) : Prop :=
  ∃ r, x.pre.state.env? environment.id = some r ∧ SameColumns r environment

section Claim

variable {w : World} {i : Input} {view : EnvironmentView} {kind : OperationKind}
  {version : Option String} {artifact : Option Id} {expected : Option ExpectedProductionState}
  {operation : DeploymentOperation} {claimed : Nat}

end Claim

/-- When the rejection `y` of the claim `x` restores the environment and ends the operation: its
write reaches the row, and what `begin` had read is what the claim took; or its write does not
reach the row, and whoever took the lock before has left the old columns. -/
def Restorable (x y : Step) (environment : Environment) (o : Id) : Prop :=
  (Reaches y environment o ∧ Fresh x environment) ∨
    (¬ Reaches y environment o ∧ GivenBack environment.id x.pre y.pre ∧
      (y.input.fault = true → Cancelled o y.pre))

section Runs

variable {w : World} {c : System} {tr tr₁ tr₂ : List Step} {y : Step}

end Runs

/-! ## A stale row, and a fresh one -/

end InitPad
