import InitPad.Interleave.Run

/-!
# InitPad.Interleave.Commit

Statements of a database: each is one transaction, which is rolled back when it throws. A statement
may also fail on its way: then its caller gets an error, and the transaction has been committed or
not. `execute` is the effect of such a statement, for use in an instance of `Semantics`.
-/

namespace Interleave

/-- A failure of the connection, before or behind the commit. -/
structure Fault (ε : Type) where
  failure : ε
  carriedOut : Bool
  deriving DecidableEq

variable {σ ε β : Type}

/-- A transaction that throws is rolled back. -/
def commit (r : Except ε (β × σ)) (s : σ) : Except ε β × σ :=
  match r with
  | .ok (b, s') => (.ok b, s')
  | .error x => (.error x, s)

/-- The transaction with result `r`, in the state `s`. -/
def execute (fault : Option (Fault ε)) (r : Except ε (β × σ)) (s : σ) : Except ε β × σ :=
  match fault with
  | none => commit r s
  | some fault => (.error fault.failure, if fault.carriedOut then (commit r s).2 else s)

theorem commit_state (r : Except ε (β × σ)) (s : σ) :
    (commit r s).2 = s ∨ ∃ b, r = .ok (b, (commit r s).2) := by
  cases r with
  | error x => exact .inl rfl
  | ok r => exact .inr ⟨r.1, rfl⟩

theorem execute_state (fault : Option (Fault ε)) (r : Except ε (β × σ)) (s : σ) :
    (execute fault r s).2 = s ∨ ∃ b, r = .ok (b, (execute fault r s).2) := by
  cases fault with
  | none => exact commit_state r s
  | some fault =>
    simp only [execute]
    split
    · exact commit_state r s
    · exact .inl rfl

theorem execute_ok {fault : Option (Fault ε)} {r : Except ε (β × σ)} {s : σ} {b : β}
    (h : (execute fault r s).1 = .ok b) : r = .ok (b, (execute fault r s).2) := by
  cases fault with
  | some fault => cases h
  | none =>
    cases r with
    | error x => cases h
    | ok r => cases h; rfl

theorem execute_of_none (r : Except ε (β × σ)) (s : σ) : execute none r s = commit r s := rfl

end Interleave
