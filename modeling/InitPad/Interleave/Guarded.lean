import InitPad.Interleave.Run

/-!
# InitPad.Interleave.Guarded

Runs whose steps are all admitted by a condition on the whole configuration before them: what the
other threads are in the middle of counts, not only the shared state.
-/

namespace Interleave

variable {E : Type → Type 1} {ι σ ε : Type} [Semantics E ι σ ε]

/-- Runs from `c` whose steps are all taken in configurations where `ok` admits them. -/
inductive GuardedRun (entry : Moment E ι σ ε → Prog E ε Unit → Prop)
    (ok : Config E ι σ ε → Transition E ι σ ε → Prop) (c : Config E ι σ ε) :
    List (Transition E ι σ ε) → Config E ι σ ε → Prop where
  | refl : GuardedRun entry ok c [] c
  | spawn {tr : List (Transition E ι σ ε)} {m : Moment E ι σ ε} {ts : List (Prog E ε Unit)}
      {p : Prog E ε Unit} :
      GuardedRun entry ok c tr ⟨m, ts⟩ → entry m p → GuardedRun entry ok c tr ⟨m, ts ++ [p]⟩
  | step {tr : List (Transition E ι σ ε)} {m : Moment E ι σ ε} {ts : List (Prog E ε Unit)}
      {t : Nat} {β : Type} {e : E β} {k : Except ε β → Prog E ε Unit} (i : ι) :
      GuardedRun entry ok c tr ⟨m, ts⟩ → ts[t]? = some (.call e k) → ok ⟨m, ts⟩ ⟨m, t, e, i⟩ →
      GuardedRun entry ok c (tr ++ [⟨m, t, e, i⟩]) ⟨m.next t e i, ts.set t (k (exec e i m.state).1)⟩

namespace GuardedRun

variable {entry : Moment E ι σ ε → Prog E ε Unit → Prop}
  {ok : Config E ι σ ε → Transition E ι σ ε → Prop} {c c' : Config E ι σ ε}
  {tr : List (Transition E ι σ ε)}

theorem run (h : GuardedRun entry ok c tr c') : Run entry c tr c' := by
  induction h with
  | refl => exact .refl
  | spawn _ hp ih => exact .spawn ih hp
  | step i _ hk _ ih => exact .step i ih hk

end GuardedRun

end Interleave
