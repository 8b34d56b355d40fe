import InitPad.Interleave.Sequential

/-!
# InitPad.Interleave.Crash

One program that can be stopped between any two of its statements. `Prog.Stops G p m m'` says that
`p` has come from `m` to `m'` with steps that satisfy the guard `G`, whether it goes on from there
or not. `Through G A Q p m` is symbolic execution under a crash invariant: `A` holds wherever `p`
is stopped, `Q` when it ends. `Restarts` puts attempts one after another, each of them stopped or
ended before the next.
-/

namespace Interleave

/-- Which steps are considered: a statement with its input, in the state before. -/
abbrev Guard (E : Type → Type 1) (ι σ : Type) : Type 1 := ∀ γ : Type, E γ → ι → σ → Prop

def anyStep {E : Type → Type 1} {ι σ : Type} : Guard E ι σ := fun _ _ _ _ => True

variable {E : Type → Type 1} {ι σ ε α β : Type} [Semantics E ι σ ε]

namespace Prog

/-- `p`, executed alone from `m` with some inputs, passes `m'`. -/
inductive Stops (G : Guard E ι σ) : Prog E ε α → Moment E ι σ ε → Moment E ι σ ε → Prop where
  | here (p : Prog E ε α) (m : Moment E ι σ ε) : Stops G p m m
  | call {γ : Type} {e : E γ} {k : Except ε γ → Prog E ε α} {m m' : Moment E ι σ ε} (i : ι) :
      G γ e i m.state → Stops G (k (exec e i m.state).1) (m.next 0 e i) m' →
        Stops G (.call e k) m m'

/-- From `m`, `p` passes moments with `A` only, and ends with `Q`. -/
def Through (G : Guard E ι σ) (A : Moment E ι σ ε → Prop) (Q : Except ε α → Moment E ι σ ε → Prop) :
    Prog E ε α → Moment E ι σ ε → Prop
  | .ret r, m => A m ∧ Q r m
  | @Prog.call _ _ _ γ e k, m => A m ∧ ∀ i, G γ e i m.state →
      Through G A Q (k (exec e i m.state).1) (m.next 0 e i)

variable {G : Guard E ι σ} {m m' m₁ : Moment E ι σ ε}

theorem Ends.stops {p : Prog E ε α} {r : Except ε α} (h : Ends p m r m') :
    Stops anyStep p m m' := by
  induction h with
  | ret => exact .here _ _
  | call i _ ih => exact .call i trivial ih

theorem Stops.keeps {P : ∀ {γ : Type}, E γ → Prop} {A : Moment E ι σ ε → Prop}
    (hstep : ∀ {γ : Type} (e : E γ) (i : ι) (m : Moment E ι σ ε), P e → A m → A (m.next 0 e i))
    {p : Prog E ε α} (hp : p.Only P) (h : Stops G p m m') (hA : A m) : A m' := by
  induction h with
  | here => exact hA
  | call i _ _ ih => exact ih (hp.2 _) (hstep _ i _ hp.1 hA)

namespace Through

variable {A A' : Moment E ι σ ε → Prop} {Q Q' : Except ε α → Moment E ι σ ε → Prop}
  {R : Except ε β → Moment E ι σ ε → Prop} {p : Prog E ε α}

theorem now (h : Through G A Q p m) : A m := by
  cases p with
  | ret r => exact h.1
  | call e k => exact h.1

theorem stops (h : Through G A Q p m) (hs : Stops G p m m') : A m' := by
  induction hs with
  | here => exact h.now
  | call i hi _ ih => exact ih (h.2 i hi)

theorem ends (h : Through anyStep A Q p m) {r : Except ε α} (hends : Ends p m r m') : Q r m' := by
  induction hends with
  | ret => exact h.2
  | call i _ ih => exact ih (h.2 i trivial)

theorem mono (hA : ∀ m, A m → A' m) (hQ : ∀ r m, A m → Q r m → Q' r m) (h : Through G A Q p m) :
    Through G A' Q' p m := by
  induction p generalizing m with
  | ret r => exact ⟨hA m h.1, hQ r m h.1 h.2⟩
  | call e k ih => exact ⟨hA m h.1, fun i hi => ih _ (h.2 i hi)⟩

theorem post (hQ : ∀ r m, A m → Q r m → Q' r m) (h : Through G A Q p m) : Through G A Q' p m :=
  h.mono (fun _ hA => hA) hQ

theorem ret {r : Except ε α} (hA : A m) (hQ : Q r m) : Through G A Q (.ret r) m := ⟨hA, hQ⟩

theorem await {e : E α} (hA : A m)
    (h : ∀ i, G α e i m.state → A (m.next 0 e i) ∧ Q (exec e i m.state).1 (m.next 0 e i)) :
    Through G A Q (Prog.await e) m := ⟨hA, h⟩

theorem andThen {f : Except ε α → Prog E ε β} (hp : Through G A Q p m)
    (hf : ∀ r m', A m' → Q r m' → Through G A R (f r) m') : Through G A R (p.andThen f) m := by
  induction p generalizing m with
  | ret r => exact hf r m hp.1 hp.2
  | call e k ih => exact ⟨hp.1, fun i hi => ih _ (hp.2 i hi)⟩

theorem bind {f : α → Prog E ε β} (hp : Through G A Q p m)
    (hok : ∀ a m', A m' → Q (.ok a) m' → Through G A R (f a) m')
    (herr : ∀ x m', A m' → Q (.error x) m' → R (.error x) m') : Through G A R (p >>= f) m := by
  refine hp.andThen fun r m' hA hQ => ?_
  cases r with
  | ok a => exact hok a m' hA hQ
  | error x => exact ret hA (herr x m' hA hQ)

theorem await_bind {e : E α} {f : α → Prog E ε β} (hA : A m)
    (hok : ∀ i a, G α e i m.state → (exec e i m.state).1 = .ok a →
      Through G A R (f a) (m.next 0 e i))
    (herr : ∀ i x, G α e i m.state → (exec e i m.state).1 = .error x →
      A (m.next 0 e i) ∧ R (.error x) (m.next 0 e i)) :
    Through G A R (Prog.await e >>= f) m := by
  refine ⟨hA, fun i hi => ?_⟩
  cases hr : (exec e i m.state).1 with
  | ok a => exact hok i a hi hr
  | error x => exact herr i x hi hr

theorem tryCatch {f : ε → Prog E ε α} (hp : Through G A Q p m)
    (hok : ∀ a m', A m' → Q (.ok a) m' → Q' (.ok a) m')
    (herr : ∀ x m', A m' → Q (.error x) m' → Through G A Q' (f x) m') :
    Through G A Q' (MonadExceptOf.tryCatch p f) m := by
  refine hp.andThen fun r m' hA hQ => ?_
  cases r with
  | ok a => exact ret hA (hok a m' hA hQ)
  | error x => exact herr x m' hA hQ

theorem ensure {q : Prog E ε Unit} (hp : Through G A Q p m)
    (hq : ∀ r m', A m' → Q r m' → Through G A (fun r' m'' => Q' (r'.bind fun _ => r) m'') q m') :
    Through G A Q' (p.ensure q) m := by
  refine hp.andThen fun r m' hA hQ => (hq r m' hA hQ).andThen fun r' m'' hA hQ => ?_
  cases r' with
  | ok => exact ret hA hQ
  | error x => exact ret hA hQ

theorem ignoreError {Q' : Except ε Unit → Moment E ι σ ε → Prop} (hp : Through G A Q p m)
    (h : ∀ r m', A m' → Q r m' → Q' (.ok ()) m') : Through G A Q' p.ignoreError m :=
  hp.andThen fun r m' hA hQ => ret hA (h r m' hA hQ)

end Through

/-- Execute the first statements of `p`, as many as there are inputs. -/
def advance : Prog E ε α → List ι → Moment E ι σ ε → Moment E ι σ ε
  | .ret _, _, m => m
  | .call _ _, [], m => m
  | .call e k, i :: is, m => (k (exec e i m.state).1).advance is (m.next 0 e i)

theorem stops_advance (p : Prog E ε α) (is : List ι) (m : Moment E ι σ ε) :
    Stops anyStep p m (p.advance is m) := by
  induction p generalizing is m with
  | ret r => exact .here _ _
  | call e k ih =>
    cases is with
    | nil => exact .here _ _
    | cons i is => exact .call i trivial (ih _ is _)

/-- The steps that `advance` executes all pass `check`. -/
def passes (check : ∀ {γ : Type}, E γ → ι → Bool) :
    Prog E ε α → List ι → Moment E ι σ ε → Bool
  | .ret _, _, _ => true
  | .call _ _, [], _ => true
  | .call e k, i :: is, m => check e i && (k (exec e i m.state).1).passes check is (m.next 0 e i)

theorem stops_of_passes {check : ∀ {γ : Type}, E γ → ι → Bool}
    (hcheck : ∀ {γ : Type} (e : E γ) (i : ι) (s : σ), check e i = true → G γ e i s)
    {p : Prog E ε α} {is : List ι} (h : p.passes check is m = true) :
    Stops G p m (p.advance is m) := by
  induction p generalizing is m with
  | ret r => exact .here _ _
  | call e k ih =>
    cases is with
    | nil => exact .here _ _
    | cons i is =>
      obtain ⟨hi, hrest⟩ := (Bool.and_eq_true _ _).mp h
      exact .call i (hcheck e i _ hi) (ih _ hrest)

/-- From every moment with `B`, the program passes and ends in moments with `B` only. -/
def Keeps (G : Guard E ι σ) (B : Moment E ι σ ε → Prop) (p : Prog E ε α) : Prop :=
  ∀ m, B m → Through G B (fun _ => B) p m

theorem keeps_compositional {B : Moment E ι σ ε → Prop} :
    Compositional (E := E) (ε := ε) fun p => Keeps G B p :=
  ⟨fun _ _ hB => ⟨hB, hB⟩, fun hp hf m hB => (hp m hB).andThen fun r m' _ hB' => hf r m' hB'⟩

theorem keeps_await {B : Moment E ι σ ε → Prop} {e : E α}
    (h : ∀ m i, G α e i m.state → B m → B (m.next 0 e i)) : Keeps G B (Prog.await e) :=
  fun m hB => .await hB fun i hi => ⟨h m i hi hB, h m i hi hB⟩

theorem Keeps.through_bind {A B : Moment E ι σ ε → Prop} {R : Except ε β → Moment E ι σ ε → Prop}
    {p : Prog E ε α} {f : α → Prog E ε β} (hp : Keeps G B p) (hB : B m) (hA : ∀ m, B m → A m)
    (hok : ∀ a m', B m' → Through G A R (f a) m') (herr : ∀ x m', B m' → R (.error x) m') :
    Through G A R (p >>= f) m :=
  ((hp m hB).mono hA fun _ _ _ h => h).bind (fun a m' _ => hok a m') fun x m' _ => herr x m'

/-- Attempts that satisfy `entry`, each stopped somewhere before the next one starts. -/
inductive Restarts (G : Guard E ι σ) (entry : Moment E ι σ ε → Prog E ε Unit → Prop)
    (m : Moment E ι σ ε) : Moment E ι σ ε → Prop where
  | refl : Restarts G entry m m
  | attempt {m' m'' : Moment E ι σ ε} {p : Prog E ε Unit} :
      Restarts G entry m m' → entry m' p → Stops G p m' m'' → Restarts G entry m m''

theorem Restarts.keeps {entry : Moment E ι σ ε → Prog E ε Unit → Prop}
    {A : Moment E ι σ ε → Prop}
    (hentry : ∀ m p, entry m p → A m → Through G A (fun _ _ => True) p m)
    (h : Restarts G entry m m') (hA : A m) : A m' := by
  induction h with
  | refl => exact hA
  | attempt _ hp hs ih => exact (hentry _ _ hp ih).stops hs

end Prog

end Interleave
