import InitPad.Interleave.Sequential
import InitPad.Interleave.Solo

/-!
# InitPad.Interleave.Outcome

How a program can end, as predicate transformers on states. With the inputs that `P` admits,
`p.Always P Q s` says that `p` ends in no other way than `Q`, whatever the inputs are, and
`p.Possibly P Q s` that some inputs make it end with `Q`.
-/

namespace Interleave

variable {E : Type → Type 1} {ι σ ε α β : Type} [Semantics E ι σ ε]

namespace Prog

def Always (P : ι → Prop) (Q : Except ε α → σ → Prop) : Prog E ε α → σ → Prop
  | .ret r, s => Q r s
  | .call e k, s => ∀ i, P i → Always P Q (k (exec e i s).1) (exec e i s).2

section Always

variable {P : ι → Prop} {Q Q' : Except ε α → σ → Prop} {R : Except ε β → σ → Prop}
  {p : Prog E ε α} {s : σ}

theorem always_await {e : E α} :
    Always P Q (await e : Prog E ε α) s ↔ ∀ i, P i → Q (exec e i s).1 (exec e i s).2 := Iff.rfl

theorem Always.mono (h : Always P Q p s) (hQ : ∀ r s', Q r s' → Q' r s') : Always P Q' p s := by
  induction p generalizing s with
  | ret r => exact hQ r s h
  | call e k ih => exact fun i hi => ih _ (h i hi)

theorem Always.both (h : Always P Q p s) (h' : Always P Q' p s) :
    Always P (fun r s' => Q r s' ∧ Q' r s') p s := by
  induction p generalizing s with
  | ret r => exact ⟨h, h'⟩
  | call e k ih => exact fun i hi => ih _ (h i hi) (h' i hi)

theorem Always.exists (hP : ∃ i, P i) (h : Always P Q p s) : ∃ r s', Q r s' := by
  obtain ⟨i, hi⟩ := hP
  induction p generalizing s with
  | ret r => exact ⟨r, s, h⟩
  | call e k ih => exact ih _ (h i hi)

theorem always_andThen {f : Except ε α → Prog E ε β} :
    Always P R (p.andThen f) s ↔ Always P (fun r s' => Always P R (f r) s') p s := by
  induction p generalizing s with
  | ret r => exact Iff.rfl
  | call e k ih =>
    constructor
    · exact fun h i hi => (ih _).mp (h i hi)
    · exact fun h i hi => (ih _).mpr (h i hi)

theorem Always.bind {f : α → Prog E ε β} (hp : Always P Q p s)
    (hok : ∀ a s', Q (.ok a) s' → Always P R (f a) s')
    (herror : ∀ x s', Q (.error x) s' → R (.error x) s') : Always P R (p >>= f) s := by
  rw [bind_eq, always_andThen]
  refine hp.mono fun r s' hr => ?_
  cases r with
  | ok a => exact hok a s' hr
  | error x => exact herror x s' hr

theorem always_ret_bind {a : α} {f : α → Prog E ε β} :
    Always P R ((.ret (.ok a) : Prog E ε α) >>= f) s ↔ Always P R (f a) s := Iff.rfl

theorem Always.tryCatch {f : ε → Prog E ε α} (hp : Always P Q p s)
    (hok : ∀ a s', Q (.ok a) s' → Q' (.ok a) s')
    (herror : ∀ x s', Q (.error x) s' → Always P Q' (f x) s') :
    Always P Q' (MonadExceptOf.tryCatch p f) s := by
  change Always P Q' (p.andThen _) s
  rw [always_andThen]
  refine hp.mono fun r s' hr => ?_
  cases r with
  | ok a => exact hok a s' hr
  | error x => exact herror x s' hr

theorem Always.ignoreError {R : Except ε Unit → σ → Prop} (hp : Always P Q p s)
    (h : ∀ r s', Q r s' → R (.ok ()) s') : Always P R p.ignoreError s := by
  unfold Prog.ignoreError
  rw [always_andThen]
  exact hp.mono h

theorem always_forEach {A : List α → σ → Prop} {Q : Except ε Unit → σ → Prop}
    {body : α → Prog E ε Unit} (hok : ∀ s, A [] s → Q (.ok ()) s)
    (hbody : ∀ a as s, A (a :: as) s → Always P (fun r s' => match r with
      | .ok () => A as s'
      | .error x => Q (.error x) s') (body a) s) :
    ∀ as s, A as s → Always P Q (forEach body as) s
  | [], s, h => hok s h
  | a :: as, s, h => (hbody a as s h).bind (fun _ s' h' => always_forEach hok hbody as s' h')
      fun _ _ hx => hx

theorem Always.weaken {P' : ι → Prop} (hP : ∀ i, P' i → P i) (h : Always P Q p s) :
    Always P' Q p s := by
  induction p generalizing s with
  | ret r => exact h
  | call e k ih => exact fun i hi => ih _ (h i (hP i hi))

theorem Always.returns (hP : ∃ i, P i) (h : Always P Q p s) : ∃ r s', p.Returns s r s' ∧ Q r s' := by
  obtain ⟨i, hi⟩ := hP
  induction p generalizing s with
  | ret r => exact ⟨r, s, .ret r s, h⟩
  | call e k ih =>
    obtain ⟨r, s', hreturns, hQ⟩ := ih _ (h i hi)
    exact ⟨r, s', .call i hreturns, hQ⟩

/-- The state after the calls that a list of inputs is enough for. -/
def play : List ι → Prog E ε α → σ → σ
  | i :: is, .call e k, s => play is (k (exec e i s).1) (exec e i s).2
  | _, _, s => s

theorem visits_play (is : List ι) (p : Prog E ε α) (s : σ) : p.Visits s (p.play is s) := by
  induction is generalizing p s with
  | nil => exact .here _ _
  | cons i is ih =>
    cases p with
    | ret r => exact .here _ _
    | call e k => exact .call i (ih _ _)

/-- Where every call can be without effect, a run that is interrupted leaves no state that a run
which ends cannot leave. -/
theorem Always.visits {I : σ → Prop} {s' : σ}
    (hidle : ∀ {γ : Type} (e : E γ) (s : σ), ∃ i : ι, (exec (ε := ε) e i s).2 = s)
    (h : Always (fun _ : ι => True) (fun _ => I) p s) (hv : p.Visits s s') : I s' := by
  induction hv with
  | here p s =>
    induction p with
    | ret r => exact h
    | call e k ih =>
      obtain ⟨i, hi⟩ := hidle e s
      refine ih (exec e i s).1 ?_
      have hrest := h i trivial
      rw [hi] at hrest
      exact hrest
  | call i _ ih => exact ih (h i trivial)

end Always

section Possibly

variable {P : ι → Prop} {Q Q' : Except ε α → σ → Prop} {R : Except ε β → σ → Prop}
  {p : Prog E ε α} {s : σ}

end Possibly

end Prog

end Interleave
