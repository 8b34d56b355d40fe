import InitPad.Interleave.Run

/-!
# InitPad.Interleave.Sequential

One program from its first statement to its end, with everything it executes on the way in the
history. `Prog.Ends p m r m'` is inverted along the structure of `p`: `ends_bind`, `ends_tryCatch`,
`ends_await`. `Prog.perform` executes a program on a list of inputs, so that an example can be
evaluated.
-/

namespace Interleave

variable {E : Type → Type 1} {ι σ ε α β : Type} [Semantics E ι σ ε]

namespace Prog

/-- `p`, executed alone from `m` with some inputs, ends with `r` at `m'`. -/
inductive Ends : Prog E ε α → Moment E ι σ ε → Except ε α → Moment E ι σ ε → Prop where
  | ret (r : Except ε α) (m : Moment E ι σ ε) : Ends (.ret r) m r m
  | call {γ : Type} {e : E γ} {k : Except ε γ → Prog E ε α} {m m' : Moment E ι σ ε}
      {r : Except ε α} (i : ι) :
      Ends (k (exec e i m.state).1) (m.next 0 e i) r m' → Ends (.call e k) m r m'

variable {m m' m₁ : Moment E ι σ ε}

theorem ends_ret {r r' : Except ε α} : Ends (.ret r) m r' m' ↔ r' = r ∧ m' = m := by
  constructor
  · rintro ⟨⟩
    exact ⟨rfl, rfl⟩
  · rintro ⟨rfl, rfl⟩
    exact .ret _ _

theorem ends_pure {a : α} {r : Except ε α} :
    Ends (pure a : Prog E ε α) m r m' ↔ r = .ok a ∧ m' = m := ends_ret

theorem ends_throw {x : ε} {r : Except ε α} :
    Ends (throw x : Prog E ε α) m r m' ↔ r = .error x ∧ m' = m := ends_ret

theorem ends_call {γ : Type} {e : E γ} {k : Except ε γ → Prog E ε α} {r : Except ε α} :
    Ends (.call e k) m r m' ↔ ∃ i, Ends (k (exec e i m.state).1) (m.next 0 e i) r m' := by
  constructor
  · rintro ⟨⟩
    exact ⟨_, ‹_›⟩
  · rintro ⟨i, h⟩
    exact .call i h

theorem ends_await {e : E α} {r : Except ε α} :
    Ends (await e) m r m' ↔ ∃ i, r = (exec e i m.state).1 ∧ m' = m.next 0 e i := by
  unfold await
  simp only [ends_call, ends_ret]

theorem ends_andThen {p : Prog E ε α} {f : Except ε α → Prog E ε β} {r : Except ε β} :
    Ends (p.andThen f) m r m' ↔ ∃ r₁ m₁, Ends p m r₁ m₁ ∧ Ends (f r₁) m₁ r m' := by
  induction p generalizing m with
  | ret r₀ =>
    simp only [andThen_ret, ends_ret]
    constructor
    · intro h
      exact ⟨r₀, m, ⟨rfl, rfl⟩, h⟩
    · rintro ⟨r₁, m₁, ⟨rfl, rfl⟩, h⟩
      exact h
  | call e k ih =>
    simp only [andThen_call, ends_call, ih]
    constructor
    · rintro ⟨i, r₁, m₁, hp, hf⟩
      exact ⟨r₁, m₁, ⟨i, hp⟩, hf⟩
    · rintro ⟨r₁, m₁, ⟨i, hp⟩, hf⟩
      exact ⟨i, r₁, m₁, hp, hf⟩

theorem ends_bind {p : Prog E ε α} {f : α → Prog E ε β} {r : Except ε β} :
    Ends (p >>= f) m r m' ↔ (∃ a m₁, Ends p m (.ok a) m₁ ∧ Ends (f a) m₁ r m') ∨
      ∃ x, Ends p m (.error x) m' ∧ r = .error x := by
  rw [bind_eq, ends_andThen]
  constructor
  · rintro ⟨r₁, m₁, hp, hf⟩
    cases r₁ with
    | ok a => exact .inl ⟨a, m₁, hp, hf⟩
    | error x =>
      obtain ⟨rfl, rfl⟩ := ends_ret.1 hf
      exact .inr ⟨x, hp, rfl⟩
  · rintro (⟨a, m₁, hp, hf⟩ | ⟨x, hp, rfl⟩)
    · exact ⟨.ok a, m₁, hp, hf⟩
    · exact ⟨.error x, m', hp, .ret _ _⟩

theorem ends_bind_ok {p : Prog E ε α} {f : α → Prog E ε β} {b : β} :
    Ends (p >>= f) m (.ok b) m' ↔ ∃ a m₁, Ends p m (.ok a) m₁ ∧ Ends (f a) m₁ (.ok b) m' := by
  rw [ends_bind]
  exact or_iff_left (by rintro ⟨_, _, ⟨⟩⟩)

theorem ends_tryCatch {p : Prog E ε α} {f : ε → Prog E ε α} {r : Except ε α} :
    Ends (tryCatch p f) m r m' ↔ (∃ a, Ends p m (.ok a) m' ∧ r = .ok a) ∨
      ∃ x m₁, Ends p m (.error x) m₁ ∧ Ends (f x) m₁ r m' := by
  rw [tryCatch_eq, ends_andThen]
  constructor
  · rintro ⟨r₁, m₁, hp, hf⟩
    cases r₁ with
    | ok a =>
      obtain ⟨rfl, rfl⟩ := ends_ret.1 hf
      exact .inl ⟨a, hp, rfl⟩
    | error x => exact .inr ⟨x, m₁, hp, hf⟩
  · rintro (⟨a, hp, rfl⟩ | ⟨x, m₁, hp, hf⟩)
    · exact ⟨.ok a, m', hp, .ret _ _⟩
    · exact ⟨.error x, m₁, hp, hf⟩

theorem ends_ignoreError {p : Prog E ε α} {r : Except ε Unit} :
    Ends p.ignoreError m r m' ↔ r = .ok () ∧ ∃ r₁, Ends p m r₁ m' := by
  simp only [ignoreError, ends_andThen, ends_ret]
  constructor
  · rintro ⟨r₁, m₁, hp, rfl, rfl⟩
    exact ⟨rfl, r₁, hp⟩
  · rintro ⟨rfl, r₁, hp⟩
    exact ⟨r₁, m', hp, rfl, rfl⟩

theorem ends_ensure_ok {p : Prog E ε α} {q : Prog E ε Unit} {a : α} :
    Ends (p.ensure q) m (.ok a) m' ↔ ∃ m₁, Ends p m (.ok a) m₁ ∧ Ends q m₁ (.ok ()) m' := by
  simp only [ensure, ends_andThen]
  constructor
  · rintro ⟨r₁, m₁, hp, r₂, m₂, hq, hr⟩
    cases r₂ with
    | ok =>
      obtain ⟨rfl, rfl⟩ := ends_ret.1 hr
      exact ⟨m₁, hp, hq⟩
    | error x =>
      obtain ⟨h, _⟩ := ends_ret.1 hr
      cases h
  · rintro ⟨m₁, hp, hq⟩
    exact ⟨_, m₁, hp, _, m', hq, .ret _ _⟩

theorem Ends.keeps {P : ∀ {γ : Type}, E γ → Prop} {A : Moment E ι σ ε → Prop}
    (hstep : ∀ {γ : Type} (e : E γ) (i : ι) (m : Moment E ι σ ε), P e → A m → A (m.next 0 e i))
    {p : Prog E ε α} (hp : p.Only P) {r : Except ε α} (h : Ends p m r m') (hA : A m) : A m' := by
  induction h with
  | ret => exact hA
  | call i _ ih => exact ih (hp.2 _) (hstep _ i _ hp.1 hA)

theorem Ends.history {p : Prog E ε α} {r : Except ε α} (h : Ends p m r m') :
    ∃ rest, m'.history = m.history ++ rest := by
  induction h with
  | ret => exact ⟨[], (List.append_nil _).symm⟩
  | call i _ ih =>
    obtain ⟨rest, hrest⟩ := ih
    exact ⟨_, by rw [hrest, Moment.next_history, List.append_assoc]⟩

theorem Ends.events {P : ∀ {γ : Type}, E γ → Prop} {p : Prog E ε α} (hp : p.Only P)
    {r : Except ε α} (h : Ends p m r m') :
    ∃ rest, m'.history = m.history ++ rest ∧ ∀ ev ∈ rest, P ev.stmt := by
  induction h with
  | ret => exact ⟨[], (List.append_nil _).symm, fun _ h => absurd h List.not_mem_nil⟩
  | @call γ e k m m' r i _ ih =>
    obtain ⟨rest, hrest, hP⟩ := ih (hp.2 _)
    refine ⟨⟨0, e, i, (exec e i m.state).1⟩ :: rest, ?_, ?_⟩
    · rw [hrest, Moment.next_history, List.append_assoc]
      rfl
    · intro ev hev
      rcases List.mem_cons.mp hev with rfl | hev
      · exact hp.1
      · exact hP ev hev

/-- Execute `p` with the given inputs, if there are enough of them. -/
def perform : Prog E ε α → List ι → Moment E ι σ ε → Option (Except ε α × Moment E ι σ ε)
  | .ret r, _, m => some (r, m)
  | .call _ _, [], _ => none
  | .call e k, i :: is, m => (k (exec e i m.state).1).perform is (m.next 0 e i)

theorem ends_of_perform {p : Prog E ε α} {is : List ι} {r : Except ε α}
    (h : p.perform is m = some (r, m')) : Ends p m r m' := by
  induction p generalizing is m with
  | ret r₀ =>
    cases h
    exact .ret _ _
  | call e k ih =>
    cases is with
    | nil => cases h
    | cons i is => exact .call i (ih _ h)

/-- `check` holds of the way `p` ends with the given inputs. -/
def performs (p : Prog E ε α) (is : List ι) (m : Moment E ι σ ε)
    (check : Except ε α → Moment E ι σ ε → Bool) : Bool :=
  (p.perform is m).any fun (r, m') => check r m'

theorem ends_of_performs (p : Prog E ε α) (is : List ι) (m : Moment E ι σ ε)
    (check : Except ε α → Moment E ι σ ε → Bool) (h : p.performs is m check = true) :
    ∃ r m', Ends p m r m' ∧ check r m' = true := by
  unfold performs at h
  cases hp : p.perform is m with
  | none => rw [hp] at h; cases h
  | some x =>
    rw [hp] at h
    exact ⟨x.1, x.2, ends_of_perform hp, h⟩

/-- From the state `s`, some inputs make `p` end with `r` in the state `s'`. -/
def Can (p : Prog E ε α) (s : σ) (r : Except ε α) (s' : σ) : Prop :=
  ∀ m : Moment E ι σ ε, m.state = s → ∃ m', Ends p m r m' ∧ m'.state = s'

section Can

variable {s t u : σ}

theorem can_ret (r : Except ε α) (s : σ) : Can (ι := ι) (.ret r : Prog E ε α) s r s :=
  fun m hm => ⟨m, .ret r m, hm⟩

theorem can_await {e : E α} {r : Except ε α} (i : ι) (h : exec e i s = (r, u)) :
    Can (ι := ι) (Prog.await e : Prog E ε α) s r u := by
  intro m hm
  subst hm
  exact ⟨m.next 0 e i, ends_await.2 ⟨i, by rw [h], rfl⟩, by rw [Moment.next_state, h]⟩

theorem Can.andThen {p : Prog E ε α} {f : Except ε α → Prog E ε β} {r₁ : Except ε α}
    {r : Except ε β} (hp : Can (ι := ι) p s r₁ t) (hf : Can (ι := ι) (f r₁) t r u) :
    Can (ι := ι) (p.andThen f) s r u := by
  intro m hm
  obtain ⟨m₁, h₁, hm₁⟩ := hp m hm
  obtain ⟨m', h', hm'⟩ := hf m₁ hm₁
  exact ⟨m', ends_andThen.2 ⟨r₁, m₁, h₁, h'⟩, hm'⟩

theorem Can.bind {p : Prog E ε α} {f : α → Prog E ε β} {a : α} {r : Except ε β}
    (hp : Can (ι := ι) p s (.ok a) t) (hf : Can (ι := ι) (f a) t r u) :
    Can (ι := ι) (p >>= f) s r u := hp.andThen hf

theorem Can.bind_error {p : Prog E ε α} {f : α → Prog E ε β} {x : ε}
    (hp : Can (ι := ι) p s (.error x) u) : Can (ι := ι) (p >>= f) s (.error x) u :=
  hp.andThen (can_ret _ _)

theorem Can.tryCatch_ok {p : Prog E ε α} {f : ε → Prog E ε α} {a : α}
    (hp : Can (ι := ι) p s (.ok a) u) : Can (ι := ι) (tryCatch p f) s (.ok a) u :=
  hp.andThen (can_ret _ _)

theorem Can.tryCatch_error {p : Prog E ε α} {f : ε → Prog E ε α} {x : ε} {r : Except ε α}
    (hp : Can (ι := ι) p s (.error x) t) (hf : Can (ι := ι) (f x) t r u) :
    Can (ι := ι) (tryCatch p f) s r u := hp.andThen hf

theorem Can.ensure {p : Prog E ε α} {q : Prog E ε Unit} {r : Except ε α}
    (hp : Can (ι := ι) p s r t) (hq : Can (ι := ι) q t (.ok ()) u) :
    Can (ι := ι) (p.ensure q) s r u := hp.andThen (hq.andThen (can_ret _ _))

end Can

end Prog

end Interleave
