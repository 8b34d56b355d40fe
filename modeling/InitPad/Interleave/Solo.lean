import InitPad.Interleave.Run

/-!
# InitPad.Interleave.Solo

One program with nobody else in between. `Prog.Returns` says how it can end, `Prog.Visits` which
states it passes on the way; `Run.visits` turns either into a run of the whole system. They answer
questions of the form "can this request bring the system into such a state?".
-/

namespace Interleave

variable {E : Type → Type 1} {ι σ ε α β : Type} [Semantics E ι σ ε]

namespace Prog

/-- `p`, executed alone from `s` with some inputs, ends with `r` in `s'`. -/
inductive Returns : Prog E ε α → σ → Except ε α → σ → Prop where
  | ret (r : Except ε α) (s : σ) : Returns (.ret r) s r s
  | call {γ : Type} {e : E γ} {k : Except ε γ → Prog E ε α} {s s' : σ} {r : Except ε α} (i : ι) :
      Returns (k (exec e i s).1) (exec e i s).2 r s' → Returns (.call e k) s r s'

/-- `p`, executed alone from `s` with some inputs, passes `s'`. -/
inductive Visits : Prog E ε α → σ → σ → Prop where
  | here (p : Prog E ε α) (s : σ) : Visits p s s
  | call {γ : Type} {e : E γ} {k : Except ε γ → Prog E ε α} {s s' : σ} (i : ι) :
      Visits (k (exec e i s).1) (exec e i s).2 s' → Visits (.call e k) s s'

section Rules

variable {p : Prog E ε α} {f : Except ε α → Prog E ε β} {s s' s'' : σ} {r : Except ε α}

theorem Returns.andThen {r' : Except ε β} (hp : Returns p s r s') (hf : Returns (f r) s' r' s'') :
    Returns (p.andThen f) s r' s'' := by
  induction hp with
  | ret r s => exact hf
  | call i _ ih => exact .call i (ih hf)

theorem Returns.bind {a : α} {g : α → Prog E ε β} {r' : Except ε β}
    (hp : Returns p s (.ok a) s') (hg : Returns (g a) s' r' s'') : Returns (p >>= g) s r' s'' :=
  Returns.andThen hp hg

theorem Returns.visits_andThen (hp : Returns p s r s') (hf : Visits (f r) s' s'') :
    Visits (p.andThen f) s s'' := by
  induction hp with
  | ret r s => exact hf
  | call i _ ih => exact .call i (ih hf)

theorem Returns.visits_bind {a : α} {g : α → Prog E ε β} (hp : Returns p s (.ok a) s')
    (hg : Visits (g a) s' s'') : Visits (p >>= g) s s'' := Returns.visits_andThen hp hg

theorem Visits.andThen (hp : Visits p s s') : Visits (p.andThen f) s s' := by
  induction hp with
  | here p s => exact .here _ _
  | call i _ ih => exact .call i ih

theorem Returns.ignoreError (hp : Returns p s r s') : Returns p.ignoreError s (.ok ()) s' :=
  hp.andThen (.ret _ _)

theorem returns_forEach {A : σ → Prop} {body : α → Prog E ε Unit}
    (hbody : ∀ a s, A s → ∃ s', Returns (body a) s (.ok ()) s' ∧ A s') :
    ∀ as s, A s → ∃ s', Returns (forEach body as) s (.ok ()) s' ∧ A s'
  | [], s, h => ⟨s, .ret _ _, h⟩
  | a :: as, s, h => by
    obtain ⟨s₁, h₁, hA₁⟩ := hbody a s h
    obtain ⟨s₂, h₂, hA₂⟩ := returns_forEach hbody as s₁ hA₁
    exact ⟨s₂, h₁.andThen h₂, hA₂⟩

end Rules

end Prog

variable {entry : Moment E ι σ ε → Prog E ε Unit → Prop} {c : Config E ι σ ε}

theorem Run.visits_thread {p : Prog E ε Unit} {s s' : σ} (h : p.Visits s s') {t : Nat}
    (hs : c.moment.state = s) (ht : c.threads[t]? = some p) :
    ∃ (tr : List (Transition E ι σ ε)) (c' : Config E ι σ ε),
      Run entry c tr c' ∧ c'.moment.state = s' := by
  induction h generalizing c with
  | here p s => exact ⟨[], c, .refl, hs⟩
  | @call γ e k s s' i _ ih =>
    obtain ⟨m, ts⟩ := c
    subst hs
    have hlen := (List.getElem?_eq_some_iff.mp ht).1
    have hstart : Run entry ⟨m, ts⟩ [] ⟨m, ts⟩ := .refl
    have hstep := hstart.step i ht
    obtain ⟨tr, c', hrun, hs'⟩ :=
      ih (c := ⟨m.next t e i, ts.set t (k (exec e i m.state).1)⟩) rfl (List.getElem?_set_self hlen)
    exact ⟨_, c', hstep.trans hrun, hs'⟩

theorem Run.visits {p : Prog E ε Unit} {s' : σ} (hp : entry c.moment p)
    (h : p.Visits c.moment.state s') :
    ∃ (tr : List (Transition E ι σ ε)) (c' : Config E ι σ ε),
      Run entry c tr c' ∧ c'.moment.state = s' := by
  obtain ⟨m, ts⟩ := c
  have hlast : (ts ++ [p])[ts.length]? = some p := by simp
  have hstart : Run entry ⟨m, ts⟩ [] ⟨m, ts ++ [p]⟩ := .spawn .refl hp
  obtain ⟨tr, c', hrun, hs'⟩ := Run.visits_thread (c := ⟨m, ts ++ [p]⟩) h rfl hlast
  exact ⟨_, c', hstart.trans hrun, hs'⟩

end Interleave
