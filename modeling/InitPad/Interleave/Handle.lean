import InitPad.Interleave.Crash

/-!
# InitPad.Interleave.Handle

Programs of one signature carried out by programs of another. `p.handle h` replaces every statement
of `p` by a program that answers with what the statement would have answered, an error included, so
that the errors of the two levels stay apart. A statement can so be refined into many, between
which the refined program may be stopped.

`Reifies f` is the case of one statement for one: `f e` answers what `e` answers, on a part of a
larger state. A handled program then ends and stops where the program itself does.
-/

namespace Interleave

variable {E E' : Type → Type 1} {ε ε' α β : Type}

namespace Prog

def handle (h : {β : Type} → E β → Prog E' ε' (Except ε β)) :
    Prog E ε α → Prog E' ε' (Except ε α)
  | .ret r => .ret (.ok r)
  | .call e k => (h e).andThen (onValue fun r => (k r).handle h)

variable {h : {β : Type} → E β → Prog E' ε' (Except ε β)}

theorem onValue_ok : (onValue fun r => .ret (.ok r) : Except ε' α → Prog E' ε' α) = .ret := by
  funext r
  cases r <;> rfl

theorem handle_await (e : E α) : (Prog.await e : Prog E ε α).handle h = h e := by
  change (h e).andThen (onValue fun r => .ret (.ok r)) = h e
  rw [onValue_ok, andThen_ret_right]

theorem handle_andThen (p : Prog E ε α) (f : Except ε α → Prog E ε β) :
    (p.andThen f).handle h = (p.handle h) >>= fun r => (f r).handle h := by
  induction p with
  | ret r => rfl
  | call e k ih =>
    rw [andThen_call, bind_eq]
    simp only [handle]
    rw [andThen_assoc]
    congr 1
    funext r
    cases r with
    | error x => rfl
    | ok a => exact ih a

theorem only_of_all {P : ∀ {γ : Type}, E γ → Prop} (hP : ∀ {γ : Type} (e : E γ), P e)
    (p : Prog E ε α) : p.Only P := by
  induction p with
  | ret r => exact .ret r
  | call e k ih => exact ⟨hP e, ih⟩

theorem only_handle {P : ∀ {γ : Type}, E γ → Prop} {P' : ∀ {γ : Type}, E' γ → Prop}
    (hP : ∀ {γ : Type} (e : E γ), P e → (h e).Only P') {p : Prog E ε α} (hp : p.Only P) :
    (p.handle h).Only P' := by
  induction p with
  | ret r => exact .ret _
  | call e k ih =>
    refine .andThen (hP e hp.1) fun r => ?_
    cases r with
    | error x => exact .ret _
    | ok a => exact ih a (hp.2 a)

section Keeps

variable {ι' σ' : Type} [Semantics E' ι' σ' ε'] {G : Guard E' ι' σ'}
  {B : Moment E' ι' σ' ε' → Prop}

theorem keeps_handle_compositional :
    Compositional fun p : Prog E ε _ => Keeps G B (p.handle h) := by
  refine ⟨fun r => keeps_compositional.ret _, fun {α β p f} hp hf => ?_⟩
  rw [handle_andThen]
  exact keeps_compositional.bind hp hf

theorem keeps_handle {P : ∀ {γ : Type}, E γ → Prop}
    (hP : ∀ {γ : Type} (e : E γ), P e → Keeps G B (h e)) {p : Prog E ε α} (hp : p.Only P) :
    Keeps G B (p.handle h) := by
  refine hp.compose keeps_handle_compositional fun e he => ?_
  rw [handle_await]
  exact hP e he

end Keeps

section Reifies

variable {ι σ ι' σ' : Type} [Semantics E ι σ ε] [Semantics E' ι' σ' ε']

/-- `f e` does on the part `get` of the state what `e` does, and answers what `e` answers. -/
structure Reifies (ε' : Type) [Semantics E' ι' σ' ε'] (f : {β : Type} → E β → E' (Except ε β))
    (get : σ' → σ) (read : ι' → ι) : Prop where
  answer : ∀ {β : Type} (e : E β) (i : ι') (s : σ'),
    (exec (f e) i s).1 = .ok (exec e (read i) (get s)).1
  state : ∀ {β : Type} (e : E β) (i : ι') (s : σ'),
    get (exec (f e) i s).2 = (exec e (read i) (get s)).2

variable {f : {β : Type} → E β → E' (Except ε β)} {get : σ' → σ} {read : ι' → ι}
  {p : Prog E ε α} {M M' : Moment E' ι' σ' ε'} {m : Moment E ι σ ε}

theorem Reifies.ends (hf : Reifies ε' f get read) {R : Except ε' (Except ε α)}
    (hends : Ends (p.handle fun e => await (f e)) M R M') (hm : m.state = get M.state) :
    ∃ r m', R = .ok r ∧ Ends p m r m' ∧ m'.state = get M'.state := by
  induction p generalizing M m with
  | ret r =>
    obtain ⟨rfl, rfl⟩ := ends_ret.mp hends
    exact ⟨r, m, rfl, .ret _ _, hm⟩
  | call e k ih =>
    obtain ⟨i, hrest⟩ := ends_call.mp hends
    rw [hf.answer] at hrest
    obtain ⟨r, m', hR, hp, hm'⟩ := ih _ hrest (m := m.next 0 e (read i)) (by
      rw [Moment.next_state, Moment.next_state, hf.state, hm])
    rw [← hm] at hp
    exact ⟨r, m', hR, .call (read i) hp, hm'⟩

end Reifies

section Through

variable {ι σ : Type} [Semantics E ι σ ε] {A : Moment E ι σ ε → Prop}
  {Q : Except ε α → Moment E ι σ ε → Prop}

theorem through_of_ends {p : Prog E ε α} {m : Moment E ι σ ε}
    (hA : ∀ m', Stops anyStep p m m' → A m') (hQ : ∀ r m', Ends p m r m' → Q r m') :
    Through anyStep A Q p m := by
  induction p generalizing m with
  | ret r => exact ⟨hA m (.here _ _), hQ r m (.ret _ _)⟩
  | call e k ih =>
    refine ⟨hA m (.here _ _), fun i _ => ih _ (fun m' hs => ?_) fun r m' he => ?_⟩
    · exact hA m' (.call i trivial hs)
    · exact hQ r m' (.call i he)

end Through

end Prog

end Interleave
