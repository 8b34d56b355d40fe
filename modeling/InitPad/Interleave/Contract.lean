import InitPad.Interleave.Run

/-!
# InitPad.Interleave.Contract

Rely-guarantee reasoning about the programs of `InitPad.Interleave.Prog`. A `Contract` fixes what
every thread may assume between two of its statements (`rely`), what each of its statements
guarantees (`guar`), an invariant, and the condition `ok` under which statements are considered at
all. `Safe` is symbolic execution of one program under a contract: after any interference that the
rely permits, the next statement meets its guarantee and the continuation is safe for the response
it got. `Run.safe` puts the threads back together: in every run of safe programs whose transitions
are all `ok`, every transition meets its guarantee.
-/

namespace Interleave

variable {E : Type → Type 1} {ι σ ε : Type} [Semantics E ι σ ε]

/-- What threads assume and guarantee. `ok` and `guar` speak about the moment before a statement;
the moment after it is `Moment.next`. -/
structure Contract (E : Type → Type 1) (ι σ ε : Type) [Semantics E ι σ ε] : Type 1 where
  ok : Transition E ι σ ε → Prop
  inv : Moment E ι σ ε → Prop
  rely : Nat → Moment E ι σ ε → Moment E ι σ ε → Prop
  guar : Transition E ι σ ε → Prop
  rely_refl : ∀ t m, rely t m m
  rely_trans : ∀ t m₁ m₂ m₃, rely t m₁ m₂ → rely t m₂ m₃ → rely t m₁ m₃
  inv_post : ∀ x, inv x.pre → ok x → guar x → inv x.post
  rely_of_guar : ∀ x t, inv x.pre → ok x → guar x → x.thread ≠ t → rely t x.pre x.post

/-- `p`, executed by thread `t` from moment `m`, meets the guarantees of `K` and ends with `Q`. -/
def Safe {α : Type} (K : Contract E ι σ ε) (t : Nat)
    (Q : Except ε α → Moment E ι σ ε → Prop) : Prog E ε α → Moment E ι σ ε → Prop
  | .ret r, m => ∀ m', K.rely t m m' → K.inv m' → Q r m'
  | .call e k, m => ∀ m' i, K.rely t m m' → K.inv m' → K.ok ⟨m', t, e, i⟩ →
      K.guar ⟨m', t, e, i⟩ ∧ Safe K t Q (k (exec e i m'.state).1) (m'.next t e i)

namespace Safe

variable {K : Contract E ι σ ε} {t : Nat} {α β : Type} {m m' : Moment E ι σ ε}

theorem of_rely {Q : Except ε α → Moment E ι σ ε → Prop} {p : Prog E ε α}
    (h : Safe K t Q p m) (hr : K.rely t m m') : Safe K t Q p m' := by
  cases p with
  | ret r => exact fun m₂ h₂ hi => h m₂ (K.rely_trans _ _ _ _ hr h₂) hi
  | call e k => exact fun m₂ i h₂ hi hok => h m₂ i (K.rely_trans _ _ _ _ hr h₂) hi hok

theorem mono {Q Q' : Except ε α → Moment E ι σ ε → Prop} {p : Prog E ε α}
    (hQ : ∀ r m, K.inv m → Q r m → Q' r m) (h : Safe K t Q p m) : Safe K t Q' p m := by
  induction p generalizing m with
  | ret r => exact fun m' hr hi => hQ r m' hi (h m' hr hi)
  | call e k ih =>
    intro m' i hr hi hok
    obtain ⟨hg, hk⟩ := h m' i hr hi hok
    exact ⟨hg, ih _ hk⟩

theorem ret {Q : Except ε α → Moment E ι σ ε → Prop} {r : Except ε α}
    (h : ∀ m', K.rely t m m' → K.inv m' → Q r m') : Safe K t Q (.ret r) m := h

theorem await {Q : Except ε α → Moment E ι σ ε → Prop} {e : E α}
    (h : ∀ m' i, K.rely t m m' → K.inv m' → K.ok ⟨m', t, e, i⟩ →
      K.guar ⟨m', t, e, i⟩ ∧
      ∀ m'', K.rely t (m'.next t e i) m'' → K.inv m'' → Q (exec e i m'.state).1 m'') :
    Safe K t Q (Prog.await e) m := h

theorem andThen {Q : Except ε α → Moment E ι σ ε → Prop}
    {Q' : Except ε β → Moment E ι σ ε → Prop} {p : Prog E ε α} {f : Except ε α → Prog E ε β}
    (hm : K.inv m) (hp : Safe K t Q p m)
    (hf : ∀ r m', K.inv m' → Q r m' → Safe K t Q' (f r) m') : Safe K t Q' (p.andThen f) m := by
  induction p generalizing m with
  | ret r => exact hf r m hm (hp m (K.rely_refl t m) hm)
  | call e k ih =>
    intro m' i hr hi hok
    obtain ⟨hg, hk⟩ := hp m' i hr hi hok
    exact ⟨hg, ih _ (K.inv_post ⟨m', t, e, i⟩ hi hok hg) hk⟩

theorem await_andThen {Q : Except ε β → Moment E ι σ ε → Prop} {e : E α}
    {f : Except ε α → Prog E ε β}
    (h : ∀ m' i, K.rely t m m' → K.inv m' → K.ok ⟨m', t, e, i⟩ →
      K.guar ⟨m', t, e, i⟩ ∧ Safe K t Q (f (exec e i m'.state).1) (m'.next t e i)) :
    Safe K t Q ((Prog.await e).andThen f) m := h

theorem await_bind {Q : Except ε β → Moment E ι σ ε → Prop} {e : E α} {f : α → Prog E ε β}
    (h : ∀ m' i, K.rely t m m' → K.inv m' → K.ok ⟨m', t, e, i⟩ →
      K.guar ⟨m', t, e, i⟩ ∧
        Safe K t Q (Prog.onValue f (exec e i m'.state).1) (m'.next t e i)) :
    Safe K t Q (Prog.await e >>= f) m := h

theorem onValue {Q : Except ε β → Moment E ι σ ε → Prop} {f : α → Prog E ε β} {r : Except ε α}
    (hok : ∀ a, r = .ok a → Safe K t Q (f a) m)
    (herr : ∀ x, r = .error x → Safe K t Q (.ret (.error x)) m) :
    Safe K t Q (Prog.onValue f r) m := by
  cases r with
  | ok a => exact hok a rfl
  | error x => exact herr x rfl

theorem bind {Q : Except ε α → Moment E ι σ ε → Prop}
    {Q' : Except ε β → Moment E ι σ ε → Prop} {p : Prog E ε α} {f : α → Prog E ε β}
    (hm : K.inv m) (hp : Safe K t Q p m)
    (hok : ∀ a m', K.inv m' → Q (.ok a) m' → Safe K t Q' (f a) m')
    (herr : ∀ x m', K.inv m' → Q (.error x) m' → Safe K t Q' (.ret (.error x)) m') :
    Safe K t Q' (p >>= f) m := by
  refine andThen hm hp fun r m' hi hq => ?_
  cases r with
  | ok a => exact hok a m' hi hq
  | error x => exact herr x m' hi hq

theorem of_only {P : ∀ {γ : Type}, E γ → Prop} {A : Moment E ι σ ε → Prop}
    (hstable : ∀ m m', A m → K.rely t m m' → A m')
    (hstep : ∀ {γ : Type} (e : E γ) (i : ι) (m : Moment E ι σ ε), P e → K.inv m →
      K.ok ⟨m, t, e, i⟩ → A m → K.guar ⟨m, t, e, i⟩ ∧ A (m.next t e i))
    {p : Prog E ε α} (hp : p.Only P) (hA : A m) : Safe K t (fun _ => A) p m := by
  induction p generalizing m with
  | ret r => exact fun m' hr _ => hstable m m' hA hr
  | call e k ih =>
    intro m' i hr hi hok
    obtain ⟨hg, hA'⟩ := hstep e i m' hp.1 hi hok (hstable m m' hA hr)
    exact ⟨hg, ih _ (hp.2 _) hA'⟩

end Safe

/-! ## Programs without a postcondition -/

/-- From every moment with the invariant and `A`, the program meets the guarantees of `K`. -/
def Contract.Respects (K : Contract E ι σ ε) (A : Moment E ι σ ε → Prop) {α : Type}
    (p : Prog E ε α) : Prop :=
  ∀ t m, K.inv m → A m → Safe K t (fun _ _ => True) p m

/-- What neither interference nor a guaranteed step can undo. -/
structure Contract.Persistent (K : Contract E ι σ ε) (A : Moment E ι σ ε → Prop) : Prop where
  rely : ∀ t m m', K.rely t m m' → A m → A m'
  step : ∀ x, K.inv x.pre → K.ok x → K.guar x → A x.pre → A x.post

theorem Safe.persistent {K : Contract E ι σ ε} {A : Moment E ι σ ε → Prop} {t : Nat} {α : Type}
    {Q : Except ε α → Moment E ι σ ε → Prop} {p : Prog E ε α} {m : Moment E ι σ ε}
    (hA : K.Persistent A) (h : Safe K t Q p m) (hm : A m) : Safe K t (fun _ => A) p m := by
  induction p generalizing m with
  | ret r => exact fun m' hr _ => hA.rely t m m' hr hm
  | call e k ih =>
    intro m' i hr hi hok
    obtain ⟨hg, hk⟩ := h m' i hr hi hok
    exact ⟨hg, ih _ hk (hA.step ⟨m', t, e, i⟩ hi hok hg (hA.rely t m m' hr hm))⟩

theorem Safe.with_persistent {K : Contract E ι σ ε} {A : Moment E ι σ ε → Prop} {t : Nat}
    {α : Type} {Q : Except ε α → Moment E ι σ ε → Prop} {p : Prog E ε α} {m : Moment E ι σ ε}
    (hA : K.Persistent A) (h : Safe K t Q p m) (hm : A m) :
    Safe K t (fun r m' => Q r m' ∧ A m') p m := by
  induction p generalizing m with
  | ret r => exact fun m' hr hi => ⟨h m' hr hi, hA.rely t m m' hr hm⟩
  | call e k ih =>
    intro m' i hr hi hok
    obtain ⟨hg, hk⟩ := h m' i hr hi hok
    exact ⟨hg, ih _ hk (hA.step ⟨m', t, e, i⟩ hi hok hg (hA.rely t m m' hr hm))⟩

namespace Contract

variable {K : Contract E ι σ ε} {A : Moment E ι σ ε → Prop} {α β : Type}

theorem persistent_true : K.Persistent fun _ => True :=
  ⟨fun _ _ _ _ _ => trivial, fun _ _ _ _ _ => trivial⟩

theorem Respects.mono {A' : Moment E ι σ ε → Prop} {p : Prog E ε α} (h : K.Respects A p)
    (hA : ∀ m, A' m → A m) : K.Respects A' p :=
  fun t m hi hm => h t m hi (hA m hm)

theorem respects_compositional (hA : K.Persistent A) :
    Prog.Compositional (E := E) (ε := ε) fun p => K.Respects A p :=
  ⟨fun _ _ _ _ _ _ _ _ => trivial,
    fun hp hf t m hi hm => Safe.andThen hi ((hp t m hi hm).persistent hA hm)
      fun r m' hi' hm' => hf r t m' hi' hm'⟩

theorem respects_await (hA : K.Persistent A) {e : E α}
    (h : ∀ t m i, K.inv m → K.ok ⟨m, t, e, i⟩ → A m → K.guar ⟨m, t, e, i⟩) :
    K.Respects A (Prog.await e) :=
  fun t m _ hm => Safe.await fun m' i hr hi hok =>
    ⟨h t m' i hi hok (hA.rely t m m' hr hm), fun _ _ _ => trivial⟩

theorem respects_await_bind (hA : K.Persistent A) {e : E α} {f : α → Prog E ε β}
    (hguar : ∀ t m i, K.inv m → K.ok ⟨m, t, e, i⟩ → A m → K.guar ⟨m, t, e, i⟩)
    (h : ∀ t m i a, K.inv m → K.ok ⟨m, t, e, i⟩ → A m → (exec e i m.state).1 = .ok a →
      Safe K t (fun _ _ => True) (f a) (m.next t e i)) : K.Respects A (Prog.await e >>= f) := by
  intro t m _ hm
  refine Safe.await_bind fun m' i hr hi hok => ?_
  have hm' := hA.rely t m m' hr hm
  exact ⟨hguar t m' i hi hok hm',
    Safe.onValue (fun a ha => h t m' i a hi hok hm' ha) fun _ _ _ _ _ => trivial⟩

end Contract

/-! ## Putting the threads together -/

namespace Run

variable {entry : Moment E ι σ ε → Prog E ε Unit → Prop} {c c' : Config E ι σ ε}
  {tr : List (Transition E ι σ ε)} {post : Nat → Moment E ι σ ε → Prop}

/-- The invariant holds, the history was made by threads of the pool, and every thread is safe and
will end with `post`. -/
def Sound (K : Contract E ι σ ε) (post : Nat → Moment E ι σ ε → Prop) (c : Config E ι σ ε) :
    Prop :=
  K.inv c.moment ∧ (∀ e ∈ c.moment.history, e.thread < c.threads.length) ∧
    ∀ t p, c.threads[t]? = some p → Safe K t (fun _ m => post t m) p c.moment

theorem sound_step {K : Contract E ι σ ε} {m : Moment E ι σ ε} {ts : List (Prog E ε Unit)}
    {t : Nat} {β : Type} {e : E β} {k : Except ε β → Prog E ε Unit} {i : ι}
    (h : Sound K post ⟨m, ts⟩) (hk : ts[t]? = some (.call e k)) (hok : K.ok ⟨m, t, e, i⟩) :
    K.guar ⟨m, t, e, i⟩ ∧
      Sound K post ⟨m.next t e i, ts.set t (k (exec e i m.state).1)⟩ := by
  obtain ⟨hinv, hhist, hsafe⟩ := h
  obtain ⟨hg, hcont⟩ := hsafe t _ hk m i (K.rely_refl t m) hinv hok
  have htlen : t < ts.length := by
    rw [List.getElem?_eq_some_iff] at hk; exact hk.1
  refine ⟨hg, K.inv_post ⟨m, t, e, i⟩ hinv hok hg, ?_, ?_⟩
  · intro ev hev
    rw [List.length_set]
    rcases List.mem_append.mp hev with hev | hev
    · exact hhist ev hev
    · obtain rfl := List.mem_singleton.mp hev
      exact htlen
  intro t' p hp
  by_cases ht : t = t'
  · subst ht
    rw [List.getElem?_set_self htlen] at hp
    cases hp
    exact hcont
  · rw [List.getElem?_set_ne ht] at hp
    exact (hsafe t' p hp).of_rely (K.rely_of_guar ⟨m, t, e, i⟩ t' hinv hok hg ht)

/-- Every run of safe programs whose transitions are all `ok` stays sound, and every transition
meets its guarantee. An arriving program gets a thread that has executed nothing yet. -/
theorem safe (K : Contract E ι σ ε)
    (hentry : ∀ m p t, K.inv m → (∀ e ∈ m.history, e.thread ≠ t) → entry m p →
      Safe K t (fun _ m => post t m) p m)
    (h : Run entry c tr c') (hc : Sound K post c) (hok : ∀ x ∈ tr, K.ok x) :
    Sound K post c' ∧ ∀ x ∈ tr, K.guar x := by
  induction h with
  | refl => exact ⟨hc, by simp⟩
  | @spawn tr m ts p _ hp ih =>
    obtain ⟨⟨hinv, hhist, hsafe⟩, hg⟩ := ih hok
    refine ⟨⟨hinv, fun e he => ?_, ?_⟩, hg⟩
    · rw [List.length_append]
      exact Nat.lt_add_right _ (hhist e he)
    intro t q hq
    rw [List.getElem?_append] at hq
    split at hq
    · exact hsafe t q hq
    · rename_i hlen
      have hq' := List.mem_of_getElem? hq
      obtain rfl := List.mem_singleton.mp hq'
      exact hentry m q t hinv (fun e he => by
        have hlt : e.thread < ts.length := hhist e he
        omega) hp
  | @step tr m ts t β e k i _ hk ih =>
    have hok' : ∀ x ∈ tr, K.ok x := fun x hx => hok x (List.mem_append_left _ hx)
    obtain ⟨hs, hg⟩ := ih hok'
    obtain ⟨hg', hs'⟩ := sound_step hs hk (hok ⟨m, t, e, i⟩ (by simp))
    refine ⟨hs', fun x hx => ?_⟩
    rcases List.mem_append.mp hx with hx | hx
    · exact hg x hx
    · obtain rfl := List.mem_singleton.mp hx
      exact hg'

theorem sound_start (K : Contract E ι σ ε) (s : σ) (h : K.inv ⟨s, []⟩) :
    Sound K post (Config.start s) :=
  ⟨h, fun e he => absurd he (List.not_mem_nil), fun t p hp => by simp [Config.start] at hp⟩

theorem Sound.post_of_returned {K : Contract E ι σ ε} (h : Sound K post c) {t : Nat}
    {p : Prog E ε Unit} (ht : c.threads[t]? = some p) (hp : p.returned = true) :
    post t c.moment := by
  cases p with
  | ret r => exact h.2.2 t _ ht c.moment (K.rely_refl t _) h.1
  | call => cases hp

end Run

end Interleave
