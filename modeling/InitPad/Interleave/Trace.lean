import InitPad.Interleave.Run

/-!
# InitPad.Interleave.Trace

What one program leaves in the history, whatever the others do: `Leaves P Q t p h` says that when
`p` goes on as thread `t` behind its own events `h`, every way to end with events that satisfy `P`
satisfies `Q`. The answers of the statements are arbitrary, so no state is involved.

`Meets P G Q t p h` says it of every statement on the way as well: each is executed behind events of
the own thread for which `G` allows it. `Run.meets` brings it to the transitions of a run.
-/

namespace Interleave

variable {E : Type → Type 1} {ι ε α β : Type}

/-- The events of thread `t`. -/
def own (t : Nat) (h : List (Event E ι ε)) : List (Event E ι ε) := h.filter (·.thread = t)

theorem own_append (t : Nat) (h h' : List (Event E ι ε)) : own t (h ++ h') = own t h ++ own t h' :=
  List.filter_append h h'

theorem own_self (t : Nat) {γ : Type} (e : E γ) (i : ι) (r : Except ε γ) :
    own t [⟨t, e, i, r⟩] = [⟨t, e, i, r⟩] := by simp [own]

theorem own_of_ne {t t' : Nat} (h : t ≠ t') {γ : Type} (e : E γ) (i : ι) (r : Except ε γ) :
    own t' [(⟨t, e, i, r⟩ : Event E ι ε)] = [] := by simp [own, h]

theorem countP_le_of_own {p q : Event E ι ε → Bool} {h : List (Event E ι ε)}
    (hown : ∀ t, (own t h).countP p ≤ (own t h).countP q) : h.countP p ≤ h.countP q := by
  generalize hn : h.length = n
  induction n using Nat.strongRecOn generalizing h with
  | ind n ih =>
    cases h with
    | nil => exact Nat.le_refl _
    | cons ev rest =>
      -- The events of the first thread, and those of the others.
      let others := (ev :: rest).filter fun ev' => !decide (ev'.thread = ev.thread)
      have hshort : others.length < n := by
        have hle := List.length_filter_le (fun ev' => !decide (ev'.thread = ev.thread)) rest
        have hothers : others = rest.filter fun ev' => !decide (ev'.thread = ev.thread) := by
          simp [others]
        rw [hothers, ← hn, List.length_cons]
        omega
      have hrest : others.countP p ≤ others.countP q := by
        refine ih _ hshort (fun t => ?_) rfl
        by_cases ht : t = ev.thread
        · have hnone : own t others = [] := by
            simp [own, others, ht, List.filter_filter]
          rw [hnone]
          exact Nat.le_refl _
        · have hsame : own t others = own t (ev :: rest) := by
            simp only [own, others, List.filter_filter]
            refine List.filter_congr fun ev' _ => ?_
            by_cases hev : ev'.thread = t
            · simp [hev, ht]
            · simp [hev]
          rw [hsame]
          exact hown t
      have hfirst := hown ev.thread
      rw [List.countP_eq_countP_filter_add (ev :: rest) p (·.thread = ev.thread),
        List.countP_eq_countP_filter_add (ev :: rest) q (·.thread = ev.thread)]
      exact Nat.add_le_add hfirst hrest

/-- Some event shows `a`. -/
def Recorded (read : Event E ι ε → Option α) (a : α) (h : List (Event E ι ε)) : Prop :=
  ∃ ev ∈ h, read ev = some a

theorem Recorded.mono {read : Event E ι ε → Option α} {a : α} {h h' : List (Event E ι ε)}
    (hread : Recorded read a h) (hsub : h ⊆ h') : Recorded read a h' := by
  obtain ⟨ev, hmem, heq⟩ := hread
  exact ⟨ev, hsub hmem, heq⟩

theorem recorded_last {read : Event E ι ε → Option α} {a : α} {h : List (Event E ι ε)}
    {ev : Event E ι ε} (hread : read ev = some a) : Recorded read a (h ++ [ev]) :=
  ⟨ev, List.mem_append_right _ (.head _), hread⟩

namespace Prog

def Leaves (P : Event E ι ε → Prop) (Q : Except ε α → List (Event E ι ε) → Prop) (t : Nat) :
    Prog E ε α → List (Event E ι ε) → Prop
  | .ret r, h => Q r h
  | .call e k, h => ∀ i r, P ⟨t, e, i, r⟩ → Leaves P Q t (k r) (h ++ [⟨t, e, i, r⟩])

namespace Leaves

variable {P : Event E ι ε → Prop} {Q Q' : Except ε α → List (Event E ι ε) → Prop}
  {R : Except ε β → List (Event E ι ε) → Prop} {t : Nat} {p : Prog E ε α}
  {h : List (Event E ι ε)}

theorem of_forall (hQ : ∀ r h, Q r h) : Leaves P Q t p h := by
  induction p generalizing h with
  | ret r => exact hQ r h
  | call e k ih => exact fun _ r _ => ih r

theorem and (hp : Leaves P Q t p h) (hp' : Leaves P Q' t p h) :
    Leaves P (fun r h => Q r h ∧ Q' r h) t p h := by
  induction p generalizing h with
  | ret r => exact ⟨hp, hp'⟩
  | call e k ih => exact fun i r hP => ih r (hp i r hP) (hp' i r hP)

theorem andThen {f : Except ε α → Prog E ε β} (hp : Leaves P Q t p h)
    (hf : ∀ r h', Q r h' → Leaves P R t (f r) h') : Leaves P R t (p.andThen f) h := by
  induction p generalizing h with
  | ret r => exact hf r h hp
  | call e k ih => exact fun i r hP => ih r (hp i r hP)

theorem bind {f : α → Prog E ε β} (hp : Leaves P Q t p h)
    (hok : ∀ a h', Q (.ok a) h' → Leaves P R t (f a) h')
    (herr : ∀ x h', Q (.error x) h' → R (.error x) h') : Leaves P R t (p >>= f) h := by
  refine hp.andThen fun r h' hQ => ?_
  cases r with
  | ok a => exact hok a h' hQ
  | error x => exact herr x h' hQ

theorem tryCatch {f : ε → Prog E ε α} (hp : Leaves P Q t p h)
    (hok : ∀ a h', Q (.ok a) h' → Q' (.ok a) h')
    (herr : ∀ x h', Q (.error x) h' → Leaves P Q' t (f x) h') :
    Leaves P Q' t (MonadExceptOf.tryCatch p f) h := by
  refine hp.andThen fun r h' hQ => ?_
  cases r with
  | ok a => exact hok a h' hQ
  | error x => exact herr x h' hQ

theorem of_only {S : ∀ {γ : Type}, E γ → Prop} {B : List (Event E ι ε) → Prop}
    (hstep : ∀ {γ : Type} (e : E γ) (i : ι) (r : Except ε γ) (h : List (Event E ι ε)), S e →
      P ⟨t, e, i, r⟩ → B h → B (h ++ [⟨t, e, i, r⟩]))
    (hp : p.Only S) (hB : B h) : Leaves P (fun _ => B) t p h := by
  induction p generalizing h with
  | ret r => exact hB
  | call e k ih => exact fun i r hP => ih r (hp.2 r) (hstep e i r h hp.1 hP hB)

end Leaves

/-- Behind the own events `h`, every statement of `p` is executed where `G` allows it, and `p` ends
with `Q`, as long as the events satisfy `P`. -/
def Meets (P : Event E ι ε → Prop) (G : ∀ {γ : Type}, E γ → List (Event E ι ε) → Prop)
    (Q : Except ε α → List (Event E ι ε) → Prop) (t : Nat) :
    Prog E ε α → List (Event E ι ε) → Prop
  | .ret r, h => Q r h
  | .call e k, h => G e h ∧ ∀ i r, P ⟨t, e, i, r⟩ → Meets P G Q t (k r) (h ++ [⟨t, e, i, r⟩])

namespace Meets

variable {P : Event E ι ε → Prop} {G : ∀ {γ : Type}, E γ → List (Event E ι ε) → Prop}
  {Q Q' : Except ε α → List (Event E ι ε) → Prop} {R : Except ε β → List (Event E ι ε) → Prop}
  {t : Nat} {p : Prog E ε α} {h : List (Event E ι ε)}

theorem ret {r : Except ε α} (hQ : Q r h) : Meets P G Q t (.ret r) h := hQ

theorem mono (hQ : ∀ r h, Q r h → Q' r h) (hp : Meets P G Q t p h) : Meets P G Q' t p h := by
  induction p generalizing h with
  | ret r => exact hQ r h hp
  | call e k ih => exact ⟨hp.1, fun i r hr => ih r (hp.2 i r hr)⟩

theorem await {e : E α} (hG : G e h) (hQ : ∀ i r, P ⟨t, e, i, r⟩ → Q r (h ++ [⟨t, e, i, r⟩])) :
    Meets P G Q t (Prog.await e) h := ⟨hG, hQ⟩

theorem andThen {f : Except ε α → Prog E ε β} (hp : Meets P G Q t p h)
    (hf : ∀ r h', Q r h' → Meets P G R t (f r) h') : Meets P G R t (p.andThen f) h := by
  induction p generalizing h with
  | ret r => exact hf r h hp
  | call e k ih => exact ⟨hp.1, fun i r hr => ih r (hp.2 i r hr)⟩

theorem bind {f : α → Prog E ε β} (hp : Meets P G Q t p h)
    (hok : ∀ a h', Q (.ok a) h' → Meets P G R t (f a) h')
    (herr : ∀ x h', Q (.error x) h' → R (.error x) h') : Meets P G R t (p >>= f) h := by
  refine hp.andThen fun r h' hQ => ?_
  cases r with
  | ok a => exact hok a h' hQ
  | error x => exact herr x h' hQ

theorem await_bind {e : E α} {f : α → Prog E ε β} (hG : G e h)
    (hok : ∀ i a, P ⟨t, e, i, .ok a⟩ → Meets P G R t (f a) (h ++ [⟨t, e, i, .ok a⟩]))
    (herr : ∀ i x, P ⟨t, e, i, .error x⟩ → R (.error x) (h ++ [⟨t, e, i, .error x⟩])) :
    Meets P G R t (Prog.await e >>= f) h := by
  refine ⟨hG, fun i r hr => ?_⟩
  cases r with
  | ok a => exact hok i a hr
  | error x => exact herr i x hr

theorem tryCatch {f : ε → Prog E ε α} (hp : Meets P G Q t p h)
    (hok : ∀ a h', Q (.ok a) h' → Q' (.ok a) h')
    (herr : ∀ x h', Q (.error x) h' → Meets P G Q' t (f x) h') :
    Meets P G Q' t (MonadExceptOf.tryCatch p f) h := by
  refine hp.andThen fun r h' hQ => ?_
  cases r with
  | ok a => exact hok a h' hQ
  | error x => exact herr x h' hQ

theorem of_only {S : ∀ {γ : Type}, E γ → Prop} {B : List (Event E ι ε) → Prop}
    (hstep : ∀ {γ : Type} (e : E γ) (h : List (Event E ι ε)), S e → B h →
      G e h ∧ ∀ i r, P ⟨t, e, i, r⟩ → B (h ++ [⟨t, e, i, r⟩]))
    (hp : p.Only S) (hB : B h) : Meets P G (fun _ => B) t p h := by
  induction p generalizing h with
  | ret r => exact hB
  | call e k ih =>
    obtain ⟨hG, hkeep⟩ := hstep e h hp.1 hB
    exact ⟨hG, fun i r hr => ih r (hp.2 r) (hkeep i r hr)⟩

theorem keep {B : List (Event E ι ε) → Prop} (hkeep : ∀ h ev, B h → B (h ++ [ev]))
    (hp : Meets P G Q t p h) (hB : B h) : Meets P G (fun r h => Q r h ∧ B h) t p h := by
  induction p generalizing h with
  | ret r => exact ⟨hp, hB⟩
  | call e k ih => exact ⟨hp.1, fun i r hr => ih r (hp.2 i r hr) (hkeep h _ hB)⟩

theorem grows (hp : Meets P G Q t p h) : Meets P G (fun r h' => Q r h' ∧ h ⊆ h') t p h :=
  hp.keep (fun _ _ hsub => List.Subset.trans hsub (List.subset_append_left _ _)) (List.Subset.refl h)

theorem forEach {B : List (Event E ι ε) → Prop} {body : α → Prog E ε Unit}
    (hbody : ∀ a h, B h → Meets P G (fun _ => B) t (body a) h) :
    ∀ as h, B h → Meets P G (fun _ => B) t (Prog.forEach body as) h
  | [], _, hB => hB
  | a :: as, h, hB => by
    refine (hbody a h hB).andThen fun r h' hB' => ?_
    cases r with
    | ok _ => exact forEach hbody as h' hB'
    | error x => exact hB'

end Meets

/-- The errors of `p` satisfy `Z`, if those of its statements do. -/
def Throws (Z : ε → Prop) (p : Prog E ε α) : Prop :=
  match p with
  | .ret r => ∀ x, r = .error x → Z x
  | .call _ k => ∀ r, (∀ x, r = .error x → Z x) → (k r).Throws Z

namespace Throws

variable {Z : ε → Prop} {p : Prog E ε α}

theorem pure (a : α) : (Pure.pure a : Prog E ε α).Throws Z := fun _ h => by cases h

theorem throw {x : ε} (h : Z x) : (MonadExceptOf.throw x : Prog E ε α).Throws Z := fun _ hx => by
  cases hx
  exact h

theorem await (e : E α) : (Prog.await e : Prog E ε α).Throws Z := fun _ hr x hx => hr x hx

theorem andThen {f : Except ε α → Prog E ε β} (hp : p.Throws Z)
    (hf : ∀ r, (∀ x, r = .error x → Z x) → (f r).Throws Z) : (p.andThen f).Throws Z := by
  induction p with
  | ret r => exact hf r hp
  | call e k ih => exact fun r hr => ih r (hp r hr)

theorem bind {f : α → Prog E ε β} (hp : p.Throws Z) (hf : ∀ a, (f a).Throws Z) :
    (p >>= f).Throws Z := by
  refine hp.andThen fun r hr => ?_
  cases r with
  | ok a => exact hf a
  | error x => exact fun _ hx => by cases hx; exact hr x rfl

theorem ensure {q : Prog E ε Unit} (hp : p.Throws Z) (hq : q.Throws Z) :
    (p.ensure q).Throws Z := by
  refine hp.andThen fun r hr => hq.andThen fun r' hr' => ?_
  cases r' with
  | ok => exact hr
  | error x => exact fun _ hx => by cases hx; exact hr' x rfl

theorem ignoreError : p.ignoreError.Throws Z := by
  have htrivial : ∀ q : Prog E ε α, (q.andThen fun _ => .ret (.ok ())).Throws Z := by
    intro q
    induction q with
    | ret r => exact fun _ h => by cases h
    | call e k ih => exact fun r _ => ih r
  exact htrivial p

theorem leaves {S : ∀ {γ : Type}, E γ → Prop} {t : Nat} {h : List (Event E ι ε)}
    (hp : p.Throws Z) (honly : p.Only S) :
    Leaves (fun ev => S ev.stmt → ∀ x, ev.result = .error x → Z x)
      (fun r _ => ∀ x, r = .error x → Z x) t p h := by
  induction p generalizing h with
  | ret r => exact hp
  | call e k ih => exact fun i r hr => ih r (hp r (hr honly.1)) (honly.2 r)

end Throws

/-- The values that `p` returns satisfy `V`, whatever its statements answer. -/
def Yields (V : α → Prop) : Prog E ε α → Prop
  | .ret r => ∀ a, r = .ok a → V a
  | .call _ k => ∀ r, Yields V (k r)

namespace Yields

variable {V : α → Prop} {p : Prog E ε α}

theorem pure {a : α} (h : V a) : Yields V (Pure.pure a : Prog E ε α) := fun _ ha => by
  cases ha
  exact h

theorem throw (x : ε) : Yields V (MonadExceptOf.throw x : Prog E ε α) := fun _ h => by cases h

theorem andThen {p : Prog E ε β} {f : Except ε β → Prog E ε α} (hf : ∀ r, Yields V (f r)) :
    Yields V (p.andThen f) := by
  induction p with
  | ret r => exact hf r
  | call e k ih => exact ih

theorem after {p : Prog E ε β} {f : β → Prog E ε α} (hf : ∀ b, Yields V (f b)) :
    Yields V (p >>= f) := by
  refine andThen fun r => ?_
  cases r with
  | ok b => exact hf b
  | error x => exact fun _ h => by cases h

theorem bind {U : β → Prop} {p : Prog E ε β} {f : β → Prog E ε α} (hp : Yields U p)
    (hf : ∀ b, U b → Yields V (f b)) : Yields V (p >>= f) := by
  induction p with
  | ret r =>
    cases r with
    | ok b => exact hf b (hp b rfl)
    | error x => exact fun _ h => by cases h
  | call e k ih => exact fun r => ih r (hp r)

theorem tryCatch {f : ε → Prog E ε α} (hp : Yields V p) (hf : ∀ x, Yields V (f x)) :
    Yields V (MonadExceptOf.tryCatch p f) := by
  induction p with
  | ret r =>
    cases r with
    | ok a => exact hp
    | error x => exact hf x
  | call e k ih => exact fun r => ih r (hp r)

theorem only_bind {S : ∀ {γ : Type}, E γ → Prop} {f : α → Prog E ε β} (hp : Yields V p)
    (honly : p.Only S) (hf : ∀ a, V a → (f a).Only S) : (p >>= f).Only S := by
  induction p with
  | ret r =>
    cases r with
    | ok a => exact hf a (hp a rfl)
    | error x => exact trivial
  | call e k ih => exact ⟨honly.1, fun r => ih r (hp r) (honly.2 r)⟩

end Yields

end Prog

/-! ## Runs -/

namespace Run

variable {σ : Type} [Semantics E ι σ ε] {entry : Moment E ι σ ε → Prog E ε Unit → Prop}
  {c' : Config E ι σ ε} {tr : List (Transition E ι σ ε)} {P : Event E ι ε → Prop}
  {Q : Except ε Unit → List (Event E ι ε) → Prop}

theorem leaves {s : σ} (hentry : ∀ m p t, entry m p → Prog.Leaves P Q t p [])
    (h : Run entry (Config.start s) tr c') (hP : ∀ ev ∈ c'.moment.history, P ev) :
    (∀ ev ∈ c'.moment.history, ev.thread < c'.threads.length) ∧
      ∀ t p, c'.threads[t]? = some p → Prog.Leaves P Q t p (own t c'.moment.history) := by
  generalize hstart : Config.start s = c at h
  induction h with
  | refl =>
    subst hstart
    exact ⟨fun ev hev => absurd hev List.not_mem_nil, fun t p hp => by simp [Config.start] at hp⟩
  | @spawn tr m ts p _ hp ih =>
    obtain ⟨hthreads, hleaves⟩ := ih hP
    refine ⟨fun ev hev => ?_, fun t q hq => ?_⟩
    · rw [List.length_append]
      exact Nat.lt_add_right _ (hthreads ev hev)
    rw [List.getElem?_append] at hq
    split at hq
    · exact hleaves t q hq
    · rename_i hlen
      obtain rfl := List.mem_singleton.mp (List.mem_of_getElem? hq)
      have hnone : own t m.history = [] := by
        refine List.filter_eq_nil_iff.mpr fun ev hev => ?_
        have hlt : ev.thread < ts.length := hthreads ev hev
        simp only [decide_eq_true_eq]
        omega
      rw [hnone]
      exact hentry m q t hp
  | @step tr m ts t β e k i _ hk ih =>
    have hpast : ∀ ev ∈ m.history, P ev := fun ev hev =>
      hP ev (List.mem_append_left _ hev)
    obtain ⟨hthreads, hleaves⟩ := ih hpast
    have hlen : t < ts.length := (List.getElem?_eq_some_iff.mp hk).1
    refine ⟨fun ev hev => ?_, fun t' q hq => ?_⟩
    · rw [List.length_set]
      rcases List.mem_append.mp hev with hev | hev
      · exact hthreads ev hev
      · obtain rfl := List.mem_singleton.mp hev
        exact hlen
    rw [Moment.next_history, own_append]
    by_cases ht : t = t'
    · subst ht
      rw [List.getElem?_set_self hlen] at hq
      cases hq
      rw [own_self]
      exact hleaves t _ hk i _ (hP _ (List.mem_append_right _ (List.mem_singleton.mpr rfl)))
    · rw [List.getElem?_set_ne ht] at hq
      rw [own_of_ne ht, List.append_nil]
      exact hleaves t' q hq

theorem history_threads {s : σ} (h : Run entry (Config.start s) tr c') :
    ∀ ev ∈ c'.moment.history, ev.thread < c'.threads.length :=
  (leaves (P := fun _ => True) (Q := fun _ _ => True)
    (fun _ _ _ _ => Prog.Leaves.of_forall fun _ _ => trivial) h fun _ _ => trivial).1

theorem meets {G : ∀ {γ : Type}, E γ → List (Event E ι ε) → Prop} {s : σ}
    (hentry : ∀ m p t, entry m p → Prog.Meets P G Q t p [])
    (h : Run entry (Config.start s) tr c') (hP : ∀ ev ∈ c'.moment.history, P ev) :
    (∀ t p, c'.threads[t]? = some p → Prog.Meets P G Q t p (own t c'.moment.history)) ∧
      ∀ x ∈ tr, G x.stmt (own x.thread x.pre.history) := by
  generalize hstart : Config.start s = c at h
  induction h with
  | refl =>
    subst hstart
    exact ⟨fun t p hp => by simp [Config.start] at hp, fun x hx => absurd hx List.not_mem_nil⟩
  | @spawn tr m ts p hrun hp ih =>
    obtain ⟨hmeets, htr⟩ := ih hP
    subst hstart
    refine ⟨fun t q hq => ?_, htr⟩
    rw [List.getElem?_append] at hq
    split at hq
    · exact hmeets t q hq
    · obtain rfl := List.mem_singleton.mp (List.mem_of_getElem? hq)
      have hnone : own t m.history = [] := by
        refine List.filter_eq_nil_iff.mpr fun ev hev => ?_
        have hlt : ev.thread < ts.length := history_threads hrun ev hev
        simp only [decide_eq_true_eq]
        omega
      rw [hnone]
      exact hentry m q t hp
  | @step tr m ts t β e k i _ hk ih =>
    obtain ⟨hmeets, htr⟩ := ih fun ev hev => hP ev (List.mem_append_left _ hev)
    have hlen : t < ts.length := (List.getElem?_eq_some_iff.mp hk).1
    have hthread := hmeets t _ hk
    refine ⟨fun t' q hq => ?_, fun x hx => ?_⟩
    · rw [Moment.next_history, own_append]
      by_cases ht : t = t'
      · subst ht
        rw [List.getElem?_set_self hlen] at hq
        cases hq
        rw [own_self]
        exact hthread.2 i _ (hP _ (List.mem_append_right _ (List.mem_singleton.mpr rfl)))
      · rw [List.getElem?_set_ne ht] at hq
        rw [own_of_ne ht, List.append_nil]
        exact hmeets t' q hq
    · rcases List.mem_append.mp hx with hx | hx
      · exact htr x hx
      · obtain rfl := List.mem_singleton.mp hx
        exact hthread.1

end Run

end Interleave
