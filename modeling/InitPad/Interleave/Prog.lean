import Mathlib.Tactic.Common

/-!
# InitPad.Interleave.Prog

Programs whose only effects are atomic statements. `E β` is a signature of statements with a
response of type `β`; a program is a tree of statements, branching on what each of them answered
or on the error it raised. Nothing is executed here: `InitPad.Interleave.Run` interleaves many
programs over one shared state, one statement at a time.

A statement that fails is an ordinary branch (`Except.error`), so `try`, `catch` and `finally` are
program combinators (`Prog.andThen`) and not part of the statement semantics.
-/

namespace Interleave

/-- A program over the statement signature `E`, with errors `ε` and result `α`. -/
inductive Prog (E : Type → Type 1) (ε α : Type) : Type 1 where
  | ret (r : Except ε α)
  | call {β : Type} (e : E β) (k : Except ε β → Prog E ε α)

namespace Prog

variable {E : Type → Type 1} {ε α β γ : Type}

/-- Run `p`, then continue with `f` on its outcome, whether it is a value or an error. -/
def andThen : Prog E ε α → (Except ε α → Prog E ε β) → Prog E ε β
  | .ret r, f => f r
  | .call e k, f => .call e fun r => (k r).andThen f

def returned : Prog E ε α → Bool
  | .ret _ => true
  | .call .. => false

/-- One statement. -/
def await (e : E α) : Prog E ε α := .call e .ret

def onValue (f : α → Prog E ε β) : Except ε α → Prog E ε β
  | .ok a => f a
  | .error x => .ret (.error x)

def onError (h : ε → Prog E ε α) : Except ε α → Prog E ε α
  | .ok a => .ret (.ok a)
  | .error x => h x

instance : Monad (Prog E ε) where
  pure a := .ret (.ok a)
  bind p f := p.andThen (onValue f)

instance : MonadExceptOf ε (Prog E ε) where
  throw x := .ret (.error x)
  tryCatch p h := p.andThen (onError h)

/-- `try p finally q`: the outcome of `p`, unless `q` itself fails. -/
def ensure (p : Prog E ε α) (q : Prog E ε Unit) : Prog E ε α :=
  p.andThen fun r => q.andThen (onValue fun _ => .ret r)

/-- `p` with its errors ignored, as in `p.catch(() => undefined)`. -/
def ignoreError (p : Prog E ε α) : Prog E ε Unit := p.andThen fun _ => .ret (.ok ())

/-- `if (condition) throw x` -/
def refuseIf (condition : Bool) (x : ε) : Prog E ε Unit := .ret (if condition then .error x else .ok ())

/-- A computation without effects. -/
def lift (r : Except ε α) : Prog E ε α := .ret r

/-- The body for every element in order; the first error ends the loop. -/
def forEach (body : α → Prog E ε Unit) : List α → Prog E ε Unit
  | [] => .ret (.ok ())
  | a :: as => (body a).andThen (onValue fun _ => forEach body as)

@[simp] theorem andThen_ret (r : Except ε α) (f : Except ε α → Prog E ε β) :
    (Prog.ret r : Prog E ε α).andThen f = f r := rfl

@[simp] theorem andThen_call (e : E γ) (k : Except ε γ → Prog E ε α)
    (f : Except ε α → Prog E ε β) :
    (Prog.call e k).andThen f = .call e fun r => (k r).andThen f := rfl

theorem andThen_assoc (p : Prog E ε α) (f : Except ε α → Prog E ε β)
    (g : Except ε β → Prog E ε γ) :
    (p.andThen f).andThen g = p.andThen fun r => (f r).andThen g := by
  induction p with
  | ret r => rfl
  | call e k ih => simp only [andThen_call]; congr 1; funext r; exact ih r

theorem andThen_ret_right (p : Prog E ε α) : p.andThen .ret = p := by
  induction p with
  | ret r => rfl
  | call e k ih => simp only [andThen_call]; congr 1; funext r; exact ih r

theorem bind_eq (p : Prog E ε α) (f : α → Prog E ε β) : p >>= f = p.andThen (onValue f) := rfl

theorem bind_assoc (p : Prog E ε α) (f : α → Prog E ε β) (g : β → Prog E ε γ) :
    p >>= f >>= g = p >>= fun a => f a >>= g := by
  simp only [bind_eq, andThen_assoc]
  congr 1
  funext r
  cases r with
  | ok a => rfl
  | error x => rfl

theorem throw_eq (x : ε) : (throw x : Prog E ε α) = .ret (.error x) := rfl

theorem tryCatch_eq (p : Prog E ε α) (h : ε → Prog E ε α) :
    tryCatch p h = p.andThen (onError h) := rfl

/-- A property of programs that holds of a whole when it holds of its parts. -/
structure Compositional (R : ∀ {α : Type}, Prog E ε α → Prop) : Prop where
  ret : ∀ {α : Type} (r : Except ε α), R (.ret r)
  andThen : ∀ {α β : Type} {p : Prog E ε α} {f : Except ε α → Prog E ε β},
    R p → (∀ r, R (f r)) → R (p.andThen f)

namespace Compositional

variable {R : ∀ {α : Type}, Prog E ε α → Prop} (h : Compositional R)

include h

theorem bind {p : Prog E ε α} {f : α → Prog E ε β} (hp : R p) (hf : ∀ a, R (f a)) :
    R (p >>= f) :=
  h.andThen hp fun r => by
    cases r with
    | ok a => exact hf a
    | error x => exact h.ret _

theorem tryCatch {p : Prog E ε α} {f : ε → Prog E ε α} (hp : R p) (hf : ∀ x, R (f x)) :
    R (MonadExceptOf.tryCatch p f) :=
  h.andThen hp fun r => by
    cases r with
    | ok a => exact h.ret _
    | error x => exact hf x

theorem ignoreError {p : Prog E ε α} (hp : R p) : R p.ignoreError :=
  h.andThen hp fun _ => h.ret _

theorem forEach {body : α → Prog E ε Unit} :
    ∀ {as : List α}, (∀ a ∈ as, R (body a)) → R (Prog.forEach body as)
  | [], _ => h.ret _
  | a :: as, ha => h.andThen (ha a List.mem_cons_self) fun r => by
    cases r with
    | ok _ => exact forEach fun b hb => ha b (List.mem_cons_of_mem _ hb)
    | error x => exact h.ret _

end Compositional

/-! ## Programs of certain statements only -/

variable {P : ∀ {γ : Type}, E γ → Prop}

/-- Every statement that the program can reach satisfies `P`. -/
def Only (P : ∀ {γ : Type}, E γ → Prop) : Prog E ε α → Prop
  | .ret _ => True
  | .call e k => P e ∧ ∀ r, (k r).Only P

theorem Only.mono {P' : ∀ {γ : Type}, E γ → Prop} (hP : ∀ {γ : Type} (e : E γ), P e → P' e)
    {p : Prog E ε α} (hp : p.Only P) : p.Only P' := by
  induction p with
  | ret r => trivial
  | call e k ih => exact ⟨hP e hp.1, fun r => ih r (hp.2 r)⟩

theorem Only.ret (r : Except ε α) : (Prog.ret r : Prog E ε α).Only P := trivial

theorem Only.await {e : E α} (h : P e) : (Prog.await e : Prog E ε α).Only P :=
  ⟨h, fun _ => trivial⟩

theorem Only.andThen {p : Prog E ε α} {f : Except ε α → Prog E ε β} (hp : p.Only P)
    (hf : ∀ r, (f r).Only P) : (p.andThen f).Only P := by
  induction p with
  | ret r => exact hf r
  | call e k ih => exact ⟨hp.1, fun r => ih r (hp.2 r)⟩

theorem compositional_only : Compositional (E := E) (ε := ε) fun p => p.Only P :=
  ⟨fun r => .ret r, fun hp hf => hp.andThen hf⟩

theorem Only.compose {R : ∀ {α : Type}, Prog E ε α → Prop} (h : Compositional R)
    (hP : ∀ {γ : Type} (e : E γ), P e → R (Prog.await e)) {p : Prog E ε α} (hp : p.Only P) : R p := by
  induction p with
  | ret r => exact h.ret r
  | call e k ih => exact h.andThen (hP e hp.1) fun r => ih r (hp.2 r)

theorem Only.bind {p : Prog E ε α} {f : α → Prog E ε β} (hp : p.Only P)
    (hf : ∀ a, (f a).Only P) : (p >>= f).Only P := by
  refine hp.andThen fun r => ?_
  cases r with
  | ok a => exact hf a
  | error x => exact .ret _

theorem Only.tryCatch {p : Prog E ε α} {h : ε → Prog E ε α} (hp : p.Only P)
    (hh : ∀ x, (h x).Only P) : (tryCatch p h : Prog E ε α).Only P := by
  refine hp.andThen fun r => ?_
  cases r with
  | ok a => exact .ret _
  | error x => exact hh x

theorem Only.ensure {p : Prog E ε α} {q : Prog E ε Unit} (hp : p.Only P) (hq : q.Only P) :
    (p.ensure q).Only P := by
  refine hp.andThen fun r => hq.andThen fun r' => ?_
  cases r' with
  | ok => exact .ret _
  | error => exact .ret _

theorem Only.ignoreError {p : Prog E ε α} (hp : p.Only P) : p.ignoreError.Only P :=
  hp.andThen fun _ => .ret _

theorem Only.forEach {body : α → Prog E ε Unit} (h : ∀ a, (body a).Only P) :
    ∀ as, (Prog.forEach body as).Only P
  | [] => .ret _
  | a :: as => by
    refine (h a).andThen fun r => ?_
    cases r with
    | ok _ => exact Only.forEach h as
    | error x => exact .ret _

/-! ## Programs over another signature -/

variable {E' : Type → Type 1}

def translate (f : ∀ {β : Type}, E β → E' β) : Prog E ε α → Prog E' ε α
  | .ret r => .ret r
  | .call e k => .call (f e) fun r => (k r).translate f

theorem only_translate {f : ∀ {β : Type}, E β → E' β} {P' : ∀ {γ : Type}, E' γ → Prop}
    (h : ∀ {γ : Type} (e : E γ), P' (f e)) (p : Prog E ε α) : (p.translate f).Only P' := by
  induction p with
  | ret r => trivial
  | call e k ih => exact ⟨h e, ih⟩

variable {f : ∀ {β : Type}, E β → E' β}

@[simp] theorem translate_ret (r : Except ε α) :
    (Prog.ret r : Prog E ε α).translate f = .ret r := rfl

@[simp] theorem translate_pure (a : α) :
    (pure a : Prog E ε α).translate f = pure a := rfl

@[simp] theorem translate_throw (x : ε) :
    (throw x : Prog E ε α).translate f = throw x := rfl

@[simp] theorem translate_await (e : E α) :
    (Prog.await e : Prog E ε α).translate f = .await (f e) := rfl

@[simp] theorem translate_andThen (p : Prog E ε α) (g : Except ε α → Prog E ε β) :
    (p.andThen g).translate f = (p.translate f).andThen fun r => (g r).translate f := by
  induction p with
  | ret r => rfl
  | call e k ih =>
    simp only [translate, andThen_call]
    congr 1
    funext r
    exact ih r

@[simp] theorem translate_bind (p : Prog E ε α) (g : α → Prog E ε β) :
    (p >>= g).translate f = p.translate f >>= fun a => (g a).translate f := by
  rw [bind_eq, translate_andThen, bind_eq]
  congr 1
  funext r
  cases r with
  | ok a => rfl
  | error x => rfl

@[simp] theorem translate_tryCatch (p : Prog E ε α) (g : ε → Prog E ε α) :
    (tryCatch p g).translate f = tryCatch (p.translate f) fun x => (g x).translate f := by
  rw [tryCatch_eq, translate_andThen, tryCatch_eq]
  congr 1
  funext r
  cases r with
  | ok a => rfl
  | error x => rfl

@[simp] theorem translate_ensure (p : Prog E ε α) (q : Prog E ε Unit) :
    (p.ensure q).translate f = (p.translate f).ensure (q.translate f) := by
  rw [ensure, translate_andThen, ensure]
  congr 1
  funext r
  rw [translate_andThen]
  congr 1
  funext r'
  cases r' with
  | ok u => rfl
  | error x => rfl

end Prog

end Interleave
