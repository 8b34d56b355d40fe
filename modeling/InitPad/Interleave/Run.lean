import InitPad.Interleave.Prog
import Mathlib.Data.List.Induction
import Mathlib.Data.List.Pairwise

/-!
# InitPad.Interleave.Run

Interleaved execution. `Semantics E ι σ ε` gives every statement its atomic effect on the shared
state `σ`, for an input `ι` that the environment chooses (a clock reading, the answer of an
external service, a fault). A configuration is the state, the history of executed statements and
the pool of threads; a run spawns programs and executes one statement of one thread at a time.

A thread that is never scheduled again is a crashed one, so a safety statement about every run
covers a crash between any two statements.

* `Run`: runs, with the list of their transitions.
* `Run.preserves`: a property of states kept by every transition holds along the run.
* `Config.play`: the executable scheduler; `run_of_plays` turns a schedule into a run.
-/

namespace Interleave

/-- The atomic effect of every statement of the signature `E`. -/
class Semantics (E : Type → Type 1) (ι σ ε : outParam Type) where
  exec : {β : Type} → E β → ι → σ → Except ε β × σ

export Semantics (exec)

/-- One executed statement, with the thread, the input and the response. -/
structure Event (E : Type → Type 1) (ι ε : Type) : Type 1 where
  thread : Nat
  {β : Type}
  stmt : E β
  input : ι
  result : Except ε β

/-- The shared state together with what has been executed so far. -/
structure Moment (E : Type → Type 1) (ι σ ε : Type) : Type 1 where
  state : σ
  history : List (Event E ι ε)

structure Config (E : Type → Type 1) (ι σ ε : Type) : Type 1 where
  moment : Moment E ι σ ε
  threads : List (Prog E ε Unit)

/-- A statement about to be executed by `thread`. -/
structure Transition (E : Type → Type 1) (ι σ ε : Type) : Type 1 where
  pre : Moment E ι σ ε
  thread : Nat
  {β : Type}
  stmt : E β
  input : ι

variable {E : Type → Type 1} {ι σ ε : Type} [Semantics E ι σ ε]

/-- The moment after thread `t` executed `e` with input `i`. -/
def Moment.next {β : Type} (m : Moment E ι σ ε) (t : Nat) (e : E β) (i : ι) : Moment E ι σ ε where
  state := (exec e i m.state).2
  history := m.history ++ [⟨t, e, i, (exec e i m.state).1⟩]

@[simp] theorem Moment.next_state {β : Type} (m : Moment E ι σ ε) (t : Nat) (e : E β) (i : ι) :
    (m.next t e i).state = (exec e i m.state).2 := rfl

@[simp] theorem Moment.next_history {β : Type} (m : Moment E ι σ ε) (t : Nat) (e : E β) (i : ι) :
    (m.next t e i).history = m.history ++ [⟨t, e, i, (exec e i m.state).1⟩] := rfl

namespace Transition

def post (x : Transition E ι σ ε) : Moment E ι σ ε := x.pre.next x.thread x.stmt x.input

def result (x : Transition E ι σ ε) : Except ε x.β := (exec x.stmt x.input x.pre.state).1

/-- What the transition adds to the history. -/
def event (x : Transition E ι σ ε) : Event E ι ε := ⟨x.thread, x.stmt, x.input, x.result⟩

theorem post_history (x : Transition E ι σ ε) : x.post.history = x.pre.history ++ [x.event] := rfl

end Transition

/-- The configuration with an empty pool and history. -/
def Config.start (s : σ) : Config E ι σ ε := ⟨⟨s, []⟩, []⟩

theorem pairwise_cases {α : Type _} {R : α → α → Prop} {l : List α} (h : l.Pairwise R) {x y : α}
    (hx : x ∈ l) (hy : y ∈ l) : x = y ∨ R x y ∨ R y x := by
  by_cases heq : x = y
  · exact .inl heq
  · have hsymm : Std.Symm fun x y => R x y ∨ R y x := ⟨fun _ _ h => h.symm⟩
    have heither : l.Pairwise fun x y => R x y ∨ R y x := h.imp .inl
    exact .inr (heither.forall hx hy heq)

theorem pairwise_getElem? {α : Type _} {R : α → α → Prop} {l : List α} (h : l.Pairwise R)
    {i j : Nat} (hlt : i < j) {x y : α} (hx : l[i]? = some x) (hy : l[j]? = some y) : R x y := by
  obtain ⟨hi, rfl⟩ := List.getElem?_eq_some_iff.mp hx
  obtain ⟨hj, rfl⟩ := List.getElem?_eq_some_iff.mp hy
  exact List.pairwise_iff_getElem.mp h i j hi hj hlt

/-- Runs from `c`. Programs that satisfy `entry` arrive at any moment; the list holds the
transitions in order. -/
inductive Run (entry : Moment E ι σ ε → Prog E ε Unit → Prop) (c : Config E ι σ ε) :
    List (Transition E ι σ ε) → Config E ι σ ε → Prop where
  | refl : Run entry c [] c
  | spawn {tr : List (Transition E ι σ ε)} {m : Moment E ι σ ε} {ts : List (Prog E ε Unit)}
      {p : Prog E ε Unit} :
      Run entry c tr ⟨m, ts⟩ → entry m p → Run entry c tr ⟨m, ts ++ [p]⟩
  | step {tr : List (Transition E ι σ ε)} {m : Moment E ι σ ε} {ts : List (Prog E ε Unit)}
      {t : Nat} {β : Type} {e : E β} {k : Except ε β → Prog E ε Unit} (i : ι) :
      Run entry c tr ⟨m, ts⟩ → ts[t]? = some (.call e k) →
      Run entry c (tr ++ [⟨m, t, e, i⟩]) ⟨m.next t e i, ts.set t (k (exec e i m.state).1)⟩

namespace Run

variable {entry entry' : Moment E ι σ ε → Prog E ε Unit → Prop} {c c' c'' : Config E ι σ ε}
  {tr tr' : List (Transition E ι σ ε)}

theorem trans (h₁ : Run entry c tr c') (h₂ : Run entry c' tr' c'') :
    Run entry c (tr ++ tr') c'' := by
  induction h₂ with
  | refl => simpa using h₁
  | spawn _ hp ih => exact .spawn ih hp
  | step i _ hk ih => rw [← List.append_assoc]; exact .step i ih hk

theorem split {tr₁ tr₂ : List (Transition E ι σ ε)} (h : Run entry c tr c')
    (htr : tr = tr₁ ++ tr₂) : ∃ c₁, Run entry c tr₁ c₁ ∧ Run entry c₁ tr₂ c' := by
  induction h generalizing tr₂ with
  | refl =>
    obtain ⟨rfl, rfl⟩ := List.nil_eq_append_iff.mp htr
    exact ⟨c, .refl, .refl⟩
  | spawn _ hp ih =>
    obtain ⟨c₁, h₁, h₂⟩ := ih htr
    exact ⟨c₁, h₁, .spawn h₂ hp⟩
  | step i hrun hk ih =>
    rcases List.eq_nil_or_concat tr₂ with rfl | ⟨tr₂', x, rfl⟩
    · rw [List.append_nil] at htr
      subst htr
      exact ⟨_, .step i hrun hk, .refl⟩
    · rw [List.concat_eq_append, ← List.append_assoc] at htr
      obtain ⟨htr, hx⟩ := List.append_inj' htr rfl
      obtain ⟨c₁, h₁, h₂⟩ := ih htr
      cases hx
      refine ⟨c₁, h₁, ?_⟩
      rw [List.concat_eq_append]
      exact .step i h₂ hk

theorem moment_of_nil (h : Run entry c tr c') (htr : tr = []) : c'.moment = c.moment := by
  induction h with
  | refl => rfl
  | spawn _ _ ih => exact ih htr
  | step => simp at htr

theorem of_singleton {x : Transition E ι σ ε} (h : Run entry c tr c') (htr : tr = [x]) :
    x.pre = c.moment ∧ c'.moment = x.post := by
  induction h with
  | refl => cases htr
  | spawn _ _ ih => exact ih htr
  | @step tr m ts t β e k i hrun _ _ =>
    obtain ⟨rfl, hx⟩ := List.append_inj' (htr.trans (List.nil_append [x]).symm) rfl
    cases hx
    exact ⟨moment_of_nil hrun rfl, rfl⟩

theorem uncons {x : Transition E ι σ ε} (h : Run entry c (x :: tr) c') :
    x.pre = c.moment ∧ ∃ c₁, c₁.moment = x.post ∧ Run entry c₁ tr c' := by
  have happ : x :: tr = [x] ++ tr := rfl
  obtain ⟨c₁, h₁, h₂⟩ := h.split happ
  obtain ⟨hpre, hpost⟩ := of_singleton h₁ rfl
  exact ⟨hpre, c₁, hpost, h₂⟩

theorem only {P : ∀ {γ : Type}, E γ → Prop} (hentry : ∀ m p, entry m p → p.Only P)
    (hc : ∀ p ∈ c.threads, p.Only P) (h : Run entry c tr c') :
    (∀ p ∈ c'.threads, p.Only P) ∧ ∀ x ∈ tr, P x.stmt := by
  induction h with
  | refl => exact ⟨hc, fun x hx => absurd hx List.not_mem_nil⟩
  | spawn _ hp ih =>
    obtain ⟨hthreads, htr⟩ := ih
    refine ⟨fun q hq => ?_, htr⟩
    rcases List.mem_append.mp hq with hq | hq
    · exact hthreads q hq
    · rw [List.mem_singleton.mp hq]
      exact hentry _ _ hp
  | step i _ hk ih =>
    obtain ⟨hthreads, htr⟩ := ih
    have hcall := hthreads _ (List.mem_of_getElem? hk)
    refine ⟨fun q hq => ?_, fun x hx => ?_⟩
    · rcases List.mem_or_eq_of_mem_set hq with hq | rfl
      · exact hthreads q hq
      · exact hcall.2 _
    · rcases List.mem_append.mp hx with hx | hx
      · exact htr x hx
      · rw [List.mem_singleton.mp hx]
        exact hcall.1

/-- A property of moments kept by every transition of the run that satisfies `ok` holds at the
end when it holds at the start. -/
theorem preserves (P : Moment E ι σ ε → Prop) (ok : Transition E ι σ ε → Prop)
    (hstep : ∀ x, ok x → P x.pre → P x.post) (h : Run entry c tr c') (hok : ∀ x ∈ tr, ok x)
    (hP : P c.moment) : P c'.moment := by
  induction h with
  | refl => exact hP
  | spawn _ _ ih => exact ih hok
  | @step tr m ts t β e k i _ _ ih =>
    have hpre : P m := ih fun x hx => hok x (List.mem_append_left _ hx)
    have hx := hstep ⟨m, t, e, i⟩ (hok _ (by simp)) hpre
    exact hx

theorem preserves_pre (P : Moment E ι σ ε → Prop) (ok : Transition E ι σ ε → Prop)
    (hstep : ∀ x, ok x → P x.pre → P x.post) (h : Run entry c tr c') (hok : ∀ x ∈ tr, ok x)
    (hP : P c.moment) : ∀ x ∈ tr, P x.pre := by
  induction h with
  | refl => simp
  | spawn _ _ ih => exact ih hok
  | @step tr m ts t β e k i hrun _ ih =>
    have hok' : ∀ x ∈ tr, ok x := fun x hx => hok x (List.mem_append_left _ hx)
    intro x hx
    rcases List.mem_append.mp hx with hx | hx
    · exact ih hok' x hx
    · obtain rfl := List.mem_singleton.mp hx
      exact preserves P ok hstep hrun hok' hP

/-- What a transition leaves behind, and all later ones keep, holds before each of the later ones
and at the end. -/
theorem pairwise (R : Transition E ι σ ε → Moment E ι σ ε → Prop) (ok : Transition E ι σ ε → Prop)
    (hleaves : ∀ x, ok x → R x x.post) (hkeeps : ∀ x y, ok y → R x y.pre → R x y.post)
    (h : Run entry c tr c') (hok : ∀ x ∈ tr, ok x) :
    (tr.Pairwise fun x y => R x y.pre) ∧ ∀ x ∈ tr, R x c'.moment := by
  induction h with
  | refl => exact ⟨List.Pairwise.nil, fun x hx => absurd hx List.not_mem_nil⟩
  | spawn _ _ ih => exact ih hok
  | @step tr m ts t β e k i _ _ ih =>
    obtain ⟨hpairs, hend⟩ := ih fun x hx => hok x (List.mem_append_left _ hx)
    have hlast : ok ⟨m, t, e, i⟩ := hok _ (by simp)
    refine ⟨List.pairwise_append.mpr ⟨hpairs, List.pairwise_singleton _ _, ?_⟩, ?_⟩
    · intro x hx y hy
      obtain rfl := List.mem_singleton.mp hy
      exact hend x hx
    · intro x hx
      rcases List.mem_append.mp hx with hx | hx
      · exact hkeeps x ⟨m, t, e, i⟩ hlast (hend x hx)
      · obtain rfl := List.mem_singleton.mp hx
        exact hleaves ⟨m, t, e, i⟩ hlast

theorem origin {α : Type _} (A : Moment E ι σ ε → α → Prop) (S : Transition E ι σ ε → α → Prop)
    (ok : Transition E ι σ ε → Prop) (hstep : ∀ x, ok x → ∀ a, A x.post a → A x.pre a ∨ S x a)
    (h : Run entry c tr c') (hok : ∀ x ∈ tr, ok x) (hc : ∀ a, ¬ A c.moment a) :
    (∀ a, A c'.moment a → ∃ z ∈ tr, S z a) ∧
      ∀ tr₁ x tr₂, tr = tr₁ ++ x :: tr₂ → ∀ a, A x.pre a → ∃ z ∈ tr₁, S z a := by
  induction h with
  | refl =>
    refine ⟨fun a ha => absurd ha (hc a), fun tr₁ x tr₂ htr => ?_⟩
    simp at htr
  | spawn _ _ ih => exact ih hok
  | @step tr m ts t β e k i _ _ ih =>
    obtain ⟨hend, hbefore⟩ := ih fun x hx => hok x (List.mem_append_left _ hx)
    refine ⟨fun a ha => ?_, fun tr₁ x tr₂ htr a ha => ?_⟩
    · rcases hstep ⟨m, t, e, i⟩ (hok _ (by simp)) a ha with hpre | hS
      · obtain ⟨z, hz, hSz⟩ := hend a hpre
        exact ⟨z, List.mem_append_left _ hz, hSz⟩
      · exact ⟨_, List.mem_append_right _ (.head _), hS⟩
    · rcases List.eq_nil_or_concat tr₂ with rfl | ⟨tr₂', y, rfl⟩
      · obtain ⟨rfl, hx⟩ := List.append_inj' htr rfl
        cases hx
        exact hend a ha
      · rw [List.concat_eq_append, ← List.cons_append, ← List.append_assoc] at htr
        obtain ⟨rfl, -⟩ := List.append_inj' htr rfl
        exact hbefore tr₁ x tr₂' rfl a ha

theorem history_eq (h : Run entry c tr c') :
    c'.moment.history = c.moment.history ++ tr.map Transition.event := by
  induction h with
  | refl => simp
  | spawn _ _ ih => exact ih
  | step i _ _ ih => rw [Moment.next_history, ih, List.map_append, List.append_assoc]; rfl

theorem history_prefix (h : Run entry c tr c') :
    (tr.Pairwise fun x y => x.post.history <+: y.pre.history) ∧
      ∀ x ∈ tr, x.post.history <+: c'.moment.history :=
  h.pairwise (fun x m => x.post.history <+: m.history) (fun _ => True)
    (fun _ _ => List.prefix_refl _)
    (fun _ y _ hpre => hpre.trans (List.prefix_append y.pre.history [y.event]))
    fun _ _ => trivial

theorem mem_history {x : Transition E ι σ ε} {ev : Event E ι ε} (h : Run entry c tr c')
    (hx : x ∈ tr) (hev : ev ∈ x.pre.history) :
    ev ∈ c.moment.history ∨ ∃ z ∈ tr, z.event = ev := by
  obtain ⟨tr₁, tr₂, rfl⟩ := List.append_of_mem hx
  obtain ⟨c₁, h₁, h₂⟩ := h.split rfl
  rw [h₂.uncons.1, h₁.history_eq] at hev
  rcases List.mem_append.mp hev with hev | hev
  · exact .inl hev
  · obtain ⟨z, hz, hevent⟩ := List.mem_map.mp hev
    exact .inr ⟨z, List.mem_append_left _ hz, hevent⟩

/-- An event that a transition has not seen yet, and a later one has, is its own or comes from a
transition in between. -/
theorem mem_after {s : σ} {R : Transition E ι σ ε → Transition E ι σ ε → Prop}
    (h : Run entry (Config.start s) tr c') (hR : tr.Pairwise R) {x y : Transition E ι σ ε}
    (hx : x ∈ tr) (hy : y ∈ tr) {ev : Event E ι ε} (hev : ev ∈ y.pre.history)
    (hnew : ev ∉ x.pre.history) : ev = x.event ∨ ∃ z ∈ tr, z.event = ev ∧ R x z := by
  rcases h.mem_history hy hev with hnil | ⟨z, hz, rfl⟩
  · exact absurd hnil List.not_mem_nil
  rcases pairwise_cases (h.history_prefix.1.and hR) hx hz with rfl | ⟨-, hlater⟩ | ⟨hbefore, -⟩
  · exact .inl rfl
  · exact .inr ⟨z, hz, rfl, hlater⟩
  · refine absurd (hbefore.subset ?_) hnew
    rw [z.post_history]
    exact List.mem_append_right _ (.head _)

end Run

/-! ## The executable scheduler -/

namespace Config

/-- The next statement of thread `t`. -/
def step? (c : Config E ι σ ε) (t : Nat) (i : ι) :
    Option (Transition E ι σ ε × Config E ι σ ε) :=
  match c.threads[t]? with
  | some (.call e k) =>
    some (⟨c.moment, t, e, i⟩,
      ⟨c.moment.next t e i, c.threads.set t (k (exec e i c.moment.state).1)⟩)
  | _ => none

/-- Execute the schedule: which thread runs next, and with which input. -/
def play (c : Config E ι σ ε) : List (Nat × ι) →
    Option (List (Transition E ι σ ε) × Config E ι σ ε)
  | [] => some ([], c)
  | (t, i) :: rest =>
    (c.step? t i).bind fun (x, c') => (c'.play rest).map fun (tr, c'') => (x :: tr, c'')

/-- Add the programs of `ps` to the pool. -/
def spawnAll (c : Config E ι σ ε) (ps : List (Prog E ε Unit)) : Config E ι σ ε :=
  ⟨c.moment, c.threads ++ ps⟩

/-- The schedule can be followed from `c`, and `check` holds of its transitions and its end. -/
def plays (c : Config E ι σ ε) (s : List (Nat × ι))
    (check : List (Transition E ι σ ε) → Config E ι σ ε → Bool) : Bool :=
  (c.play s).any fun (tr, c') => check tr c'

end Config

variable {entry : Moment E ι σ ε → Prog E ε Unit → Prop} {c c' : Config E ι σ ε}

theorem run_of_step? {t : Nat} {i : ι} {x : Transition E ι σ ε} (h : c.step? t i = some (x, c')) :
    Run entry c [x] c' := by
  obtain ⟨m, ts⟩ := c
  unfold Config.step? at h
  split at h
  · next e k hk =>
    cases h
    exact Run.step i .refl hk
  · cases h

theorem run_of_play {s : List (Nat × ι)} {tr : List (Transition E ι σ ε)}
    (h : c.play s = some (tr, c')) : Run entry c tr c' := by
  induction s generalizing c tr with
  | nil => cases h; exact .refl
  | cons ti rest ih =>
    obtain ⟨t, i⟩ := ti
    simp only [Config.play, Option.bind_eq_some_iff, Option.map_eq_some_iff] at h
    obtain ⟨⟨x, c₁⟩, hx, ⟨tr', c₂⟩, hrest, heq⟩ := h
    cases heq
    exact (run_of_step? hx).trans (ih hrest)

theorem run_spawnAll {ps : List (Prog E ε Unit)} (h : ∀ p ∈ ps, entry c.moment p) :
    Run entry c [] (c.spawnAll ps) := by
  obtain ⟨m, ts⟩ := c
  induction ps using List.reverseRecOn with
  | nil => simpa [Config.spawnAll] using Run.refl
  | append_singleton ps p ih =>
    have h' := ih fun q hq => h q (List.mem_append_left _ hq)
    have := Run.spawn h' (h p (by simp))
    simpa [Config.spawnAll, List.append_assoc] using this

theorem run_of_plays (c : Config E ι σ ε) (ps : List (Prog E ε Unit)) (s : List (Nat × ι))
    (check : List (Transition E ι σ ε) → Config E ι σ ε → Bool)
    (hps : ∀ p ∈ ps, entry c.moment p) (h : (c.spawnAll ps).plays s check = true) :
    ∃ (tr : List (Transition E ι σ ε)) (c' : Config E ι σ ε),
      Run entry c tr c' ∧ check tr c' = true := by
  unfold Config.plays at h
  cases hp : (c.spawnAll ps).play s with
  | none => rw [hp] at h; cases h
  | some r =>
    obtain ⟨tr, c'⟩ := r
    rw [hp] at h
    exact ⟨tr, c', (run_spawnAll hps).trans (run_of_play hp), h⟩

end Interleave
