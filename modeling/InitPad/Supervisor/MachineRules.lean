import InitPad.Supervisor.Updater

/-!
# InitPad.Supervisor.MachineRules

What single statements leave alone, and how `updateOperation` carries the operation from the memory
of the helper to the state file.
-/

namespace InitPad.Supervisor

open Interleave Interleave.Prog

variable {β : Type} {e : Stmt β} {i : MachineInput} {w : Machine} {m m' : MachineMoment}

theorem exec_cases (e : Stmt β) (i : MachineInput) (w : Machine) :
    exec e i w = e.run i w ∨ ∃ message, exec e i w = (.error message, e.failed i w) := by
  simp only [Semantics.exec]
  split
  · split
    · exact .inl rfl
    · exact .inr ⟨_, rfl⟩
  · exact .inl rfl

theorem exec_inProcess (h : e.inProcess = true) : exec e i w = e.run i w := by
  simp only [Semantics.exec]
  split
  · rw [if_pos h]
  · rfl

theorem exec_ok {a : β} (h : (exec e i w).1 = .ok a) : exec e i w = e.run i w := by
  rcases exec_cases e i w with he | ⟨_, he⟩
  · exact he
  · rw [he] at h
    cases h

@[simp] theorem exec_locals (i : MachineInput) (w : Machine) :
    exec Stmt.locals i w = (.ok w.locals, w) := exec_inProcess rfl

theorem keeps_exec {I : Machine → Prop} (hrun : I (e.run i w).2) (hfailed : I (e.failed i w)) :
    I (exec e i w).2 := by
  rcases exec_cases e i w with h | ⟨_, h⟩
  · rw [h]; exact hrun
  · rw [h]; exact hfailed

theorem run_of_ends {a : β} (h : Ends (await e : Updating β) m (.ok a) m') :
    ∃ i, e.run i m.state = (.ok a, m'.state) ∧ m'.history = m.history ++ [⟨0, e, i, .ok a⟩] := by
  obtain ⟨i, hr, hm'⟩ := ends_await.mp h
  refine ⟨i, ?_, ?_⟩
  · rw [hm', Moment.next_state]
    rcases exec_cases e i m.state with he | ⟨_, he⟩
    · rw [he] at hr ⊢
      rw [hr]
    · rw [he] at hr
      cases hr
  · rw [hm', Moment.next_history, ← hr]

theorem ends_liftExcept {α : Type} {r r' : Except String α} :
    Ends (liftExcept r : Updating α) m r' m' ↔ r' = r ∧ m' = m := ends_ret

/-- Statements that write neither the state file nor the memory of `applyPlan`. -/
def Stmt.quiet {γ : Type} : Stmt γ → Bool
  | .saveState _ | .assign _ | .boot => false
  | _ => true

def Stmt.aside {γ : Type} : Stmt γ → Bool
  | .copyToSaved _ | .copyFromSaved _ | .renameSaved _ | .writeOverride _ | .removeOverride
  | .removeSaved _ | .writePlan _ | .removePlan _ => false
  | _ => true

theorem quiet_exec (h : e.quiet = true) :
    (exec e i w).2.state = w.state ∧ (exec e i w).2.locals = w.locals := by
  refine keeps_exec (I := fun w' => w'.state = w.state ∧ w'.locals = w.locals) ?_ ?_
  · cases e with
    | saveState | assign | boot => cases h
    | createLock | writePlan | claimAccepting => simp only [Stmt.run]; split <;> exact ⟨rfl, rfl⟩
    | copyToSaved | copyFromSaved | renameSaved =>
      simp only [Stmt.run]; split <;> exact ⟨rfl, rfl⟩
    | readPlan id =>
      simp only [Stmt.run]
      split
      · exact ⟨rfl, rfl⟩
      · split <;> exact ⟨rfl, rfl⟩
    | _ => exact ⟨rfl, rfl⟩
  · cases e with
    | createLock | writePlan => simp only [Stmt.failed]; split <;> exact ⟨rfl, rfl⟩
    | _ => exact ⟨rfl, rfl⟩

theorem aside_exec (h : e.aside = true) :
    (exec e i w).2.override = w.override ∧ (exec e i w).2.saved = w.saved ∧
      (exec e i w).2.plans = w.plans := by
  refine keeps_exec
    (I := fun w' => w'.override = w.override ∧ w'.saved = w.saved ∧ w'.plans = w.plans) ?_ ?_
  · cases e with
    | copyToSaved | copyFromSaved | renameSaved | writeOverride | removeOverride | removeSaved
    | writePlan | removePlan => cases h
    | createLock | claimAccepting => simp only [Stmt.run]; split <;> exact ⟨rfl, rfl, rfl⟩
    | readPlan id =>
      simp only [Stmt.run]
      split
      · exact ⟨rfl, rfl, rfl⟩
      · split <;> exact ⟨rfl, rfl, rfl⟩
    | _ => exact ⟨rfl, rfl, rfl⟩
  · cases e with
    | copyToSaved | copyFromSaved | renameSaved | writeOverride | removeOverride | removeSaved
    | writePlan | removePlan => cases h
    | createLock => simp only [Stmt.failed]; split <;> exact ⟨rfl, rfl, rfl⟩
    | _ => exact ⟨rfl, rfl, rfl⟩

/-! ## Programs of the helper -/

def Machine.operation? (w : Machine) : Option UpdateOperation := w.state.bind (·.operation)

/-- The operation in memory is written into the state file. -/
def Machine.recorded (w : Machine) (s : SupervisorState) : Machine :=
  { w with state := some { s with operation := w.locals.operation } }

def Machine.patched (w : Machine) (patch : UpdateOperation → UpdateOperation) : Machine :=
  { w with locals := { w.locals with operation := w.locals.operation.map patch } }

/-- A property of the machine as a property of moments. -/
def On (I : Machine → Prop) (m : MachineMoment) : Prop := I m.state

/-- What reading the state and the statements beside the operation keep. -/
structure Framed (I : Machine → Prop) : Prop where
  aside : ∀ {γ : Type} (e : Stmt γ) (i : MachineInput) (w : Machine),
    e.quiet = true → e.aside = true → I w → I (exec e i w).2
  initial : ∀ env w, I w → w.state = none → I { w with state := some (initialState env) }

/-- What recording the operation keeps as well. -/
structure Steady (I : Machine → Prop) : Prop extends Framed I where
  recorded : ∀ w s, I w → w.state = some s → I (w.recorded s)

section Steady

variable {G : Guard Stmt MachineInput Machine} {env : Installation} {I : Machine → Prop}

theorem Framed.await (h : Framed I) {e : Stmt β} (hq : e.quiet = true) (ha : e.aside = true) :
    Keeps G (On I) (Prog.await e : Updating β) :=
  keeps_await fun m i _ hm => h.aside e i m.state hq ha hm

theorem Framed.of_aside (h : Framed I) {α : Type} {p : Updating α}
    (hp : p.Only fun e => e.quiet = true ∧ e.aside = true) : Keeps G (On I) p :=
  hp.compose keeps_compositional fun _ he => h.await he.1 he.2

theorem Framed.loadState (h : Framed I) (hm : On I m) :
    Through G (On I) (fun r m' => On I m' ∧ ∀ s, r = .ok s → m'.state.state = some s)
      (loadState env) m := by
  have hread : ∀ i, On I (m.next 0 .readState i) := fun i => h.aside _ i _ rfl rfl hm
  refine .await_bind hm (fun i found _ hfound => ?_) fun i x _ _ =>
    ⟨hread i, hread i, fun _ h => by cases h⟩
  have hstate : (m.next 0 .readState i).state.state = found := by
    rw [Moment.next_state, (quiet_exec rfl).1]
    rcases exec_cases .readState i m.state with he | ⟨_, he⟩
    · rw [he] at hfound
      exact Except.ok.inj hfound
    · rw [he] at hfound
      cases hfound
  cases found with
  | some state =>
    dsimp only
    split
    · exact .ret (hread i) ⟨hread i, fun s hs => by cases hs; exact hstate⟩
    · exact .ret (hread i) ⟨hread i, fun _ h => by cases h⟩
  | none =>
    have hsave : ∀ j, On I ((m.next 0 .readState i).next 0 (.saveState (initialState env)) j) ∧
        ((exec (Stmt.saveState (initialState env)) j (m.next 0 .readState i).state).1 = .ok () →
          ((m.next 0 .readState i).next 0 (.saveState (initialState env)) j).state.state =
            some (initialState env)) := by
      intro j
      unfold On
      rw [Moment.next_state]
      rcases exec_cases (Stmt.saveState (initialState env)) j (m.next 0 .readState i).state with
        he | ⟨_, he⟩
      · rw [he]
        exact ⟨h.initial env _ (hread i) hstate, fun _ => rfl⟩
      · rw [he]
        exact ⟨hread i, fun h => by cases h⟩
    refine .await_bind (hread i) (fun j a _ ha => ?_) fun j x _ _ =>
      ⟨(hsave j).1, (hsave j).1, fun _ h => by cases h⟩
    exact .ret (hsave j).1 ⟨(hsave j).1, fun s hs => by cases hs; exact (hsave j).2 ha⟩

/-- From the patched memory on, `updateOperation` keeps `I`; when it ends without an error, the
operation in the file is the one in memory. -/
theorem Steady.through_updateOperation (h : Steady I) {A : MachineMoment → Prop}
    {patch : UpdateOperation → UpdateOperation} (hA : ∀ m, On I m → A m) (hm : A m)
    (hpatched : I (m.state.patched patch)) :
    Through G A (fun r m' => On I m' ∧
      (r = .ok () → m'.state.operation? = m'.state.locals.operation))
      (updateOperation env patch) m := by
  have hassign : ∀ i, On I (m.next 0
      (.assign fun l => { l with operation := l.operation.map patch }) i) := fun i => by
    unfold On
    rw [Moment.next_state, exec_inProcess rfl]
    exact hpatched
  refine .await_bind hm (fun i _ _ _ => ?_) fun i _ _ _ => ⟨hA _ (hassign i), hassign i, fun h => by cases h⟩
  refine Through.bind ((h.toFramed.loadState (hassign i)).mono hA fun _ _ _ h => h)
    (fun s m₁ _ ⟨hm₁, hs⟩ => ?_) fun _ _ _ h => ⟨h.1, fun h => by cases h⟩
  have hsame : ∀ j, (m₁.next 0 .locals j).state = m₁.state := fun j => by
    rw [Moment.next_state, exec_locals]
  have hlocals : ∀ j, On I (m₁.next 0 .locals j) := fun j => by
    unfold On
    rw [hsame]
    exact hm₁
  refine .await_bind (hA _ hm₁) (fun j l _ hl => ?_) fun j _ _ _ =>
    ⟨hA _ (hlocals j), hlocals j, fun h => by cases h⟩
  rw [exec_locals] at hl
  cases hl
  have hsave : ∀ k, On I ((m₁.next 0 .locals j).next 0
      (.saveState { s with operation := m₁.state.locals.operation }) k) := by
    intro k
    refine keeps_exec ?_ (hlocals j)
    rw [hsame]
    exact h.recorded _ s hm₁ (hs s rfl)
  refine .await (hA _ (hlocals j)) fun k _ => ⟨hA _ (hsave k), hsave k, fun hok => ?_⟩
  have hsaved := exec_ok hok
  rw [Moment.next_state, hsaved, hsame]
  rfl

theorem Steady.updateOperation (h : Steady I) {patch : UpdateOperation → UpdateOperation}
    (hpatch : ∀ w, I w → I (w.patched patch)) : Keeps G (On I) (updateOperation env patch) :=
  fun _ hm => (h.through_updateOperation (fun _ h => h) hm (hpatch _ hm)).post
    fun _ _ _ h => h.1

theorem Framed.docker (h : Framed I) {command : DockerCommand} :
    Keeps G (On I) (docker command) :=
  keeps_compositional.bind (h.await rfl rfl) fun _ => keeps_compositional.ret _

theorem keeps_runIf {B : MachineMoment → Prop} {c : Bool} {p : Updating Unit} (h : Keeps G B p) :
    Keeps G B (runIf c p) := by
  unfold runIf
  split
  · exact h
  · exact keeps_compositional.ret _

end Steady

theorem aside_awaitHealthy {service : Service} {container : String} :
    ∀ n, (awaitHealthy service container n).Only fun e => e.quiet = true ∧ e.aside = true
  | 0 => .ret _
  | n + 1 => by
    refine .bind (.await ⟨rfl, rfl⟩) fun status => ?_
    split
    · exact .ret _
    · split
      · exact .ret _
      · exact .bind (.await ⟨rfl, rfl⟩) fun _ => aside_awaitHealthy n

theorem aside_waitForService {compose : Compose} {service : Service} :
    (waitForService compose service).Only fun e => e.quiet = true ∧ e.aside = true := by
  refine .bind (.await ⟨rfl, rfl⟩) fun container => ?_
  split
  · exact aside_awaitHealthy 40
  · exact .ret _

end InitPad.Supervisor
