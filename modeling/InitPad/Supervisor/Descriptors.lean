import InitPad.Supervisor.MachineRules

/-!
# InitPad.Supervisor.Descriptors

Which override recovery puts back, and which override its `docker compose up` commands use, after
`applyPlan` was stopped anywhere.
-/

namespace InitPad.Supervisor

open Interleave Interleave.Prog

structure Accepted (id : Id) (w : Machine) : Prop where
  operation : ∃ s o, w.state = some s ∧ s.operation = some o ∧ o.id = id ∧
    o.status = .accepted ∧ o.stage = .accepted
  fresh : w.saved id = none
  started : w.locals = {}

def Stmt.composeUp {β : Type} : Stmt β → Option (Compose × List Service)
  | .docker (.up compose services) => some (compose, services)
  | _ => none

/-- The `docker compose up` commands that were issued so far. -/
def ups (m : MachineMoment) : List (Compose × List Service) :=
  m.history.filterMap fun ev => ev.stmt.composeUp

/-- Between `m` and `m'` the override has become `before` again, and every `docker compose up` has
used an override exactly if there was one before. -/
def RestoresDescriptors (before : Option String) (m m' : MachineMoment) : Prop :=
  m'.state.override = before ∧ ∀ issued, ups m' = ups m ++ issued →
    ∀ up ∈ issued, ComposeFile.override ∈ up.1.files ↔ before.isSome = true

/-- What the machine is left with: the saved copy, and the operation not stopped at the stage that
replaces the Supervisor. -/
def Restorable (w : Machine) (id : Id) : Prop :=
  (w.saved id).isSome = true ∧ ∀ o, w.operation? = some o → o.stage ≠ .supervisor

section Held

variable {env : Installation} {id : Id} {before : Option String}

/-- The helper has not reached a stage that counts as changed. -/
structure Before (id : Id) (before : Option String) (w : Machine) : Prop where
  durable : ∀ o, w.operation? = some o → o.id = id ∧ o.stage.changed = false
  locals : ∀ o, w.locals.operation = some o → o.id = id ∧ o.stage.changed = false
  override : w.override = before
  fresh : w.saved id = none

/-- The previous override is saved, or its copy was removed again. -/
structure After (id : Id) (before : Option String) (w : Machine) : Prop where
  durable : ∀ o, w.operation? = some o → o.id = id
  locals : ∀ o, w.locals.operation = some o → o.id = id
  saved : w.saved id = none ∨ w.saved id = before

/-- What recovery finds. -/
structure Held (id : Id) (before : Option String) (w : Machine) : Prop where
  durable : ∀ o, w.operation? = some o → o.id = id
  locals : ∀ o, w.locals.operation = some o → o.id = id
  saved : ∀ o, w.operation? = some o → o.status.busy = true → o.stage.changed = true →
    w.saved id = none ∨ w.saved id = before

theorem Before.held {w : Machine} (h : Before id before w) : Held id before w where
  durable o ho := (h.durable o ho).1
  locals o ho := (h.locals o ho).1
  saved o ho _ hchanged := by
    rw [(h.durable o ho).2] at hchanged
    cases hchanged

theorem After.held {w : Machine} (h : After id before w) : Held id before w :=
  ⟨h.durable, h.locals, fun _ _ _ _ => h.saved⟩

/-! ## What the statements keep -/

def Stmt.copiesOverride {β : Type} : Stmt β → Bool
  | .copyToSaved _ => true
  | _ => false

theorem saved_exec (id : Id) {β : Type} {e : Stmt β} {i : MachineInput} {w : Machine}
    (h : e.copiesOverride = false) :
    (exec e i w).2.saved id = w.saved id ∨ (exec e i w).2.saved id = none := by
  have hremoved : ∀ id', withFile w.saved id' none id = w.saved id ∨
      withFile w.saved id' none id = none := by
    intro id'
    by_cases hid : id = id'
    · exact .inr (if_pos hid)
    · exact .inl (if_neg hid)
  by_cases ha : e.aside = true
  · exact .inl (congrFun (aside_exec ha).2.1 id)
  · refine keeps_exec (I := fun w' => w'.saved id = w.saved id ∨ w'.saved id = none) ?_ ?_
    · cases e with
      | copyToSaved => cases h
      | removeSaved id' => exact hremoved id'
      | renameSaved id' =>
        simp only [Stmt.run]
        split
        · exact .inl rfl
        · exact hremoved id'
      | copyFromSaved | writePlan => simp only [Stmt.run]; split <;> exact .inl rfl
      | writeOverride | removeOverride | removePlan => exact .inl rfl
      | _ => exact absurd rfl ha
    · cases e with
      | copyToSaved => cases h
      | writePlan => simp only [Stmt.failed]; split <;> exact .inl rfl
      | removeSaved | renameSaved | copyFromSaved | writeOverride | removeOverride | removePlan =>
        exact .inl rfl
      | _ => exact absurd rfl ha

theorem operation?_quiet {β : Type} {e : Stmt β} {i : MachineInput} {w : Machine}
    (h : e.quiet = true) : (exec e i w).2.operation? = w.operation? := by
  unfold Machine.operation?
  rw [(quiet_exec h).1]

theorem after_exec {β : Type} {e : Stmt β} {i : MachineInput} {w : Machine}
    (hq : e.quiet = true) (hc : e.copiesOverride = false) (h : After id before w) :
    After id before (exec e i w).2 where
  durable o ho := h.durable o (by rwa [operation?_quiet hq] at ho)
  locals o ho := h.locals o (by rwa [(quiet_exec hq).2] at ho)
  saved := by
    rcases saved_exec id (i := i) (w := w) hc with hs | hs
    · rw [hs]; exact h.saved
    · exact .inl hs

theorem held_exec {β : Type} {e : Stmt β} {i : MachineInput} {w : Machine}
    (hq : e.quiet = true) (hc : e.copiesOverride = false) (h : Held id before w) :
    Held id before (exec e i w).2 where
  durable o ho := h.durable o (by rwa [operation?_quiet hq] at ho)
  locals o ho := h.locals o (by rwa [(quiet_exec hq).2] at ho)
  saved o ho hbusy hchanged := by
    rw [operation?_quiet hq] at ho
    rcases saved_exec id (i := i) (w := w) hc with hs | hs
    · rw [hs]; exact h.saved o ho hbusy hchanged
    · exact .inl hs

theorem before_exec {β : Type} {e : Stmt β} {i : MachineInput} {w : Machine}
    (hq : e.quiet = true) (ha : e.aside = true) (h : Before id before w) :
    Before id before (exec e i w).2 where
  durable o ho := h.durable o (by rwa [operation?_quiet hq] at ho)
  locals o ho := h.locals o (by rwa [(quiet_exec hq).2] at ho)
  override := (aside_exec ha).1.trans h.override
  fresh := (congrFun (aside_exec ha).2.1 id).trans h.fresh

theorem not_copiesOverride_of_aside {β : Type} {e : Stmt β} (h : e.aside = true) :
    e.copiesOverride = false := by
  cases e with
  | copyToSaved => cases h
  | _ => rfl

theorem steady_before : Steady (Before id before) where
  aside e i w hq ha h := before_exec hq ha h
  initial _ w h _ := ⟨fun _ ho => (by cases ho), h.locals, h.override, h.fresh⟩
  recorded w s h _ := ⟨h.locals, h.locals, h.override, h.fresh⟩

theorem steady_after : Steady (After id before) where
  aside e i w hq ha h := after_exec hq (not_copiesOverride_of_aside ha) h
  initial _ w h _ := ⟨fun _ ho => (by cases ho), h.locals, h.saved⟩
  recorded w s h _ := ⟨h.locals, h.locals, h.saved⟩

/-! ## What the helper keeps -/

theorem after_patched {patch : UpdateOperation → UpdateOperation} (hid : ∀ o, (patch o).id = o.id)
    (w : Machine) (h : After id before w) : After id before (w.patched patch) where
  durable := h.durable
  locals o ho := by
    obtain ⟨o', ho', rfl⟩ := Option.map_eq_some_iff.mp ho
    exact (hid o').trans (h.locals o' ho')
  saved := h.saved

theorem keeps_after_quiet {β : Type} {e : Stmt β} (hq : e.quiet = true)
    (hc : e.copiesOverride = false) : Keeps anyStep (On (After id before)) (await e : Updating β) :=
  keeps_await fun _ _ _ hm => after_exec hq hc hm

theorem keeps_after_switchService {compose : Compose} {stage : UpdateStage} {message : String}
    {service : Service} :
    Keeps anyStep (On (After id before)) (switchService env compose stage message service) :=
  keeps_compositional.bind
    (steady_after.updateOperation (after_patched fun _ => rfl)) fun _ =>
    keeps_compositional.bind steady_after.toFramed.docker fun _ => steady_after.toFramed.of_aside aside_waitForService

theorem keeps_after_recordCompletion {manifest : PlatformReleaseManifest} :
    Keeps anyStep (On (After id before)) (recordCompletion manifest) := by
  intro m hm
  have hlocals : ∀ i, On (After id before) (m.next 0 .locals i) := fun i => after_exec rfl rfl hm
  refine .await_bind hm (fun i l _ hl => ?_) fun i _ _ _ => ⟨hlocals i, hlocals i⟩
  rw [exec_locals] at hl
  cases hl
  have hsave : ∀ j state, state.operation = m.state.locals.operation.map (fun o => { o with
      status := .succeeded
      stage := .completed
      message := s!"InitPad {manifest.version} installed successfully" }) →
      On (After id before) ((m.next 0 .locals i).next 0 (.saveState state) j) := by
    intro j state hstate
    refine keeps_exec ⟨fun o ho => ?_, (hlocals i).locals, (hlocals i).saved⟩ (hlocals i)
    rw [show state.operation = some o from ho] at hstate
    obtain ⟨o', ho', rfl⟩ := Option.map_eq_some_iff.mp hstate.symm
    exact hm.locals o' ho'
  exact .await (hlocals i) fun j _ => ⟨hsave j _ rfl, hsave j _ rfl⟩

theorem keeps_after_switchRelease {installRoot : String} {hadOverride : Bool}
    {manifest : PlatformReleaseManifest} :
    Keeps anyStep (On (After id before)) (switchRelease env id installRoot hadOverride manifest) := by
  have hbind : ∀ {α β : Type} {p : Updating α} {f : α → Updating β},
      Keeps anyStep (On (After id before)) p → (∀ a, Keeps anyStep (On (After id before)) (f a)) →
        Keeps anyStep (On (After id before)) (p >>= f) := keeps_compositional.bind
  have hupdate : ∀ {patch : UpdateOperation → UpdateOperation}, (∀ o, (patch o).id = o.id) →
      Keeps anyStep (On (After id before)) (updateOperation env patch) :=
    fun hid => steady_after.updateOperation (after_patched hid)
  refine hbind (keeps_after_quiet rfl rfl) fun _ => hbind (hupdate fun _ => rfl) fun _ =>
    hbind steady_after.toFramed.docker fun _ => hbind steady_after.toFramed.docker fun _ =>
    hbind (hupdate fun _ => rfl) fun _ => hbind steady_after.toFramed.docker fun _ =>
    hbind steady_after.toFramed.docker fun _ => hbind steady_after.toFramed.docker fun _ =>
    hbind (hupdate fun _ => rfl) fun _ => hbind (keeps_after_quiet rfl rfl) fun _ =>
    hbind keeps_after_switchService fun _ => hbind keeps_after_switchService fun _ =>
    hbind keeps_after_switchService fun _ => hbind keeps_after_recordCompletion fun _ => ?_
  exact keeps_after_quiet rfl rfl

theorem keeps_held_quiet {β : Type} {e : Stmt β} (hq : e.quiet = true)
    (hc : e.copiesOverride = false) : Keeps anyStep (On (Held id before)) (await e : Updating β) :=
  keeps_await fun _ _ _ hm => held_exec hq hc hm

theorem keeps_held_restoreOverride {l : Locals} :
    Keeps anyStep (On (Held id before)) (restoreOverride l) := by
  unfold restoreOverride
  split
  · split
    · exact keeps_compositional.ignoreError (keeps_held_quiet rfl rfl)
    · exact keeps_held_quiet rfl rfl
  · exact keeps_compositional.ret _

theorem keeps_held_recordRollBack {l : Locals} {error : String}
    (hl : ∀ o, l.operation = some o → o.id = id) :
    Keeps anyStep (On (Held id before)) (recordRollBack l error) := by
  unfold recordRollBack
  split
  · rename_i previous operation _ ho
    refine keeps_compositional.ignoreError (keeps_await fun m j _ hm => ?_)
    refine keeps_exec ⟨fun o h => ?_, hm.locals, fun o h hbusy => ?_⟩ hm
    · cases h
      exact hl operation ho
    · cases h
      cases hbusy
  · exact keeps_compositional.ret _

theorem keeps_held_rollBack {error : String} :
    Keeps anyStep (On (Held id before)) (rollBack error) := by
  intro m hm
  have hlocals : ∀ i, On (Held id before) (m.next 0 .locals i) := fun i => held_exec rfl rfl hm
  refine .await_bind hm (fun i l _ hl => ?_) fun i _ _ _ => ⟨hlocals i, hlocals i⟩
  rw [exec_locals] at hl
  cases hl
  have hcontainers : Keeps anyStep (On (Held id before)) (restoreContainers m.state.locals) :=
    keeps_runIf (keeps_compositional.ignoreError
      (keeps_compositional.bind (keeps_held_quiet rfl rfl) fun _ => keeps_compositional.ret _))
  have hrest : Keeps anyStep (On (Held id before)) (do
      restoreOverride m.state.locals
      recordRollBack m.state.locals error
      restoreContainers m.state.locals
      throw error : Updating Unit) :=
    keeps_compositional.bind keeps_held_restoreOverride fun _ =>
    keeps_compositional.bind (keeps_held_recordRollBack hm.locals) fun _ =>
    keeps_compositional.bind hcontainers fun _ => keeps_compositional.ret _
  exact hrest _ (hlocals i)

theorem keeps_held_cleanUp {planId : Id} : Keeps anyStep (On (Held id before)) (cleanUp planId) := by
  refine keeps_compositional.bind (keeps_held_quiet rfl rfl) fun _ =>
    keeps_compositional.bind (keeps_await fun _ _ _ hm => held_exec rfl rfl hm) fun l =>
      keeps_compositional.bind ?_ fun _ => keeps_held_quiet rfl rfl
  cases l.previousOverride with
  | some copy => exact keeps_held_quiet rfl rfl
  | none => exact keeps_compositional.ret _

/-! ## `applyPlan` -/

theorem before_assign {f : Locals → Locals} {w : Machine} {i : MachineInput}
    (h : Before id before w)
    (hf : ∀ o, (f w.locals).operation = some o → o.id = id ∧ o.stage.changed = false) :
    Before id before (exec (Stmt.assign f) i w).2 := by
  rw [exec_inProcess rfl]
  exact ⟨h.durable, hf, h.override, h.fresh⟩

theorem keeps_before_assign {f : Locals → Locals}
    (hf : ∀ l, (f l).operation = l.operation ∨ (f l).operation = none) :
    Keeps anyStep (On (Before id before)) (await (.assign f) : Updating Unit) := by
  refine keeps_await fun m i _ hm => before_assign hm fun o ho => ?_
  rcases hf m.state.locals with h | h
  · exact hm.locals o (h ▸ ho)
  · rw [h] at ho
    cases ho

theorem through_before {α β : Type} {p : Updating α} {f : α → Updating β} {m : MachineMoment}
    (hp : Keeps anyStep (On (Before id before)) p) (hm : On (Before id before) m)
    (hok : ∀ a m', On (Before id before) m' →
      Through anyStep (On (Held id before)) (fun _ => On (Held id before)) (f a) m') :
    Through anyStep (On (Held id before)) (fun _ => On (Held id before)) (p >>= f) m :=
  hp.through_bind hm (fun _ h => h.held) hok fun _ _ h => h.held

theorem keeps_after_assign {f : Locals → Locals} (hf : ∀ l, (f l).operation = l.operation) :
    Keeps anyStep (On (After id before)) (await (.assign f) : Updating Unit) := by
  refine keeps_await fun m i _ hm => ?_
  unfold On
  rw [Moment.next_state, exec_inProcess rfl]
  exact ⟨hm.durable, fun o ho => hm.locals o ((hf _).symm.trans ho), hm.saved⟩

theorem through_copyToSaved {hadOverride : Bool} {m : MachineMoment}
    (hm : On (Before id before) m) (hhad : hadOverride = before.isSome) :
    Through anyStep (On (Held id before)) (fun r m' => On (Held id before) m' ∧
        (r = .ok () → On (After id before) m')) (runIf hadOverride (await (.copyToSaved id))) m := by
  unfold runIf
  split
  · rename_i hcopy
    obtain ⟨text, htext⟩ := Option.isSome_iff_exists.mp (hhad ▸ hcopy)
    refine .await hm.held fun i _ => ?_
    have hnext : Held id before (m.next 0 (.copyToSaved id) i).state ∧
        ((exec (Stmt.copyToSaved id) i m.state).1 = .ok () →
          After id before (m.next 0 (.copyToSaved id) i).state) := by
      rw [Moment.next_state]
      rcases exec_cases (.copyToSaved id) i m.state with he | ⟨_, he⟩
      · have hrun : (Stmt.copyToSaved id).run i m.state =
            (.ok (), { m.state with saved := withFile m.state.saved id (some text) }) := by
          simp only [Stmt.run, hm.override, htext]
        rw [he, hrun]
        have hafter : After id before
            { m.state with saved := withFile m.state.saved id (some text) } :=
          ⟨fun o ho => (hm.durable o ho).1, fun o ho => (hm.locals o ho).1,
            .inr ((withFile_self _ _ _).trans htext.symm)⟩
        exact ⟨hafter.held, fun _ => hafter⟩
      · rw [he]
        refine ⟨⟨fun o ho => (hm.durable o ho).1, fun o ho => (hm.locals o ho).1, ?_⟩, fun h => by cases h⟩
        intro o ho _ hchanged
        rw [(hm.durable o ho).2] at hchanged
        cases hchanged
    exact ⟨hnext.1, hnext⟩
  · exact .ret hm.held ⟨hm.held, fun _ =>
      ⟨fun o ho => (hm.durable o ho).1, fun o ho => (hm.locals o ho).1, .inl hm.fresh⟩⟩

theorem through_applyVerified {m : MachineMoment} (hm : On (Before id before) m) :
    Through anyStep (On (Held id before)) (fun _ => On (Held id before)) (applyVerified env id) m := by
  have hheld : ∀ m, On (Before id before) m → On (Held id before) m := fun _ h => h.held
  have hquiet : ∀ {β : Type} {e : Stmt β} {i : MachineInput} {m : MachineMoment},
      e.quiet = true → e.aside = true → On (Before id before) m →
        On (Before id before) (m.next 0 e i) := fun hq ha h => before_exec hq ha h
  refine .await_bind hm.held (fun i plan _ hplan => ?_) fun i _ _ _ =>
    ⟨(hquiet rfl rfl hm).held, (hquiet rfl rfl hm).held⟩
  refine Through.bind (R := fun _ => On (Held id before))
    ((steady_before.toFramed.loadState (hquiet rfl rfl hm)).mono hheld fun _ _ _ h => h)
    (fun state m₁ _ ⟨hm₁, hstate⟩ => ?_) fun _ _ _ h => h.1.held
  have hdurable : ∀ o, state.operation = some o → o.id = id ∧ o.stage.changed = false := by
    intro o ho
    refine hm₁.durable o ?_
    rw [Machine.operation?, hstate state rfl]
    exact ho
  have hassign : ∀ j, On (Before id before) (m₁.next 0 (.assign fun l =>
      { l with operation := state.operation, previousState := some state }) j) :=
    fun j => before_assign hm₁ hdurable
  refine .await_bind hm₁.held (fun j _ _ _ => ?_) fun j _ _ _ => ⟨(hassign j).held, (hassign j).held⟩
  split
  · exact .ret (hassign j).held (hassign j).held
  · rename_i operation hoperation
    have hid : operation.id = id := (hdurable operation hoperation).1
    split
    · refine through_before (steady_before.toFramed.await rfl rfl) (hassign j) (fun _ m₂ hm₂ => ?_)
      refine through_before (keeps_before_assign fun _ => .inl rfl) hm₂ (fun _ m₃ hm₃ => ?_)
      refine .await_bind hm₃.held (fun k hadOverride _ hhad => ?_) fun k _ _ _ =>
        ⟨(hquiet rfl rfl hm₃).held, (hquiet rfl rfl hm₃).held⟩
      have hhad' : hadOverride = before.isSome := by
        rcases exec_cases .overrideExists k m₃.state with he | ⟨_, he⟩
        · rw [he] at hhad
          rw [← hm₃.override]
          exact (Except.ok.inj hhad).symm
        · rw [he] at hhad
          cases hhad
      refine through_before (keeps_before_assign fun _ => .inl rfl) (hquiet rfl rfl hm₃)
        (fun _ m₄ hm₄ => ?_)
      refine through_before (keeps_compositional.ret _) hm₄ (fun _ m₅ hm₅ => ?_)
      refine through_before (keeps_before_assign fun _ => .inl rfl) hm₅ (fun _ m₆ hm₆ => ?_)
      have hverifying : Keeps anyStep (On (Before id before)) (updateOperation env fun o => { o with
          status := .running
          stage := .verifying
          message := "Verifying the signed platform release" }) := by
        refine steady_before.updateOperation fun w hw => ⟨hw.durable, fun o ho => ?_, hw.override,
          hw.fresh⟩
        obtain ⟨o', ho', rfl⟩ := Option.map_eq_some_iff.mp ho
        exact ⟨(hw.locals o' ho').1, rfl⟩
      refine through_before hverifying hm₆ (fun _ m₇ hm₇ => ?_)
      refine through_before (steady_before.toFramed.await rfl rfl) hm₇ (fun manifest m₈ hm₈ => ?_)
      split
      · rw [hid]
        refine Through.bind (R := fun _ => On (Held id before)) (through_copyToSaved hm₈ hhad')
          (fun _ m₉ _ h₉ => ?_) fun _ _ _ h => h.1
        have hafter := h₉.2 rfl
        refine Keeps.through_bind (R := fun _ => On (Held id before))
          (keeps_after_assign fun _ => rfl) hafter (fun _ h => h.held) (fun _ m₁₀ hm₁₀ => ?_)
          fun _ _ => After.held
        exact (keeps_after_switchRelease m₁₀ hm₁₀).mono (fun _ => After.held)
          fun _ _ _ => After.held
      · exact .ret hm₈.held hm₈.held
    · exact .ret (hassign j).held (hassign j).held

theorem before_of_accepted {w : Machine} (h : Accepted id w) : Before id w.override w where
  durable o ho := by
    obtain ⟨s, o', hs, ho', hid, _, hstage⟩ := h.operation
    rw [Machine.operation?, hs] at ho
    obtain rfl := Option.some.inj (ho'.symm.trans ho)
    exact ⟨hid, by rw [hstage]; rfl⟩
  locals o ho := by
    rw [h.started] at ho
    cases ho
  override := rfl
  fresh := h.fresh

theorem held_of_stops {w : Machine} (h : Accepted id w) {m : MachineMoment}
    (hs : Stops anyStep (applyPlan env id) ⟨w, []⟩ m) : Held id w.override m.state := by
  have hstart : On (Before id w.override) ⟨w, []⟩ := before_of_accepted h
  refine Through.stops (A := On (Held id w.override)) (Q := fun _ => On (Held id w.override)) ?_ hs
  refine through_before (steady_before.toFramed.await rfl rfl) hstart (fun _ m₁ hm₁ => ?_)
  refine through_before (steady_before.toFramed.await rfl rfl) hm₁ (fun _ m₂ hm₂ => ?_)
  refine through_before (keeps_before_assign fun _ => .inr rfl) hm₂ (fun _ m₃ hm₃ => ?_)
  refine Through.ensure (Q := fun _ => On (Held id w.override)) ?_ fun r m₄ _ hm₄ =>
    keeps_held_cleanUp m₄ hm₄
  exact Through.tryCatch (through_applyVerified hm₃) (fun _ _ _ h => h)
    fun x m₄ _ hm₄ => keeps_held_rollBack m₄ hm₄

end Held

/-! ## Recovery -/

section Recovery

variable {env : Installation} {id : Id} {m m' : MachineMoment}

theorem ups_of_history {β : Type} {e : Stmt β} {i : MachineInput} {r : Except String β}
    (h : m'.history = m.history ++ [⟨0, e, i, r⟩]) : ups m' = ups m ++ e.composeUp.toList := by
  rw [ups, h, List.filterMap_append]
  cases hup : e.composeUp with
  | none => simp [ups, hup]
  | some up => simp [ups, hup]

theorem ends_await_ok {β : Type} {e : Stmt β} {a : β}
    (h : Ends (await e : Updating β) m (.ok a) m') :
    ∃ i, (e.run i m.state).1 = .ok a ∧ m'.state = (e.run i m.state).2 ∧
      ups m' = ups m ++ e.composeUp.toList := by
  obtain ⟨i, hrun, hhistory⟩ := run_of_ends h
  exact ⟨i, by rw [hrun], by rw [hrun], ups_of_history hhistory⟩

theorem ends_loadState {s s' : SupervisorState} (hs : m.state.state = some s)
    (h : Ends (loadState env) m (.ok s') m') : s' = s ∧ m'.state = m.state ∧ ups m' = ups m := by
  obtain ⟨found, m₁, hread, h₁⟩ := ends_bind_ok.mp h
  obtain ⟨i, hfound, hstate, hups⟩ := ends_await_ok hread
  obtain rfl : some s = found := hs.symm.trans (Except.ok.inj hfound)
  dsimp only at h₁
  split at h₁
  · obtain ⟨hs', rfl⟩ := ends_pure.mp h₁
    exact ⟨Except.ok.inj hs', hstate, hups.trans (List.append_nil _)⟩
  · cases (ends_throw.mp h₁).1

theorem ends_docker {command : DockerCommand} (h : Ends (docker command) m (.ok ()) m') :
    m'.state = m.state ∧ ups m' = ups m ++ (Stmt.docker command).composeUp.toList := by
  obtain ⟨_, m₁, hrun, h₁⟩ := ends_bind_ok.mp h
  obtain ⟨_, rfl⟩ := ends_pure.mp h₁
  obtain ⟨i, _, hstate, hups⟩ := ends_await_ok hrun
  exact ⟨hstate, hups⟩

theorem ends_recoveryUp {hadPrevious : Bool} {services : List Service}
    (h : Ends (recoveryUp env hadPrevious services) m (.ok ()) m') :
    m'.state = m.state ∧
      ∃ root, ups m' = ups m ++ [(composeArgs root hadPrevious, services)] := by
  obtain ⟨root, m₁, hroot, h₁⟩ := ends_bind_ok.mp h
  obtain ⟨_, rfl⟩ := ends_liftExcept.mp hroot
  obtain ⟨hstate, hups⟩ := ends_docker h₁
  exact ⟨hstate, root, hups⟩

theorem ends_savedExists {had : Bool}
    (h : Ends (await (.savedExists id) : Updating Bool) m (.ok had) m') :
    had = (m.state.saved id).isSome ∧ m'.state = m.state ∧ ups m' = ups m := by
  obtain ⟨i, hhad, hstate, hups⟩ := ends_await_ok h
  exact ⟨(Except.ok.inj hhad).symm, hstate, hups.trans (List.append_nil _)⟩

theorem ends_putBack {state : SupervisorState} {operation : UpdateOperation}
    (h : Ends (putBack state operation (m.state.saved operation.id).isSome) m (.ok ()) m') :
    m'.state.override = m.state.saved operation.id ∧ m'.state.saved operation.id = none ∧
      ups m' = ups m := by
  unfold putBack at h
  cases hsaved : m.state.saved operation.id with
  | none =>
    rw [hsaved, if_neg (by simp)] at h
    split at h
    · cases (ends_throw.mp h).1
    · obtain ⟨i, _, hstate, hups⟩ := ends_await_ok h
      rw [hstate]
      exact ⟨rfl, hsaved, hups.trans (List.append_nil _)⟩
  | some text =>
    rw [hsaved, if_pos (by rfl)] at h
    obtain ⟨i, _, hstate, hups⟩ := ends_await_ok h
    simp only [Stmt.run, hsaved] at hstate
    rw [hstate]
    exact ⟨rfl, withFile_self _ _ _, hups.trans (List.append_nil _)⟩

theorem ends_restoreDescriptor {state : SupervisorState} {operation : UpdateOperation}
    (h : Ends (restoreDescriptor env state operation) m (.ok ()) m') :
    m'.state.override = m.state.saved operation.id ∧ m'.state.saved operation.id = none ∧
      ∃ root, ups m' = ups m ++
        [(composeArgs root (m.state.saved operation.id).isSome, [.api, .web])] := by
  obtain ⟨had, m₁, hhad, h₁⟩ := ends_bind_ok.mp h
  obtain ⟨rfl, hstate, hups₁⟩ := ends_savedExists hhad
  obtain ⟨_, m₂, hback, h₂⟩ := ends_bind_ok.mp h₁
  rw [← hstate] at hback
  obtain ⟨hoverride, hsaved, hups₂⟩ := ends_putBack hback
  obtain ⟨hstate', root, hups⟩ := ends_recoveryUp h₂
  rw [hstate] at hoverride
  exact ⟨by rw [hstate', hoverride], by rw [hstate', hsaved], root, by rw [hups, hups₂, hups₁]⟩

theorem ends_dropRecovered {planId : Id} (h : Ends (do
      await (.removePlan planId)
      await (.removeSaved planId)
      await .removeLock : Updating Unit) m (.ok ()) m') :
    m'.state.override = m.state.override ∧ m'.state.state = m.state.state ∧ ups m' = ups m := by
  obtain ⟨_, m₁, hplan, h₁⟩ := ends_bind_ok.mp h
  obtain ⟨i₁, _, hstate₁, hups₁⟩ := ends_await_ok hplan
  obtain ⟨_, m₂, hcopy, h₂⟩ := ends_bind_ok.mp h₁
  obtain ⟨i₂, _, hstate₂, hups₂⟩ := ends_await_ok hcopy
  obtain ⟨i₃, _, hstate₃, hups₃⟩ := ends_await_ok h₂
  refine ⟨by rw [hstate₃, hstate₂, hstate₁]; rfl, by rw [hstate₃, hstate₂, hstate₁]; rfl, ?_⟩
  rw [hups₃, hups₂, hups₁]
  simp [Stmt.composeUp]

def recoveryUps (root root' : String) (hadPrevious : Bool) (stage : UpdateStage) :
    List (Compose × List Service) :=
  (composeArgs root hadPrevious, [.api, .web]) ::
    if stage = .supervisor then [(composeArgs root' false, [.supervisor])] else []

theorem ends_restore {state : SupervisorState} {operation : UpdateOperation}
    (hchanged : operation.stage.changed = true)
    (h : Ends (restore env state operation) m (.ok ()) m') :
    m'.state.override = m.state.saved operation.id ∧ ∃ root root',
      ups m' = ups m ++
        recoveryUps root root' (m.state.saved operation.id).isSome operation.stage := by
  obtain ⟨_, m₁, hdescriptor, h₁⟩ := ends_bind_ok.mp h
  rw [runIf, if_pos hchanged] at hdescriptor
  obtain ⟨hoverride, hnone, root, hups₁⟩ := ends_restoreDescriptor hdescriptor
  obtain ⟨_, m₂, hsave, h₂⟩ := ends_bind_ok.mp h₁
  obtain ⟨i₂, _, hstate₂, hups₂⟩ := ends_await_ok hsave
  obtain ⟨_, m₃, hsupervisor, h₃⟩ := ends_bind_ok.mp h₂
  obtain ⟨hoverride', _, hups₃⟩ := ends_dropRecovered h₃
  have hoverride₂ : m₂.state.override = m₁.state.override := by rw [hstate₂]; rfl
  have hsaved₂ : m₂.state.saved operation.id = none := by rw [hstate₂]; exact hnone
  have hups₂' : ups m₂ = ups m₁ := hups₂.trans (List.append_nil _)
  unfold runIf at hsupervisor
  unfold recoveryUps
  by_cases hstage : operation.stage = .supervisor
  · rw [if_pos (beq_iff_eq.mpr hstage)] at hsupervisor
    obtain ⟨had, m₄, hhad, hup⟩ := ends_bind_ok.mp hsupervisor
    obtain ⟨rfl, hstate₄, hups₄⟩ := ends_savedExists hhad
    obtain ⟨hstate₅, root', hups₅⟩ := ends_recoveryUp hup
    refine ⟨by rw [hoverride', hstate₅, hstate₄, hoverride₂, hoverride], root, root', ?_⟩
    rw [hups₃, hups₅, hups₄, hups₂', hups₁, hsaved₂, if_pos hstage, List.append_assoc]
    rfl
  · rw [if_neg (by simpa using hstage)] at hsupervisor
    obtain ⟨_, rfl⟩ := ends_pure.mp hsupervisor
    refine ⟨by rw [hoverride', hoverride₂, hoverride], root, root, ?_⟩
    rw [hups₃, hups₂', hups₁, if_neg hstage]

theorem ends_tryRestore {state : SupervisorState} {operation o' : UpdateOperation}
    (h : Ends (tryCatch (restore env state operation) (recordFailedRecovery state operation)) m
      (.ok ()) m')
    (hreported : m'.state.operation? = some o') (hback : o'.status = .rolledBack) :
    Ends (restore env state operation) m (.ok ()) m' := by
  rcases ends_tryCatch.mp h with ⟨_, hrestore, _⟩ | ⟨error, m₁, _, hfailed⟩
  · exact hrestore
  · obtain ⟨i, _, hstate, _⟩ := ends_await_ok hfailed
    rw [Machine.operation?, hstate] at hreported
    obtain rfl := Option.some.inj hreported
    cases hback

theorem operation_of_restore {state : SupervisorState} {operation : UpdateOperation}
    (h : Ends (restore env state operation) m (.ok ()) m') :
    m'.state.operation? = some (recoveredOperation operation) := by
  obtain ⟨_, m₁, _, h₁⟩ := ends_bind_ok.mp h
  obtain ⟨_, m₂, hsave, h₂⟩ := ends_bind_ok.mp h₁
  obtain ⟨i₂, _, hstate₂, _⟩ := ends_await_ok hsave
  obtain ⟨_, m₃, hsupervisor, h₃⟩ := ends_bind_ok.mp h₂
  obtain ⟨_, hdropped, _⟩ := ends_dropRecovered h₃
  have hkept : m₃.state.state = m₂.state.state := by
    unfold runIf at hsupervisor
    split at hsupervisor
    · obtain ⟨had, m₄, hhad, hup⟩ := ends_bind_ok.mp hsupervisor
      obtain ⟨_, hstate₄, _⟩ := ends_savedExists hhad
      rw [(ends_recoveryUp hup).1, hstate₄]
    · rw [(ends_pure.mp hsupervisor).2]
  rw [Machine.operation?, hdropped, hkept, hstate₂]
  rfl

theorem ends_recoverInterruptedUpdate {expected : Option Id} {o o' : UpdateOperation}
    (hinterrupted : m.state.operation? = some o) (hbusy : o.status.busy = true)
    (h : Ends (recoverInterruptedUpdate env expected) m (.ok ()) m')
    (hreported : m'.state.operation? = some o') (hback : o'.status = .rolledBack) :
    o.stage.changed = true ∧ m'.state.override = m.state.saved o.id ∧ ∃ root root',
      ups m' = ups m ++ recoveryUps root root' (m.state.saved o.id).isSome o.stage := by
  obtain ⟨s, hs, ho⟩ := Option.bind_eq_some_iff.mp hinterrupted
  have hstill : ∀ m₁ : MachineMoment, m₁.state = m.state → m' = m₁ → False := by
    rintro m₁ hm₁ rfl
    rw [hm₁, hinterrupted] at hreported
    obtain rfl := Option.some.inj hreported
    rw [hback] at hbusy
    cases hbusy
  obtain ⟨s', m₁, hload, h₁⟩ := ends_bind_ok.mp h
  obtain ⟨rfl, hm₁, hups₁⟩ := ends_loadState hs hload
  have hfilter : s'.operation.filter (·.status.busy) = some o := by
    rw [ho, Option.filter_some, if_pos hbusy]
  simp only [hfilter] at h₁
  split at h₁
  · cases (ends_throw.mp h₁).1
  · obtain ⟨helper, m₂, hhelper, h₂⟩ := ends_bind_ok.mp h₁
    obtain ⟨i, _, hm₂, hups₂⟩ := ends_await_ok hhelper
    have hsame : m₂.state = m.state := hm₂.trans hm₁
    split at h₂
    · have hrestore := ends_tryRestore h₂ hreported hback
      have hchanged : o.stage.changed = true := by
        rw [operation_of_restore hrestore] at hreported
        obtain rfl := Option.some.inj hreported
        unfold recoveredOperation at hback
        split at hback
        · assumption
        · cases hback
      obtain ⟨hoverride, root, root', hups⟩ := ends_restore hchanged hrestore
      rw [hsame] at hoverride hups
      refine ⟨hchanged, hoverride, root, root', ?_⟩
      rw [hups, hups₂, hups₁]
      simp [Stmt.composeUp]
    · split at h₂
      · exact (hstill m₂ hsame (ends_pure.mp h₂).2).elim
      · cases (ends_throw.mp h₂).1

end Recovery

@[simp] theorem composeArgs_override {root : String} {withOverride : Bool} :
    ComposeFile.override ∈ (composeArgs root withOverride).files ↔ withOverride = true := by
  cases withOverride <;> simp [composeArgs]

theorem recoveryUps_agree {root root' : String} {hadPrevious : Bool} {stage : UpdateStage} :
    (∀ up ∈ recoveryUps root root' hadPrevious stage,
      ComposeFile.override ∈ up.1.files ↔ hadPrevious = true) ↔
      (hadPrevious = true → stage ≠ .supervisor) := by
  unfold recoveryUps
  by_cases hstage : stage = .supervisor <;> cases hadPrevious <;> simp [hstage]

/-- A reported rollback restores the descriptors exactly if the previous override, where there was
one, is still saved and the operation has not reached the Supervisor. -/
theorem recovery_restores_descriptors {env : Installation} {id : Id} {w : Machine}
    {m m' : MachineMoment} {expected : Option Id} {o o' : UpdateOperation}
    (haccepted : Accepted id w) (hstop : Stops anyStep (applyPlan env id) ⟨w, []⟩ m)
    (hinterrupted : m.state.operation? = some o) (hbusy : o.status.busy = true)
    (hrecover : Ends (recoverInterruptedUpdate env expected) m (.ok ()) m')
    (hreported : m'.state.operation? = some o') (hback : o'.status = .rolledBack) :
    RestoresDescriptors w.override m m' ↔
      (w.override.isSome = true → Restorable m.state id) := by
  have hheld := held_of_stops haccepted hstop
  obtain rfl : o.id = id := hheld.durable o hinterrupted
  obtain ⟨hchanged, hoverride, root, root', hups⟩ :=
    ends_recoverInterruptedUpdate hinterrupted hbusy hrecover hreported hback
  have hissued : (∀ issued, ups m' = ups m ++ issued → ∀ up ∈ issued,
        ComposeFile.override ∈ up.1.files ↔ w.override.isSome = true) ↔
      ∀ up ∈ recoveryUps root root' (m.state.saved o.id).isSome o.stage,
        ComposeFile.override ∈ up.1.files ↔ w.override.isSome = true := by
    constructor
    · intro h
      exact h _ hups
    · intro h issued hissued
      rwa [← List.append_cancel_left (hups.symm.trans hissued)]
  have hstage : (∀ o₁, m.state.operation? = some o₁ → o₁.stage ≠ .supervisor) ↔
      o.stage ≠ .supervisor := by
    rw [hinterrupted]
    simp
  unfold RestoresDescriptors Restorable
  rw [hissued, hoverride, hstage]
  rcases hheld.saved o hinterrupted hbusy hchanged with hnone | hsome
  · -- Without a saved copy the override is gone.
    rw [hnone]
    constructor
    · rintro ⟨habsent, _⟩ hhad
      rw [← habsent] at hhad
      cases hhad
    · intro h
      have habsent : w.override = none := by
        cases hbefore : w.override with
        | none => rfl
        | some text => cases (h (by rw [hbefore]; rfl)).1
      rw [habsent]
      exact ⟨rfl, recoveryUps_agree.2 (fun h => by cases h)⟩
  · rw [hsome, recoveryUps_agree]
    constructor
    · rintro ⟨_, hagree⟩ hhad
      exact ⟨hhad, hagree hhad⟩
    · intro h
      exact ⟨rfl, fun hhad => (h hhad).2⟩

/-! An update of a signed installation to 0.3.0. -/

def digits (c : Char) : String := String.ofList (List.replicate 64 c)

def imagesOf (api web supervisor : Char) : PlatformImages where
  api := "ghcr.io/example/initpad-api@sha256:" ++ digits api
  web := "ghcr.io/example/initpad-web@sha256:" ++ digits web
  supervisor := "ghcr.io/example/initpad-supervisor@sha256:" ++ digits supervisor

def nextManifest : PlatformReleaseManifest where
  version := "0.3.0"
  images := imagesOf 'a' 'b' 'c'
  composeSha256 := "93fa7c5101455163eb647ce4041ed3c9e2fa1bdc5b882a9ea054ab5200197de1"

/-- The digest function is only asked for the digest of the rendered manifest. -/
def installation : Installation where
  platformVersion := "0.2.0"
  installRoot := some "/opt/initpad"
  container := "0123456789ab"
  sha256 _ := nextManifest.composeSha256
  verifyRelease _ _ := .ok nextManifest

def acceptedUpdate : UpdateOperation where
  id := 1
  requestId := "3f04ebec-3299-4ce5-bd02-cf390ca413e9"
  fromVersion := "0.2.0"
  toVersion := "0.3.0"
  status := .accepted
  stage := .accepted
  message := "Platform update accepted"

def acceptedHost (override : Option String) (currentImages : Option PlatformImages) : Machine where
  state := some ⟨"0.2.0", currentImages, some acceptedUpdate⟩
  override := override
  saved _ := none
  plans id := if id = 1 then some ⟨1, ⟨"0.3.0", "", ""⟩⟩ else none
  lock := false
  nextId := 2
  locals := {}
  accepting := false

theorem accepted_acceptedHost (override : Option String) (currentImages : Option PlatformImages) :
    Accepted 1 (acceptedHost override currentImages) where
  operation := ⟨_, _, rfl, rfl, rfl, rfl, rfl⟩
  fresh := rfl
  started := rfl

def works : MachineInput := {}

/-- `docker` answers `stdout`. -/
def answers (stdout : String) : MachineInput := { stdout := stdout }

def operationIs (m : MachineMoment) (status : UpdateStatus) (stage : UpdateStage) : Bool :=
  m.state.operation?.any fun o => o.status == status && o.stage == stage

theorem operation_of_operationIs {m : MachineMoment} (status : UpdateStatus) (stage : UpdateStage)
    (h : operationIs m status stage = true) :
    ∃ o, m.state.operation? = some o ∧ o.status = status ∧ o.stage = stage := by
  obtain ⟨o, ho, his⟩ := (Option.any_eq_true _ _).mp h
  simp only [Bool.and_eq_true, beq_iff_eq] at his
  exact ⟨o, ho, his⟩

def succeeded : Except String Unit → Bool
  | .ok () => true
  | .error _ => false

theorem eq_of_succeeded {r : Except String Unit} (h : succeeded r = true) : r = .ok () := by
  cases r with
  | ok => rfl
  | error => cases h

def signedHost : Machine := acceptedHost (some "services:\n") (some (imagesOf 'd' 'e' 'f'))

/-- Up to the statement that records the stage `switching`. -/
def switchingInputs : List MachineInput := List.replicate 36 works

/-- Up to the statement that records the stage `supervisor`. -/
def supervisorInputs : List MachineInput :=
  List.replicate 42 works ++ [answers "0123456789ab", answers "healthy"] ++ List.replicate 5 works ++
    [answers "0123456789ab", answers "healthy"] ++ List.replicate 4 works

/-- The helper stops before it has written the new override: everything is restored. -/
theorem recovery_restores_descriptors_switching : ∃ m m',
    Stops anyStep (applyPlan installation 1) ⟨signedHost, []⟩ m ∧
    Ends (recoverInterruptedUpdate installation none) m (.ok ()) m' ∧
    RestoresDescriptors signedHost.override m m' := by
  let m := (applyPlan installation 1).advance switchingInputs ⟨signedHost, []⟩
  obtain ⟨o, ho, hstatus, hstage⟩ := operation_of_operationIs (m := m) .running .switching
    (by decide)
  obtain ⟨r, m', h, hcheck⟩ := ends_of_performs (recoverInterruptedUpdate installation none)
    (List.replicate 9 works) m (fun r m' => succeeded r && operationIs m' .rolledBack .rolledBack)
    (by decide)
  rw [Bool.and_eq_true] at hcheck
  obtain rfl := eq_of_succeeded hcheck.1
  obtain ⟨o', ho', hback, _⟩ := operation_of_operationIs _ _ hcheck.2
  have hstop := stops_advance (applyPlan installation 1) switchingInputs ⟨signedHost, []⟩
  refine ⟨m, m', hstop, h, (recovery_restores_descriptors (accepted_acceptedHost _ _) hstop ho
    (by rw [hstatus]; rfl) h ho' hback).mpr fun _ => ⟨by decide, ?_⟩⟩
  intro o₁ ho₁
  obtain rfl := Option.some.inj (ho.symm.trans ho₁)
  rw [hstage]
  decide

/-- The helper stops before it has replaced the Supervisor: recovery starts the previous Supervisor
without the override that it has just restored. -/
theorem recovery_drops_override : ¬ ∀ (env : Installation) (id : Id) (w : Machine)
    (m m' : MachineMoment) (o o' : UpdateOperation), Accepted id w →
      Stops anyStep (applyPlan env id) ⟨w, []⟩ m → m.state.operation? = some o → o.status.busy = true →
      Ends (recoverInterruptedUpdate env none) m (.ok ()) m' → m'.state.operation? = some o' →
      o'.status = .rolledBack → RestoresDescriptors w.override m m' := by
  intro hall
  let m := (applyPlan installation 1).advance supervisorInputs ⟨signedHost, []⟩
  obtain ⟨o, ho, hstatus, _⟩ := operation_of_operationIs (m := m) .running .supervisor
    (by decide)
  obtain ⟨r, m', h, hcheck⟩ := ends_of_performs (recoverInterruptedUpdate installation none)
    (List.replicate 11 works) m (fun r m' => succeeded r && (operationIs m' .rolledBack .rolledBack &&
      ups m' == ups m ++ recoveryUps "/opt/initpad" "/opt/initpad" true .supervisor))
    (by decide)
  simp only [Bool.and_eq_true, beq_iff_eq] at hcheck
  obtain rfl := eq_of_succeeded hcheck.1
  obtain ⟨o', ho', hback, _⟩ := operation_of_operationIs _ _ hcheck.2.1
  obtain ⟨_, hagree⟩ := hall installation 1 signedHost m m' o o' (accepted_acceptedHost _ _)
    (stops_advance _ _ _) ho (by rw [hstatus]; rfl) h ho' hback
  exact recoveryUps_agree.1 (hagree _ hcheck.2.2) rfl rfl

end InitPad.Supervisor
