import InitPad.Supervisor.Descriptors

/-!
# InitPad.Supervisor.UpdateStatus

What the durable status of an update says about the override and the recorded release, wherever
`applyPlan` and the recoveries after it were stopped.
-/

namespace InitPad.Supervisor

open Interleave Interleave.Prog

def SupervisorState.release (s : SupervisorState) : String × Option PlatformImages :=
  (s.currentVersion, s.currentImages)

def Machine.release? (w : Machine) : Option (String × Option PlatformImages) :=
  w.state.map (·.release)

def PlatformReleaseManifest.release (manifest : PlatformReleaseManifest) :
    String × Option PlatformImages := (manifest.version, some manifest.images)

/-- The release that the update was accepted for is verified as `manifest`. -/
def Verified (env : Installation) (id : Id) (w₀ : Machine)
    (manifest : PlatformReleaseManifest) : Prop :=
  ∃ plan o, w₀.plans id = some plan ∧ w₀.operation? = some o ∧
    env.verifyRelease plan.release o.fromVersion = .ok manifest

/-- The status of the update that was accepted at `w₀` is true at `w`. -/
structure TellsTruth (env : Installation) (id : Id) (w₀ w : Machine) : Prop where
  succeeded : ∀ o, w.operation? = some o → o.status = .succeeded →
    ∃ manifest, Verified env id w₀ manifest ∧ w.override = some (renderOverride manifest) ∧
      w.release? = some manifest.release
  closed : ∀ o, w.operation? = some o → o.status = .rolledBack ∨ o.status = .failed →
    w.release? = w₀.release? ∧ (w.override = w₀.override ∨
      w₀.override.isSome = true ∧ w.saved id = w₀.override)

/-- The steps after which the status stays true. A copy back that fails leaves the previous
override; the removal of the saved copy does not fail between the recorded success and the removal
of the plan; the override is removed only if there was none; and if there was none, recovery does
not give up while the new one is in force. -/
def Harmless (id : Id) (before : Option String) : Guard Stmt MachineInput Machine := fun _ e i w =>
  match e with
  | .copyFromSaved _ => i.fault.isSome = true → i.leftover.over w.override = before
  | .removeSaved _ => i.fault.isSome = true →
    ¬ ((∃ o, w.operation? = some o ∧ o.status = .succeeded) ∧ (w.plans id).isSome = true)
  | .removeOverride => i.fault = none → before = none
  | .saveState state => i.fault = none →
    (∃ o, state.operation = some o ∧ o.stage = .recoveryFailed) →
      before.isSome = true ∨ w.override = none
  | _ => True

/-- The update is open, and recovery can restore the previous override. -/
structure Interrupted (id : Id) (w₀ w : Machine) : Prop where
  release : w.release? = w₀.release?
  operation : ∃ o, w.operation? = some o ∧ o.id = id ∧ o.status.busy = true
  unchanged : ∀ o, w.operation? = some o → o.stage.changed = false → w.override = w₀.override
  changed : ∀ o, w.operation? = some o → o.stage.changed = true →
    w.saved id = w₀.override ∨ w.saved id = none ∧ w.override = w₀.override

structure Closed (id : Id) (w₀ w : Machine) : Prop where
  release : w.release? = w₀.release?
  operation : ∃ o, w.operation? = some o ∧ (o.status = .rolledBack ∨ o.status = .failed)
  override : w.override = w₀.override ∨ w₀.override.isSome = true ∧ w.saved id = w₀.override

/-- The update has succeeded. -/
structure Completed (manifest : PlatformReleaseManifest) (w : Machine) : Prop where
  release : w.release? = some manifest.release
  operation : ∃ o, w.operation? = some o ∧ o.status = .succeeded
  override : w.override = some (renderOverride manifest)

def Sound (env : Installation) (id : Id) (w₀ w : Machine) : Prop :=
  Interrupted id w₀ w ∨ Closed id w₀ w ∨ ∃ manifest, Verified env id w₀ manifest ∧
    Completed manifest w

section Truth

variable {env : Installation} {id : Id} {w₀ w : Machine} {m m' : MachineMoment}
  {manifest : PlatformReleaseManifest}

theorem Sound.tellsTruth (h : Sound env id w₀ w) : TellsTruth env id w₀ w := by
  rcases h with h | h | ⟨manifest, hverified, h⟩
  · obtain ⟨o, ho, _, hbusy⟩ := h.operation
    constructor
    · intro o' ho' hstatus
      obtain rfl := Option.some.inj (ho.symm.trans ho')
      rw [hstatus] at hbusy
      cases hbusy
    · intro o' ho' hstatus
      obtain rfl := Option.some.inj (ho.symm.trans ho')
      rcases hstatus with hstatus | hstatus <;> rw [hstatus] at hbusy <;> cases hbusy
  · obtain ⟨o, ho, hclosed⟩ := h.operation
    refine ⟨fun o' ho' hstatus => ?_, fun _ _ _ => ⟨h.release, h.override⟩⟩
    obtain rfl := Option.some.inj (ho.symm.trans ho')
    rcases hclosed with hclosed | hclosed <;> rw [hstatus] at hclosed <;> cases hclosed
  · obtain ⟨o, ho, hsucceeded⟩ := h.operation
    refine ⟨fun _ _ _ => ⟨manifest, hverified, h.override, h.release⟩, fun o' ho' hstatus => ?_⟩
    obtain rfl := Option.some.inj (ho.symm.trans ho')
    rcases hstatus with hstatus | hstatus <;> rw [hsucceeded] at hstatus <;> cases hstatus

/-! ## The phases of the helper -/

/-- Before the operation is in memory, nothing has changed. -/
structure Starting (id : Id) (w₀ w : Machine) : Prop where
  state : w.state = w₀.state
  override : w.override = w₀.override
  fresh : w.saved id = none
  plans : w.plans id = w₀.plans id
  locals : w.locals = {}

/-- `o` is the open operation. -/
def Open (id : Id) (o : UpdateOperation) : Prop := o.id = id ∧ o.status.busy = true

structure Remembers (id : Id) (w₀ w : Machine) : Prop where
  release : w.release? = w₀.release?
  plan : (w.plans id).isSome = true
  durable : ∃ o, w.operation? = some o ∧ Open id o
  operation : ∃ o, w.locals.operation = some o ∧ Open id o
  previous : ∃ s, w.locals.previousState = some s ∧ some s.release = w₀.release?

/-- The previous override is in force, and no copy of it is relied on. -/
structure Verifying (id : Id) (w₀ w : Machine) : Prop extends Remembers id w₀ w where
  durableStage : ∀ o, w.operation? = some o → o.stage.changed = false
  stage : ∀ o, w.locals.operation = some o → o.stage.changed = false
  override : w.override = w₀.override
  unprepared : w.locals.overridePrepared = false

/-- What the copy of the previous override is made from is in memory; `saved` is in its place. -/
structure Ready (id : Id) (w₀ : Machine) (saved : Option String) (w : Machine) : Prop
    extends Verifying id w₀ w where
  saved : w.saved id = saved
  copy : w.locals.previousOverride = some id
  had : w.locals.hadOverride = w₀.override.isSome

structure Prepared (id : Id) (w₀ w : Machine) : Prop extends Remembers id w₀ w where
  durableStage : ∀ o, w.operation? = some o → o.stage.changed = false → w.override = w₀.override
  stage : ∀ o, w.locals.operation = some o → o.stage.changed = false → w.override = w₀.override
  saved : w.saved id = w₀.override
  prepared : w.locals.overridePrepared = true
  had : w.locals.hadOverride = w₀.override.isSome
  copy : w.locals.previousOverride = some id

/-- The stage in memory counts as changed, and `override` is in force. -/
structure Switching (id : Id) (w₀ : Machine) (override : Option String) (w : Machine) : Prop
    extends Prepared id w₀ w where
  switching : ∀ o, w.locals.operation = some o → o.stage.changed = true
  inForce : w.override = override

/-- An error is about to be handled. -/
structure Failing (id : Id) (w₀ w : Machine) : Prop extends Interrupted id w₀ w where
  unprepared : w.locals.overridePrepared = false → w.override = w₀.override
  prepared : w.locals.overridePrepared = true → w.saved id = w₀.override ∧
    w.locals.hadOverride = w₀.override.isSome ∧ w.locals.previousOverride = some id
  previous : ∀ s, w.locals.previousState = some s → some s.release = w₀.release?

theorem Verifying.failing (h : Verifying id w₀ w) : Failing id w₀ w where
  release := h.release
  operation := h.durable
  unchanged _ _ _ := h.override
  changed o ho hchanged := by
    rw [h.durableStage o ho] at hchanged
    cases hchanged
  unprepared _ := h.override
  prepared hprepared := by
    rw [h.unprepared] at hprepared
    cases hprepared
  previous s hs := by
    obtain ⟨s', hs', hrelease⟩ := h.previous
    obtain rfl := Option.some.inj (hs'.symm.trans hs)
    exact hrelease

theorem Prepared.failing (h : Prepared id w₀ w) : Failing id w₀ w where
  release := h.release
  operation := h.durable
  unchanged := h.durableStage
  changed _ _ _ := .inl h.saved
  unprepared hunprepared := by
    rw [h.prepared] at hunprepared
    cases hunprepared
  prepared _ := ⟨h.saved, h.had, h.copy⟩
  previous s hs := by
    obtain ⟨s', hs', hrelease⟩ := h.previous
    obtain rfl := Option.some.inj (hs'.symm.trans hs)
    exact hrelease

theorem Starting.failing (haccepted : Accepted id w₀) (h : Starting id w₀ w) :
    Failing id w₀ w := by
  obtain ⟨s, o, hs, ho, hid, hstatus, hstage⟩ := haccepted.operation
  have hoperation : w.operation? = some o := by
    rw [Machine.operation?, h.state, hs]
    exact ho
  refine ⟨⟨?_, ⟨o, hoperation, hid, by rw [hstatus]; rfl⟩, fun _ _ _ => h.override, ?_⟩,
    fun _ => h.override, ?_, ?_⟩
  · rw [Machine.release?, h.state]
    rfl
  · intro o' ho' hchanged
    obtain rfl := Option.some.inj (hoperation.symm.trans ho')
    rw [hstage] at hchanged
    cases hchanged
  · intro hprepared
    rw [h.locals] at hprepared
    cases hprepared
  · intro s' hs'
    rw [h.locals] at hs'
    cases hs'

/-! ## What the statements keep -/

/-- A property that does not look at the lock, the ids or the requests of the process. -/
def Descriptive (I : Machine → Prop) : Prop :=
  ∀ w lock nextId accepting, I w →
    I { w with lock := lock, nextId := nextId, accepting := accepting }

theorem aside_same {β : Type} {e : Stmt β} {i : MachineInput} (hq : e.quiet = true)
    (ha : e.aside = true) : ∃ lock nextId accepting,
      (exec e i w).2 = { w with lock := lock, nextId := nextId, accepting := accepting } := by
  obtain ⟨hstate, hlocals⟩ := quiet_exec (i := i) (w := w) hq
  obtain ⟨hoverride, hsaved, hplans⟩ := aside_exec (i := i) (w := w) ha
  refine ⟨(exec e i w).2.lock, (exec e i w).2.nextId, (exec e i w).2.accepting, ?_⟩
  cases h : (exec e i w).2
  rw [h] at hstate hlocals hoverride hsaved hplans
  cases hstate
  cases hlocals
  cases hoverride
  cases hsaved
  cases hplans
  rfl

theorem Descriptive.exec {I : Machine → Prop} (h : Descriptive I) {β : Type} {e : Stmt β}
    {i : MachineInput} (hq : e.quiet = true) (ha : e.aside = true) (hw : I w) :
    I (exec e i w).2 := by
  obtain ⟨lock, nextId, accepting, hsame⟩ := aside_same (i := i) (w := w) hq ha
  rw [hsame]
  exact h w lock nextId accepting hw

theorem Descriptive.framed {I : Machine → Prop} (h : Descriptive I)
    (hstate : ∀ w, I w → w.state ≠ none) : Framed I where
  aside _ _ _ hq ha hw := h.exec hq ha hw
  initial _ w hw hnone := absurd hnone (hstate w hw)

theorem state_of_operation {o : UpdateOperation} (h : w.operation? = some o) : w.state ≠ none := by
  intro hnone
  rw [Machine.operation?, hnone] at h
  cases h

theorem Remembers.recorded {s : SupervisorState} (h : Remembers id w₀ w) (hs : w.state = some s) :
    Remembers id w₀ (w.recorded s) where
  release := by
    rw [← h.release, Machine.release?, Machine.release?, hs]
    rfl
  plan := h.plan
  durable := h.operation
  operation := h.operation
  previous := h.previous

theorem framed_starting (haccepted : Accepted id w₀) : Framed (Starting id w₀) := by
  refine Descriptive.framed (fun _ _ _ _ h => ⟨h.1, h.2, h.3, h.4, h.5⟩) fun w h => ?_
  obtain ⟨s, o, hs, _⟩ := haccepted.operation
  rw [h.state, hs]
  exact fun h => by cases h

theorem descriptive_prepared : Descriptive (Prepared id w₀) := fun _ _ _ _ h =>
  ⟨⟨h.release, h.plan, h.durable, h.operation, h.previous⟩, h.durableStage, h.stage, h.saved,
    h.prepared, h.had, h.copy⟩

theorem descriptive_verifying : Descriptive (Verifying id w₀) := fun _ _ _ _ h =>
  ⟨⟨h.release, h.plan, h.durable, h.operation, h.previous⟩, h.durableStage, h.stage, h.override,
    h.unprepared⟩

theorem steady_ready {saved : Option String} : Steady (Ready id w₀ saved) where
  toFramed := Descriptive.framed
    (fun _ _ _ _ h => ⟨descriptive_verifying _ _ _ _ h.toVerifying, h.saved, h.copy, h.had⟩)
    fun _ h => state_of_operation h.durable.choose_spec.1
  recorded _ _ h hs := ⟨⟨h.toRemembers.recorded hs, h.stage, h.stage, h.override, h.unprepared⟩,
    h.saved, h.copy, h.had⟩

theorem steady_prepared : Steady (Prepared id w₀) where
  toFramed := descriptive_prepared.framed fun _ h => state_of_operation h.durable.choose_spec.1
  recorded _ _ h hs := ⟨h.toRemembers.recorded hs, h.stage, h.stage, h.saved, h.prepared, h.had,
    h.copy⟩

theorem steady_switching {override : Option String} : Steady (Switching id w₀ override) where
  toFramed := Descriptive.framed
    (fun _ _ _ _ h => ⟨descriptive_prepared _ _ _ _ h.toPrepared, h.switching, h.inForce⟩)
    fun _ h => state_of_operation h.durable.choose_spec.1
  recorded _ _ h hs := ⟨steady_prepared.recorded _ _ h.toPrepared hs, h.switching, h.inForce⟩

/-! ## From the saved copy to the recorded success -/

/-- How the `try` block of the helper ends. -/
def Outcome (env : Installation) (id : Id) (w₀ : Machine) (r : Except String Unit)
    (m : MachineMoment) : Prop :=
  match r with
  | .ok _ => ∃ manifest, Verified env id w₀ manifest ∧ Completed manifest m.state
  | .error _ => Failing id w₀ m.state

theorem through_phase {α : Type} {I : Machine → Prop} {p : Updating α} {f : α → Updating Unit}
    (hI : ∀ w, I w → Failing id w₀ w) (hp : Keeps (Harmless id w₀.override) (On I) p)
    (hm : On I m) (hok : ∀ a m', On I m' →
      Through (Harmless id w₀.override) (On (Sound env id w₀)) (Outcome env id w₀) (f a) m') :
    Through (Harmless id w₀.override) (On (Sound env id w₀)) (Outcome env id w₀) (p >>= f) m :=
  hp.through_bind hm (fun _ h => .inl (hI _ h).toInterrupted) hok fun _ _ h => hI _ h

theorem open_patched {patch : UpdateOperation → UpdateOperation}
    (hpatch : ∀ o, Open id o → Open id (patch o))
    (h : ∃ o, w.locals.operation = some o ∧ Open id o) :
    ∃ o, (w.patched patch).locals.operation = some o ∧ Open id o := by
  obtain ⟨o, ho, hopen⟩ := h
  exact ⟨patch o, by rw [Machine.patched, ho]; rfl, hpatch o hopen⟩

theorem Prepared.patched {patch : UpdateOperation → UpdateOperation}
    (hpatch : ∀ o, Open id o → Open id (patch o))
    (hstage : ∀ o, (patch o).stage.changed = false → w.override = w₀.override)
    (h : Prepared id w₀ w) : Prepared id w₀ (w.patched patch) where
  toRemembers := ⟨h.release, h.plan, h.durable, open_patched hpatch h.operation, h.previous⟩
  durableStage := h.durableStage
  stage o ho := by
    obtain ⟨o', _, rfl⟩ := Option.map_eq_some_iff.mp ho
    exact hstage o'
  saved := h.saved
  prepared := h.prepared
  had := h.had
  copy := h.copy

theorem Prepared.switched {p : UpdateOperation → UpdateOperation}
    (hpatch : ∀ o, Open id o → Open id (p o)) (hstage : ∀ o, (p o).stage.changed = true)
    (h : Prepared id w₀ w) : Switching id w₀ w.override (w.patched p) where
  toPrepared := h.patched hpatch fun o ho => by
    rw [hstage] at ho
    cases ho
  switching o ho := by
    obtain ⟨o', _, rfl⟩ := Option.map_eq_some_iff.mp ho
    exact hstage o'
  inForce := rfl

theorem through_writeOverride {value : String} (hm : On (Switching id w₀ w₀.override) m)
    (hdurable : m.state.operation? = m.state.locals.operation) :
    Through (Harmless id w₀.override) (On (Sound env id w₀)) (fun r m' =>
      On (Failing id w₀) m' ∧ (r = .ok () → On (Switching id w₀ (some value)) m'))
      (await (.writeOverride value)) m := by
  have hsound : ∀ m', On (Failing id w₀) m' → On (Sound env id w₀) m' :=
    fun _ h => .inl h.toInterrupted
  have hwritten : Switching id w₀ (some value) { m.state with override := some value } := by
    have hchanged : ∀ o, m.state.operation? = some o → o.stage.changed = true := by
      rw [hdurable]
      exact hm.switching
    refine ⟨⟨⟨hm.release, hm.plan, hm.durable, hm.operation, hm.previous⟩, fun o ho h => ?_,
      fun o ho h => ?_, hm.saved, hm.prepared, hm.had, hm.copy⟩, hm.switching, rfl⟩
    · rw [hchanged o ho] at h
      cases h
    · rw [hm.switching o ho] at h
      cases h
  have hnext : ∀ i, On (Failing id w₀) (m.next 0 (.writeOverride value) i) ∧
      ((exec (Stmt.writeOverride value) i m.state).1 = .ok () →
        On (Switching id w₀ (some value)) (m.next 0 (.writeOverride value) i)) := by
    intro i
    unfold On
    rw [Moment.next_state]
    rcases exec_cases (.writeOverride value) i m.state with he | ⟨_, he⟩
    · rw [he]
      exact ⟨hwritten.toPrepared.failing, fun _ => hwritten⟩
    · rw [he]
      exact ⟨hm.toPrepared.failing, fun h => by cases h⟩
  exact .await (hsound m hm.toPrepared.failing) fun i _ => ⟨hsound _ (hnext i).1, hnext i⟩

theorem keeps_switchService {compose : Compose} {stage : UpdateStage} {message : String}
    {service : Service} {override : Option String} (hstage : stage.changed = true) :
    Keeps (Harmless id w₀.override) (On (Switching id w₀ override))
      (switchService env compose stage message service) := by
  refine keeps_compositional.bind (steady_switching.updateOperation fun w hw => ?_) fun _ =>
    keeps_compositional.bind steady_switching.toFramed.docker fun _ =>
      steady_switching.toFramed.of_aside aside_waitForService
  have hpatched := hw.toPrepared.switched
    (p := fun o => { o with stage := stage, message := message })
    (fun _ h => h) (fun _ => hstage)
  exact ⟨hpatched.toPrepared, hpatched.switching, hw.inForce⟩

theorem through_recordCompletion (hverified : Verified env id w₀ manifest)
    (hm : On (Switching id w₀ (some (renderOverride manifest))) m) :
    Through (Harmless id w₀.override) (On (Sound env id w₀)) (fun r m' => match r with
      | .ok _ => Completed manifest m'.state ∧ (m'.state.plans id).isSome = true
      | .error _ => Failing id w₀ m'.state) (recordCompletion manifest) m := by
  have hsound : ∀ m', On (Switching id w₀ (some (renderOverride manifest))) m' →
      On (Sound env id w₀) m' := fun _ h => .inl h.toPrepared.failing.toInterrupted
  have hlocals : ∀ i, On (Switching id w₀ (some (renderOverride manifest))) (m.next 0 .locals i) :=
    fun i => steady_switching.aside _ _ _ rfl rfl hm
  refine .await_bind (hsound m hm) (fun i l _ hl => ?_) fun i x _ hx => ?_
  · rw [exec_locals] at hl
    cases hl
    refine .await (hsound _ (hlocals i)) fun j _ => ?_
    unfold On
    rw [Moment.next_state]
    rcases exec_cases _ j _ with he | ⟨_, he⟩
    · rw [he]
      obtain ⟨o, ho, _⟩ := hm.operation
      have hcompleted : Completed manifest (Stmt.run j (m.next 0 .locals i).state
          (.saveState { currentVersion := manifest.version
                        currentImages := some manifest.images
                        operation := m.state.locals.operation.map fun o => { o with
                          status := .succeeded
                          stage := .completed
                          message := s!"InitPad {manifest.version} installed successfully" } })).2 :=
        ⟨rfl, ⟨_, by rw [ho]; rfl, rfl⟩, (hlocals i).inForce⟩
      exact ⟨.inr (.inr ⟨manifest, hverified, hcompleted⟩), hcompleted, (hlocals i).plan⟩
    · rw [he]
      exact ⟨hsound _ (hlocals i), (hlocals i).toPrepared.failing⟩
  · rw [exec_locals] at hx
    cases hx

theorem through_removeSaved {id' : Id} (hverified : Verified env id w₀ manifest)
    (hm : Completed manifest m.state) (hplan : (m.state.plans id).isSome = true) :
    Through (Harmless id w₀.override) (On (Sound env id w₀)) (Outcome env id w₀)
      (await (.removeSaved id')) m := by
  refine .await (.inr (.inr ⟨manifest, hverified, hm⟩)) fun i hharmless => ?_
  have hfault : i.fault = none := by
    cases hf : i.fault with
    | none => rfl
    | some message => exact absurd ⟨hm.operation, hplan⟩ (hharmless (by rw [hf]; rfl))
  have hrun : exec (Stmt.removeSaved id') i m.state =
      (.ok (), { m.state with saved := withFile m.state.saved id' none }) := by
    simp only [Semantics.exec, hfault, Stmt.run]
  have hcompleted : Completed manifest (m.next 0 (.removeSaved id') i).state := by
    rw [Moment.next_state, hrun]
    exact ⟨hm.release, hm.operation, hm.override⟩
  rw [hrun]
  exact ⟨.inr (.inr ⟨manifest, hverified, hcompleted⟩), manifest, hverified, hcompleted⟩

theorem through_switchRelease {operationId : Id} {installRoot : String} {hadOverride : Bool}
    (hverified : Verified env id w₀ manifest)
    (hm : On (fun w => Prepared id w₀ w ∧ w.override = w₀.override) m) :
    Through (Harmless id w₀.override) (On (Sound env id w₀)) (Outcome env id w₀)
      (switchRelease env operationId installRoot hadOverride manifest) m := by
  have hsteady : Steady fun w => Prepared id w₀ w ∧ w.override = w₀.override :=
    { aside := fun e i w hq ha h =>
        ⟨steady_prepared.aside e i w hq ha h.1, (aside_exec ha).1.trans h.2⟩
      initial := fun env w h hnone => ⟨steady_prepared.initial env w h.1 hnone, h.2⟩
      recorded := fun w s h hs => ⟨steady_prepared.recorded w s h.1 hs, h.2⟩ }
  have hfailing : ∀ w, (Prepared id w₀ w ∧ w.override = w₀.override) → Failing id w₀ w :=
    fun _ h => h.1.failing
  have hupdate : ∀ {patch : UpdateOperation → UpdateOperation},
      (∀ o, Open id o → Open id (patch o)) → Keeps (Harmless id w₀.override)
        (On fun w => Prepared id w₀ w ∧ w.override = w₀.override) (updateOperation env patch) :=
    fun hpatch => hsteady.updateOperation fun _ h => ⟨h.1.patched hpatch fun _ _ => h.2, h.2⟩
  refine through_phase hfailing (hsteady.toFramed.await rfl rfl) hm fun _ m₁ hm₁ => ?_
  refine through_phase hfailing (hupdate fun _ h => h) hm₁ fun _ m₂ hm₂ => ?_
  refine through_phase hfailing hsteady.toFramed.docker hm₂ fun _ m₃ hm₃ => ?_
  refine through_phase hfailing hsteady.toFramed.docker hm₃ fun _ m₄ hm₄ => ?_
  refine through_phase hfailing (hupdate fun _ h => h) hm₄ fun _ m₅ hm₅ => ?_
  refine through_phase hfailing hsteady.toFramed.docker hm₅ fun _ m₆ hm₆ => ?_
  refine through_phase hfailing hsteady.toFramed.docker hm₆ fun _ m₇ hm₇ => ?_
  refine through_phase hfailing hsteady.toFramed.docker hm₇ fun _ m₈ hm₈ => ?_
  -- The stage `switching` is recorded before the override is written.
  have hswitching : ∀ m', On (Switching id w₀ w₀.override) m' → On (Failing id w₀) m' :=
    fun _ h => h.toPrepared.failing
  refine Through.bind (steady_switching.through_updateOperation
    (fun _ h => .inl (hswitching _ h).toInterrupted) (.inl (hfailing _ hm₈).toInterrupted)
    (hm₈.2 ▸ hm₈.1.switched (fun _ h => h) fun _ => rfl))
    (fun _ m₉ _ h₉ => ?_) fun _ _ _ h => hswitching _ h.1
  refine Through.bind (through_writeOverride h₉.1 (h₉.2 rfl)) (fun _ m₁₀ _ h₁₀ => ?_)
    fun _ _ _ h => h.1
  have hcandidate : ∀ w, Switching id w₀ (some (renderOverride manifest)) w → Failing id w₀ w :=
    fun _ h => h.toPrepared.failing
  refine through_phase hcandidate (keeps_switchService rfl) (h₁₀.2 rfl) fun _ m₁₁ hm₁₁ => ?_
  refine through_phase hcandidate (keeps_switchService rfl) hm₁₁ fun _ m₁₂ hm₁₂ => ?_
  refine through_phase hcandidate (keeps_switchService rfl) hm₁₂ fun _ m₁₃ hm₁₃ => ?_
  refine Through.bind (through_recordCompletion hverified hm₁₃) (fun _ m₁₄ _ h₁₄ => ?_)
    fun _ _ _ h => h
  exact through_removeSaved hverified h₁₄.1 h₁₄.2

/-! ## The `try` block -/

theorem through_assign {I J : Machine → Prop} {f : Locals → Locals} {p : Unit → Updating Unit}
    (hI : ∀ w, I w → Failing id w₀ w) (hm : On I m)
    (hassign : J { m.state with locals := f m.state.locals })
    (hok : ∀ m', On J m' →
      Through (Harmless id w₀.override) (On (Sound env id w₀)) (Outcome env id w₀) (p ()) m') :
    Through (Harmless id w₀.override) (On (Sound env id w₀)) (Outcome env id w₀)
      (await (.assign f) >>= p) m := by
  refine .await_bind (.inl (hI _ hm).toInterrupted) (fun i _ _ _ => hok _ ?_) fun i x _ hx => ?_
  · unfold On
    rw [Moment.next_state, exec_inProcess rfl]
    exact hassign
  · rw [exec_inProcess rfl] at hx
    cases hx

theorem through_saveCopy {had : Bool} (hm : On (Ready id w₀ none) m)
    (hhad : had = w₀.override.isSome) :
    Through (Harmless id w₀.override) (On (Sound env id w₀)) (fun r m' =>
      On (Failing id w₀) m' ∧ (r = .ok () → On (Ready id w₀ w₀.override) m'))
      (runIf had (await (.copyToSaved id))) m := by
  have hsound : ∀ m', On (Failing id w₀) m' → On (Sound env id w₀) m' :=
    fun _ h => .inl h.toInterrupted
  have hverifying : ∀ saved, Verifying id w₀ { m.state with saved := saved } := fun saved =>
    ⟨⟨hm.release, hm.plan, hm.durable, hm.operation, hm.previous⟩, hm.durableStage, hm.stage,
      hm.override, hm.unprepared⟩
  have hstart : On (Failing id w₀) m := hm.toVerifying.failing
  unfold runIf
  split
  · rename_i hcopy
    obtain ⟨text, htext⟩ := Option.isSome_iff_exists.mp (hhad ▸ hcopy)
    refine .await (hsound m hstart) fun i _ => ?_
    unfold On
    rw [Moment.next_state]
    rcases exec_cases (.copyToSaved id) i m.state with he | ⟨_, he⟩
    · have hrun : (Stmt.copyToSaved id).run i m.state =
          (.ok (), { m.state with saved := withFile m.state.saved id (some text) }) := by
        simp only [Stmt.run, hm.override, htext]
      rw [he, hrun]
      have hready := hverifying (withFile m.state.saved id (some text))
      exact ⟨.inl hready.failing.toInterrupted, hready.failing, fun _ =>
        ⟨hready, (withFile_self _ _ _).trans htext.symm, hm.copy, hm.had⟩⟩
    · rw [he]
      exact ⟨.inl (hverifying _).failing.toInterrupted, (hverifying _).failing, fun h => by cases h⟩
  · rename_i hcopy
    refine .ret (hsound m hstart) ⟨hstart, fun _ => ⟨hm.toVerifying, ?_, hm.copy, hm.had⟩⟩
    cases hbefore : w₀.override with
    | none => exact hm.saved
    | some text =>
      rw [hbefore] at hhad
      exact absurd hhad hcopy

theorem outcome_applyVerified (haccepted : Accepted id w₀) (hm : On (Starting id w₀) m) :
    Through (Harmless id w₀.override) (On (Sound env id w₀)) (Outcome env id w₀)
      (applyVerified env id) m := by
  have hstarting : ∀ w, Starting id w₀ w → Failing id w₀ w := fun _ h => h.failing haccepted
  have hframed := framed_starting haccepted
  obtain ⟨s₀, o₀, hs₀, ho₀, hid, hstatus, hstage⟩ := haccepted.operation
  have hread : ∀ i, On (Starting id w₀) (m.next 0 (.readPlan id) i) := fun i =>
    hframed.aside _ _ _ rfl rfl hm
  refine .await_bind (.inl (hstarting _ hm).toInterrupted) (fun i plan _ hplan => ?_) fun i x _ _ =>
    ⟨.inl (hstarting _ (hread i)).toInterrupted, hstarting _ (hread i)⟩
  have hplan₀ : w₀.plans id = some plan ∧ plan.operationId = id := by
    rw [exec_ok hplan] at hplan
    simp only [Stmt.run, hm.plans] at hplan
    cases hp : w₀.plans id with
    | none => rw [hp] at hplan; cases hplan
    | some plan' =>
      rw [hp] at hplan
      dsimp only at hplan
      split at hplan
      · cases hplan
        exact ⟨rfl, ‹_›⟩
      · cases hplan
  refine Through.bind ((hframed.loadState (hread i)).mono
    (fun _ h => .inl (hstarting _ h).toInterrupted) fun _ _ _ h => h)
    (fun s m₁ _ hloaded => ?_) fun _ _ _ h => hstarting _ h.1
  obtain ⟨hm₁, hs⟩ := hloaded
  obtain rfl : s = s₀ := by
    have hstate := hs s rfl
    rw [hm₁.state, hs₀] at hstate
    exact (Option.some.inj hstate).symm
  have hopen : Open id o₀ := ⟨hid, by rw [hstatus]; rfl⟩
  have hunchanged : o₀.stage.changed = false := by
    rw [hstage]
    rfl
  refine through_assign hstarting (J := fun w => Verifying id w₀ w ∧ w.saved id = none) hm₁ ?_
    fun m₂ hm₂ => ?_
  · refine ⟨⟨⟨?_, ?_, ⟨o₀, ?_, hopen⟩, ⟨o₀, ho₀, hopen⟩, ⟨s, rfl, ?_⟩⟩, fun o ho => ?_, fun o ho => ?_,
      hm₁.override, ?_⟩, hm₁.fresh⟩
    · rw [Machine.release?, hm₁.state]
      rfl
    · rw [hm₁.plans, hplan₀.1]
      rfl
    · rw [Machine.operation?, hm₁.state, hs₀]
      exact ho₀
    · rw [Machine.release?, hs₀]
      rfl
    · rw [Machine.operation?, hm₁.state, hs₀] at ho
      obtain rfl := Option.some.inj (ho₀.symm.trans ho)
      exact hunchanged
    · obtain rfl := Option.some.inj (ho₀.symm.trans ho)
      exact hunchanged
    · rw [hm₁.locals]
  have hverifying : ∀ w, (Verifying id w₀ w ∧ w.saved id = none) → Failing id w₀ w :=
    fun _ h => h.1.failing
  have hframed₂ : Framed fun w => Verifying id w₀ w ∧ w.saved id = none :=
    Descriptive.framed (fun _ _ _ _ h => ⟨descriptive_verifying _ _ _ _ h.1, h.2⟩)
      fun _ h => state_of_operation h.1.durable.choose_spec.1
  have hframed₃ : Framed fun w => (Verifying id w₀ w ∧ w.saved id = none) ∧
      w.locals.previousOverride = some id :=
    Descriptive.framed (fun _ _ _ _ h => ⟨⟨descriptive_verifying _ _ _ _ h.1.1, h.1.2⟩, h.2⟩)
      fun _ h => state_of_operation h.1.1.durable.choose_spec.1
  have hready : ∀ {saved : Option String} (w : Machine), Ready id w₀ saved w → Failing id w₀ w :=
    fun _ h => h.toVerifying.failing
  rw [ho₀]
  dsimp only
  rw [hid, hplan₀.2, if_pos rfl]
  refine through_phase hverifying (hframed₂.await rfl rfl) hm₂ fun _ m₃ hm₃ => ?_
  refine through_assign hverifying (J := fun w => (Verifying id w₀ w ∧ w.saved id = none) ∧
    w.locals.previousOverride = some id) hm₃ ?_ fun m₄ hm₄ => ?_
  · have h := hm₃.1
    exact ⟨⟨⟨⟨h.release, h.plan, h.durable, h.operation, h.previous⟩, h.durableStage, h.stage,
      h.override, h.unprepared⟩, hm₃.2⟩, rfl⟩
  have hexists : ∀ j, On (fun w => (Verifying id w₀ w ∧ w.saved id = none) ∧
      w.locals.previousOverride = some id) (m₄.next 0 .overrideExists j) := fun j =>
    hframed₃.aside _ _ _ rfl rfl hm₄
  refine .await_bind (.inl (hverifying _ hm₄.1).toInterrupted) (fun j had _ hhad => ?_)
    fun j _ _ _ => ⟨.inl (hverifying _ (hexists j).1).toInterrupted, hverifying _ (hexists j).1⟩
  have hhad₀ : had = w₀.override.isSome := by
    rw [exec_ok hhad] at hhad
    rw [← hm₄.1.1.override]
    exact (Except.ok.inj hhad).symm
  refine through_assign (fun w h => hverifying w h.1) (J := Ready id w₀ none) (hexists j) ?_
    fun m₅ hm₅ => ?_
  · have h := (hexists j).1.1
    exact ⟨⟨⟨h.release, h.plan, h.durable, h.operation, h.previous⟩, h.durableStage, h.stage,
      h.override, h.unprepared⟩, (hexists j).1.2, (hexists j).2, hhad₀⟩
  refine through_phase hready (keeps_compositional.ret _) hm₅ fun _ m₆ hm₆ => ?_
  have hassigned : ∀ {saved : Option String} {m₀ : MachineMoment} {installRoot : String},
      On (Ready id w₀ saved) m₀ → Ready id w₀ saved { m₀.state with
        locals := { m₀.state.locals with installRoot := installRoot } } := fun h =>
    ⟨⟨⟨h.release, h.plan, h.durable, h.operation, h.previous⟩, h.durableStage, h.stage, h.override,
      h.unprepared⟩, h.saved, h.copy, h.had⟩
  refine through_assign hready (J := Ready id w₀ none) hm₆ (hassigned hm₆) fun m₇ hm₇ => ?_
  refine through_phase hready (steady_ready.updateOperation fun w h => ?_) hm₇ fun _ m₈ hm₈ => ?_
  · refine ⟨⟨⟨h.release, h.plan, h.durable, open_patched (fun o ho => ⟨ho.1, rfl⟩) h.operation,
      h.previous⟩, h.durableStage, fun o ho => ?_, h.override, h.unprepared⟩, h.saved, h.copy, h.had⟩
    obtain ⟨o', _, rfl⟩ := Option.map_eq_some_iff.mp ho
    rfl
  have hverify : ∀ j, On (Ready id w₀ none)
      (m₈.next 0 (.verify (env.verifyRelease plan.release o₀.fromVersion)) j) := fun j =>
    steady_ready.aside _ _ _ rfl rfl hm₈
  refine .await_bind (.inl (hready _ hm₈).toInterrupted) (fun j manifest _ hmanifest => ?_)
    fun j _ _ _ => ⟨.inl (hready _ (hverify j)).toInterrupted, hready _ (hverify j)⟩
  have hverified : Verified env id w₀ manifest := by
    rw [exec_ok hmanifest] at hmanifest
    refine ⟨plan, o₀, hplan₀.1, ?_, hmanifest⟩
    rw [Machine.operation?, hs₀]
    exact ho₀
  split
  · refine Through.bind (through_saveCopy (hverify j) hhad₀) (fun _ m₉ _ h₉ => ?_)
      fun _ _ _ h => h.1
    refine through_assign hready
      (J := fun w => Prepared id w₀ w ∧ w.override = w₀.override) (h₉.2 rfl) ?_ fun m₁₀ hm₁₀ => ?_
    · have h := h₉.2 rfl
      exact ⟨⟨⟨h.release, h.plan, h.durable, h.operation, h.previous⟩, fun _ _ _ => h.override,
        fun _ _ _ => h.override, h.saved, rfl, h.had, h.copy⟩, h.override⟩
    · exact through_switchRelease hverified hm₁₀
  · exact .ret (.inl (hready _ (hverify j)).toInterrupted) (hready _ (hverify j))

/-! ## The `catch` and `finally` blocks -/

/-- The previous override is in force, or there was none. -/
structure Settled (id : Id) (w₀ w : Machine) : Prop where
  recorded : Interrupted id w₀ w ∨ Closed id w₀ w
  override : w.override = w₀.override ∨ w₀.override = none

theorem Settled.sound (h : Settled id w₀ w) : Sound env id w₀ w :=
  h.recorded.imp_right .inl

theorem descriptive_interrupted : Descriptive (Interrupted id w₀) :=
  fun _ _ _ _ h => ⟨h.release, h.operation, h.unchanged, h.changed⟩

theorem descriptive_closed : Descriptive (Closed id w₀) :=
  fun _ _ _ _ h => ⟨h.release, h.operation, h.override⟩

theorem Closed.state (h : Closed id w₀ w) : w.state ≠ none :=
  state_of_operation h.operation.choose_spec.1

theorem Interrupted.state (h : Interrupted id w₀ w) : w.state ≠ none :=
  state_of_operation h.operation.choose_spec.1

theorem framed_settled : Framed (Settled id w₀) :=
  Descriptive.framed (fun _ _ _ _ h => ⟨h.recorded.imp (descriptive_interrupted _ _ _ _)
    (descriptive_closed _ _ _ _), h.override⟩)
    fun _ h => h.recorded.elim (fun h => h.state) fun h => h.state

theorem Interrupted.restored (h : Interrupted id w₀ w) :
    Interrupted id w₀ { w with override := w₀.override } :=
  ⟨h.release, h.operation, fun _ _ _ => rfl, fun o ho hchanged =>
    (h.changed o ho hchanged).imp_right fun h => ⟨h.1, rfl⟩⟩

theorem through_restoreOverride (hm : On (Failing id w₀) m) {i : MachineInput} :
    Through (Harmless id w₀.override) (On (Sound env id w₀)) (fun r m' =>
      Interrupted id w₀ m'.state ∧ (r = .ok () → m'.state.override = w₀.override) ∧
        (m'.state.override = w₀.override ∨ w₀.override = none))
      (restoreOverride m.state.locals) (m.next 0 .locals i) := by
  have hlocals : (m.next 0 .locals i).state = m.state := by rw [Moment.next_state, exec_locals]
  have hsound : ∀ m' : MachineMoment, Interrupted id w₀ m'.state → On (Sound env id w₀) m' :=
    fun _ h => .inl h
  have hinterrupted : Interrupted id w₀ (m.next 0 .locals i).state := by
    rw [hlocals]
    exact hm.toInterrupted
  unfold restoreOverride
  cases hprepared : m.state.locals.overridePrepared with
  | false =>
    have hbefore : (m.next 0 .locals i).state.override = w₀.override := by
      rw [hlocals]
      exact hm.unprepared hprepared
    rw [if_neg Bool.false_ne_true]
    exact .ret (hsound _ hinterrupted) ⟨hinterrupted, fun _ => hbefore, .inl hbefore⟩
  | true =>
    obtain ⟨hsaved, hhad, hcopy⟩ := hm.prepared hprepared
    rw [if_pos rfl, hhad, hcopy]
    cases hbefore : w₀.override with
    | some text =>
      dsimp only [Option.isSome_some]
      refine Through.ignoreError (Q := fun _ m' => Interrupted id w₀ m'.state ∧
        m'.state.override = some text) ?_ fun r m' _ h => ⟨h.1, fun _ => h.2, .inl h.2⟩
      refine .await (hsound _ hinterrupted) fun j hharmless => ?_
      have hrestored : (exec (Stmt.copyFromSaved id) j (m.next 0 .locals i).state).2 =
          { (m.next 0 .locals i).state with override := w₀.override } := by
        rw [hlocals, hbefore]
        cases hfault : j.fault with
        | none => simp only [Semantics.exec, hfault, Stmt.run, hsaved, hbefore]
        | some message =>
          have hleft := hharmless (by rw [hfault]; rfl)
          rw [hlocals] at hleft
          simp only [Semantics.exec, hfault, Stmt.inProcess, Stmt.failed, hleft]
          rfl
      have hnext : Interrupted id w₀ ((m.next 0 .locals i).next 0 (.copyFromSaved id) j).state ∧
          ((m.next 0 .locals i).next 0 (.copyFromSaved id) j).state.override = some text := by
        rw [Moment.next_state, hrestored]
        exact ⟨hinterrupted.restored, hbefore⟩
      exact ⟨hsound _ hnext.1, hnext⟩
    | none =>
      dsimp only [Option.isSome_none]
      refine .await (hsound _ hinterrupted) fun j _ => ?_
      unfold On
      rw [Moment.next_state]
      rcases exec_cases .removeOverride j (m.next 0 .locals i).state with he | ⟨_, he⟩
      · have hrestored := hinterrupted.restored
        rw [hbefore] at hrestored
        rw [he]
        exact ⟨.inl hrestored, hrestored, fun _ => rfl, .inr rfl⟩
      · rw [he]
        exact ⟨.inl hinterrupted, hinterrupted, (fun h => by cases h), .inr rfl⟩

theorem through_recordRollBack {l : Locals} {error : String}
    (hprevious : ∀ s, l.previousState = some s → some s.release = w₀.release?)
    (hm : Interrupted id w₀ m.state) (hbefore : m.state.override = w₀.override) :
    Through (Harmless id w₀.override) (On (Settled id w₀)) (fun _ => On (Settled id w₀))
      (recordRollBack l error) m := by
  have hstart : On (Settled id w₀) m := ⟨.inl hm, .inl hbefore⟩
  unfold recordRollBack
  split
  · rename_i previous operation hp _
    refine Through.ignoreError (Q := fun _ => On (Settled id w₀)) (.await hstart fun i _ => ?_)
      fun _ _ _ h => h
    have hnext : On (Settled id w₀) (m.next 0 (.saveState { previous with
        operation := some { operation with
          status := .rolledBack
          stage := .rolledBack
          message := sliceUnits 500 s!"Update rolled back: {error}" } }) i) := by
      refine keeps_exec ⟨.inr ⟨hprevious previous hp, ⟨_, rfl, .inl rfl⟩, .inl hbefore⟩,
        .inl hbefore⟩ hstart
    exact ⟨hnext, hnext⟩
  · exact .ret hstart hstart

theorem through_rollBack {error : String} (hm : On (Failing id w₀) m) :
    Through (Harmless id w₀.override) (On (Sound env id w₀)) (fun _ => On (Settled id w₀))
      (rollBack error) m := by
  have hsettled : ∀ m', On (Settled id w₀) m' → On (Sound env id w₀) m' := fun _ h => h.sound
  refine .await_bind (.inl hm.toInterrupted) (fun i l _ hl => ?_) fun i x _ hx => ?_
  · rw [exec_locals] at hl
    cases hl
    refine Through.bind (through_restoreOverride hm) (fun _ m₁ _ h₁ => ?_)
      fun _ _ _ h => ⟨.inl h.1, h.2.2⟩
    refine Through.bind (R := fun _ => On (Settled id w₀))
      ((through_recordRollBack hm.previous h₁.1 (h₁.2.1 rfl)).mono hsettled fun _ _ _ h => h)
      (fun _ m₂ _ hm₂ => ?_) fun _ _ _ h => h
    have hcontainers : Keeps (Harmless id w₀.override) (On (Settled id w₀))
        (restoreContainers m.state.locals) :=
      keeps_runIf (keeps_compositional.ignoreError framed_settled.docker)
    exact hcontainers.through_bind hm₂ hsettled (fun _ m₃ hm₃ => .ret (hsettled _ hm₃) hm₃)
      fun _ _ h => h
  · rw [exec_locals] at hx
    cases hx

/-- A property that the removal of the plan, of saved copies and of the lock keeps. -/
def Tidy (I : Machine → Prop) : Prop :=
  ∀ w plans saved lock, (∀ id, saved id = w.saved id ∨ saved id = none) → I w →
    I { w with plans := plans, saved := saved, lock := lock }

section Tidy

variable {I : Machine → Prop} {id' : Id} {G : Guard Stmt MachineInput Machine}

theorem Tidy.removePlan (h : Tidy I) : Keeps G (On I) (await (.removePlan id') : Updating Unit) :=
  keeps_await fun m _ _ hm =>
    keeps_exec (h m.state _ m.state.saved m.state.lock (fun _ => .inl rfl) hm) hm

theorem Tidy.removeLock (h : Tidy I) : Keeps G (On I) (await .removeLock : Updating Unit) :=
  keeps_await fun m _ _ hm =>
    keeps_exec (h m.state m.state.plans m.state.saved _ (fun _ => .inl rfl) hm) hm

theorem Tidy.removeSaved (h : Tidy I) : Keeps G (On I) (await (.removeSaved id') : Updating Unit) :=
  keeps_await fun m _ _ hm => by
    refine keeps_exec (h m.state m.state.plans _ m.state.lock (fun id'' => ?_) hm) hm
    by_cases hid : id'' = id'
    · exact .inr (if_pos hid)
    · exact .inl (if_neg hid)

theorem Tidy.cleanUp (h : Tidy I) : Keeps G (On I) (cleanUp id') := by
  refine keeps_compositional.bind h.removePlan fun _ => keeps_compositional.bind
    (keeps_await fun m i _ hm => ?_) fun l => keeps_compositional.bind ?_ fun _ => h.removeLock
  · unfold On
    rw [Moment.next_state, exec_locals]
    exact hm
  · cases l.previousOverride with
    | some copy => exact h.removeSaved
    | none => exact keeps_compositional.ret _

end Tidy

theorem tidy_settled : Tidy (Settled id w₀) := by
  intro w plans saved lock hsaved h
  refine ⟨?_, h.override⟩
  rcases h.recorded with hopen | hclosed
  · refine .inl ⟨hopen.release, hopen.operation, hopen.unchanged, fun o ho hchanged => ?_⟩
    rcases hsaved id with hsame | hnone
    · exact (hopen.changed o ho hchanged).imp hsame.trans fun h => ⟨hsame.trans h.1, h.2⟩
    · rcases h.override with hbefore | habsent
      · exact .inr ⟨hnone, hbefore⟩
      · exact .inl (hnone.trans habsent.symm)
  · refine .inr ⟨hclosed.release, hclosed.operation, .inl ?_⟩
    rcases h.override with hbefore | habsent
    · exact hbefore
    · exact hclosed.override.resolve_right fun h => by
        rw [habsent] at h
        cases h.1

theorem tidy_completed : Tidy (Completed manifest) :=
  fun _ _ _ _ _ h => ⟨h.release, h.operation, h.override⟩

theorem sound_of_stops (haccepted : Accepted id w₀)
    (hs : Stops (Harmless id w₀.override) (applyPlan env id) ⟨w₀, []⟩ m) :
    On (Sound env id w₀) m := by
  have hstarting : ∀ w, Starting id w₀ w → Failing id w₀ w := fun _ h => h.failing haccepted
  have hframed := framed_starting haccepted
  have hstart : On (Starting id w₀) ⟨w₀, []⟩ :=
    ⟨rfl, rfl, haccepted.fresh, rfl, haccepted.started⟩
  refine Through.stops (A := On (Sound env id w₀)) (Q := fun _ => On (Sound env id w₀)) ?_ hs
  have hbind : ∀ {e : Stmt Unit} {p : Unit → Updating Unit} {m : MachineMoment},
      e.quiet = true → e.aside = true → On (Starting id w₀) m → (∀ m', On (Starting id w₀) m' →
        Through (Harmless id w₀.override) (On (Sound env id w₀)) (fun _ => On (Sound env id w₀))
          (p ()) m') →
      Through (Harmless id w₀.override) (On (Sound env id w₀)) (fun _ => On (Sound env id w₀))
        (await e >>= p) m := fun hq ha hm hok =>
    (hframed.await hq ha).through_bind hm (fun _ h => .inl (hstarting _ h).toInterrupted)
      (fun _ => hok) fun _ _ h => .inl (hstarting _ h).toInterrupted
  refine hbind rfl rfl hstart fun m₁ hm₁ => hbind rfl rfl hm₁ fun m₂ hm₂ => ?_
  have hassign : ∀ i, On (Starting id w₀) (m₂.next 0 (.assign fun _ => {}) i) := fun i => by
    unfold On
    rw [Moment.next_state, exec_inProcess rfl]
    exact ⟨hm₂.state, hm₂.override, hm₂.fresh, hm₂.plans, rfl⟩
  refine .await_bind (.inl (hstarting _ hm₂).toInterrupted) (fun i _ _ _ => ?_) fun i _ _ _ =>
    ⟨.inl (hstarting _ (hassign i)).toInterrupted, .inl (hstarting _ (hassign i)).toInterrupted⟩
  refine Through.ensure (Q := fun r m' => (r = .ok () ∧ Outcome env id w₀ (.ok ()) m') ∨
    On (Settled id w₀) m') ?_ fun r m₃ _ h₃ => ?_
  · exact Through.tryCatch (outcome_applyVerified haccepted (hassign i))
      (fun _ _ _ h => .inl ⟨rfl, h⟩) fun _ _ _ h => (through_rollBack h).post fun _ _ _ h => .inr h
  · rcases h₃ with ⟨_, manifest, hverified, hcompleted⟩ | hsettled
    · exact (tidy_completed.cleanUp m₃ hcompleted).mono
        (fun _ h => .inr (.inr ⟨manifest, hverified, h⟩))
        fun _ _ _ h => .inr (.inr ⟨manifest, hverified, h⟩)
    · exact (tidy_settled.cleanUp m₃ hsettled).mono (fun _ h => h.sound) fun _ _ _ h => h.sound

/-! ## Recovery -/

/-- The open update that was loaded, with the previous override in force or not. -/
structure Recovering (id : Id) (w₀ : Machine) (s : SupervisorState) (w : Machine) : Prop
    extends Interrupted id w₀ w where
  loaded : w.state = some s

theorem framed_recovering {s : SupervisorState} : Framed (Recovering id w₀ s) :=
  Descriptive.framed (fun _ _ _ _ h => ⟨descriptive_interrupted _ _ _ _ h.toInterrupted, h.loaded⟩)
    fun _ h => h.toInterrupted.state

/-- The previous override is in force, whatever is recorded. -/
structure Restored (id : Id) (w₀ w : Machine) : Prop where
  recorded : Interrupted id w₀ w ∨ Closed id w₀ w
  override : w.override = w₀.override

theorem Restored.settled (h : Restored id w₀ w) : Settled id w₀ w := ⟨h.recorded, .inl h.override⟩

theorem framed_restored : Framed (Restored id w₀) :=
  Descriptive.framed (fun _ _ _ _ h => ⟨h.recorded.imp (descriptive_interrupted _ _ _ _)
    (descriptive_closed _ _ _ _), h.override⟩)
    fun _ h => h.settled.recorded.elim (fun h => h.state) fun h => h.state

theorem tidy_restored : Tidy (Restored id w₀) := fun w plans saved lock hsaved h =>
  ⟨(tidy_settled w plans saved lock hsaved h.settled).recorded, h.override⟩

/-- The operation in the file is open or closed. -/
def Recorded (id : Id) (w₀ w : Machine) : Prop := Interrupted id w₀ w ∨ Closed id w₀ w

theorem Recorded.sound (h : Recorded id w₀ w) : Sound env id w₀ w := h.imp_right .inl

/-- A part of recovery: without an error the previous override is in force after it. -/
def Restores (id : Id) (w₀ : Machine) (p : Updating Unit) (m : MachineMoment) : Prop :=
  Through (Harmless id w₀.override) (On (Recorded id w₀)) (fun r m' =>
    On (Recorded id w₀) m' ∧ (r = .ok () → On (Restored id w₀) m')) p m

theorem restores_of_keeps {p : Updating Unit}
    (hp : Keeps (Harmless id w₀.override) (On (Restored id w₀)) p) (hm : On (Restored id w₀) m) :
    Restores id w₀ p m :=
  (hp m hm).mono (fun _ h => h.recorded) fun _ _ _ h => ⟨h.recorded, fun _ => h⟩

theorem keeps_recoveryUp {I : Machine → Prop} (hI : Framed I)
    {G : Guard Stmt MachineInput Machine} {hadPrevious : Bool} {services : List Service} :
    Keeps G (On I) (recoveryUp env hadPrevious services) :=
  keeps_compositional.bind (keeps_compositional.ret _) fun _ => hI.docker

theorem restores_putBack {s : SupervisorState} {operation : UpdateOperation}
    (hm : On (Recovering id w₀ s) m) (hid : operation.id = id)
    (hoperation : s.operation = some operation) (hchanged : operation.stage.changed = true) :
    Restores id w₀ (putBack s operation (m.state.saved operation.id).isSome) m := by
  have hstart : On (Recorded id w₀) m := .inl hm.toInterrupted
  have hdurable : m.state.operation? = some operation := by
    rw [Machine.operation?, hm.loaded]
    exact hoperation
  have hcopy := hm.changed operation hdurable hchanged
  have hloaded : ∀ o, m.state.operation? = some o → o = operation := fun o ho =>
    Option.some.inj (ho.symm.trans hdurable)
  unfold Restores putBack
  rw [hid]
  cases hsaved : m.state.saved id with
  | some text =>
    rw [if_pos (by rfl)]
    have hbefore : some text = w₀.override := by
      rcases hcopy with h | h
      · exact hsaved.symm.trans h
      · rw [hsaved] at h
        cases h.1
    refine .await hstart fun i _ => ?_
    unfold On
    rw [Moment.next_state]
    rcases exec_cases (.renameSaved id) i m.state with he | ⟨_, he⟩
    · have hrun : (Stmt.renameSaved id).run i m.state = (.ok (), { m.state with
          override := some text, saved := withFile m.state.saved id none }) := by
        simp only [Stmt.run, hsaved]
      rw [he, hrun]
      have hopen : Interrupted id w₀ { m.state with
          override := some text, saved := withFile m.state.saved id none } :=
        ⟨hm.release, hm.operation, fun _ _ _ => hbefore,
          fun _ _ _ => .inr ⟨withFile_self _ _ _, hbefore⟩⟩
      exact ⟨.inl hopen, .inl hopen, fun _ => ⟨.inl hopen, hbefore⟩⟩
    · rw [he]
      exact ⟨hstart, hstart, fun h => by cases h⟩
  | none =>
    rw [if_neg (by simp)]
    split
    · exact .ret hstart ⟨hstart, fun h => by cases h⟩
    · refine .await hstart fun i hharmless => ?_
      unfold On
      rw [Moment.next_state]
      cases hfault : i.fault with
      | some message =>
        have hfailed : exec Stmt.removeOverride i m.state = (.error message, m.state) := by
          simp only [Semantics.exec, hfault, Stmt.inProcess, Stmt.failed]
          rfl
        rw [hfailed]
        exact ⟨hstart, hstart, fun h => by cases h⟩
      | none =>
        have hrun : exec Stmt.removeOverride i m.state =
            (.ok (), { m.state with override := w₀.override }) := by
          simp only [Semantics.exec, hfault, Stmt.run, hharmless hfault]
        rw [hrun]
        exact ⟨.inl hm.toInterrupted.restored, .inl hm.toInterrupted.restored,
          fun _ => ⟨.inl hm.toInterrupted.restored, rfl⟩⟩

theorem restores_descriptor {s : SupervisorState} {operation : UpdateOperation}
    (hm : On (Recovering id w₀ s) m) (hid : operation.id = id)
    (hoperation : s.operation = some operation) :
    Restores id w₀ (runIf operation.stage.changed (restoreDescriptor env s operation)) m := by
  have hrecorded : ∀ m', On (Recovering id w₀ s) m' → On (Recorded id w₀) m' :=
    fun _ h => .inl h.toInterrupted
  unfold runIf
  split
  · rename_i hchanged
    have hexists : ∀ i, On (Recovering id w₀ s) (m.next 0 (.savedExists operation.id) i) := fun i =>
      framed_recovering.aside _ _ _ rfl rfl hm
    refine .await_bind (hrecorded m hm) (fun i had _ hhad => ?_) fun i _ _ _ =>
      ⟨hrecorded _ (hexists i), hrecorded _ (hexists i), fun h => by cases h⟩
    have hhad' : had = ((m.next 0 (.savedExists operation.id) i).state.saved operation.id).isSome := by
      have hrun := exec_ok hhad
      rw [hrun] at hhad
      rw [Moment.next_state, hrun]
      exact (Except.ok.inj hhad).symm
    rw [hhad']
    refine Through.bind (restores_putBack (hexists i) hid hoperation hchanged)
      (fun _ m₁ _ h₁ => ?_) fun _ _ _ h => ⟨h.1, fun h => by cases h⟩
    exact restores_of_keeps (keeps_recoveryUp framed_restored) (h₁.2 rfl)
  · rename_i hchanged
    refine .ret (hrecorded m hm) ⟨hrecorded m hm, fun _ => ⟨hrecorded m hm, ?_⟩⟩
    refine hm.unchanged operation ?_ (by simpa using hchanged)
    rw [Machine.operation?, hm.loaded]
    exact hoperation

theorem through_restore {s : SupervisorState} {operation : UpdateOperation}
    (hm : On (Recovering id w₀ s) m) (hid : operation.id = id)
    (hoperation : s.operation = some operation) (hrelease : some s.release = w₀.release?) :
    Through (Harmless id w₀.override) (On (Recorded id w₀)) (fun _ => On (Recorded id w₀))
      (restore env s operation) m := by
  refine Through.bind (restores_descriptor hm hid hoperation) (fun _ m₁ _ h₁ => ?_) fun _ _ _ h => h.1
  have hm₁ : On (Restored id w₀) m₁ := h₁.2 rfl
  have hsave : ∀ i, On (Restored id w₀) (m₁.next 0
      (.saveState { s with operation := some (recoveredOperation operation) }) i) := by
    intro i
    refine keeps_exec ⟨.inr ⟨hrelease, ⟨_, rfl, ?_⟩, .inl hm₁.override⟩, hm₁.override⟩ hm₁
    unfold recoveredOperation
    split
    · exact .inl rfl
    · exact .inr rfl
  have hrest : Keeps (Harmless id w₀.override) (On (Restored id w₀)) (do
      runIf (operation.stage == .supervisor) (restoreSupervisor env operation)
      await (.removePlan operation.id)
      await (.removeSaved operation.id)
      await .removeLock : Updating Unit) := by
    refine keeps_compositional.bind (keeps_runIf ?_) fun _ =>
      keeps_compositional.bind tidy_restored.removePlan fun _ =>
      keeps_compositional.bind tidy_restored.removeSaved fun _ => tidy_restored.removeLock
    exact keeps_compositional.bind (framed_restored.await rfl rfl) fun _ =>
      keeps_recoveryUp framed_restored
  refine .await_bind hm₁.recorded (fun i _ _ _ => ?_) fun i _ _ _ =>
    ⟨(hsave i).recorded, (hsave i).recorded⟩
  exact (hrest _ (hsave i)).mono (fun _ h => h.recorded) fun _ _ _ h => h.recorded

theorem through_recordFailedRecovery {s : SupervisorState} {operation : UpdateOperation}
    {error : String} (hm : On (Recorded id w₀) m) (hrelease : some s.release = w₀.release?) :
    Through (Harmless id w₀.override) (On (Recorded id w₀)) (fun _ => On (Recorded id w₀))
      (recordFailedRecovery s operation error) m := by
  refine .await hm fun i hharmless => ?_
  have hnext : On (Recorded id w₀) (m.next 0 (.saveState { s with operation := some { operation with
      status := .failed
      stage := .recoveryFailed
      message := sliceUnits 500 s!"Automatic recovery failed: {error}" } }) i) := by
    unfold On
    rw [Moment.next_state]
    cases hfault : i.fault with
    | some message =>
      simp only [Semantics.exec, hfault, Stmt.inProcess, Stmt.failed]
      exact hm
    | none =>
      have hkept := hharmless hfault ⟨_, rfl, rfl⟩
      simp only [Semantics.exec, hfault, Stmt.run]
      refine .inr ⟨hrelease, ⟨_, rfl, .inr rfl⟩, ?_⟩
      rcases hm with hopen | hclosed
      · obtain ⟨o, ho, _⟩ := hopen.operation
        cases hstage : o.stage.changed with
        | false => exact .inl (hopen.unchanged o ho hstage)
        | true =>
          rcases hopen.changed o ho hstage with hsaved | ⟨_, hbefore⟩
          · cases hbefore : w₀.override with
            | some text => exact .inr ⟨rfl, hsaved.trans hbefore⟩
            | none =>
              rw [hbefore] at hkept
              exact .inl (hkept.resolve_left Bool.false_ne_true)
          · exact .inl hbefore
      · exact hclosed.override
  exact ⟨hnext, hnext⟩

theorem framed_sound : Framed (Sound env id w₀) := by
  refine Descriptive.framed (fun _ _ _ _ h => ?_) fun w h => ?_
  · rcases h with h | h | ⟨manifest, hverified, h⟩
    · exact .inl (descriptive_interrupted _ _ _ _ h)
    · exact .inr (.inl (descriptive_closed _ _ _ _ h))
    · exact .inr (.inr ⟨manifest, hverified, h.release, h.operation, h.override⟩)
  · rcases h with h | h | ⟨_, _, h⟩
    · exact h.state
    · exact h.state
    · exact state_of_operation h.operation.choose_spec.1

theorem Sound.interrupted {o : UpdateOperation} (h : Sound env id w₀ w)
    (ho : w.operation? = some o) (hbusy : o.status.busy = true) : Interrupted id w₀ w := by
  have hfinal : ∀ o', w.operation? = some o' → o'.status.busy = true := fun o' ho' => by
    rwa [← Option.some.inj (ho.symm.trans ho')]
  rcases h with h | h | ⟨_, _, h⟩
  · exact h
  · obtain ⟨o', ho', hstatus⟩ := h.operation
    have hopen := hfinal o' ho'
    rcases hstatus with hstatus | hstatus <;> rw [hstatus] at hopen <;> cases hopen
  · obtain ⟨o', ho', hstatus⟩ := h.operation
    have hopen := hfinal o' ho'
    rw [hstatus] at hopen
    cases hopen

theorem through_recoverInterruptedUpdate {env' : Installation} {expected : Option Id}
    (hm : On (Sound env id w₀) m) :
    Through (Harmless id w₀.override) (On (Sound env id w₀)) (fun _ _ => True)
      (recoverInterruptedUpdate env' expected) m := by
  refine Through.bind (framed_sound.loadState hm) (fun s m₁ hm₁ ⟨_, hs⟩ => ?_)
    fun _ _ _ _ => trivial
  have hloaded : m₁.state.state = some s := hs s rfl
  split
  · exact .ret hm₁ trivial
  · split
    · exact .ret hm₁ trivial
    · rename_i operation hfilter
      obtain ⟨hoperation, hbusy⟩ := Option.filter_eq_some_iff.mp hfilter
      have hdurable : m₁.state.operation? = some operation := by
        rw [Machine.operation?, hloaded]
        exact hoperation
      have hopen := Sound.interrupted hm₁ hdurable hbusy
      have hid : operation.id = id := by
        obtain ⟨o, ho, hid, _⟩ := hopen.operation
        rwa [← Option.some.inj (hdurable.symm.trans ho)] at hid
      have hrelease : some s.release = w₀.release? := by
        rw [← hopen.release, Machine.release?, hloaded]
        rfl
      have hrecovering : On (Recovering id w₀ s) m₁ := ⟨hopen, hloaded⟩
      have hsound : ∀ m', On (Recorded id w₀) m' → On (Sound env id w₀) m' := fun _ h => h.sound
      refine (framed_recovering.await rfl rfl).through_bind hrecovering
        (fun _ h => .inl h.toInterrupted) (fun helper m₂ hm₂ => ?_) fun _ _ _ => trivial
      split
      · refine Through.tryCatch (Q := fun _ => On (Recorded id w₀))
          ((through_restore hm₂ hid hoperation hrelease).mono hsound fun _ _ _ h => h)
          (fun _ _ _ _ => trivial) fun _ _ _ h => ?_
        exact (through_recordFailedRecovery h hrelease).mono hsound fun _ _ _ _ => trivial
      · split
        · exact .ret (.inl hm₂.toInterrupted) trivial
        · exact .ret (.inl hm₂.toInterrupted) trivial

end Truth

/-- Wherever the helper and then any number of recoveries are stopped, the durable status is true,
if all steps were harmless. -/
theorem durable_status_truthful {env : Installation} {id : Id} {w₀ : Machine} {m m' : MachineMoment}
    (haccepted : Accepted id w₀)
    (happly : Stops (Harmless id w₀.override) (applyPlan env id) ⟨w₀, []⟩ m)
    (hrecover : Restarts (Harmless id w₀.override)
      (fun _ p => ∃ env' expected, p = recoverInterruptedUpdate env' expected) m m') :
    TellsTruth env id w₀ m'.state := by
  refine Sound.tellsTruth (hrecover.keeps (A := On (Sound env id w₀)) ?_
    (sound_of_stops haccepted happly))
  rintro m p ⟨env', expected, rfl⟩ hm
  exact through_recoverInterruptedUpdate hm

def faultless {β : Type} (e : Stmt β) (i : MachineInput) : Bool :=
  i.fault.isNone && match e with
    | .removeOverride => false
    | .saveState state => state.operation.all fun o => o.stage != .recoveryFailed
    | _ => true

theorem harmless_of_faultless {id : Id} {before : Option String} {β : Type} (e : Stmt β)
    (i : MachineInput) (w : Machine) (h : faultless e i = true) : Harmless id before β e i w := by
  obtain ⟨hfault, hstmt⟩ := (Bool.and_eq_true _ _).mp h
  rw [Option.isNone_iff_eq_none] at hfault
  cases e with
  | removeOverride => cases hstmt
  | saveState state =>
    rintro _ ⟨o, ho, hstage⟩
    simp only [Option.all_eq_true, bne_iff_ne, ne_eq] at hstmt
    exact absurd hstage (hstmt o ho)
  | copyFromSaved | removeSaved =>
    intro hfaulted
    rw [hfault] at hfaulted
    cases hfaulted
  | _ => trivial

/-- Every step of a whole update succeeds. -/
def updateInputs : List MachineInput :=
  supervisorInputs ++ [works, answers "0123456789ab", answers "healthy"] ++
    List.replicate 7 works

theorem durable_status_truthful_update :
    operationIs ((applyPlan installation 1).advance updateInputs ⟨signedHost, []⟩)
      .succeeded .completed = true ∧
    TellsTruth installation 1 signedHost
      ((applyPlan installation 1).advance updateInputs ⟨signedHost, []⟩).state :=
  ⟨by decide, durable_status_truthful (accepted_acceptedHost _ _)
    (stops_of_passes harmless_of_faultless (by decide)) .refl⟩

/-- The API becomes unhealthy, and the host refuses to copy the previous override back. -/
def refusedCopyInputs : List MachineInput :=
  List.replicate 42 works ++ [answers "0123456789ab", answers "unhealthy", works,
    { fault := some "EPERM: operation not permitted" }] ++ List.replicate 6 works

/-- The update is recorded as rolled back, the new override is in force, and the only copy of the
previous one is gone. -/
theorem rolled_back_without_override : ¬ ∀ (env : Installation) (id : Id) (w₀ : Machine)
    (m m' : MachineMoment), Accepted id w₀ → Stops anyStep (applyPlan env id) ⟨w₀, []⟩ m →
      Restarts anyStep (fun _ p => ∃ env' expected, p = recoverInterruptedUpdate env' expected)
        m m' → TellsTruth env id w₀ m'.state := by
  intro hall
  let m := (applyPlan installation 1).advance refusedCopyInputs ⟨signedHost, []⟩
  obtain ⟨o, ho, hstatus, _⟩ := operation_of_operationIs (m := m) .rolledBack .rolledBack
    (by decide)
  obtain ⟨_, hback⟩ := (hall installation 1 signedHost m m (accepted_acceptedHost _ _)
    (stops_advance _ _ _) .refl).closed o ho (.inl hstatus)
  have hoverride : m.state.override ≠ signedHost.override := by decide
  have hsaved : m.state.saved 1 ≠ signedHost.override := by decide
  rcases hback with hback | ⟨_, hback⟩
  · exact hoverride hback
  · exact hsaved hback

end InitPad.Supervisor
