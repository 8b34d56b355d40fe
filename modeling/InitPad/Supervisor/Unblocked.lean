import InitPad.Supervisor.Descriptors
import InitPad.Supervisor.Server

/-!
# InitPad.Supervisor.Unblocked

From which states restarts of the Supervisor lead back to one that accepts updates. Three guards
stand before an update: the status of the operation, the lock file, and the flag of the process.
-/

namespace InitPad.Supervisor

open Interleave Interleave.Prog

def Stmt.launches {β : Type} : Stmt β → Option (HelperKind × Id)
  | .docker (.runHelper kind id _ _) => some (kind, id)
  | _ => none

/-- The helper may run: its `docker run` was issued. -/
def Launched (kind : HelperKind) (id : Id) (m : MachineMoment) : Prop :=
  ∃ ev ∈ m.history, ev.stmt.launches = some (kind, id)

/-- What runs once the Supervisor is started again. -/
inductive Restarting (env : Installation) (m : MachineMoment) : Updating Unit → Prop where
  | start : Restarting env m (startServer env)
  | recovery (id : Id) : Launched .recovery id m →
      Restarting env m (recoverInterruptedUpdate env (some id))

/-- Requests, update helpers and restarts, each of them stopped anywhere. -/
inductive Attempt (env : Installation) (m : MachineMoment) : Updating Unit → Prop where
  | update (request : UpdateRequest) :
      Attempt env m (do let _ ← handleUpdate env request)
  | helper (id : Id) : Launched .update id m → Attempt env m (applyPlan env id)
  | restarting {p : Updating Unit} : Restarting env m p → Attempt env m p

/-- All three guards are down. -/
structure Unblocked (w : Machine) : Prop where
  operation : ∀ o, w.operation? = some o → o.status.busy = false
  lock : w.lock = false
  accepting : w.accepting = false

def Machine.version (env : Installation) (w : Machine) : String :=
  match w.state with
  | some s => s.currentVersion
  | none => env.platformVersion

structure NewRequest (env : Installation) (w : Machine) (request : UpdateRequest)
    (release : SignedPlatformRelease) (manifest : PlatformReleaseManifest) : Prop where
  readable : ∀ s, w.state = some s → isVersion s.currentVersion = true
  configured : ∃ root, validInstallRoot env.installRoot = .ok root
  unseen : ∀ o, w.operation? = some o → o.requestId ≠ request.requestId
  parsed : request.release = .ok release
  verified : env.verifyRelease release (w.version env) = .ok manifest
  unplanned : w.plans w.nextId = none

/-- Every valid request is accepted, and its helper gets past the creation of the lock. -/
def AcceptsUpdates (env : Installation) (w : Machine) : Prop :=
  ∀ request release manifest, NewRequest env w request release manifest →
    ∃ operation w' w'', Can (ι := MachineInput) (handleUpdate env request) w
      (.ok ⟨202, .operation operation⟩) w' ∧
      Can (ι := MachineInput) (await .createLock : Updating Unit) w' (.ok ()) w''

/-- After everything was stopped at `w`, restarts lead to a state in which updates are accepted. -/
def Unblocks (env : Installation) (w : Machine) : Prop :=
  ∃ m', Restarts anyStep (Restarting env) ⟨w, []⟩ m' ∧ Unblocked m'.state ∧
    AcceptsUpdates env m'.state

/-- The states that a restart can repair. Nobody removes the lock of an update that is closed, and
recovery of an open one keeps it when the previous override cannot be restored. -/
inductive Recoverable (env : Installation) (w : Machine) : Prop where
  | closed : (∀ o, w.operation? = some o → o.status.busy = false) → w.lock = false →
      Recoverable env w
  | interrupted {s : SupervisorState} {o : UpdateOperation} {root : String} :
      w.state = some s → s.operation = some o → o.status.busy = true →
      isVersion s.currentVersion = true → validInstallRoot env.installRoot = .ok root →
      (w.lock = false ∨ o.stage.changed = false ∨ (w.saved o.id).isSome = true ∨
        s.currentImages = none) → Recoverable env w

section Accepts

variable {env : Installation} {w v : Machine} {β : Type}

theorem can_works {e : Stmt β} {r : Except String β} (h : e.run works w = (r, v)) :
    Can (ι := MachineInput) (await e : Updating β) w r v := can_await works h

theorem can_docker {command : DockerCommand} :
    Can (ι := MachineInput) (docker command) w (.ok ()) w :=
  (can_works rfl).bind (can_ret _ _)

theorem can_loadState (env : Installation) {s : SupervisorState} (hs : w.state = some s)
    (hversion : isVersion s.currentVersion = true) :
    Can (ι := MachineInput) (loadState env) w (.ok s) w := by
  refine (can_works (r := .ok (some s)) (v := w) (by simp only [Stmt.run, hs])).bind ?_
  dsimp only
  rw [if_pos hversion]
  exact can_ret _ _

theorem can_loadInitial (hs : w.state = none) :
    Can (ι := MachineInput) (loadState env) w (.ok (initialState env))
      { w with state := some (initialState env) } :=
  (can_works (r := .ok none) (v := w) (by simp only [Stmt.run, hs])).bind
    ((can_works rfl).bind (can_ret _ _))

/-- `docker inspect` of a Supervisor that runs a local image. -/
def localImage : String := String.ofList ("sha256:".toList ++ List.replicate 64 'f' ++ ['\n'])

theorem can_helperRuntime {root : String} (hroot : validInstallRoot env.installRoot = .ok root) :
    ∃ image, Can (ι := MachineInput) (helperRuntime env) w (.ok image) w := by
  have himage : ∃ image, helperImage env localImage = .ok image := by
    have hid : isImageId (trimmed ((localImage.toList.splitOn '\n').getD 0 [])) = true := by
      decide
    exact ⟨_, by rw [helperImage, if_pos hid, hroot]; rfl⟩
  obtain ⟨image, himage⟩ := himage
  refine ⟨image, Can.bind (a := localImage) (can_await (answers localImage) rfl) ?_⟩
  rw [himage]
  exact can_ret _ _

theorem can_launchHelper {root : String} {id : Id}
    (hroot : validInstallRoot env.installRoot = .ok root) :
    Can (ι := MachineInput) (launchHelper env id) w (.ok ()) w := by
  obtain ⟨image, himage⟩ := can_helperRuntime (w := w) hroot
  exact himage.bind (Can.tryCatch_ok can_docker)

theorem can_acceptUpdate {request : UpdateRequest} {state : SupervisorState}
    {release : SignedPlatformRelease} {manifest : PlatformReleaseManifest} {root : String}
    (hroot : validInstallRoot env.installRoot = .ok root) (hparsed : request.release = .ok release)
    (hverified : env.verifyRelease release state.currentVersion = .ok manifest)
    (hplan : w.plans w.nextId = none) :
    ∃ operation w', Can (ι := MachineInput) (acceptUpdate env request state) w
      (.ok ⟨202, .operation operation⟩) w' ∧ w'.lock = w.lock := by
  let operation := acceptedOperation w.nextId request state manifest
  let w₁ : Machine := { w with
    nextId := w.nextId + 1
    state := some { state with operation := some operation } }
  let w₂ : Machine := { w₁ with
    plans := withFile w₁.plans w.nextId (some ⟨w.nextId, release⟩) }
  refine ⟨operation, w₂, ?_, rfl⟩
  refine Can.bind (a := release) (t := w) (by rw [hparsed]; exact can_ret _ _) ?_
  refine Can.bind (a := manifest) (t := w) (can_works (by rw [hverified]; rfl)) ?_
  refine Can.bind (a := w.nextId) (can_works rfl) ?_
  refine Can.bind (a := ()) (t := w₁) (can_works rfl) ?_
  refine Can.bind (a := ()) (t := w₁) (can_works rfl) ?_
  refine Can.bind (a := ()) (t := w₂) (can_works ?_) ?_
  · have habsent : (w₁.plans w.nextId).isSome = false := by
      rw [show w₁.plans w.nextId = none from hplan]
      rfl
    simp only [Stmt.run, habsent, Bool.false_eq_true, if_false]
    rfl
  · exact Can.bind (a := ()) (t := w₂) (Can.tryCatch_ok (can_launchHelper hroot)) (can_ret _ _)

theorem can_handleRequest (request : UpdateRequest) {state : SupervisorState}
    {release : SignedPlatformRelease} {manifest : PlatformReleaseManifest} {root : String}
    (hload : Can (ι := MachineInput) (loadState env) w (.ok state) v)
    (hopen : ∀ o, state.operation = some o → o.status.busy = false ∧ o.requestId ≠ request.requestId)
    (haccepting : v.accepting = false)
    (hroot : validInstallRoot env.installRoot = .ok root) (hparsed : request.release = .ok release)
    (hverified : env.verifyRelease release state.currentVersion = .ok manifest)
    (hplan : v.plans v.nextId = none) :
    ∃ operation w', Can (ι := MachineInput) (handleUpdate env request) w
      (.ok ⟨202, .operation operation⟩) w' ∧ w'.lock = v.lock := by
  let w₁ : Machine := { v with accepting := true }
  obtain ⟨operation, w₂, haccept, hlock⟩ := can_acceptUpdate (w := w₁) hroot hparsed hverified hplan
  refine ⟨operation, { w₂ with accepting := false }, Can.tryCatch_ok (hload.bind ?_), hlock⟩
  have hunseen : state.operation.filter (·.requestId = request.requestId) = none := by
    rw [Option.filter_eq_none_iff]
    intro o ho
    simpa using (hopen o ho).2
  have hidle : state.operation.any (·.status.busy) = false := by
    cases ho : state.operation with
    | none => rfl
    | some o => exact (hopen o ho).1
  rw [hunseen]
  dsimp only
  refine Can.bind (a := true) (t := w₁) (can_works ?_) ?_
  · simp only [Stmt.run, haccepting, hidle, Bool.or_false, Bool.false_eq_true, if_false]
    rfl
  · exact haccept.ensure (can_works rfl)

theorem Unblocked.acceptsUpdates (h : Unblocked w) : AcceptsUpdates env w := by
  intro request release manifest hnew
  obtain ⟨root, hroot⟩ := hnew.configured
  have hlocked : ∀ w' : Machine, w'.lock = false → ∃ w'', Can (ι := MachineInput)
      (await .createLock : Updating Unit) w' (.ok ()) w'' := fun w' hlock =>
    ⟨{ w' with lock := true }, can_works (by
      simp only [Stmt.run, hlock, Bool.false_eq_true, if_false])⟩
  have hverified := hnew.verified
  cases hs : w.state with
  | some s =>
    have hoperation : ∀ o, s.operation = some o → w.operation? = some o := fun o ho => by
      rw [Machine.operation?, hs]
      exact ho
    rw [Machine.version, hs] at hverified
    obtain ⟨operation, w', hcan, hlock⟩ := can_handleRequest request
      (can_loadState env hs (hnew.readable s hs)) (fun o ho => ⟨h.operation o (hoperation o ho),
        hnew.unseen o (hoperation o ho)⟩) h.accepting hroot hnew.parsed hverified hnew.unplanned
    obtain ⟨w'', hcreate⟩ := hlocked w' (hlock.trans h.lock)
    exact ⟨operation, w', w'', hcan, hcreate⟩
  | none =>
    rw [Machine.version, hs] at hverified
    obtain ⟨operation, w', hcan, hlock⟩ := can_handleRequest request
      (can_loadInitial hs) (fun o ho => (by cases ho)) h.accepting hroot hnew.parsed hverified
      hnew.unplanned
    obtain ⟨w'', hcreate⟩ := hlocked w' (hlock.trans h.lock)
    exact ⟨operation, w', w'', hcan, hcreate⟩

end Accepts

/-! ## A restart that works -/

section Repairs

variable {env : Installation} {w w₁ : Machine} {s : SupervisorState} {o : UpdateOperation}
  {root : String} {m : MachineMoment}

theorem can_recoveryUp {hadPrevious : Bool} {services : List Service}
    (hroot : validInstallRoot env.installRoot = .ok root) :
    Can (ι := MachineInput) (recoveryUp env hadPrevious services) w (.ok ()) w :=
  Can.bind (a := root) (t := w) (by rw [hroot]; exact can_ret _ _) can_docker

theorem recoveredOperation_closed : (recoveredOperation o).status.busy = false := by
  unfold recoveredOperation
  split <;> rfl

theorem can_finishRestore (hroot : validInstallRoot env.installRoot = .ok root)
    (haccepting : w.accepting = false) :
    ∃ w', Can (ι := MachineInput) (do
      await (.saveState { s with operation := some (recoveredOperation o) })
      runIf (o.stage == .supervisor) (restoreSupervisor env o)
      await (.removePlan o.id)
      await (.removeSaved o.id)
      await .removeLock : Updating Unit) w (.ok ()) w' ∧ Unblocked w' := by
  let w₁ : Machine := { w with state := some { s with operation := some (recoveredOperation o) } }
  let w₂ : Machine := { w₁ with plans := withFile w₁.plans o.id none }
  let w₃ : Machine := { w₂ with saved := withFile w₂.saved o.id none }
  refine ⟨{ w₃ with lock := false }, ?_, ?_⟩
  · refine Can.bind (a := ()) (t := w₁) (can_works rfl) (Can.bind (a := ()) (t := w₁) ?_ ?_)
    · unfold runIf
      split
      · exact Can.bind (a := (w₁.saved o.id).isSome) (can_works rfl) (can_recoveryUp hroot)
      · exact can_ret _ _
    · exact Can.bind (a := ()) (t := w₂) (can_works rfl)
        (Can.bind (a := ()) (t := w₃) (can_works rfl) (can_works rfl))
  · refine ⟨fun o' ho' => ?_, rfl, haccepting⟩
    obtain rfl := Option.some.inj ho'
    exact recoveredOperation_closed

theorem can_restoreDescriptor (hroot : validInstallRoot env.installRoot = .ok root)
    (hcopy : (w.saved o.id).isSome = true ∨ s.currentImages = none) :
    ∃ w₁, Can (ι := MachineInput) (restoreDescriptor env s o) w (.ok ()) w₁ ∧
      w₁.accepting = w.accepting := by
  have hput : ∃ w₁, Can (ι := MachineInput) (putBack s o (w.saved o.id).isSome) w (.ok ()) w₁ ∧
      w₁.accepting = w.accepting := by
    unfold putBack
    cases hsaved : w.saved o.id with
    | some text =>
      refine ⟨{ w with override := some text, saved := withFile w.saved o.id none }, ?_, rfl⟩
      rw [if_pos (by rfl)]
      exact can_works (by simp only [Stmt.run, hsaved])
    | none =>
      have himages : s.currentImages = none := by
        refine hcopy.resolve_left ?_
        rw [hsaved]
        exact Bool.false_ne_true
      refine ⟨{ w with override := none }, ?_, rfl⟩
      rw [if_neg (by simp), if_neg (by rw [himages]; simp)]
      exact can_works rfl
  obtain ⟨w₁, hcan, haccepting⟩ := hput
  exact ⟨w₁, Can.bind (a := (w.saved o.id).isSome) (can_works rfl)
    (hcan.bind (can_recoveryUp hroot)), haccepting⟩

theorem can_restore (hroot : validInstallRoot env.installRoot = .ok root)
    (haccepting : w.accepting = false)
    (hcopy : o.stage.changed = false ∨ (w.saved o.id).isSome = true ∨ s.currentImages = none) :
    ∃ w', Can (ι := MachineInput) (restore env s o) w (.ok ()) w' ∧ Unblocked w' := by
  have hdescriptor : ∃ w₁, Can (ι := MachineInput)
      (runIf o.stage.changed (restoreDescriptor env s o)) w (.ok ()) w₁ ∧
        w₁.accepting = w.accepting := by
    unfold runIf
    split
    · rename_i hchanged
      refine can_restoreDescriptor hroot (hcopy.resolve_left ?_)
      rw [hchanged]
      exact fun h => by cases h
    · exact ⟨w, can_ret _ _, rfl⟩
  obtain ⟨w₁, hcan, hsame⟩ := hdescriptor
  obtain ⟨w', hfinish, hunblocked⟩ := can_finishRestore (s := s) (o := o) hroot
    (hsame.trans haccepting)
  exact ⟨w', hcan.bind hfinish, hunblocked⟩

theorem can_failRestore (hlock : w.lock = false) (haccepting : w.accepting = false)
    (hchanged : o.stage.changed = true) (hsaved : w.saved o.id = none)
    (himages : s.currentImages.isSome = true) :
    ∃ w', Can (ι := MachineInput) (tryCatch (restore env s o) (recordFailedRecovery s o)) w (.ok ())
      w' ∧ Unblocked w' := by
  let error := "Previous signed platform release descriptor is missing"
  have hrestore : Can (ι := MachineInput) (restore env s o) w (.error error) w := by
    refine Can.bind_error ?_
    rw [runIf, if_pos hchanged]
    refine Can.bind (a := false) (t := w) (can_works ?_) (Can.bind_error ?_)
    · simp only [Stmt.run, hsaved, Option.isSome_none]
    · unfold putBack
      rw [if_neg Bool.false_ne_true, if_pos himages]
      exact can_ret _ _
  refine ⟨_, Can.tryCatch_error hrestore (can_works rfl), fun o' ho' => ?_, hlock, haccepting⟩
  obtain rfl := Option.some.inj ho'
  rfl

theorem can_recover (hs : w.state = some s) (ho : s.operation = some o)
    (hbusy : o.status.busy = true) (hversion : isVersion s.currentVersion = true)
    (hroot : validInstallRoot env.installRoot = .ok root) (haccepting : w.accepting = false)
    (h : w.lock = false ∨ o.stage.changed = false ∨ (w.saved o.id).isSome = true ∨
      s.currentImages = none) :
    ∃ w', Can (ι := MachineInput) (recoverInterruptedUpdate env (some o.id)) w (.ok ()) w' ∧
      Unblocked w' := by
  have hrestored : ∃ w', Can (ι := MachineInput)
      (tryCatch (restore env s o) (recordFailedRecovery s o)) w (.ok ()) w' ∧ Unblocked w' := by
    by_cases hcopy : o.stage.changed = false ∨ (w.saved o.id).isSome = true ∨ s.currentImages = none
    · obtain ⟨w', hcan, hunblocked⟩ := can_restore hroot haccepting hcopy
      exact ⟨w', hcan.tryCatch_ok, hunblocked⟩
    · obtain ⟨hchanged, hsaved, himages⟩ := by simpa only [not_or] using hcopy
      exact can_failRestore (h.resolve_right hcopy) haccepting (by simpa using hchanged)
        (by simpa using hsaved) (by simpa [Option.isSome_iff_ne_none] using himages)
  obtain ⟨w', hcan, hunblocked⟩ := hrestored
  refine ⟨w', (can_loadState env hs hversion).bind ?_, hunblocked⟩
  have hfilter : s.operation.filter (·.status.busy) = some o := by
    rw [ho, Option.filter_some, if_pos hbusy]
  rw [if_neg (by rw [ho]; simp), hfilter]
  dsimp only
  refine Can.bind (a := "") (t := w) (can_works rfl) ?_
  rw [if_pos rfl]
  exact hcan

/-- The memory of the process that was started again. -/
def Machine.booted (w : Machine) : Machine := { w with accepting := false, locals := {} }

theorem ends_startServer (hs : m.state.state = some s) (ho : s.operation = some o)
    (hbusy : o.status.busy = true) (hversion : isVersion s.currentVersion = true)
    (hroot : validInstallRoot env.installRoot = .ok root) :
    ∃ m', Ends (startServer env) m (.ok ()) m' ∧ m'.state = m.state.booted ∧
      Launched .recovery o.id m' := by
  have hask : ∀ kind, Can (ι := MachineInput)
      (await (.docker (.helpers kind o.id)) : Updating String) m.state.booted (.ok "")
        m.state.booted := fun _ => can_works rfl
  obtain ⟨image, himage⟩ := can_helperRuntime (w := m.state.booted) hroot
  obtain ⟨m₁, hboot, hm₁⟩ := can_works (e := .boot) (w := m.state) (v := m.state.booted) rfl m rfl
  obtain ⟨m₂, hload, hm₂⟩ := can_loadState (w := m.state.booted) env hs hversion m₁ hm₁
  obtain ⟨m₃, hupdater, hm₃⟩ := hask .update m₂ hm₂
  obtain ⟨m₄, hrecovery, hm₄⟩ := hask .recovery m₃ hm₃
  obtain ⟨m₅, hruntime, hm₅⟩ := himage m₄ hm₄
  let launch : Stmt String := .docker (.runHelper .recovery o.id image env.container)
  have hlaunch : Ends (docker (.runHelper .recovery o.id image env.container)) m₅ (.ok ())
      (m₅.next 0 launch works) :=
    ends_bind_ok.mpr ⟨"", _, ends_await.mpr ⟨works, rfl, rfl⟩, .ret _ _⟩
  have hfilter : s.operation.filter (·.status.busy) = some o := by
    rw [ho, Option.filter_some, if_pos hbusy]
  refine ⟨m₅.next 0 launch works, ?_, hm₅, ?_⟩
  · refine ends_bind_ok.mpr ⟨(), m₁, hboot, ends_bind_ok.mpr ⟨s, m₂, hload, ?_⟩⟩
    rw [hfilter]
    dsimp only
    refine ends_bind_ok.mpr ⟨"", m₃, hupdater, ?_⟩
    rw [if_neg (by simp)]
    refine ends_bind_ok.mpr ⟨"", m₄, hrecovery, ?_⟩
    rw [if_neg (by simp)]
    exact ends_bind_ok.mpr ⟨image, m₅, hruntime, hlaunch⟩
  · rw [Launched, Moment.next_history]
    exact ⟨_, List.mem_append_right _ (List.mem_singleton.mpr rfl), rfl⟩

theorem unblocks_of_recoverable (h : Recoverable env w) : Unblocks env w := by
  let m : MachineMoment := ⟨w, []⟩
  cases h with
  | closed hclosed hlock =>
    have hbooted : Unblocked (m.next 0 .boot works).state := ⟨hclosed, hlock, rfl⟩
    exact ⟨_, .attempt .refl .start (.call works trivial (.here _ _)), hbooted,
      hbooted.acceptsUpdates⟩
  | interrupted hs ho hbusy hversion hroot h =>
    obtain ⟨m₁, hstart, hm₁, hlaunched⟩ := ends_startServer (m := m) hs ho hbusy hversion hroot
    obtain ⟨w', hcan, hunblocked⟩ := can_recover (w := w.booted) hs ho hbusy hversion hroot rfl h
    obtain ⟨m', hrecover, rfl⟩ := hcan m₁ hm₁
    exact ⟨m', .attempt (.attempt .refl .start hstart.stops) (.recovery _ hlaunched) hrecover.stops,
      hunblocked, hunblocked.acceptsUpdates⟩

end Repairs

/-! ## What restarts cannot repair -/

section Stuck

variable {env : Installation} {w : Machine} {m : MachineMoment} {s : SupervisorState}
  {o : UpdateOperation}

structure Stuck (env : Installation) (m : MachineMoment) : Prop where
  unrepaired : ¬ Recoverable env m.state
  configured : ∀ kind id, Launched kind id m → ∃ root, validInstallRoot env.installRoot = .ok root

theorem Recoverable.of_same {w' : Machine} (hstate : w'.state = w.state)
    (hsaved : w'.saved = w.saved) (hlock : w'.lock = w.lock) (h : Recoverable env w) :
    Recoverable env w' := by
  cases h with
  | closed hclosed hfree =>
    refine .closed ?_ (hlock.trans hfree)
    unfold Machine.operation?
    rw [hstate]
    exact hclosed
  | interrupted hs ho hbusy hversion hroot h =>
    refine .interrupted (hstate.trans hs) ho hbusy hversion hroot ?_
    rw [hlock, hsaved]
    exact h

/-- Statements that write neither the state file, a saved copy nor the lock. -/
def Stmt.watches {β : Type} : Stmt β → Bool
  | .readState | .savedExists _ | .docker _ | .boot => true
  | _ => false

theorem watches_exec {β : Type} {e : Stmt β} {i : MachineInput} (h : e.watches = true) :
    (exec e i w).2.state = w.state ∧ (exec e i w).2.saved = w.saved ∧
      (exec e i w).2.lock = w.lock := by
  refine keeps_exec
    (I := fun w' => w'.state = w.state ∧ w'.saved = w.saved ∧ w'.lock = w.lock) ?_ ?_
  · cases e with
    | readState | savedExists | docker | boot => exact ⟨rfl, rfl, rfl⟩
    | _ => cases h
  · cases e with
    | readState | savedExists | docker | boot => exact ⟨rfl, rfl, rfl⟩
    | _ => cases h

theorem Stuck.next {β : Type} {e : Stmt β} {i : MachineInput} (h : Stuck env m)
    (hstill : Recoverable env (exec e i m.state).2 → Recoverable env m.state)
    (hlaunch : e.launches.isSome = true → ∃ root, validInstallRoot env.installRoot = .ok root) :
    Stuck env (m.next 0 e i) where
  unrepaired hrecoverable := h.unrepaired (hstill hrecoverable)
  configured kind id := by
    rintro ⟨ev, hev, hlaunches⟩
    rw [Moment.next_history] at hev
    rcases List.mem_append.mp hev with hev | hev
    · exact h.configured kind id ⟨ev, hev, hlaunches⟩
    · obtain rfl := List.mem_singleton.mp hev
      exact hlaunch (by rw [hlaunches]; rfl)

theorem Stuck.watch {β : Type} {e : Stmt β} {i : MachineInput} (h : Stuck env m)
    (he : e.watches = true)
    (hlaunch : e.launches.isSome = true → ∃ root, validInstallRoot env.installRoot = .ok root) :
    Stuck env (m.next 0 e i) := by
  obtain ⟨hstate, hsaved, hlock⟩ := watches_exec (i := i) (w := m.state) he
  exact h.next (Recoverable.of_same hstate.symm hsaved.symm hlock.symm) hlaunch

theorem keeps_stuck_watch {β : Type} {e : Stmt β} (he : e.watches = true)
    (hlaunch : e.launches = none) :
    Keeps anyStep (Stuck env) (await e : Updating β) :=
  keeps_await fun _ _ _ hm => hm.watch he (by rw [hlaunch]; exact fun h => by cases h)

theorem stuck_loadState (hm : Stuck env m) :
    Through anyStep (Stuck env) (fun r m' => Stuck env m' ∧ ∀ s, r = .ok s →
      m'.state.state = some s ∧ (s.operation ≠ none → isVersion s.currentVersion = true))
      (loadState env) m := by
  have hread : ∀ i, Stuck env (m.next 0 .readState i) := fun i => hm.watch rfl (fun h => by cases h)
  refine .await_bind hm (fun i found _ hfound => ?_) fun i x _ _ =>
    ⟨hread i, hread i, fun _ h => by cases h⟩
  have hstate : (m.next 0 .readState i).state.state = found := by
    rw [Moment.next_state, (quiet_exec rfl).1]
    rw [exec_ok hfound] at hfound
    exact Except.ok.inj hfound
  cases found with
  | some state =>
    dsimp only
    split
    · rename_i hversion
      exact .ret (hread i) ⟨hread i, fun s hs => by cases hs; exact ⟨hstate, fun _ => hversion⟩⟩
    · exact .ret (hread i) ⟨hread i, fun _ h => by cases h⟩
  | none =>
    have hsave : ∀ j, Stuck env ((m.next 0 .readState i).next 0 (.saveState (initialState env)) j) ∧
        ((exec (Stmt.saveState (initialState env)) j (m.next 0 .readState i).state).1 = .ok () →
          ((m.next 0 .readState i).next 0 (.saveState (initialState env)) j).state.state =
            some (initialState env)) := by
      intro j
      have habsent : (m.next 0 .readState i).state.operation? = none := by
        rw [Machine.operation?, hstate]
        rfl
      rcases exec_cases (Stmt.saveState (initialState env)) j (m.next 0 .readState i).state with
        he | ⟨_, he⟩
      · refine ⟨(hread i).next (fun h => ?_) (fun h => by cases h), fun _ => by
          rw [Moment.next_state, he]; rfl⟩
        rw [he] at h
        refine .closed (fun o ho => ?_) ?_
        · rw [habsent] at ho
          cases ho
        · cases h with
          | closed _ hlock => exact hlock
          | interrupted hs ho =>
            cases hs
            cases ho
      · refine ⟨(hread i).next (fun h => ?_) (fun h => by cases h), fun hok => ?_⟩
        · rw [he] at h
          exact h
        · rw [he] at hok
          cases hok
    refine .await_bind (hread i) (fun j a _ ha => ?_) fun j x _ _ =>
      ⟨(hsave j).1, (hsave j).1, fun _ h => by cases h⟩
    refine .ret (hsave j).1 ⟨(hsave j).1, fun s hs => ?_⟩
    cases hs
    exact ⟨(hsave j).2 ha, fun h => absurd rfl h⟩

theorem root_of_helperImage {stdout image : String} (h : helperImage env stdout = .ok image) :
    ∃ root, validInstallRoot env.installRoot = .ok root := by
  unfold helperImage at h
  dsimp only at h
  split at h
  · cases hroot : validInstallRoot env.installRoot with
    | ok root => exact ⟨root, rfl⟩
    | error x => rw [hroot] at h; cases h
  · cases h

theorem stuck_helperRuntime (hm : Stuck env m) :
    Through anyStep (Stuck env) (fun r m' => Stuck env m' ∧
      ∀ image, r = .ok image → ∃ root, validInstallRoot env.installRoot = .ok root)
      (helperRuntime env) m := by
  have hidentity : ∀ i, Stuck env (m.next 0 (.docker (.inspectIdentity env.container)) i) :=
    fun i => hm.watch rfl (fun h => by cases h)
  refine .await_bind hm (fun i stdout _ _ => ?_) fun i _ _ _ =>
    ⟨hidentity i, hidentity i, fun _ h => by cases h⟩
  exact .ret (hidentity i) ⟨hidentity i, fun _ himage => root_of_helperImage himage⟩

theorem keeps_stuck_startServer : Keeps anyStep (Stuck env) (startServer env) := by
  refine keeps_compositional.bind (keeps_stuck_watch rfl rfl) fun _ m hm => ?_
  refine Through.bind (stuck_loadState hm) (fun s m₁ _ ⟨hm₁, _⟩ => ?_) fun _ _ _ h => h.1
  split
  · exact .ret hm₁ hm₁
  · refine (keeps_stuck_watch rfl rfl).through_bind hm₁ (fun _ h => h) (fun updater m₂ hm₂ => ?_)
      fun _ _ h => h
    split
    · exact .ret hm₂ hm₂
    · refine (keeps_stuck_watch rfl rfl).through_bind hm₂ (fun _ h => h) (fun active m₃ hm₃ => ?_)
        fun _ _ h => h
      split
      · exact .ret hm₃ hm₃
      · refine Through.bind (stuck_helperRuntime hm₃) (fun image m₄ _ h₄ => ?_) fun _ _ _ h => h.1
        have hrun : ∀ command i, Stuck env (m₄.next 0 (.docker command) i) :=
          fun _ _ => h₄.1.watch rfl fun _ => h₄.2 image rfl
        exact .await_bind h₄.1 (fun i _ _ _ => .ret (hrun _ i) (hrun _ i)) fun i _ _ _ =>
          ⟨hrun _ i, hrun _ i⟩

structure Unrestorable (env : Installation) (s : SupervisorState) (o : UpdateOperation)
    (m : MachineMoment) : Prop extends Stuck env m where
  state : m.state.state = some s
  saved : m.state.saved o.id = none
  lock : m.state.lock = true

theorem Unrestorable.watch {β : Type} {e : Stmt β} {i : MachineInput} (h : Unrestorable env s o m)
    (he : e.watches = true) (hlaunch : e.launches = none) :
    Unrestorable env s o (m.next 0 e i) := by
  obtain ⟨hstate, hsaved, hlock⟩ := watches_exec (i := i) (w := m.state) he
  refine ⟨h.toStuck.watch he (by rw [hlaunch]; exact fun h => by cases h), ?_, ?_, ?_⟩
  · exact hstate.trans h.state
  · exact (congrFun hsaved o.id).trans h.saved
  · exact hlock.trans h.lock

theorem Stuck.unrestorable {root : String} (h : Stuck env m)
    (hroot : validInstallRoot env.installRoot = .ok root) (hs : m.state.state = some s)
    (ho : s.operation = some o) (hbusy : o.status.busy = true)
    (hversion : isVersion s.currentVersion = true) :
    Unrestorable env s o m ∧ o.stage.changed = true ∧ s.currentImages.isSome = true := by
  have hnot : ¬ (m.state.lock = false ∨ o.stage.changed = false ∨
      (m.state.saved o.id).isSome = true ∨ s.currentImages = none) := fun hcopy =>
    h.unrepaired (.interrupted hs ho hbusy hversion hroot hcopy)
  simp only [not_or] at hnot
  obtain ⟨hlock, hchanged, hsaved, himages⟩ := hnot
  exact ⟨⟨h, hs, by simpa using hsaved, by simpa using hlock⟩, by simpa using hchanged,
    Option.isSome_iff_ne_none.mpr himages⟩

theorem unrestorable_restore (hm : Unrestorable env s o m) (hchanged : o.stage.changed = true)
    (himages : s.currentImages.isSome = true) :
    Through anyStep (Stuck env) (fun r m' => Unrestorable env s o m' ∧ ∃ x, r = .error x)
      (restore env s o) m := by
  have hexists : ∀ i, Unrestorable env s o (m.next 0 (.savedExists o.id) i) := fun i =>
    hm.watch rfl rfl
  refine Through.bind (Q := fun r m' => Unrestorable env s o m' ∧ ∃ x, r = .error x) ?_
    (fun _ _ _ ⟨_, _, h⟩ => by cases h) fun x _ _ h => ⟨h.1, x, rfl⟩
  rw [runIf, if_pos hchanged]
  refine .await_bind hm.toStuck (fun i had _ hhad => ?_) fun i x _ _ =>
    ⟨(hexists i).toStuck, hexists i, x, rfl⟩
  rw [exec_ok hhad] at hhad
  simp only [Stmt.run, hm.saved, Option.isSome_none, Except.ok.injEq] at hhad
  subst hhad
  unfold putBack
  rw [if_neg Bool.false_ne_true, if_pos himages]
  exact .ret (hexists i).toStuck ⟨hexists i, _, rfl⟩

theorem stuck_recordFailedRecovery {error : String} (hm : Unrestorable env s o m) :
    Through anyStep (Stuck env) (fun _ => Stuck env) (recordFailedRecovery s o error) m := by
  have hsave : ∀ i, Stuck env (m.next 0 (.saveState { s with operation := some { o with
      status := .failed
      stage := .recoveryFailed
      message := sliceUnits 500 s!"Automatic recovery failed: {error}" } }) i) := by
    intro i
    refine hm.toStuck.next (fun h => ?_) (fun h => by cases h)
    rcases exec_cases _ i m.state with he | ⟨_, he⟩
    · rw [he] at h
      cases h with
      | closed _ hfree =>
        have hlock : m.state.lock = false := hfree
        rw [hm.lock] at hlock
        cases hlock
      | interrupted hs ho hbusy =>
        cases hs
        cases ho
        cases hbusy
    · rw [he] at h
      exact h
  exact .await hm.toStuck fun i _ => ⟨hsave i, hsave i⟩

theorem stuck_recoverInterruptedUpdate {id : Id} (hm : Stuck env m)
    (hlaunched : Launched .recovery id m) :
    Through anyStep (Stuck env) (fun _ _ => True) (recoverInterruptedUpdate env (some id)) m := by
  obtain ⟨root, hroot⟩ := hm.configured _ _ hlaunched
  refine Through.bind (stuck_loadState hm) (fun s m₁ hm₁ ⟨_, hs⟩ => ?_) fun _ _ _ _ => trivial
  obtain ⟨hstate, hreadable⟩ := hs s rfl
  split
  · exact .ret hm₁ trivial
  · split
    · exact .ret hm₁ trivial
    · rename_i o hfilter
      obtain ⟨ho, hbusy⟩ := Option.filter_eq_some_iff.mp hfilter
      obtain ⟨hunrestorable, hchanged, himages⟩ := hm₁.unrestorable hroot hstate ho hbusy
        (hreadable (by rw [ho]; exact fun h => by cases h))
      have hask : ∀ i, Unrestorable env s o (m₁.next 0 (.docker (.helpers .update o.id)) i) :=
        fun i => hunrestorable.watch rfl rfl
      refine .await_bind hm₁ (fun i helper _ _ => ?_) fun i _ _ _ => ⟨(hask i).toStuck, trivial⟩
      split
      · refine Through.tryCatch (unrestorable_restore (hask i) hchanged himages)
          (fun _ _ _ _ => trivial) fun x m₂ _ h => ?_
        exact (stuck_recordFailedRecovery h.1).post fun _ _ _ _ => trivial
      · split
        · exact .ret (hask i).toStuck trivial
        · exact .ret (hask i).toStuck trivial

end Stuck

theorem recoverable_of_unblocks {env : Installation} {w : Machine} (h : Unblocks env w) :
    Recoverable env w := by
  obtain ⟨m', hrestarts, hunblocked, _⟩ := h
  by_contra hnot
  have hstart : Stuck env ⟨w, []⟩ := ⟨hnot, fun _ _ ⟨_, hev, _⟩ => absurd hev List.not_mem_nil⟩
  have hstuck : Stuck env m' := by
    refine hrestarts.keeps (A := Stuck env) (fun m p hentry hm => ?_) hstart
    cases hentry with
    | start => exact (keeps_stuck_startServer m hm).post fun _ _ _ _ => trivial
    | recovery id hlaunched => exact stuck_recoverInterruptedUpdate hm hlaunched
  exact hstuck.unrepaired (.closed hunblocked.operation hunblocked.lock)

/-- Restarts lead back to a state that accepts updates exactly from the recoverable ones. -/
theorem restarts_unblock (env : Installation) (w : Machine) :
    Unblocks env w ↔ Recoverable env w :=
  ⟨recoverable_of_unblocks, unblocks_of_recoverable⟩

/-- A signed installation without an update. -/
def idleHost : Machine := { signedHost with
  state := some ⟨"0.2.0", some (imagesOf 'd' 'e' 'f'), none⟩
  plans := fun _ => none
  nextId := 1 }

def updateRequest : UpdateRequest where
  requestId := "3f04ebec-3299-4ce5-bd02-cf390ca413e9"
  release := .ok ⟨"0.3.0", "", ""⟩

/-- The request is accepted, and its helper is launched. -/
def requestInputs : List MachineInput :=
  List.replicate 7 works ++ [answers localImage] ++ List.replicate 2 works

/-- Up to the statement that records the success. -/
def completionInputs : List MachineInput :=
  supervisorInputs ++ [works, answers "0123456789ab", answers "healthy", works, works]

/-- The helper stops between the recorded success and the removal of the lock: no restart removes
it, so no later update gets past it. -/
theorem finished_update_blocks : ¬ ∀ (env : Installation) (w₀ : Machine) (m : MachineMoment),
    Unblocked w₀ → Restarts anyStep (Attempt env) ⟨w₀, []⟩ m → Unblocks env m.state := by
  intro hall
  let m₁ := (do let _ ← handleUpdate installation updateRequest : Updating Unit).advance
    requestInputs ⟨idleHost, []⟩
  let m₂ := (applyPlan installation 1).advance completionInputs m₁
  have hlaunched : Launched .update 1 m₁ := by
    have hany : m₁.history.any (fun ev => ev.stmt.launches == some (.update, 1)) = true := by
      decide
    obtain ⟨ev, hev, hlaunches⟩ := List.any_eq_true.mp hany
    exact ⟨ev, hev, by simpa using hlaunches⟩
  obtain ⟨o, ho, hstatus, _⟩ := operation_of_operationIs (m := m₂) .succeeded .completed
    (by decide)
  have hlock : m₂.state.lock = true := by decide
  have hunblocks := hall installation idleHost m₂ ⟨(fun _ h => by cases h), rfl, rfl⟩
    (.attempt (.attempt .refl (.update updateRequest) (stops_advance _ _ _)) (.helper 1 hlaunched)
      (stops_advance _ _ _))
  cases recoverable_of_unblocks hunblocks with
  | closed _ hfree =>
    rw [hlock] at hfree
    cases hfree
  | interrupted hs ho' hbusy =>
    rw [Machine.operation?, hs] at ho
    obtain rfl := Option.some.inj (ho'.symm.trans ho)
    rw [hstatus] at hbusy
    cases hbusy

end InitPad.Supervisor
