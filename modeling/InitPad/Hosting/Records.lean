import InitPad.Deployment.Tasks
import InitPad.Hosting.ControlPlane

/-!
# InitPad.Hosting.Records

What the row of an environment says of its workload. A row that is empty and has no reason says
that nothing is left; a version is what a removal goes by. `Stmt.empties` and `Stmt.unversions` are
the statements that can change this; what a direct operation does besides calling its provider and
publishing the outcome is `Quiet`.
-/

namespace InitPad

open Store Interleave Prog

/-- The environment is recorded as empty, without a cleanup marker. -/
def Emptied (w : World) (id : Id) : Prop :=
  ∃ r ∈ w.db.environments.rows, r.id = id ∧ r.status = .empty ∧ r.statusReason = none

theorem emptied_congr {w w' : World} {id : Id} (h : w'.db.environments = w.db.environments) :
    Emptied w' id ↔ Emptied w id := by
  rw [Emptied, h]
  rfl

/-- The patch can make a row empty and without a reason. -/
def EnvironmentData.empties (d : EnvironmentData) : Bool :=
  match d.statusReason, d.status with
  | some (some _), _ => false
  | _, some status => status == .empty
  | some none, none => true
  | none, none => false

theorem EnvironmentData.recorded_of_apply {d : EnvironmentData} (hd : d.empties = false)
    {r : Environment} (hstatus : (d.apply r).status = .empty)
    (hreason : (d.apply r).statusReason = none) : r.status = .empty ∧ r.statusReason = none := by
  obtain ⟨status, version, artifact, url, reason, _⟩ := d
  cases status with
  | none =>
    cases reason with
    | none => exact ⟨hstatus, hreason⟩
    | some reason =>
      cases reason with
      | none => cases hd
      | some reason => cases hreason
  | some status =>
    cases hstatus
    cases reason with
    | none => cases hd
    | some reason =>
      cases reason with
      | none => cases hd
      | some reason => cases hreason

theorem emptied_of_update {w : World} {p : Environment → Bool} {id : Id}
    (d : Environment → Environment) (hid : ∀ r, (d r).id = r.id)
    (hd : ∀ r, (d r).status = .empty → (d r).statusReason = none →
      r.status = .empty ∧ r.statusReason = none)
    (h : Emptied (w.updateEnvironments p d) id) : Emptied w id := by
  obtain ⟨r', hr', hid', hstatus, hreason⟩ := h
  obtain ⟨r, hr, hrow⟩ := Table.mem_updateMany.mp hr'
  split at hrow
  · subst hrow
    exact ⟨r, hr, (hid r).symm.trans hid', hd r hstatus hreason⟩
  · subst hrow
    exact ⟨r, hr, hid', hstatus, hreason⟩

theorem emptied_of_patch {w : World} {p : Environment → Bool} {d : EnvironmentData} {id : Id}
    (hd : d.empties = false) (h : Emptied (w.patchEnvironment p d) id) : Emptied w id :=
  emptied_of_update d.apply (fun _ => rfl)
    (fun _ hstatus hreason => EnvironmentData.recorded_of_apply hd hstatus hreason) h

def Stmt.empties {β : Type} : Stmt β → Bool
  | .beginClaim .. | .releaseLock .. | .reportStatusReason .. | .cancelAgentOperation ..
  | .cancelDirect .. | .clearLock .. | .abandonEnvironment .. | .publishStopped ..
  | .failLifecycle .. | .publishStarted .. | .failBackground .. | .markDeploying ..
  | .publishDeployment .. | .publishQueued .. => false
  | .cancelClaimed _ environment _ =>
    environment.status == .empty && environment.statusReason.isNone
  | .publishRemoved _ _ message => message.isNone
  | .publishEmptied _ _ _ warning => warning.isNone
  | e => e.writesEnvironments

theorem emptied_of_run {β : Type} {e : Stmt β} (he : e.empties = false) {i : Input} {w : World}
    {id : Id} (h : Emptied (e.run i w).2 id) : Emptied w id := by
  by_cases hwrites : e.writesEnvironments = true
  · cases e with
    | beginClaim view kind version artifact expected =>
      simp only [Stmt.run] at h
      split at h
      · exact h
      · split at h
        · exact h
        · exact emptied_of_patch rfl h
    | releaseLock operationId =>
      exact emptied_of_update (fun r => { r with activeOperationId := none }) (fun _ => rfl)
        (fun _ hstatus hreason => ⟨hstatus, hreason⟩) h
    | reportStatusReason operationId projectId name message =>
      exact emptied_of_update (fun r => { r with statusReason := some message }) (fun _ => rfl)
        (fun _ _ hreason => by cases hreason) h
    | cancelClaimed operationId environment message =>
      simp only [Stmt.run, World.snd_requireRows] at h
      split at h
      · refine emptied_of_patch ?_ h
        simp only [EnvironmentData.empties]
        cases hreason : environment.statusReason with
        | none => simpa [Stmt.empties, hreason] using he
        | some reason => rfl
      · exact h
    | cancelAgentOperation | cancelDirect | clearLock | abandonEnvironment =>
      simp only [Stmt.run, World.snd_requireRows] at h
      split at h
      · exact emptied_of_patch rfl h
      · exact h
    | publishRemoved environmentId operationId message =>
      cases message with
      | none => cases he
      | some message => exact emptied_of_patch rfl h
    | publishEmptied projectId name operationId warning =>
      cases warning with
      | none => cases he
      | some warning => exact emptied_of_patch rfl h
    | publishStarted projectId name operationId result =>
      refine emptied_of_patch ?_ h
      cases hfailed : result.failed with
      | false => simp [EnvironmentData.empties]
      | true => cases result.reason <;> simp [EnvironmentData.empties]
    | publishStopped | failLifecycle | failBackground | markDeploying | publishDeployment
    | publishQueued => exact emptied_of_patch rfl h
    | _ => first | (cases he; done) | cases hwrites
  · exact (emptied_congr (environments_run_of_reads e i w (Bool.eq_false_iff.mpr hwrites))).mp h

theorem emptied_of_exec {β : Type} {e : Stmt β} (he : e.empties = false) {i : Input} {w : World}
    {id : Id} (h : Emptied (exec e i w).2 id) : Emptied w id := by
  rcases exec_cases e i w with ⟨_, _, hexec⟩ | ⟨_, hexec⟩
  · rw [hexec] at h
    exact h
  · rw [hexec] at h
    have htick : Emptied (w.tick i.dbNow) id := emptied_of_run he h
    exact htick

def Versioned (w : World) (id : Id) : Prop := ∃ r, w.env? id = some r ∧ r.version.isSome = true

/-- The statements that can take the version of an environment. -/
def Stmt.unversions {β : Type} : Stmt β → Bool
  | .beginClaim .. | .cancelClaimed .. | .releaseLock .. | .reportStatusReason ..
  | .cancelAgentOperation .. | .cancelDirect .. | .clearLock .. | .publishStopped ..
  | .failLifecycle .. | .publishStarted .. | .failBackground .. | .markDeploying ..
  | .publishDeployment .. | .publishQueued .. => false
  | e => e.writesEnvironments

theorem emptied_of_cancelClaimed {operationId : Id} {environment : Environment} {message : String}
    {i : Input} {w : World} {id : Id}
    (hview : environment.id = id →
      ¬ (environment.status = .empty ∧ environment.statusReason = none))
    (h : Emptied (exec (Stmt.cancelClaimed operationId environment message) i w).2 id) :
    Emptied w id := by
  rcases exec_cases (.cancelClaimed operationId environment message) i w with
    ⟨_, _, hexec⟩ | ⟨_, hexec⟩
  · rw [hexec] at h
    exact h
  · rw [hexec] at h
    simp only [Stmt.run, World.snd_requireRows] at h
    split at h
    · obtain ⟨r', hr', hid, hstatus, hreason⟩ := h
      obtain ⟨r, hr, hrow⟩ := Table.mem_updateMany.mp hr'
      split at hrow
      · rename_i hholds
        subst hrow
        simp only [holds, Bool.and_eq_true, beq_iff_eq] at hholds
        exact absurd ⟨hstatus, hreason⟩ (hview (hholds.1.symm.trans hid))
      · subst hrow
        exact ⟨r, hr, hid, hstatus, hreason⟩
    · exact h

theorem empties_of_prepares {β : Type} {o : Id} {e : Stmt β} (h : e.prepares o = true) :
    e.empties = false := by
  cases e <;> first | rfl | cases h

theorem empties_of_completes {β : Type} {o : Id} {status : OperationResult} {e : Stmt β}
    (h : (e.prepares o || e.completes o status) = true) : e.empties = false := by
  rcases Bool.or_eq_true_iff.mp h with h | h
  · exact empties_of_prepares h
  · cases e <;> first | rfl | cases h

namespace Hosting

/-! ## Functions of the control plane -/

/-- The statement is one of the control plane, and leaves an environment that is not recorded as
empty. -/
def Leaves (id : Id) {β : Type} (e : InitPad.Stmt β) : Prop :=
  ofControlPlane e = true ∧
    ∀ (i : Input) (w : InitPad.World), Emptied (exec e i w).2 id → Emptied w id

theorem leaves_of {β : Type} {e : InitPad.Stmt β} {id : Id} (hplane : ofControlPlane e = true)
    (he : e.empties = false) : Leaves id e := ⟨hplane, fun _ _ => emptied_of_exec he⟩

/-- The statement is one of the control plane, and changes neither whether an environment is
recorded as empty nor its version. -/
def Quiet {β : Type} (e : InitPad.Stmt β) : Prop :=
  ofControlPlane e = true ∧ e.empties = false ∧ e.unversions = false

theorem leaves_of_quiet {α : Type} {p : Async α} {id : Id} (hp : p.Only Quiet) :
    p.Only (Leaves id) := hp.mono fun _ he => leaves_of he.1 he.2.1

theorem only_ofControlPlane {α : Type} {p : Async α} (hp : p.Only Quiet) :
    p.Only fun e => ofControlPlane e = true := hp.mono fun _ he => he.1

section Functions

variable {id o : Id} {x : Option Execution} {y : Execution}

theorem quiet_recordResultSafely : (recordResultSafely o).Only Quiet :=
  .ignoreError (.await ⟨rfl, rfl, rfl⟩)

theorem quiet_throwIfLost : (throwIfLost y).Only Quiet := by
  refine .bind (.await ⟨rfl, rfl, rfl⟩) fun context => ?_
  split
  · exact .ret _
  · exact .ret _

theorem quiet_renewExecution : (renewExecution y).Only Quiet := by
  refine .bind (.await ⟨rfl, rfl, rfl⟩) fun context => ?_
  split
  · exact .ret _
  · split
    · exact .ret _
    · refine .bind (.await ⟨rfl, rfl, rfl⟩) fun rows => ?_
      split
      · exact .ret _
      · exact .bind (.await ⟨rfl, rfl, rfl⟩) fun _ => .ret _

theorem quiet_assertExecution : (assertExecution x o).Only Quiet := by
  unfold assertExecution
  split
  · exact .ret _
  · exact .bind quiet_throwIfLost fun _ =>
      .bind quiet_renewExecution fun _ => quiet_throwIfLost

theorem quiet_completeOwned {status : OperationResult} {message : Option String} :
    (completeOwned y status message).Only Quiet := by
  refine .bind quiet_assertExecution fun _ => .bind (.await ⟨rfl, rfl, rfl⟩) fun _ =>
    .bind (.tryCatch (.await ⟨rfl, rfl, rfl⟩) fun _ => ?_) fun changed => ?_
  · exact .bind (.await ⟨rfl, rfl, rfl⟩) fun _ => .ret _
  · split
    · exact .bind (.await ⟨rfl, rfl, rfl⟩) fun _ => .bind (.await ⟨rfl, rfl, rfl⟩)
        fun _ => quiet_recordResultSafely
    · exact .bind (.await ⟨rfl, rfl, rfl⟩) fun _ => .bind (.await ⟨rfl, rfl, rfl⟩)
        fun _ => .ret _

theorem quiet_completeUnowned {status : OperationResult} {message : Option String} :
    (completeUnowned o status message).Only Quiet := by
  have hrelease : ∀ (changed : Option Nat) (proceed : Bool),
      (if proceed = true then do
        let _ ← await (.releaseLock o)
        if changed.isSome then do
          ignoreError (await (.query fun db => .ok (db.operations.find? o)))
          recordResultSafely o
        else pure ()
      else pure () : Async Unit).Only Quiet := by
    intro changed proceed
    split
    · refine .bind (.await ⟨rfl, rfl, rfl⟩) fun _ => ?_
      split
      · exact .bind (.ignoreError (.await ⟨rfl, rfl, rfl⟩)) fun _ => quiet_recordResultSafely
      · exact .ret _
    · exact .ret _
  refine .bind (.tryCatch (.bind (.await ⟨rfl, rfl, rfl⟩) fun _ => .ret _) fun _ => .ret _)
    fun changed => ?_
  dsimp only
  split
  · exact .bind (.bind (.tryCatch (.await ⟨rfl, rfl, rfl⟩) fun _ => .ret _) fun _ => .ret _)
      (hrelease changed)
  · exact .bind (.ret _) (hrelease changed)

theorem quiet_complete {status : OperationResult} {message : Option String} :
    (complete x o status message).Only Quiet := by
  unfold complete
  split
  · exact quiet_completeOwned
  · exact quiet_completeUnowned

theorem quiet_failDirectLifecycle {environmentId : Id} {status : DeployStatus} {error : Err} :
    (failDirectLifecycle x environmentId o status error).Only Quiet :=
  .bind quiet_assertExecution fun _ => .bind (.await ⟨rfl, rfl, rfl⟩) fun _ => quiet_complete

theorem leaves_claimed (view : EnvironmentView) (kind : OperationKind) (version : Option String)
    (artifact : Option Id) (hview : view.environment.id = id →
      ¬ (view.environment.status = .empty ∧ view.environment.statusReason = none)) :
    (do
      let (operation, claimed) ← await (.beginClaim view kind version artifact none)
      if claimed = 1 then
        recheckExpectedState operation.id view.environment none
        tryCatch (await (.recordAudit operation.id)) fun error => do
          await (.cancelClaimed operation.id view.environment
            "Deployment could not be recorded in the audit log")
          throw error
        pure operation.id
      else
        await (.rejectBegin operation.id)
        throw (.badRequest "Environment already has an active operation") : Async Id).Only
      (Leaves id) := by
  refine .bind (.await (leaves_of rfl rfl)) fun (operation, claimed) => ?_
  dsimp only
  split
  · refine .bind (.ret _) fun _ => .bind ?_ fun _ => .ret _
    refine .tryCatch (.await (leaves_of rfl rfl)) fun _ => ?_
    exact .bind (.await ⟨rfl, fun _ _ => emptied_of_cancelClaimed hview⟩) fun _ => .ret _
  · exact .bind (.await (leaves_of rfl rfl)) fun _ => .ret _

/-! ## Keeping an environment that is not empty -/

variable {α : Type} {site : Placement} {p : Async α} {X : Hosts → Prop}

/-- The environment is not recorded as empty, while the machines satisfy `X`. -/
def Full (X : Hosts → Prop) (id : Id) (m : SystemMoment) : Prop :=
  ¬ Emptied m.state.world id ∧ X m.state.hosts

theorem keeps_full (hp : p.Only (Leaves id)) : Keeps anyStep (Full X id) (carriedOut site p) :=
  keeps_carriedOut (fun _ he => ⟨he.1, fun m i hfull =>
    ⟨fun h => hfull.1 (he.2 i.input m.state.world h), hfull.2⟩⟩) hp

theorem keeps_hosts (hp : p.Only fun e => ofControlPlane e = true) :
    Keeps anyStep (fun m => X m.state.hosts) (carriedOut site p) :=
  keeps_carriedOut (fun _ he => ⟨he, fun _ _ hX => hX⟩) hp

theorem keeps_filled (hp : p.Only fun e => e.empties = false) :
    Keeps anyStep (fun m => ¬ Emptied m.state.world id) (carriedOut site p) := by
  refine keeps_handle (fun {γ} e he => ?_) hp
  cases hplane : ofControlPlane e with
  | true => exact keeps_carryOut hplane fun m i hfull h => hfull (emptied_of_exec he h)
  | false =>
    cases e with
    | callDeploy | callStart | callStop | callTeardown =>
      exact keeps_onHosts (X := fun w => ¬ Emptied w id)
    | _ => cases hplane

theorem exec_query {f : Db → Except Err α} (i : Input) (w : InitPad.World) :
    exec (InitPad.Stmt.query f) i w = (.error .databaseFault, w) ∨
      exec (InitPad.Stmt.query f) i w = (f (w.tick i.dbNow).db, w.tick i.dbNow) := by
  rcases exec_cases (.query f) i w with ⟨_, _, h⟩ | ⟨_, h⟩
  · exact .inl h
  · exact .inr h

theorem findEnvironmentView_mem {db : Db} {projectId : Id} {envName : EnvName}
    {view : EnvironmentView} (h : db.findEnvironmentView projectId envName = some view) :
    view.environment ∈ db.environments.rows := by
  obtain ⟨r, hr, hview⟩ := Option.bind_eq_some_iff.mp h
  obtain ⟨project, _, rfl⟩ := Option.map_eq_some_iff.mp hview
  exact List.mem_of_find?_eq_some hr

theorem keeps_begin {projectId : Id} {envName : EnvName} {kind : OperationKind}
    {version : Option String} {artifact : Option Id} :
    Keeps anyStep (Full X id)
      (carriedOut site (begin projectId envName kind version artifact none)) := by
  refine CarriedThrough.keeps fun M hM => ?_
  have hfound : CarriedThrough site (Full X id) (fun r m => Full X id m ∧ ∀ view,
      r = .ok (some view) → view.environment ∈ M.state.world.db.environments.rows)
      (await (.query fun db => .ok (db.findEnvironmentView projectId envName))) M := by
    refine .await rfl hM fun i m hworld hhosts => ?_
    have hfull : Full X id m := by
      rw [Full, hworld, hhosts]
      exact ⟨fun h => hM.1 (emptied_of_exec rfl h), hM.2⟩
    refine ⟨hfull, hfull, fun view hview => ?_⟩
    rcases exec_query (f := fun db => .ok (db.findEnvironmentView projectId envName)) i
      M.state.world with hexec | hexec
    · rw [hexec] at hview
      cases hview
    · rw [hexec] at hview
      exact findEnvironmentView_mem (Except.ok.inj hview)
  refine CarriedThrough.bind hfound (fun found m hfull hview => ?_) fun _ _ _ h => h.1
  cases found with
  | none => exact .ret hfull hfull
  | some view =>
    have hclaimed := leaves_claimed view kind version artifact fun hid hrow =>
      hM.1 ⟨view.environment, hview.2 view rfl, hid, hrow.1, hrow.2⟩
    exact .of_keeps (keeps_full hclaimed) hfull fun _ h => h

end Functions

end Hosting

end InitPad
