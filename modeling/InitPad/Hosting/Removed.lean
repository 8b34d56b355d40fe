import InitPad.Hosting.Records
import InitPad.Hosting.Teardown
import InitPad.Runs.Requests

/-!
# InitPad.Hosting.Removed

`ProjectEnvironmentLifecycle.remove` on an environment that InitPad deploys itself. It records the
environment as empty without a cleanup marker behind a teardown that resolved without a warning,
and that means something exactly when the failures which the teardown dropped did not matter.
-/

namespace InitPad.Hosting

open Store Interleave Prog

variable {site : Placement} {H h : Hosts} {F : Prop} {id o : Id} {x : Option Execution}
  {M : SystemMoment}

/-- A teardown of the environment resolved without a warning. -/
def TornDown (site : Placement) (H h : Hosts) : Prop :=
  ∃ (m m' : HostsMoment), m.state = H ∧ m.history = [] ∧ Ends site.teardown m (.ok none) m' ∧
    m'.state = h

/-- Either the environment is not recorded as empty, or a teardown resolved, or `F`. -/
def Accounted (site : Placement) (H : Hosts) (F : Prop) (id : Id) (m : SystemMoment) : Prop :=
  Emptied m.state.world id → TornDown site H m.state.hosts ∨ m.state.hosts = H ∧ F

theorem Full.accounted {X : Hosts → Prop} (hM : Full X id M) : Accounted site H F id M :=
  fun hempty => absurd hempty hM.1

theorem keeps_accounted {α : Type} {p : Async α} (hp : p.Only (Leaves id)) :
    Keeps anyStep (Accounted site H F id) (carriedOut site p) :=
  keeps_carriedOut (fun _ he => ⟨he.1, fun m i haccounted hempty =>
    haccounted (he.2 i.input m.state.world hempty)⟩) hp

section Through

variable {α : Type} {p : Async α} {X : Hosts → Prop} {Q : Except Err α → SystemMoment → Prop}

theorem through_full (hp : Keeps anyStep (Full X id) (carriedOut site p)) (hM : Full X id M) :
    CarriedThrough site (Accounted site H F id) (fun _ m => Full X id m) p M :=
  .of_keeps hp hM fun _ h => h.accounted

theorem through_leaves (hp : p.Only (Leaves id)) (hM : Accounted site H F id M) :
    CarriedThrough site (Accounted site H F id) (fun _ m => Accounted site H F id m) p M :=
  .of_keeps (keeps_accounted hp) hM fun _ h => h

theorem through_torn (hp : p.Only fun e => ofControlPlane e = true)
    (hM : TornDown site H M.state.hosts) :
    CarriedThrough site (Accounted site H F id) (fun _ m => Accounted site H F id m) p M :=
  (CarriedThrough.of_keeps (keeps_hosts hp) hM fun _ h _ => .inl h).post fun _ _ hA _ => hA

end Through

theorem through_removeDirect {environment : Environment} (hM : Full (· = H) id M) :
    CarriedThrough site (Accounted site H F id) (fun _ m => Accounted site H F id m)
      (removeDirect environment o x) M := by
  have hfilled : ∀ m : SystemMoment, m.state.world = M.state.world → ¬ Emptied m.state.world id :=
    fun m hm => hm ▸ hM.1
  have hteardown : CarriedThrough site (Accounted site H F id) _
      (await (.callTeardown environment.id)) M :=
    .provider rfl fun m hm hempty => absurd hempty (hfilled m hm)
  refine CarriedThrough.bind (Q := fun r m => (r = .ok none → TornDown site H m.state.hosts) ∧
    ∀ w, r = .ok (some w) → ¬ Emptied m.state.world id) (hteardown.tryCatch ?_ ?_) ?_
    fun _ _ hA _ => hA
  · -- The call resolved.
    rintro warning m hA ⟨hworld, n, n', r, hn, hnil, hends, hn', hr⟩
    refine ⟨fun hnone => ?_, fun w _ => hfilled m hworld⟩
    cases r with
    | error failure => cases hr
    | ok w =>
      cases hr
      cases hnone
      exact ⟨n, n', hn.trans hM.2, hnil, hends, hn'⟩
  · -- It failed: the failure is recorded, and the call is not retried.
    rintro error m hA ⟨hworld, _⟩
    refine CarriedThrough.bind (through_leaves (leaves_of_quiet quiet_failDirectLifecycle) hA)
      (fun _ _ hA _ => ?_) fun _ _ _ _ => ⟨nofun, nofun⟩
    exact .ret hA ⟨nofun, nofun⟩
  · rintro teardown m hA ⟨htorn, hleft⟩
    cases teardown with
    | none =>
      refine through_torn (.bind (only_ofControlPlane quiet_assertExecution) fun _ =>
        .bind (.await rfl) fun published => ?_) (htorn rfl)
      split
      · exact only_ofControlPlane quiet_complete
      · exact .ret _
    | some w =>
      refine (through_leaves (.bind (leaves_of_quiet quiet_assertExecution) fun _ =>
        .bind (.await (leaves_of rfl rfl)) fun published => ?_) hA)
      split
      · exact leaves_of_quiet quiet_complete
      · exact .ret _

theorem leaves_of_leases {β : Type} {e : InitPad.Stmt β} (he : e.leases = true) : Leaves id e := by
  cases e <;> first | exact leaves_of rfl rfl | cases he

theorem through_runWithExecutionLease {instanceId : Id} {task : Option Execution → Async Unit}
    (htask : ∀ x m, Full (· = H) id m → CarriedThrough site (Accounted site H F id)
      (fun _ m => Accounted site H F id m) (task (some x)) m) (hM : Full (· = H) id M) :
    CarriedThrough site (Accounted site H F id) (fun _ m => Accounted site H F id m)
      (runWithExecutionLease instanceId none o task) M := by
  have hlease : ∀ {α : Type} {e : InitPad.Stmt α}, e.leases = true →
      Keeps anyStep (Full (· = H) id) (carriedOut site (await e)) :=
    fun he => keeps_full (.await (leaves_of_leases he))
  refine CarriedThrough.bind (through_full (hlease rfl) hM) (fun _ m _ hm => ?_)
    fun _ _ hA _ => hA
  refine CarriedThrough.bind (through_full (hlease rfl) hm) (fun claim m _ hm => ?_)
    fun _ _ hA _ => hA
  cases claim with
  | none => exact .ret hm.accounted hm.accounted
  | some generation =>
    refine CarriedThrough.bind (through_full (hlease rfl) hm) (fun contextId m _ hm => ?_)
      fun _ _ hA _ => hA
    refine CarriedThrough.andThen (CarriedThrough.bind (htask _ m hm) (fun _ m hA _ =>
      through_leaves (only_throwIfLost fun _ => leaves_of_leases) hA) fun _ _ hA _ => hA) fun r m hA _ => ?_
    refine CarriedThrough.andThen (through_leaves (only_leaveExecution fun _ => leaves_of_leases) hA)
      fun r' m hA _ => ?_
    cases r' with
    | ok _ => exact .ret hA hA
    | error x => exact .ret hA hA

/-! ## What a removal reads -/

def SameRows (db db' : Db) : Prop := { db' with clock := 0 } = { db with clock := 0 }

variable {db db' : Db}

theorem SameRows.findEnvironmentView (h : SameRows db db') (projectId : Id) (envName : EnvName) :
    db'.findEnvironmentView projectId envName = db.findEnvironmentView projectId envName := by
  have hfound := congrArg (fun db : Db => db.findEnvironmentView projectId envName) h
  exact hfound

theorem SameRows.operation (h : SameRows db db') (operationId : Id) :
    db'.operations.find? operationId = db.operations.find? operationId := by
  have hfound := congrArg (fun db : Db => db.operations.find? operationId) h
  exact hfound

theorem through_query {α : Type} {f : Db → Except Err α} (hM : Full (· = H) id M)
    (hrows : SameRows db M.state.world.db) :
    CarriedThrough site (Accounted site H F id) (fun r m =>
      (Full (· = H) id m ∧ SameRows db m.state.world.db) ∧
        ∀ a, r = .ok a → ∃ db', SameRows db db' ∧ f db' = .ok a) (await (.query f)) M := by
  refine .await rfl hM.accounted fun i m hworld hhosts => ?_
  have hfull : Full (· = H) id m := by
    rw [Full, hworld, hhosts]
    exact ⟨fun hempty => hM.1 (emptied_of_exec rfl hempty), hM.2⟩
  refine ⟨hfull.accounted, ⟨hfull, ?_⟩, fun a ha => ?_⟩
  · rw [hworld]
    rcases exec_query (f := f) i M.state.world with hexec | hexec
    · rw [hexec]
      exact hrows
    · rw [hexec]
      exact hrows
  · rcases exec_query (f := f) i M.state.world with hexec | hexec
    · rw [hexec] at ha
      cases ha
    · rw [hexec] at ha
      exact ⟨(M.state.world.tick i.dbNow).db, hrows, ha⟩

theorem through_environmentContext {projectId : Id} {envName : EnvName}
    (hM : Full (· = H) id M) (hrows : SameRows db M.state.world.db) :
    CarriedThrough site (Accounted site H F id) (fun r m => ∀ view, r = .ok view →
      (Full (· = H) id m ∧ SameRows db m.state.world.db) ∧
        db.findEnvironmentView projectId envName = some view)
      (environmentContext projectId envName) M := by
  have herror : ∀ (x : Err) (m : SystemMoment) (view : EnvironmentView),
      Except.error x = Except.ok view → (Full (· = H) id m ∧ SameRows db m.state.world.db) ∧
        db.findEnvironmentView projectId envName = some view := by
    intro x m view hview
    cases hview
  unfold environmentContext
  refine CarriedThrough.bind (through_query hM hrows) (fun project m _ hm => ?_)
    fun x m _ _ => herror x m
  split
  · exact .ret hm.1.1.accounted (herror _ _)
  · have hfound : CarriedThrough site (Accounted site H F id) _
        (await (.query fun db => .ok (db.findEnvironmentView projectId envName))) m :=
      through_query hm.1.1 hm.1.2
    refine CarriedThrough.bind hfound (fun found m _ hm => ?_) fun x m _ _ => herror x m
    obtain ⟨⟨hfull, hrows⟩, hread⟩ := hm
    split
    · exact .ret hfull.accounted (herror _ _)
    · rename_i view
      obtain ⟨db', hdb', hview⟩ := hread _ rfl
      cases hmanaged : assertManaged view.target with
      | error x => exact .ret hfull.accounted (herror _ _)
      | ok u =>
        refine .ret hfull.accounted fun view' hview' => ⟨⟨hfull, hrows⟩, ?_⟩
        rw [← hdb'.findEnvironmentView, Except.ok.inj hview, Except.ok.inj hview']

/-! ## The removal -/

/-- The removal asks no provider: it cancels a retry of the pipeline, or nothing was deployed to
the Agent. -/
def Unasked (db : Db) (projectId : Id) (envName : EnvName) : Prop :=
  ∃ view, db.findEnvironmentView projectId envName = some view ∧
    match view.environment.activeOperationId with
    | none => view.agentBacked = true ∧ view.environment.version = none
    | some operationId => ∃ o, db.operations.find? operationId = some o ∧ o.kind = .ciRetry

variable {projectId : Id} {envName : EnvName} {api : Api} {view : EnvironmentView}

theorem through_abandonOnUnmanagedTarget (hM : Full (· = H) id M)
    (hrows : SameRows db M.state.world.db) :
    CarriedThrough site (Accounted site H F id) (fun r m => r = .ok false →
      Full (· = H) id m ∧ SameRows db m.state.world.db)
      (abandonOnUnmanagedTarget projectId envName) M := by
  refine CarriedThrough.bind (through_query hM hrows) (fun found m _ hm => ?_) fun _ _ _ _ => nofun
  split
  · exact .ret hm.1.1.accounted nofun
  · dsimp only
    split
    · exact .ret hm.1.1.accounted fun _ => hm.1
    · split
      · exact .ret hm.1.1.accounted nofun
      · have hleaves : ∀ {α : Type} {p : Async α}, p.Only (Leaves id) →
            Keeps anyStep (Full (· = H) id) (carriedOut site p) := keeps_full
        refine CarriedThrough.bind (through_full (hleaves (.await (leaves_of rfl rfl))) hm.1.1)
          (fun now m _ hm => ?_) fun _ _ _ _ => nofun
        refine CarriedThrough.bind (through_full (hleaves (.await (leaves_of rfl rfl))) hm)
          (fun unfinished m _ hm => ?_) fun _ _ _ _ => nofun
        refine CarriedThrough.bind (through_full (hleaves (.await (leaves_of rfl rfl))) hm)
          (fun _ m _ hm => ?_) fun _ _ _ _ => nofun
        refine CarriedThrough.bind (through_full (hleaves (.forEach
          (fun _ => leaves_of_quiet quiet_complete) _)) hm) (fun _ m _ hm => ?_)
          fun _ _ _ _ => nofun
        refine CarriedThrough.bind (through_full (hleaves (.await (leaves_of rfl rfl))) hm)
          (fun _ m _ hm => ?_) fun _ _ _ _ => nofun
        refine CarriedThrough.bind (through_full keeps_begin hm) (fun operationId m _ hm => ?_)
          fun _ _ _ _ => nofun
        refine CarriedThrough.bind (through_full (hleaves (.await (leaves_of rfl rfl))) hm)
          (fun _ m _ hm => ?_) fun _ _ _ _ => nofun
        refine CarriedThrough.bind (through_full (hleaves (leaves_of_quiet quiet_complete)) hm)
          (fun _ m _ hm => ?_) fun _ _ _ _ => nofun
        exact .ret hm.accounted nofun

theorem filled_queueAgentRemoval {version : Option String} {artifact : Option BuildArtifact}
    {status : DeployStatus} : (queueAgentRemoval api view version artifact o status).Only
      fun e => e.empties = false := by
  refine .tryCatch ((prepares_queueAgentLifecycle (o := o)).mono fun _ => empties_of_prepares)
    fun error => .bind (.bind (.await rfl) fun _ => ?_) fun _ => .ret _
  exact completes_complete.mono fun _ => empties_of_completes

theorem through_unasked {α : Type} {p : Async α} (hp : p.Only fun e => ofControlPlane e = true)
    (hM : M.state.hosts = H) (hF : F) :
    CarriedThrough site (Accounted site H F id) (fun _ m => Accounted site H F id m) p M :=
  (CarriedThrough.of_keeps (keeps_hosts (X := (· = H)) hp) hM fun _ h _ => .inr ⟨h, hF⟩).post fun _ _ hA _ => hA

theorem through_filled {α : Type} {p : Async α} (hp : p.Only fun e => e.empties = false)
    (hM : ¬ Emptied M.state.world id) :
    CarriedThrough site (Accounted site H F id) (fun _ m => Accounted site H F id m) p M :=
  (CarriedThrough.of_keeps (keeps_filled hp) hM fun _ h hempty => absurd hempty h).post
    fun _ _ hA _ => hA

theorem through_cancelAgentBacked {operation : DeploymentOperation}
    {artifact : Option BuildArtifact} (hM : Full (· = H) id M) :
    CarriedThrough site (Accounted site H F id) (fun _ m => Accounted site H F id m)
      (cancelAgentBacked api projectId envName view operation artifact) M := by
  refine CarriedThrough.bind (through_full (keeps_full (.await (leaves_of rfl rfl))) hM)
    (fun now m _ hm => ?_) fun _ _ hA _ => hA
  refine CarriedThrough.bind (through_full (keeps_full (.await (leaves_of rfl rfl))) hm)
    (fun _ m _ hm => ?_) fun _ _ hA _ => hA
  refine CarriedThrough.bind (through_full (keeps_full (leaves_of_quiet quiet_complete)) hm)
    (fun _ m _ hm => ?_) fun _ _ hA _ => hA
  dsimp only
  split
  · exact .ret hm.accounted hm.accounted
  · exact CarriedThrough.bind (through_full keeps_begin hm)
      (fun operationId m _ hm => through_filled filled_queueAgentRemoval hm.1) fun _ _ hA _ => hA

theorem through_cancelActive {operationId : Id} (hM : Full (· = H) id M)
    (hrows : SameRows db M.state.world.db)
    (hasked : (∃ o, db.operations.find? operationId = some o ∧ o.kind = .ciRetry) → F) :
    CarriedThrough site (Accounted site H F id) (fun _ m => Accounted site H F id m)
      (cancelActive api projectId envName view operationId) M := by
  have hdirect : ∀ m : SystemMoment, Full (· = H) id m → CarriedThrough site (Accounted site H F id)
      (fun _ m => Accounted site H F id m)
      (await (.cancelDirect operationId view.environment.id)) m :=
    fun m hm => through_leaves (.await (leaves_of rfl rfl)) hm.accounted
  refine CarriedThrough.bind (through_query hM hrows) (fun found m _ hm => ?_) fun _ _ hA _ => hA
  obtain ⟨⟨hfull, -⟩, hread⟩ := hm
  split
  · rename_i operation agentJobs artifact
    split
    · rename_i hretry
      obtain ⟨db', hdb', hfound⟩ := hread _ rfl
      obtain ⟨o, ho, heq⟩ := Option.map_eq_some_iff.mp (Except.ok.inj hfound)
      have hF : F := by
        refine hasked ⟨o, by rw [← hdb'.operation, ho], ?_⟩
        cases heq
        exact hretry
      exact through_unasked (.bind (.await rfl) fun _ => only_ofControlPlane quiet_complete)
        hfull.2 hF
    · split
      · exact through_cancelAgentBacked hfull
      · exact hdirect m hfull
  · exact hdirect m hfull

theorem through_removeIdle (hM : Full (· = H) id M)
    (hasked : view.agentBacked = true ∧ view.environment.version = none → F) :
    CarriedThrough site (Accounted site H F id) (fun _ m => Accounted site H F id m)
      (removeIdle api projectId envName view) M := by
  unfold removeIdle
  dsimp only
  split
  · rename_i hagent
    rw [Bool.and_eq_true, Option.isNone_iff_eq_none] at hagent
    exact through_unasked (.await rfl) hM.2 (hasked hagent)
  · refine CarriedThrough.bind (through_full keeps_begin hM) (fun operationId m _ hm => ?_)
      fun _ _ hA _ => hA
    split
    · exact through_filled filled_queueAgentRemoval hm.1
    · exact through_runWithExecutionLease (fun _ _ hm => through_removeDirect hm) hm

theorem through_remove (hM : Full (· = H) id M) :
    CarriedThrough site (Accounted site H (Unasked M.state.world.db projectId envName) id)
      (fun _ _ => True) (remove api projectId envName) M := by
  refine CarriedThrough.bind (through_abandonOnUnmanagedTarget hM rfl) (fun abandoned m hA hm => ?_)
    fun _ _ _ _ => trivial
  split
  · exact .ret hA trivial
  · rename_i hnot
    obtain ⟨hfull, hrows⟩ := hm (by rw [Bool.eq_false_iff.mpr hnot])
    refine CarriedThrough.bind (through_environmentContext hfull hrows) (fun view m _ hview => ?_)
      fun _ _ _ _ => trivial
    obtain ⟨⟨hfull, hrows⟩, hfound⟩ := hview view rfl
    split
    · rename_i operationId hactive
      refine (through_cancelActive hfull hrows fun hretry => ⟨view, hfound, ?_⟩).post
        fun _ _ _ _ => trivial
      rw [hactive]
      exact hretry
    · rename_i hidle
      refine (through_removeIdle hfull fun hagent => ⟨view, hfound, ?_⟩).post
        fun _ _ _ _ => trivial
      rw [hidle]
      exact hagent

/-! ## One container -/

/-- The built-in Docker target. -/
def dockerSite : Placement where
  config := ⟨"apps.example", "127.0.0.1", "0.0.0.0", "sftp", 22, ["www"], "https://www.example",
    "http://sftp", "dist"⟩
  depth := 4
  provider := .docker
  projectName := "team-shop"
  env := .dev
  connection := none
  allocation := none
  imageRef := none
  port := none
  healthPath := none
  version := some "v1"
  release := fun _ => { projectName := "team-shop", version := "v2", env := .dev }

def servingContainer : Container where
  id := 7
  imageId := 3
  spec := ⟨"registry/shop:v1", "initpad-team-shop-dev", ⟨true, "team-shop", .dev, none⟩, 8080⟩
  running := true
  hostPort := 32768

def servingHosts : Hosts where
  docker := { containers := [servingContainer], nextId := 8 }

theorem belongs_serving : Belongs dockerSite.teardownInput servingContainer :=
  .inr ⟨rfl, rfl, rfl⟩

def calls (up : Bool) : List CallInput :=
  List.replicate 40
    { reply := { fault := if up then none else some ⟨⟨"connect ECONNREFUSED", false⟩, false⟩ } }

def removed (up : Bool) : SystemMoment :=
  (carriedOut dockerSite (remove (sampleApi 0) 0 .dev)).advance (calls up)
    ⟨⟨sampleWorld sampleEnvironment [], servingHosts⟩, []⟩

def recordedEmpty (m : SystemMoment) : Bool :=
  m.state.world.db.environments.rows.any fun r =>
    r.id == 0 && r.status == .empty && r.statusReason.isNone

theorem emptied_of_recorded {m : SystemMoment} (h : recordedEmpty m = true) :
    Emptied m.state.world 0 := by
  simp only [recordedEmpty, List.any_eq_true, Bool.and_eq_true, beq_iff_eq,
    Option.isNone_iff_eq_none] at h
  obtain ⟨r, hr, ⟨hid, hstatus⟩, hreason⟩ := h
  exact ⟨r, hr, hid, hstatus, hreason⟩

theorem not_emptied_sample : ¬ Emptied (sampleWorld sampleEnvironment []) 0 := by
  rintro ⟨r, hr, _, hstatus, _⟩
  rw [List.mem_singleton.mp hr] at hstatus
  cases hstatus

/-- The daemon does not answer: the teardown resolves, and the container goes on. -/
theorem emptied_beside_workload :
    (¬ ∀ (site : Placement) (m m' : HostsMoment), Ends site.teardown m (.ok none) m' →
      Gone site.config site.teardownInput m'.state site.provider) ∧
    ¬ ∀ (site : Placement) (api : Api) (projectId : Id) (envName : EnvName) (id : Id)
      (M M' : SystemMoment), Stops anyStep (carriedOut site (remove api projectId envName)) M M' →
        ¬ Emptied M.state.world id → Emptied M'.state.world id →
          Gone site.config site.teardownInput M'.state.hosts site.provider := by
  constructor
  · intro hclaim
    obtain ⟨r, m', hends, hcheck⟩ := ends_of_performs dockerSite.teardown
      ((calls false).map (·.reply)) ⟨servingHosts, []⟩
      (fun r m' => decide (r = .ok none ∧ m'.state = servingHosts)) (by decide)
    obtain ⟨rfl, hstate⟩ := of_decide_eq_true hcheck
    refine hclaim dockerSite _ m' hends servingContainer ?_ belongs_serving
    rw [hstate]
    exact .head _
  · intro hclaim
    have hgone := hclaim dockerSite (sampleApi 0) 0 .dev 0 _ (removed false) (stops_advance _ _ _)
      not_emptied_sample (emptied_of_recorded (by decide))
    have hhosts : (removed false).state.hosts = servingHosts := by decide
    refine hgone servingContainer ?_ belongs_serving
    rw [hhosts]
    exact .head _

/-- A teardown that resolves has left nothing exactly when the failures that it dropped left
nothing; and what `remove` records as empty was behind such a teardown, unless it asked no
provider and nothing has changed. -/
theorem recorded_empty_iff_released (site : Placement) (api : Api) (projectId : Id)
    (envName : EnvName) (id : Id) :
    (∀ (m m' : HostsMoment) (rest : List HostsEvent), Ends site.teardown m (.ok none) m' →
      m'.history = m.history ++ rest →
        (Gone site.config site.teardownInput m'.state site.provider ↔
          Released site.config site.teardownInput m.state rest site.provider)) ∧
    ∀ M M' : SystemMoment, Stops anyStep (carriedOut site (remove api projectId envName)) M M' →
      ¬ Emptied M.state.world id → Emptied M'.state.world id →
        (M'.state.hosts = M.state.hosts ∧ Unasked M.state.world.db projectId envName) ∨
        ∃ (m m' : HostsMoment), m.state = M.state.hosts ∧ m.history = [] ∧
          Ends site.teardown m (.ok none) m' ∧ m'.state = M'.state.hosts ∧
          (Gone site.config site.teardownInput M'.state.hosts site.provider ↔
            Released site.config site.teardownInput M.state.hosts m'.history site.provider) := by
  refine ⟨fun m m' rest hends hrest => teardown_gone hends hrest, ?_⟩
  intro M M' hstops hbefore hafter
  have haccounted : Accounted site M.state.hosts _ id M' :=
    (through_remove ⟨hbefore, rfl⟩).stops hstops
  rcases haccounted hafter with htorn | hunasked
  · obtain ⟨m, m', hm, hnil, hends, hm'⟩ := htorn
    refine .inr ⟨m, m', hm, hnil, hends, hm', ?_⟩
    rw [← hm, ← hm']
    exact teardown_gone hends (by rw [hnil]; rfl)
  · exact .inl hunasked

/-- The daemon answers: the removal of the container is carried out. -/
theorem recorded_empty_and_gone : Emptied (removed true).state.world 0 ∧
    Gone dockerSite.config dockerSite.teardownInput (removed true).state.hosts .docker ∧
    ∃ m' : HostsMoment, Released dockerSite.config dockerSite.teardownInput servingHosts m'.history
      .docker := by
  have hempty : Emptied (removed true).state.world 0 := emptied_of_recorded (by decide)
  have hgone : Gone dockerSite.config dockerSite.teardownInput (removed true).state.hosts
      .docker := by
    have hnone : (removed true).state.hosts.docker.containers = [] := by decide
    intro c hc
    rw [hnone] at hc
    cases hc
  rcases (recorded_empty_iff_released dockerSite (sampleApi 0) 0 .dev 0).2 _ (removed true)
    (stops_advance _ _ _) not_emptied_sample hempty with ⟨_, view, hview, hcase⟩ | htorn
  · cases hview
    exact absurd hcase.1 (by decide)
  · obtain ⟨m, m', _, _, _, _, hiff⟩ := htorn
    exact ⟨hempty, hgone, m', hiff.mp hgone⟩

end InitPad.Hosting
