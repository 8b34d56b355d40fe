import InitPad.Runs.AgentWorkflow

/-!
# InitPad.Runs.StrandedWorkflow

`recoverInterrupted` skips every operation that has Agent jobs, so an unfinished operation depends
on one of its jobs to move on: a job that waits for its Agent, or a terminal one whose projection
`onModuleInit` replays.

Three statements can leave an operation without such a job: `queueLifecycle` inserts the workload
job of a managed teardown as `blocked` before there is a route job that releases it, a newer route
generation cancels the queued route jobs of other operations, and the release of an unmanaged
target cancels all jobs of an environment. `Stmt.keepsCarried` is their condition, and
`workflow_never_stranded` says that nothing else strands an operation.
-/

namespace InitPad

open Store Interleave Prog

/-- The Agent or a replayed projection will move this job on. -/
def AgentJob.moves (j : AgentJob) : Bool := j.status.waiting || j.status.terminal

def World.executing (w : World) (o : DeploymentOperation) : Bool :=
  o.executionOwner.isSome && o.executionLeaseExpiresAt.any fun t => decide (w.db.clock < t)

/-- No unfinished operation with Agent jobs and without an executor is left without a job that is
waiting, leased, or terminal with a projection that `onModuleInit` replays. -/
def World.NoneStranded (w : World) : Prop :=
  ∀ o ∈ w.db.operations.rows, o.unfinished = true → w.db.operationJobs o.id ≠ [] →
    w.executing o = false →
      ∃ j ∈ w.db.operationJobs o.id,
        j.status.waiting = true ∨ (j.status.terminal = true ∧ j.id ∈ w.db.pendingProjections)

/-! ## The invariant -/

def World.over (w : World) (id : Id) : Bool := (w.op? id).any fun o => !o.unfinished

/-- The operation is over, or has a job outside `lost` that moves on. -/
def World.carries (w : World) (lost : AgentJob → Bool) (id : Id) : Prop :=
  w.over id = true ∨ ∃ j ∈ w.db.agentJobs.rows,
    j.deploymentOperationId = some id ∧ j.moves = true ∧ lost j = false

/-- Every operation with a job is over or has one that moves on. -/
def World.Carried (w : World) : Prop :=
  ∀ j ∈ w.db.agentJobs.rows, ∀ id, j.deploymentOperationId = some id →
    w.carries (fun _ => false) id

/-- The statement takes no operation its last job that moves on. A blocked job may be inserted
beside a job that moves on only; the jobs that a newer route generation or the release of a target
cancels may not be the last ones of an unfinished operation, unless it gets the new route job. -/
def Stmt.keepsCarried {β : Type} (w : World) (e : Stmt β) : Prop :=
  match e with
  | .upsertJob job => job.moves = false → ∀ id, job.deploymentOperationId = some id →
      w.carries (fun _ => false) id
  | .queueRouteJob _ _ _ _ request => ∀ j ∈ w.db.agentJobs.rows, e.cancelsJob w j = true →
      ∀ id, j.deploymentOperationId = some id →
        request.deploymentOperationId = some id ∨ w.carries (e.cancelsJob w) id
  | .cancelEnvironmentJobs _ _ => ∀ j ∈ w.db.agentJobs.rows, e.cancelsJob w j = true →
      j.moves = true → ∀ id, j.deploymentOperationId = some id → w.carries (e.cancelsJob w) id
  | _ => True

theorem carried_of_no_jobs {w : World} (h : w.db.agentJobs.rows = []) : w.Carried := by
  intro j hj
  rw [h] at hj
  cases hj

section Steps

variable {β : Type} {e : Stmt β} {i : Input} {w : World} {id : Id}
  {foreign : GatewayRouteReconcileRequest → Prop} {scope : World → Prop}

theorem over_exec (h : w.over id = true) : (exec e i w).2.over id = true := by
  obtain ⟨o, ho, hover⟩ := Option.any_eq_true _ _ |>.mp h
  have hsome : (w.op? id).isSome := by rw [ho]; rfl
  obtain ⟨o', ho'⟩ := Option.isSome_iff_exists.mp (op?_isSome_exec (e := e) (i := i) hsome)
  rw [World.over, ho', Option.any_some]
  cases hunfinished : o'.unfinished with
  | false => rfl
  | true => rw [unfinished_of_exec ho ho' hunfinished] at hover; cases hover

theorem JobStep.moves {j j' : AgentJob} (h : JobStep e w j j') (hj : j.moves = true)
    (hc : e.cancelsJob w j = false) : j'.moves = true := by
  cases h with
  | kept h => rw [h]; exact hj
  | cancelled hcancel _ _ => rw [hcancel] at hc; cases hc
  | released _ _ hs => simp [AgentJob.moves, JobStatus.waiting, hs]
  | leased _ _ hs => simp [AgentJob.moves, JobStatus.waiting, hs]
  | ended _ _ hs => rcases hs with hs | hs <;> simp [AgentJob.moves, JobStatus.terminal, hs]

theorem carries_of_moves {j : AgentJob} (hj : j ∈ w.db.agentJobs.rows)
    (hop : j.deploymentOperationId = some id) (hm : j.moves = true) :
    w.carries (fun _ => false) id := .inr ⟨j, hj, hop, hm, rfl⟩

theorem carries_exec_of_over (h : w.over id = true) : (exec e i w).2.carries (fun _ => false) id :=
  .inl (over_exec h)

theorem carries_exec_of_kept {j : AgentJob} (hj : j ∈ w.db.agentJobs.rows)
    (hop : j.deploymentOperationId = some id) (hm : j.moves = true)
    (hc : e.cancelsJob (w.tick i.dbNow) j = false) :
    (exec e i w).2.carries (fun _ => false) id := by
  obtain ⟨u, added, hrows, hu, _⟩ := jobs_exec e i w
  have hmem : u j ∈ (exec e i w).2.db.agentJobs.rows := by
    rw [hrows]
    exact List.mem_append_left _ (List.mem_map_of_mem hj)
  exact carries_of_moves hmem ((hu j).same.deploymentOperationId.trans hop) ((hu j).moves hm hc)

theorem carries_exec_of_carries (h : w.carries (e.cancelsJob w) id) :
    (exec e i w).2.carries (fun _ => false) id := by
  rcases h with h | ⟨j, hj, hop, hm, hc⟩
  · exact carries_exec_of_over h
  · refine carries_exec_of_kept hj hop hm ?_
    rw [← hc]
    cases e <;> rfl

theorem over_of_finish {w' : World} {o : DeploymentOperation} {p : DeploymentOperation → Bool}
    {status : OperationResult} {message : Option String} {now : Time} (ho : w.op? id = some o)
    (hw : w'.db.operations = w.db.operations.updateMany p fun r => r.finish status message now)
    (hp : o.unfinished = true → p o = true) : w'.over id = true := by
  have hrow : w'.op? id = some (if p o = true then o.finish status message now else o) := by
    have hfind := Table.find?_updateMany w.db.operations p
      (d := fun r => r.finish status message now) (fun _ => rfl) id
    rw [show w.db.operations.find? id = some o from ho] at hfind
    rw [World.op?, hw]
    exact hfind
  rw [World.over, hrow, Option.any_some]
  split
  · simp [DeploymentOperation.unfinished, DeploymentOperation.finish]
  · rename_i hnot
    cases hu : o.unfinished with
    | false => rfl
    | true => exact absurd (hp hu) hnot

theorem carries_exec (hk : e.keepsCarried w) (hg : e.Grounded foreign scope w)
    (h : w.carries (fun _ => false) id) : (exec e i w).2.carries (fun _ => false) id := by
  rcases h with h | ⟨j, hj, hop, hm, -⟩
  · exact carries_exec_of_over h
  rcases exec_cases e i w with ⟨_, _, he⟩ | ⟨_, he⟩
  · rw [he]
    exact carries_of_moves hj hop hm
  cases hc : e.cancelsJob w j with
  | false =>
    refine carries_exec_of_kept hj hop hm ?_
    rw [← hc]
    cases e <;> rfl
  | true =>
    cases e with
    | cancelAgentOperation o environmentId now =>
      obtain rfl : id = o := by
        simp only [Stmt.cancelsJob, hop, Bool.and_eq_true, beq_iff_eq, Option.some.injEq] at hc
        exact hc.1
      rw [he]
      simp only [Stmt.run, World.snd_requireRows]
      split
      · rename_i hrows
        obtain ⟨r, hr⟩ := Option.isSome_iff_exists.mp (Bool.and_eq_true _ _ ▸ hrows).1
        have hid : r.id = id := Table.find?_key hr
        exact .inl (over_of_finish (w := w) hr rfl fun _ => beq_iff_eq.mpr hid)
      · exact carries_of_moves hj hop hm
    | failManagedOperation o environmentId message data now =>
      obtain rfl : id = o := by
        simp only [Stmt.cancelsJob, hop, Bool.and_eq_true, beq_iff_eq, Option.some.injEq] at hc
        exact hc.1
      obtain ⟨v, hv, _, rfl, _⟩ := hg.projection rfl
      obtain ⟨r, hr, _⟩ := hv.operation
      have hid : r.id = v.operation.id := Table.find?_key hr
      rw [he]
      refine .inl (over_of_finish (w := w) hr rfl fun hu => ?_)
      simp only [DeploymentOperation.unfinished, Bool.and_eq_true] at hu
      simp only [hid, beq_self_eq_true, hu.1, hu.2, Bool.and_self]
    | cancelBlockedJob jobId =>
      simp only [Stmt.cancelsJob, Bool.and_eq_true, beq_iff_eq] at hc
      simp [AgentJob.moves, JobStatus.waiting, JobStatus.terminal, hc.2] at hm
    | cancelEnvironmentJobs environmentId now =>
      exact carries_exec_of_carries (hk j hj hc hm id hop)
    | queueRouteJob route targetId allocation name request =>
      rcases hk j hj hc id hop with hown | hcarries
      · rw [he]
        simp only [Stmt.run, World.queueRouteJob]
        split
        · exact carries_of_moves hj hop hm
        · split
          · exact carries_of_moves hj hop hm
          · split
            · exact carries_of_moves hj hop hm
            · -- the operation lost its queued route job and gets the new one
              exact carries_of_moves (List.mem_append_right _ (List.mem_singleton_self _)) hown rfl
      · exact carries_exec_of_carries hcarries
    | _ => cases hc

theorem carried_exec (hk : e.keepsCarried w) (hg : e.Grounded foreign scope w) (hw : w.Carried) :
    (exec e i w).2.Carried := by
  obtain ⟨u, added, hrows, hu, hadded⟩ := jobs_exec e i w
  intro j' hj' id hop
  rw [hrows] at hj'
  rcases List.mem_append.mp hj' with hj' | hj'
  · obtain ⟨j, hj, rfl⟩ := List.mem_map.mp hj'
    exact carries_exec hk hg (hw j hj id ((hu j).same.deploymentOperationId.symm.trans hop))
  · have hmem : j' ∈ (exec e i w).2.db.agentJobs.rows := by
      rw [hrows]
      exact List.mem_append_right _ hj'
    cases hadded with
    | nothing => cases hj'
    | @upsert job hupsert _ _ =>
      obtain rfl := List.mem_singleton.mp hj'
      cases hm : job.moves with
      | true => exact carries_of_moves hmem hop hm
      | false =>
        cases e with
        | upsertJob => cases hupsert; exact carries_exec hk hg (hk hm id hop)
        | _ => cases hupsert
    | route =>
      obtain rfl := List.mem_singleton.mp hj'
      exact carries_of_moves hmem hop rfl

end Steps

theorem noneStranded_of_carried {w : World} (hk : w.WellKeyed) (hw : w.Carried) :
    w.NoneStranded := by
  intro o ho hu hjobs _
  obtain ⟨j, hj⟩ := List.exists_mem_of_ne_nil _ hjobs
  obtain ⟨hrow, hop⟩ := List.mem_filter.mp hj
  have hfind : w.op? o.id = some o := hk.operations.find?_of_mem ho
  rcases hw j hrow o.id (beq_iff_eq.mp hop) with hover | ⟨j', hj', hop', hm, _⟩
  · rw [World.over, hfind, Option.any_some, hu] at hover
    cases hover
  · refine ⟨j', List.mem_filter.mpr ⟨hj', beq_iff_eq.mpr hop'⟩, ?_⟩
    rcases Bool.or_eq_true _ _ |>.mp hm with hwaiting | hterminal
    · exact .inl hwaiting
    · refine .inr ⟨hterminal, List.mem_map.mpr ⟨j', List.mem_filter.mpr ⟨hj', ?_⟩, rfl⟩⟩
      simp only [DeploymentOperation.unfinished, Bool.and_eq_true] at hu
      rw [World.op?] at hfind
      simp only [hterminal, hop', Option.bind_some, hfind, Option.any_some, hu.1, hu.2,
        Bool.and_self]

/-- In every run whose statements all keep operations carried, with any thread crashed between any
two of its statements, no unfinished operation with Agent jobs is stranded. -/
theorem workflow_never_stranded {foreign : GatewayRouteReconcileRequest → Prop} {w : World}
    {c : System} {tr : List Step} (hk : w.WellKeyed) (hf : w.RoutesFenced) (hw : w.Carried)
    (h : Run (Workflow foreign) (Config.start w) tr c)
    (hok : ∀ x ∈ tr, x.stmt.keepsCarried x.pre.state) : c.moment.state.NoneStranded := by
  have hground : ∀ x ∈ tr, x.stmt.Grounded foreign (fun _ => True) x.pre.state :=
    grounded_run hk hf h fun _ _ _ => trivial
  have hend := h.preserves (fun m => m.state.WellKeyed ∧ m.state.Carried)
    (fun x => x.stmt.keepsCarried x.pre.state ∧ x.stmt.Grounded foreign (fun _ => True) x.pre.state)
    (fun x hx hm => ⟨hm.1.exec x.stmt x.input, carried_exec hx.1 hx.2 hm.2⟩)
    (fun x hx => ⟨hok x hx, hground x hx⟩) ⟨hk, hw⟩
  exact noneStranded_of_carried hend.1 hend.2

/-! ## A crash between the blocked job and its route job -/

theorem outside_recoverInterrupted : Outside recoverInterrupted := by
  refine .ignoreError (.bind (.await rfl) fun now => .bind (.await rfl)
    fun interrupted => .forEach (fun (operation, agentJobs) => ?_) _)
  unfold recoverOne
  dsimp only
  split
  · refine .bind (.await rfl) fun claimed => ?_
    split
    · exact .bind (.await rfl) fun _ => .ignoreError (.await rfl)
    · exact .ret _
  · exact .ret _

def departingGateway : World :=
  gatewayWorld { gatewayEnvironment with activeOperationId := some 1 } [sampleOperation .stop] []

/-- The handoff of a managed stop, and what the next API process runs at its start. -/
def stopAndRestart : List (Async Unit) :=
  [queueLifecycle (sampleApi 0).platform 1 .stop sampleIntent, recoverInterrupted,
    onModuleInit (sampleApi 1)]

theorem workflow_of_mem_stopAndRestart :
    ∀ p ∈ stopAndRestart, Workflow (fun _ => False) (Config.start departingGateway).moment p := by
  intro p hp
  simp only [stopAndRestart, List.mem_cons, List.not_mem_nil, or_false] at hp
  rcases hp with rfl | rfl | rfl
  · exact .queueLifecycle (o := sampleOperation .stop) _ _ _ _ rfl rfl
  · exact .other _ outside_recoverInterrupted
  · exact .onModuleInit _

/-- The only job of the unfinished operation `1` is blocked, and nothing executes it. -/
def stranded (w : World) : Bool :=
  w.db.operations.rows.any fun o => o.id == 1 && o.unfinished && !w.executing o &&
    !(w.db.operationJobs o.id).isEmpty && (w.db.operationJobs o.id).all (·.status == .blocked)

theorem not_noneStranded_of_stranded {w : World} (h : stranded w = true) : ¬ w.NoneStranded := by
  intro hnone
  simp only [stranded, List.any_eq_true, Bool.and_eq_true, Bool.not_eq_true', List.isEmpty_eq_false_iff,
    List.all_eq_true, beq_iff_eq] at h
  obtain ⟨o, ho, ⟨⟨⟨_, hu⟩, hexecuting⟩, hjobs⟩, hblocked⟩ := h
  obtain ⟨j, hj, hmoves⟩ := hnone o ho hu hjobs hexecuting
  have hs := hblocked j hj
  rcases hmoves with h | ⟨h, _⟩ <;> rw [hs] at h <;> cases h

/-- `queueLifecycle` crashes after its first write. The restarted process recovers everything that
it would recover, long after, and the operation is still stranded. -/
theorem workflow_stranded : ¬ ∀ (w : World) (c : System) (tr : List Step), w.WellKeyed →
    w.RoutesFenced → w.Carried → Run (Workflow fun _ => False) (Config.start w) tr c →
      c.moment.state.NoneStranded := by
  intro h
  let later : Input := { now := 1000000, dbNow := 1000000 }
  obtain ⟨tr, c, hrun, hcheck⟩ := run_of_plays (Config.start departingGateway) stopAndRestart
    (turns 0 2 ++ List.replicate 2 (1, later) ++ List.replicate 3 (2, later))
    (fun _ c => stranded c.moment.state && (c.threads.drop 1).all Prog.returned)
    workflow_of_mem_stopAndRestart (by decide)
  simp only [Bool.and_eq_true] at hcheck
  have hk : departingGateway.WellKeyed :=
    ⟨by decide, by decide, by decide, by decide, by decide, by decide, by decide⟩
  exact not_noneStranded_of_stranded hcheck.1
    (h departingGateway c tr hk (fun _ => nofun) (carried_of_no_jobs rfl) hrun)

/-- The statement inserts no blocked job and cancels none. -/
def Stmt.cancelsNothing {β : Type} (w : World) (e : Stmt β) : Bool :=
  (e.upserts.all AgentJob.moves) && w.db.agentJobs.rows.all fun j => !e.cancelsJob w j

theorem keepsCarried_of_cancelsNothing {β : Type} {w : World} {e : Stmt β}
    (h : e.cancelsNothing w = true) : e.keepsCarried w := by
  simp only [Stmt.cancelsNothing, Bool.and_eq_true, List.all_eq_true, Bool.not_eq_true'] at h
  cases e with
  | upsertJob job =>
    intro hm
    rw [Option.all_eq_true] at h
    rw [h.1 job rfl] at hm
    cases hm
  | queueRouteJob => exact fun j hj hc => absurd ((h.2 j hj).symm.trans hc) nofun
  | cancelEnvironmentJobs => exact fun j hj hc => absurd ((h.2 j hj).symm.trans hc) nofun
  | _ => trivial

/-- A complete managed deployment strands nothing at any time. -/
theorem workflow_never_stranded_deployment : ∃ (c : System) (tr : List Step),
    Run (Workflow fun _ => False) (Config.start deployingGateway) tr c ∧ tr.length = 50 ∧
      c.moment.state.NoneStranded := by
  obtain ⟨tr, c, hrun, hcheck⟩ := run_of_plays (Config.start deployingGateway) managedDeployment
    managedSchedule (fun tr _ => tr.all (fun x => x.stmt.cancelsNothing x.pre.state) &&
      tr.length == 50) workflow_of_mem_managedDeployment (by decide)
  simp only [Bool.and_eq_true, List.all_eq_true, beq_iff_eq] at hcheck
  exact ⟨c, tr, hrun, hcheck.2, workflow_never_stranded deployingGateway_wellKeyed
    deployingGateway_fenced (carried_of_no_jobs rfl) hrun
    fun x hx => keepsCarried_of_cancelsNothing (hcheck.1 x hx)⟩

end InitPad
