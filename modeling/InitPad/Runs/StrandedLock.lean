import InitPad.Runs.LockOwnership
import InitPad.Deployment.Keys
import InitPad.Agents.ProjectionRules
import InitPad.Interleave.Solo

/-!
# InitPad.Runs.StrandedLock

A finished operation that still holds its environment. `complete` and `recoverInterrupted` finish
the operation in one statement and release the lock in the next, so a crash or a fault between the
two leaves such a state. Whoever comes later looks for unfinished operations only; the lock is
released again exactly when `remove` takes a branch that clears it by id (`World.recoverable`).
-/

namespace InitPad

open Store Interleave Prog

/-- The ways in which a left-over lock can be released later, for one environment. -/
inductive Recovery (projectId : Id) (name : EnvName) : Instant → Async Unit → Prop where
  | recoverInterrupted {m} : Recovery projectId name m recoverInterrupted
  | onModuleInit {m} (api : Api) : Recovery projectId name m (onModuleInit api)
  | projectCompletion {m} (api : Api) (jobId : Id) :
      Recovery projectId name m (ignoreError (projectCompletion api jobId))
  | remove {m} (api : Api) : Recovery projectId name m (remove api projectId name)

/-- The environment that the project calls `name` is locked by an operation that is finished. -/
structure World.LockedByFinished (w : World) (projectId : Id) (name : EnvName)
    (environmentId operationId : Id) : Prop where
  locked : ∃ v, w.db.findEnvironmentView projectId name = some v ∧
    v.environment.id = environmentId ∧ v.environment.activeOperationId = some operationId
  finished : ∃ o, w.op? operationId = some o ∧ o.finishedAt.isSome

/-- Some recovery that starts from `w` takes the lock away from the operation. -/
def World.CanRelease (w : World) (projectId : Id) (name : EnvName)
    (environmentId operationId : Id) : Prop :=
  ∃ (tr : List Step) (c : System), Run (Recovery projectId name) (Config.start w) tr c ∧
    c.moment.state.lock environmentId ≠ some operationId

/-- `remove` will clear the lock by id: the target accepts no more commands, or the operation is a
ci-retry, or it was handed to the Agent of the environment. -/
def World.recoverable (w : World) (projectId : Id) (name : EnvName) (operationId : Id) : Bool :=
  (w.db.findEnvironmentView projectId name).any fun v =>
    unmanagedTarget v.target || (w.op? operationId).any fun o =>
      o.kind == .ciRetry || (!(w.db.operationJobs operationId).isEmpty && v.agentBacked)

structure Lock where
  projectId : Id
  name : EnvName
  environmentId : Id
  operationId : Id
  agentBacked : Bool

/-- What of a target decides how its environments are removed. -/
def Target.command (t : Target) : TargetScope × ManagementState := (t.scope, t.managementState)

/-- The lock is held by a finished operation, and no branch of `remove` clears it. -/
structure Lock.Stranded (L : Lock) (w : World) : Prop where
  keys : w.WellKeyed
  finished : ∃ o, w.op? L.operationId = some o ∧ o.finishedAt.isSome ∧ o.kind ≠ .ciRetry
  held : ∃ e, w.db.environmentNamed L.projectId L.name = some e ∧ e.id = L.environmentId ∧
    e.activeOperationId = some L.operationId ∧
    unmanagedTarget (w.db.environmentTarget e) = false ∧
    isAgentBacked e.provider (w.db.environmentTarget e) = L.agentBacked
  idle : L.agentBacked = true → w.db.operationJobs L.operationId = []

namespace Lock

variable {L : Lock} {w w' : World}

/-- The part of the state that a stranded lock rests on is kept. -/
structure Keeps (L : Lock) (w w' : World) : Prop where
  row : ∀ e, w.db.environmentNamed L.projectId L.name = some e →
    e.activeOperationId = some L.operationId →
    ∃ e', w'.db.environmentNamed L.projectId L.name = some e' ∧ e'.id = e.id ∧
      e'.activeOperationId = some L.operationId ∧ e'.provider = e.provider ∧
      e'.targetId = e.targetId
  command : ∀ id, (w'.db.targets.find? id).map Target.command =
    (w.db.targets.find? id).map Target.command
  jobs : w.db.operationJobs L.operationId = [] → w'.db.operationJobs L.operationId = []

theorem unmanagedTarget_congr {t t' : Option Target}
    (h : t'.map Target.command = t.map Target.command) :
    unmanagedTarget t' = unmanagedTarget t := by
  cases t with
  | none => cases t' with
    | none => rfl
    | some => cases h
  | some t => cases t' with
    | none => cases h
    | some t' =>
      simp only [Option.map_some, Option.some.injEq, Target.command, Prod.mk.injEq] at h
      simp [unmanagedTarget, h.1, h.2]

theorem isAgentBacked_congr {p : ProviderKind} {t t' : Option Target}
    (h : t'.map Target.command = t.map Target.command) :
    isAgentBacked p t' = isAgentBacked p t := by
  cases t with
  | none => cases t' with
    | none => rfl
    | some => cases h
  | some t => cases t' with
    | none => cases h
    | some t' =>
      simp only [Option.map_some, Option.some.injEq, Target.command, Prod.mk.injEq] at h
      simp [isAgentBacked, h.1]

theorem environmentTarget_command {e e' : Environment} (ht : e'.targetId = e.targetId)
    (h : ∀ id, (w'.db.targets.find? id).map Target.command =
      (w.db.targets.find? id).map Target.command) :
    (w'.db.environmentTarget e').map Target.command =
      (w.db.environmentTarget e).map Target.command := by
  unfold Db.environmentTarget
  rw [ht]
  cases e.targetId with
  | none => rfl
  | some id => exact h id

theorem finished_exec {β : Type} {e : Stmt β} {i : Input} {id : Id} {o : DeploymentOperation}
    (ho : w.op? id = some o) (hf : o.finishedAt.isSome) :
    ∃ o', (exec e i w).2.op? id = some o' ∧ o'.finishedAt.isSome := by
  have hsome : (w.op? id).isSome := by rw [ho]; rfl
  obtain ⟨o', ho'⟩ := Option.isSome_iff_exists.mp (op?_isSome_exec (e := e) (i := i) hsome)
  refine ⟨o', ho', ?_⟩
  cases outcomeStep_exec ho ho' with
  | kept _ h => rw [h]; exact hf
  | cancelled _ h => exact h
  | cancelledDirect _ _ h => rw [h]; exact hf
  | concluded _ _ h => exact h
  | ended _ _ h => exact h

theorem stranded_exec {β : Type} {e : Stmt β} {i : Input} (h : L.Stranded w)
    (hk : L.Keeps w (exec e i w).2) : L.Stranded (exec e i w).2 := by
  obtain ⟨o, ho, hf, hkind⟩ := h.finished
  obtain ⟨o', ho', hf'⟩ := finished_exec (e := e) (i := i) ho hf
  obtain ⟨r, hr, hid, hlock, hmanaged, hbacked⟩ := h.held
  obtain ⟨r', hr', hid', hlock', hprovider, htarget⟩ := hk.row r hr hlock
  have hcommand := environmentTarget_command htarget hk.command
  refine ⟨h.keys.exec e i, ⟨o', ho', hf', ?_⟩, ⟨r', hr', hid'.trans hid, hlock', ?_, ?_⟩,
    fun hb => hk.jobs (h.idle hb)⟩
  · rw [(sameRequest_exec ho ho').kind]; exact hkind
  · rw [unmanagedTarget_congr hcommand]; exact hmanaged
  · rw [hprovider, isAgentBacked_congr hcommand]; exact hbacked

end Lock

/-- What a recovery may execute while the lock is stranded: nothing of it acts for the operation
that holds the lock, but for the cancellation that keeps the lock. -/
def Stmt.recovers {β : Type} (L : Lock) : Stmt β → Bool
  | .query _ | .readClock | .recordAudit _ | .projectPreflight .. | .observeRoute ..
  | .failRoute .. | .createRoute .. | .unblockWorkload .. | .cancelDirect .. => true
  | .recoverOperation operation _ => operation.id != L.operationId
  | .recoverEnvironment o _ | .finishProjection o _ _ _ _ _ | .failManagedOperation o _ _ _ _
  | .publishManagedProgress o _ _ => o != L.operationId
  | .queueRouteJob _ _ _ _ request => request.deploymentOperationId != some L.operationId
  | _ => false

namespace Lock

variable {L : Lock} {w w' : World}

theorem row_updated {p : Environment → Bool} {d : Environment → Environment}
    (hw : w'.db.environments = w.db.environments.updateMany p d)
    (hd : ∀ r, (d r).id = r.id ∧ (d r).projectId = r.projectId ∧ (d r).name = r.name ∧
      (d r).provider = r.provider ∧ (d r).targetId = r.targetId)
    (hp : ∀ r, r.activeOperationId = some L.operationId → p r = true →
      (d r).activeOperationId = some L.operationId) {e : Environment}
    (he : w.db.environmentNamed L.projectId L.name = some e)
    (hlock : e.activeOperationId = some L.operationId) :
    ∃ e', w'.db.environmentNamed L.projectId L.name = some e' ∧ e'.id = e.id ∧
      e'.activeOperationId = some L.operationId ∧ e'.provider = e.provider ∧
      e'.targetId = e.targetId := by
  have hnamed : w'.db.environmentNamed L.projectId L.name = some (if p e then d e else e) := by
    unfold Db.environmentNamed at he ⊢
    rw [hw, Table.findFirst?_updateMany _ _ (fun r => by simp [(hd r).2.1, (hd r).2.2.1]), he]
    rfl
  refine ⟨_, hnamed, ?_⟩
  by_cases h : p e = true
  · rw [if_pos h]
    exact ⟨(hd e).1, hp e hlock h, (hd e).2.2.2.1, (hd e).2.2.2.2⟩
  · rw [if_neg h]
    exact ⟨rfl, hlock, rfl, rfl⟩

theorem row_patched {p : Environment → Bool} {d : EnvironmentData}
    (hw : w'.db.environments = w.db.environments.updateMany p d.apply)
    (hp : ∀ r, r.activeOperationId = some L.operationId → p r = true →
      d.activeOperationId.getD (some L.operationId) = some L.operationId) {e : Environment}
    (he : w.db.environmentNamed L.projectId L.name = some e)
    (hlock : e.activeOperationId = some L.operationId) :
    ∃ e', w'.db.environmentNamed L.projectId L.name = some e' ∧ e'.id = e.id ∧
      e'.activeOperationId = some L.operationId ∧ e'.provider = e.provider ∧
      e'.targetId = e.targetId := by
  refine row_updated hw (fun r => ⟨rfl, rfl, rfl, rfl, rfl⟩) (fun r hr h => ?_) he hlock
  rw [← hp r hr h, ← hr]
  rfl

theorem row_kept (hw : w'.db.environments = w.db.environments) {e : Environment}
    (he : w.db.environmentNamed L.projectId L.name = some e)
    (hlock : e.activeOperationId = some L.operationId) :
    ∃ e', w'.db.environmentNamed L.projectId L.name = some e' ∧ e'.id = e.id ∧
      e'.activeOperationId = some L.operationId ∧ e'.provider = e.provider ∧
      e'.targetId = e.targetId :=
  ⟨e, by rw [Db.environmentNamed, hw]; exact he, rfl, hlock, rfl, rfl⟩

theorem operationJobs_eq_nil {db : Db} {o : Id} :
    db.operationJobs o = [] ↔ ∀ j ∈ db.agentJobs.rows, j.deploymentOperationId ≠ some o := by
  simp [Db.operationJobs, Table.findMany, List.filter_eq_nil_iff]

theorem jobs_updated {p : AgentJob → Bool} {d : AgentJob → AgentJob}
    (hw : w'.db.agentJobs = w.db.agentJobs.updateMany p d)
    (hd : ∀ j, (d j).deploymentOperationId = j.deploymentOperationId)
    (h : w.db.operationJobs L.operationId = []) : w'.db.operationJobs L.operationId = [] := by
  rw [operationJobs_eq_nil] at h ⊢
  rw [hw]
  intro j hj
  obtain ⟨j₀, hj₀, rfl⟩ := Table.mem_updateMany.mp hj
  have := h j₀ hj₀
  split
  · rw [hd]; exact this
  · exact this

theorem jobs_kept (hw : w'.db.agentJobs = w.db.agentJobs)
    (h : w.db.operationJobs L.operationId = []) : w'.db.operationJobs L.operationId = [] := by
  rw [Db.operationJobs, hw]; exact h

theorem keeps_queueRouteJob {route : GatewayRoute} {targetId : Id} {allocation : TargetAllocation}
    {name : EnvName} {request : GatewayRouteReconcileRequest} {i : Input}
    (h : request.deploymentOperationId ≠ some L.operationId) :
    L.Keeps w (w.queueRouteJob route targetId allocation name request i).2 := by
  unfold World.queueRouteJob
  split
  · exact ⟨fun _ => row_kept rfl, fun _ => rfl, jobs_kept rfl⟩
  · split
    · exact ⟨fun _ => row_kept rfl, fun _ => rfl, jobs_kept rfl⟩
    · dsimp only
      split
      · exact ⟨fun _ => row_kept rfl, fun _ => rfl, jobs_kept rfl⟩
      · refine ⟨fun _ => row_kept rfl, fun _ => rfl, fun hnone => ?_⟩
        rw [operationJobs_eq_nil] at hnone ⊢
        intro j hj
        rcases Table.mem_insert.mp hj with hj | rfl
        · obtain ⟨j₀, hj₀, rfl⟩ := Table.mem_updateMany.mp hj
          have := hnone j₀ hj₀
          split
          · exact this
          · exact this
        · exact h

theorem keeps_run {β : Type} {e : Stmt β} {i : Input} (he : e.recovers L = true) :
    L.Keeps w (e.run i w).2 := by
  have hforeign : ∀ {o : Id}, o ≠ L.operationId → ∀ {environmentId : Id} {r : Environment},
      r.activeOperationId = some L.operationId → holds environmentId o r ≠ true := by
    intro o ho environmentId r hr h
    simp only [holds, hr, Bool.and_eq_true, beq_iff_eq, Option.some.injEq] at h
    exact ho h.2.symm
  cases e with
  | query | readClock | recordAudit | observeRoute | failRoute =>
    exact ⟨fun _ => row_kept rfl, fun _ => rfl, jobs_kept rfl⟩
  | createRoute =>
    simp only [Stmt.run]
    split
    · exact ⟨fun _ => row_kept rfl, fun _ => rfl, jobs_kept rfl⟩
    · exact ⟨fun _ => row_kept rfl, fun _ => rfl, jobs_kept rfl⟩
  | projectPreflight =>
    refine ⟨fun _ => row_kept rfl, fun id => ?_, jobs_kept rfl⟩
    simp only [Stmt.run, World.updateTargets]
    rw [Table.find?_updateMany _ _ (by intro r; rfl), Option.map_map]
    refine congrArg (Option.map · _) (funext fun t => ?_)
    simp only [Function.comp]
    split <;> rfl
  | unblockWorkload =>
    exact ⟨fun _ => row_kept rfl, fun _ => rfl,
      jobs_updated rfl fun _ => rfl⟩
  | cancelDirect =>
    simp only [Stmt.run, World.snd_requireRows]
    split
    · exact ⟨fun _ => row_patched rfl fun _ _ _ => rfl, fun _ => rfl, jobs_kept rfl⟩
    · exact ⟨fun _ => row_kept rfl, fun _ => rfl, jobs_kept rfl⟩
  | recoverOperation =>
    exact ⟨fun _ => row_kept rfl, fun _ => rfl,
      jobs_kept rfl⟩
  | recoverEnvironment o =>
    have ho : o ≠ L.operationId := bne_iff_ne.mp he
    refine ⟨fun _ => row_patched rfl fun r hr h => ?_, fun _ => rfl, jobs_kept rfl⟩
    rw [hr, beq_iff_eq, Option.some.injEq] at h
    exact absurd h.symm ho
  | finishProjection o =>
    have ho : o ≠ L.operationId := bne_iff_ne.mp he
    exact ⟨fun _ => row_patched rfl fun r hr h => absurd h (hforeign ho hr), fun _ => rfl,
      jobs_kept rfl⟩
  | failManagedOperation o =>
    have ho : o ≠ L.operationId := bne_iff_ne.mp he
    exact ⟨fun _ => row_patched rfl fun r hr h => absurd h (hforeign ho hr), fun _ => rfl,
      jobs_updated rfl fun _ => rfl⟩
  | publishManagedProgress =>
    exact ⟨fun _ => row_patched rfl fun _ _ _ => rfl, fun _ => rfl, jobs_kept rfl⟩
  | queueRouteJob route targetId allocation name request =>
    exact keeps_queueRouteJob (bne_iff_ne.mp he)
  | _ => cases he

theorem Stranded.tick (h : L.Stranded w) (t : Time) : L.Stranded (w.tick t) :=
  ⟨⟨h.keys.1, h.keys.2, h.keys.3, h.keys.4, h.keys.5, h.keys.6, h.keys.7⟩, h.finished, h.held, h.idle⟩

theorem keeps_exec {β : Type} {e : Stmt β} {i : Input} (he : e.recovers L = true) :
    L.Keeps w (exec e i w).2 := by
  rcases exec_cases e i w with ⟨_, _, hex⟩ | ⟨_, hex⟩
  · rw [hex]
    exact ⟨fun _ => row_kept rfl, fun _ => rfl, jobs_kept rfl⟩
  · rw [hex]
    have h := keeps_run (w := w.tick i.dbNow) (i := i) he
    exact ⟨h.row, h.command, h.jobs⟩

/-- A stranded lock is an invariant of whatever executes only `Stmt.recovers`. -/
def contract (L : Lock) : Contract Stmt Input World Err where
  ok _ := True
  inv m := L.Stranded m.state
  rely _ _ _ := True
  guar x := x.stmt.recovers L = true
  rely_refl _ _ := trivial
  rely_trans _ _ _ _ _ _ := trivial
  inv_post _ h _ he := stranded_exec h (keeps_exec he)
  rely_of_guar _ _ _ _ _ _ := trivial

/-- The program executes only statements of recoveries while the lock is stranded. -/
def Spared (L : Lock) {α : Type} (p : Async α) : Prop :=
  ∀ t m, L.Stranded m.state → Safe L.contract t (fun _ _ => True) p m

section Spared

variable {α β : Type}

theorem spared_only {p : Async α} (hp : p.Only fun e => e.recovers L = true) : L.Spared p :=
  fun _ _ _ => Safe.of_only (A := fun _ => True) (fun _ _ _ _ => trivial)
    (fun _ _ _ he _ _ _ => ⟨he, trivial⟩) hp trivial

theorem Spared.ret (r : Except Err α) : L.Spared (.ret r) := spared_only (.ret _)

theorem Spared.andThen {p : Async α} {f : Except Err α → Async β} (hp : L.Spared p)
    (hf : ∀ r, L.Spared (f r)) : L.Spared (p.andThen f) :=
  fun t m hm => Safe.andThen hm (hp t m hm) fun r m' hm' _ => hf r t m' hm'

theorem spared_compositional : Compositional (E := Stmt) (ε := Err) fun p => L.Spared p :=
  ⟨Spared.ret, Spared.andThen⟩

theorem Spared.bind {p : Async α} {f : α → Async β} (hp : L.Spared p)
    (hf : ∀ a, L.Spared (f a)) : L.Spared (p >>= f) := spared_compositional.bind hp hf

theorem Spared.ignoreError {p : Async α} (hp : L.Spared p) : L.Spared p.ignoreError :=
  spared_compositional.ignoreError hp

theorem Spared.forEach {body : α → Async Unit} {as : List α} (h : ∀ a ∈ as, L.Spared (body a)) :
    L.Spared (Prog.forEach body as) := spared_compositional.forEach h

theorem Spared.query {f : Db → Except Err α} {g : α → Async β}
    (h : ∀ w a, L.Stranded w → f w.db = .ok a → L.Spared (g a)) :
    L.Spared (await (.query f) >>= g) := by
  intro t m hm
  refine Safe.await_bind fun m' i _ hi _ => ⟨rfl, ?_⟩
  have hpost : L.Stranded (m'.next t (.query f) i).state := stranded_exec hi (keeps_exec rfl)
  refine Safe.onValue (fun a ha => ?_) fun x _ => fun _ _ _ => trivial
  rcases exec_cases (.query f) i m'.state with ⟨_, _, he⟩ | ⟨_, he⟩
  · rw [he] at ha; cases ha
  · rw [he] at ha
    exact h _ a (hi.tick i.dbNow) ha t _ hpost

end Spared

theorem ne_of_unfinished (h : L.Stranded w) {o : DeploymentOperation}
    (ho : o ∈ w.db.operations.rows) (hf : o.finishedAt = none) : o.id ≠ L.operationId := by
  intro hid
  obtain ⟨o', ho', hf', _⟩ := h.finished
  have hrow := h.keys.operations.find?_of_mem ho
  rw [show Keyed.key o = L.operationId from hid] at hrow
  obtain rfl := Option.some.inj (hrow.symm.trans ho')
  rw [hf] at hf'
  cases hf'

theorem spared_recoverOne {now : Time} {entry : DeploymentOperation × List AgentJob}
    (h : entry.1.id ≠ L.operationId) : L.Spared (recoverOne now entry) := by
  obtain ⟨operation, agentJobs⟩ := entry
  refine spared_only ?_
  dsimp only [recoverOne]
  split
  · refine .bind (.await (bne_iff_ne.mpr h)) fun claimed => ?_
    split
    · exact .bind (.await (bne_iff_ne.mpr h)) fun _ => .ignoreError (.await rfl)
    · exact .ret _
  · exact .ret _

theorem spared_recoverInterrupted : L.Spared recoverInterrupted := by
  refine Spared.ignoreError (.bind (spared_only (.await rfl)) fun now => .query fun w as hw has => ?_)
  obtain rfl := Except.ok.inj has
  refine Spared.forEach fun entry hentry => spared_recoverOne ?_
  obtain ⟨o, ho, rfl⟩ := List.mem_map.mp hentry
  obtain ⟨hrow, hp⟩ := List.mem_filter.mp ho
  simp only [Bool.and_eq_true, Option.isNone_iff_eq_none] at hp
  exact ne_of_unfinished hw hrow hp.1.2

/-! ### The projections -/

section Projections

variable {v : TerminalView} {platform : Platform} {follow : Id → Async Unit}

theorem spared_projects (h : v.operation.id ≠ L.operationId) {β : Type} (e : Stmt β)
    (he : e.Projects v) : L.Spared (await e) := by
  have hne : ∀ {o}, o = v.operation.id → (o != L.operationId) = true := by
    rintro _ rfl
    exact bne_iff_ne.mpr h
  refine spared_only (.await ?_)
  cases e with
  | query | readClock | createRoute | unblockWorkload => rfl
  | failManagedOperation | publishManagedProgress | finishProjection => exact hne he.1
  | queueRouteJob =>
    refine bne_iff_ne.mpr fun heq => h ?_
    rw [deploymentOperationId_of_activationRequest he.request] at heq
    exact Option.some.inj heq
  | _ => cases he

theorem only_reconcileGatewayRoute (jobId : Id) :
    (reconcileGatewayRoute jobId).Only fun e => e.recovers L = true := by
  refine .bind (.await rfl) fun found => ?_
  split
  · exact .ret _
  · split
    · split
      · refine .bind (.await rfl) fun clock => ?_
        dsimp only
        split
        · exact .bind (.await rfl) fun _ => .ret _
        · exact .bind (.await rfl) fun _ => .ret _
      · exact .ret _
    · exact .ret _

theorem ne_of_terminalView (h : L.Stranded w) {jobId : Id} (hv : w.db.terminalView jobId = some v)
    (hf : v.operation.finishedAt = none) : v.operation.id ≠ L.operationId := by
  unfold Db.terminalView at hv
  simp only [Option.bind_eq_some_iff, Option.map_eq_some_iff] at hv
  obtain ⟨job, _, o, ⟨_, _, ho⟩, _, _, rfl⟩ := hv
  exact ne_of_unfinished h (Table.mem_of_find? ho) hf

theorem spared_reconcileTerminalWith (hfollow : ∀ id, L.Spared (follow id)) (jobId : Id) :
    L.Spared (reconcileTerminalWith platform follow jobId) := by
  refine .bind (.query fun w found hw hfound => ?_) fun _ =>
    compose_recordJobResult spared_compositional (fun _ => spared_only (.await rfl))
      (fun _ => spared_only (.await rfl)) jobId
  obtain rfl := Except.ok.inj hfound
  split
  · exact .ret _
  · rename_i v hv
    split
    · rename_i hactive
      have h := ne_of_terminalView hw hv hactive.2.2
      split
      · exact compose_reconcileManagedTerminalJob spared_compositional (spared_projects h)
          (fun _ => spared_only (only_reconcileGatewayRoute _)) hfollow
      · rename_i hdirect
        exact compose_reconcileDirectTerminalJob spared_compositional (spared_projects h)
          (Bool.eq_false_iff.mpr hdirect)
    · exact .ret _

theorem spared_reconcileTerminalJob (jobId : Id) :
    L.Spared (reconcileTerminalJob platform jobId) :=
  spared_reconcileTerminalWith (spared_reconcileTerminalWith fun _ => .ret _) jobId

theorem spared_reconcileGatewayPreflight (jobId : Id) : L.Spared (reconcileGatewayPreflight jobId) :=
  compose_reconcileGatewayPreflight spared_compositional (fun _ => spared_only (.await rfl))
    (spared_only (.await rfl)) (fun _ _ _ _ _ => spared_only (.await rfl)) jobId

theorem spared_projectCompletion (api : Api) (jobId : Id) :
    L.Spared (projectCompletion api jobId) :=
  compose_projectCompletion spared_compositional spared_reconcileGatewayPreflight
    (fun _ => spared_only (only_reconcileGatewayRoute _)) spared_reconcileTerminalJob jobId

theorem spared_onModuleInit (api : Api) : L.Spared (onModuleInit api) :=
  compose_onModuleInit spared_compositional (fun _ => spared_only (.await rfl))
    spared_reconcileGatewayPreflight (fun _ => spared_only (only_reconcileGatewayRoute _))
    spared_reconcileTerminalJob

end Projections

/-! ### The removal -/

theorem findEnvironmentView_environment {db : Db} {projectId : Id} {name : EnvName}
    {v : EnvironmentView} (h : db.findEnvironmentView projectId name = some v) :
    db.environmentNamed projectId name = some v.environment ∧
      v.target = db.environmentTarget v.environment := by
  unfold Db.findEnvironmentView Db.environmentView at h
  simp only [Option.bind_eq_some_iff, Option.map_eq_some_iff] at h
  obtain ⟨e, he, p, _, rfl⟩ := h
  exact ⟨he, rfl⟩

theorem Stranded.view (h : L.Stranded w) {v : EnvironmentView}
    (hv : w.db.findEnvironmentView L.projectId L.name = some v) :
    v.environment.activeOperationId = some L.operationId ∧ unmanagedTarget v.target = false ∧
      v.agentBacked = L.agentBacked := by
  obtain ⟨hv, ht⟩ := findEnvironmentView_environment hv
  obtain ⟨e, he, _, hlock, hmanaged, hbacked⟩ := h.held
  obtain rfl := Option.some.inj (hv.symm.trans he)
  rw [EnvironmentView.agentBacked, ht]
  exact ⟨hlock, hmanaged, hbacked⟩

theorem spared_abandonOnUnmanagedTarget :
    L.Spared (abandonOnUnmanagedTarget L.projectId L.name) := by
  refine .query fun w found hw hfound => ?_
  obtain hfound := Except.ok.inj hfound
  split
  · exact .ret _
  · rename_i v
    dsimp only
    rw [if_pos (by simp [(hw.view hfound).2.1])]
    exact .ret _

theorem Spared.environmentContext {β : Type} {g : EnvironmentView → Async β}
    (h : ∀ v, v.environment.activeOperationId = some L.operationId →
      v.agentBacked = L.agentBacked → L.Spared (g v)) :
    L.Spared (environmentContext L.projectId L.name >>= g) := by
  unfold InitPad.environmentContext
  rw [bind_assoc]
  refine .query fun _ project _ _ => ?_
  split
  · exact .ret _
  · rw [bind_assoc]
    refine .query fun w found hw hfound => ?_
    cases found with
    | none => exact .ret _
    | some v =>
      have hv := hw.view (Except.ok.inj hfound)
      dsimp only
      rw [bind_assoc]
      exact .bind (.ret _) fun _ => h v hv.1 hv.2.2

/-- With a finished operation that is neither a ci-retry nor at its Agent, `remove` only repeats
the cancellation. -/
theorem spared_cancelActive (api : Api) {v : EnvironmentView} (hv : v.agentBacked = L.agentBacked) :
    L.Spared (cancelActive api L.projectId L.name v L.operationId) := by
  refine .query fun w found hw hfound => ?_
  obtain ⟨o, ho, _, hkind⟩ := hw.finished
  have hid : o.id = L.operationId := Table.find?_key ho
  rw [show w.db.operations.find? L.operationId = some o from ho] at hfound
  obtain rfl := Except.ok.inj hfound
  dsimp only [Option.map_some]
  rw [if_neg hkind, if_neg]
  · exact spared_only (.await rfl)
  · rw [hv, hid, Bool.and_eq_true]
    intro h
    rw [hw.idle h.2] at h
    exact absurd h.1 (by decide)

theorem spared_remove (api : Api) : L.Spared (remove api L.projectId L.name) := by
  refine .bind spared_abandonOnUnmanagedTarget fun abandoned => ?_
  split
  · exact .ret _
  · refine .environmentContext fun v hlock hbacked => ?_
    rw [hlock]
    exact spared_cancelActive api hbacked

theorem spared_recovery {m : Instant} {p : Async Unit} (h : Recovery L.projectId L.name m p) :
    L.Spared p := by
  cases h with
  | recoverInterrupted => exact spared_recoverInterrupted
  | onModuleInit api => exact spared_onModuleInit api
  | projectCompletion api jobId => exact (spared_projectCompletion api jobId).ignoreError
  | remove api => exact spared_remove api

theorem Stranded.lock (h : L.Stranded w) : w.lock L.environmentId = some L.operationId := by
  obtain ⟨e, he, hid, hlock, _⟩ := h.held
  have hrow := h.keys.environments.find?_of_mem (List.mem_of_find?_eq_some he)
  rw [show Keyed.key e = L.environmentId from hid] at hrow
  exact lock_eq_some.mpr ⟨e, hrow, hlock⟩

theorem stranded_run {c : System} {tr : List Step} (h : L.Stranded w)
    (hrun : Run (Recovery L.projectId L.name) (Config.start w) tr c) :
    L.Stranded c.moment.state :=
  (Run.safe L.contract (fun _ _ t hi _ hp => spared_recovery hp t _ hi) hrun
    (Run.sound_start L.contract w h) fun _ _ => trivial).1.1

/-! ## The branches of `remove` that release the lock -/

end Lock

section Release

variable {w w' : World}

theorem exec_default {β : Type} (e : Stmt β) (w : World) : exec e {} w = e.run {} w := by
  have h : w.tick ({} : Input).dbNow = w := by simp [World.tick]
  rw [exec_eq, h]
  rfl

theorem returns_await {β : Type} {e : Stmt β} {r : Except Err β} (h : e.run {} w = (r, w')) :
    (await e : Async β).Returns w r w' := by
  refine .call {} ?_
  rw [exec_default, h]
  exact .ret _ _

theorem returns_query {β : Type} {f : Db → Except Err β} {a : β} (h : f w.db = .ok a) :
    (await (.query f) : Async β).Returns w (.ok a) w := returns_await (by rw [Stmt.run, h])

theorem returns_complete (o : Id) (status : OperationResult) (message : Option String)
    (w : World) : ∃ w', (complete none o status message).Returns w (.ok ()) w' := by
  obtain ⟨n, w₁, hchanged⟩ : ∃ n w₁, (tryCatch (some <$> await (.finishUnowned o status message))
      fun _ => pure none : Async (Option Nat)).Returns w (.ok (some n)) w₁ :=
    ⟨_, _, Returns.andThen (r := .ok (some _)) (Returns.bind (returns_await rfl) (.ret _ _))
      (.ret _ _)⟩
  obtain ⟨b, w₂, hbefore⟩ : ∃ b w₂, (completedBefore o status).Returns w₁ (.ok b) w₂ :=
    ⟨_, _, Returns.bind (Returns.andThen (r := .ok _) (returns_await rfl) (.ret _ _)) (.ret _ _)⟩
  have hrelease : ∀ (b : Bool) (w : World), ∃ w', (if b = true then do
      let _ ← await (.releaseLock o)
      if (some n).isSome then
        ignoreError (await (.query fun db => .ok (db.operations.find? o)))
        recordResultSafely o
    else pure () : Async Unit).Returns w (.ok ()) w' := by
    intro b w
    cases b with
    | false => exact ⟨w, .ret _ _⟩
    | true =>
      exact ⟨_, (returns_await rfl).bind (.bind (returns_await rfl).ignoreError
        (returns_await rfl).ignoreError)⟩
  by_cases hn : some n = some 0
  · obtain ⟨w', h⟩ := hrelease b w₂
    refine ⟨w', hchanged.bind ?_⟩
    dsimp only
    rw [if_pos hn]
    exact hbefore.bind h
  · obtain ⟨w', h⟩ := hrelease true w₁
    refine ⟨w', hchanged.bind ?_⟩
    dsimp only
    rw [if_neg hn]
    exact h

theorem env?_isSome_of_named {projectId : Id} {name : EnvName} {e : Environment}
    (h : w.db.environmentNamed projectId name = some e) : (w.env? e.id).isSome := by
  rw [World.env?, Table.find?_isSome_iff]
  exact List.mem_map_of_mem (List.mem_of_find?_eq_some h)

theorem returns_keep_env {α : Type} {p : Async α} {r : Except Err α} {id : Id}
    (h : p.Returns w r w') (he : (w.env? id).isSome) : (w'.env? id).isSome := by
  induction h with
  | ret => exact he
  | call i _ ih => exact ih (by rw [env?_isSome_exec]; exact he)

section Remove

variable {projectId : Id} {name : EnvName} {environmentId operationId : Id} {v : EnvironmentView}
  {api : Api}

theorem visits_abandon (hv : w.db.findEnvironmentView projectId name = some v)
    (ht : unmanagedTarget v.target = true)
    (hlock : v.environment.activeOperationId = some operationId) :
    ∃ w', (remove api projectId name).Visits w w' ∧ w'.lock v.environment.id = none := by
  have he : (w.env? v.environment.id).isSome :=
    env?_isSome_of_named (Lock.findEnvironmentView_environment hv).1
  let unfinished := (w.db.operations.findMany fun o =>
    o.environmentId == v.environment.id && o.finishedAt.isNone).map (·.id)
  let w₁ := ((Stmt.cancelEnvironmentJobs v.environment.id 0).run {} w).2
  have hbody : ∀ operationId w, (w.env? v.environment.id).isSome = true →
      ∃ w', Prog.Returns (complete none operationId .cancelled
          (some "Target is no longer connected")) w (.ok ()) w' ∧
        (w'.env? v.environment.id).isSome = true := by
    intro o w he
    obtain ⟨w', h⟩ := returns_complete o .cancelled (some "Target is no longer connected") w
    exact ⟨w', h, returns_keep_env h he⟩
  obtain ⟨w₂, hloop, he₂⟩ := returns_forEach hbody unfinished w₁ he
  refine ⟨(exec (Stmt.clearLock v.environment.id v.environment.activeOperationId) {} w₂).2,
    Visits.andThen ?_, ?_⟩
  · refine Returns.visits_bind (returns_query (by rw [hv])) ?_
    dsimp only
    rw [if_neg (by simp [ht]), if_neg (by simp [hlock])]
    refine Returns.visits_bind (returns_await rfl) (Returns.visits_bind (returns_await rfl)
      (Returns.visits_bind (returns_await rfl) (Returns.visits_bind hloop ?_)))
    exact .call {} (.here _ _)
  · rw [exec_default]
    exact lock_run_clearsById rfl (fun _ h => by cases h) he₂

theorem visits_cancelActive (hv : w.db.findEnvironmentView projectId name = some v)
    (ht : unmanagedTarget v.target = false)
    (hlock : v.environment.activeOperationId = some operationId)
    (h : (cancelActive api projectId name v operationId).Visits w w') :
    (remove api projectId name).Visits w w' := by
  have hproject : (w.db.projects.find? projectId).isSome := by
    have he := hv
    unfold Db.findEnvironmentView Db.environmentView at he
    simp only [Option.bind_eq_some_iff, Option.map_eq_some_iff] at he
    obtain ⟨e, he, p, hp, _⟩ := he
    have hid : e.projectId = projectId := by
      have := List.find?_some he
      simp only [Bool.and_eq_true, beq_iff_eq] at this
      exact this.1
    rw [← hid, show w.db.projects.find? e.projectId = some p from hp]
    rfl
  refine Returns.visits_bind (?_ : Returns _ w (.ok false) w) ?_
  · refine Returns.bind (returns_query (by rw [hv])) ?_
    dsimp only
    rw [if_pos (by simp [ht])]
    exact .ret _ _
  · refine Returns.visits_bind (?_ : Returns _ w (.ok v) w) ?_
    · refine Returns.bind (returns_query rfl) ?_
      rw [if_neg (by simpa [← Option.isSome_iff_ne_none] using hproject)]
      refine Returns.bind (returns_query (by rw [hv])) ?_
      simp only [assertManaged, ht]
      exact .ret _ _
    · rw [hlock]
      exact h

theorem visits_cancelActive_release (hv : w.db.findEnvironmentView projectId name = some v)
    {o : DeploymentOperation} (ho : w.op? operationId = some o)
    (h : (o.kind == .ciRetry || (!(w.db.operationJobs operationId).isEmpty && v.agentBacked)) =
      true) :
    ∃ w', (cancelActive api projectId name v operationId).Visits w w' ∧
      w'.lock v.environment.id = none := by
  have hid : o.id = operationId := Table.find?_key ho
  have he : (w.env? v.environment.id).isSome :=
    env?_isSome_of_named (Lock.findEnvironmentView_environment hv).1
  have hrow : (w.op? o.id).isSome := by rw [hid, ho]; rfl
  have hfind : w.db.operations.find? operationId = some o := ho
  by_cases hkind : o.kind = .ciRetry
  · refine ⟨(exec (Stmt.cancelCiRetry o.id v.environment.id) {} w).2, ?_, ?_⟩
    · refine Returns.visits_bind (returns_query (by rw [hfind])) ?_
      dsimp only [Option.map_some]
      rw [if_pos hkind]
      exact .call {} (.here _ _)
    · rw [exec_default]
      exact lock_run_clearsById rfl (fun _ h => by cases h; exact hrow) he
  · have hagent : (!(w.db.operationJobs o.id).isEmpty && v.agentBacked) = true := by
      rw [hid]
      simpa [hkind] using h
    refine ⟨(exec (Stmt.cancelAgentOperation o.id v.environment.id 0) {} w).2, ?_, ?_⟩
    · refine Returns.visits_bind (returns_query (by rw [hfind])) ?_
      dsimp only [Option.map_some]
      rw [if_neg hkind, if_pos hagent]
      exact Returns.visits_bind (returns_await rfl) (.call {} (.here _ _))
    · rw [exec_default]
      exact lock_run_clearsById rfl (fun _ h => by cases h; exact hrow) he

end Remove

theorem canRelease_of_recoverable {projectId : Id} {name : EnvName}
    {environmentId operationId : Id} (h : w.LockedByFinished projectId name environmentId operationId)
    (hr : w.recoverable projectId name operationId = true) :
    w.CanRelease projectId name environmentId operationId := by
  obtain ⟨⟨v, hv, hid, hlock⟩, o, ho, _⟩ := h
  subst hid
  suffices hvisits : ∃ w', (remove (sampleApi 0) projectId name).Visits w w' ∧
      w'.lock v.environment.id = none by
    obtain ⟨w', hvisits, hnone⟩ := hvisits
    obtain ⟨tr, c, hrun, hc⟩ := Run.visits (c := Config.start w) (Recovery.remove (sampleApi 0)) hvisits
    exact ⟨tr, c, hrun, by rw [hc, hnone]; exact nofun⟩
  cases ht : unmanagedTarget v.target with
  | true => exact visits_abandon hv ht hlock
  | false =>
    have hbranch : (o.kind == .ciRetry ||
        (!(w.db.operationJobs operationId).isEmpty && v.agentBacked)) = true := by
      simpa [World.recoverable, hv, ho, ht] using hr
    obtain ⟨w', hvisits, hnone⟩ := visits_cancelActive_release hv ho hbranch
    exact ⟨w', visits_cancelActive hv ht hlock hvisits, hnone⟩

end Release

theorem stranded_of_not_recoverable {w : World} {projectId : Id} {name : EnvName}
    {environmentId operationId : Id} (hk : w.WellKeyed)
    (h : w.LockedByFinished projectId name environmentId operationId)
    (hr : w.recoverable projectId name operationId = false) :
    ∃ L : Lock, L.projectId = projectId ∧ L.name = name ∧ L.environmentId = environmentId ∧
      L.operationId = operationId ∧ L.Stranded w := by
  obtain ⟨⟨v, hv, hid, hlock⟩, o, ho, hf⟩ := h
  obtain ⟨hnamed, htarget⟩ := Lock.findEnvironmentView_environment hv
  have hno : unmanagedTarget v.target = false ∧ o.kind ≠ .ciRetry ∧
      (v.agentBacked = true → w.db.operationJobs operationId = []) := by
    simp only [World.recoverable, hv, ho, Option.any_some, Bool.or_eq_false_iff, beq_eq_false_iff_ne,
      Bool.and_eq_false_iff, Bool.not_eq_false', List.isEmpty_iff] at hr
    exact ⟨hr.1, hr.2.1, fun hb => hr.2.2.resolve_right (by simp [hb])⟩
  refine ⟨⟨projectId, name, environmentId, operationId, v.agentBacked⟩, rfl, rfl, rfl, rfl, hk,
    ⟨o, ho, hf, hno.2.1⟩, ⟨v.environment, hnamed, hid, hlock, ?_, ?_⟩, hno.2.2⟩
  · rw [← htarget]; exact hno.1
  · rw [EnvironmentView.agentBacked, htarget]

theorem not_canRelease_of_not_recoverable {w : World} {projectId : Id} {name : EnvName}
    {environmentId operationId : Id} (hk : w.WellKeyed)
    (h : w.LockedByFinished projectId name environmentId operationId)
    (hr : w.recoverable projectId name operationId = false) :
    ¬ w.CanRelease projectId name environmentId operationId := by
  rintro ⟨tr, c, hrun, hc⟩
  obtain ⟨L, rfl, rfl, rfl, rfl, hL⟩ := stranded_of_not_recoverable hk h hr
  exact hc (Lock.stranded_run hL hrun).lock

theorem wellKeyed_run {w : World} {c : System} {tr : List Step} (hk : w.WellKeyed)
    (hrun : Run Request (Config.start w) tr c) : c.moment.state.WellKeyed :=
  Run.preserves (fun m => m.state.WellKeyed) (fun _ => True) (fun x _ h => h.exec x.stmt x.input)
    hrun (fun _ _ => trivial) hk

/-- In every reachable state, with any threads crashed at any statement and any statement failed,
a lock that a finished operation still holds is released by a later recovery exactly when `remove`
reaches a branch that clears it by id. -/
theorem finished_lock_released {w : World} {c : System} {tr : List Step} (hk : w.WellKeyed)
    (hrun : Run Request (Config.start w) tr c) {projectId : Id} {name : EnvName}
    {environmentId operationId : Id}
    (h : c.moment.state.LockedByFinished projectId name environmentId operationId) :
    c.moment.state.CanRelease projectId name environmentId operationId ↔
      c.moment.state.recoverable projectId name operationId = true := by
  refine ⟨fun hrelease => ?_, canRelease_of_recoverable h⟩
  cases hr : c.moment.state.recoverable projectId name operationId with
  | true => rfl
  | false =>
    exact absurd hrelease (not_canRelease_of_not_recoverable (wellKeyed_run hk hrun) h hr)

/-! ## A crash between the two statements of `complete` -/

def beginAndComplete (kind : OperationKind) : List (Async Unit) :=
  [ignoreError (begin 0 .dev kind (some "v2") none none), complete none 10 .failed none]

theorem request_of_mem_beginAndComplete {kind : OperationKind} {m : Instant} :
    ∀ p ∈ beginAndComplete kind, Request m p := by
  intro p hp
  simp only [beginAndComplete, List.mem_cons, List.not_mem_nil, or_false] at hp
  rcases hp with rfl | rfl
  · exact .begin 0 .dev kind (some "v2") none none
  · exact .complete 10 .failed none

/-- Environment `0` is locked by the finished operation `10`. -/
def lockedByFinished (w : World) : Bool :=
  ((w.db.findEnvironmentView 0 .dev).any fun v =>
    v.environment.id == 0 && v.environment.activeOperationId == some 10) &&
      (w.op? 10).any fun o => o.finishedAt.isSome

theorem lockedByFinished_iff {w : World} :
    lockedByFinished w = true ↔ w.LockedByFinished 0 .dev 0 10 := by
  simp only [lockedByFinished, Bool.and_eq_true, Option.any_eq_true, beq_iff_eq]
  constructor
  · rintro ⟨⟨v, hv, hid, hlock⟩, o, ho, hf⟩
    exact ⟨⟨v, hv, hid, hlock⟩, o, ho, hf⟩
  · rintro ⟨⟨v, hv, hid, hlock⟩, o, ho, hf⟩
    exact ⟨⟨v, hv, hid, hlock⟩, o, ho, hf⟩

theorem sampleWorld_wellKeyed : (sampleWorld sampleEnvironment []).WellKeyed :=
  ⟨by decide, by decide, by decide, by decide, by decide, by decide, by decide⟩

/-- `complete` finishes operation `10` of an environment without an Agent and then crashes: no
recovery ever frees the environment. -/
theorem finished_lock_stranded : ¬ ∀ (w : World) (tr : List Step) (c : System) (projectId : Id)
    (name : EnvName) (environmentId operationId : Id), w.WellKeyed →
      Run Request (Config.start w) tr c →
      c.moment.state.LockedByFinished projectId name environmentId operationId →
      c.moment.state.CanRelease projectId name environmentId operationId := by
  intro h
  obtain ⟨tr, c, hrun, hcheck⟩ := run_of_plays
    (Config.start (sampleWorld sampleEnvironment [])) (beginAndComplete .redeploy)
    (turns 0 3 ++ turns 1 1)
    (fun _ c => lockedByFinished c.moment.state && !c.moment.state.recoverable 0 .dev 10)
    request_of_mem_beginAndComplete (by decide)
  simp only [Bool.and_eq_true, Bool.not_eq_true', lockedByFinished_iff] at hcheck
  exact not_canRelease_of_not_recoverable (wellKeyed_run sampleWorld_wellKeyed hrun) hcheck.1
    hcheck.2 (h _ tr c 0 .dev 0 10 sampleWorld_wellKeyed hrun hcheck.1)

/-- The same crash of a ci-retry leaves a lock that `remove` releases. -/
theorem finished_lock_released_ciRetry : ∃ (tr : List Step) (c : System),
    Run Request (Config.start (sampleWorld sampleEnvironment [])) tr c ∧
      c.moment.state.LockedByFinished 0 .dev 0 10 ∧ c.moment.state.CanRelease 0 .dev 0 10 := by
  obtain ⟨tr, c, hrun, hcheck⟩ := run_of_plays
    (Config.start (sampleWorld sampleEnvironment [])) (beginAndComplete .ciRetry)
    (turns 0 3 ++ turns 1 1)
    (fun _ c => lockedByFinished c.moment.state && c.moment.state.recoverable 0 .dev 10)
    request_of_mem_beginAndComplete (by decide)
  simp only [Bool.and_eq_true, lockedByFinished_iff] at hcheck
  exact ⟨tr, c, hrun, hcheck.1,
    (finished_lock_released sampleWorld_wellKeyed hrun hcheck.1).mpr hcheck.2⟩

end InitPad
