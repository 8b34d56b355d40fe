import InitPad.Runs.RequestRules
import InitPad.Deployment.OperationSteps

/-!
# InitPad.Runs.ExecutionLease

The execution lease of an operation. The generation never decreases, so what is fenced by an
overtaken generation reaches the row no more; that holds in every run. Within one process the
fence rests on `localExecutions`: while a process adds no context for an operation that it is
already executing, no two live contexts share an owner and a generation. The check of
`runWithExecutionLease` comes two statements before the addition, so two calls can pass it together.
-/

namespace InitPad

open Store Interleave Prog

/-! ## Fencing -/

/-- The owner and generation that a statement compares with the row of operation `id`. -/
def Stmt.fencedBy {β : Type} (id : Id) : Stmt β → Option (Id × Nat)
  | .renewExecution p g o | .releaseExecution p g o | .finishOwned p g o _ _
  | .reportMessage p g o _ | .advancePhase o _ _ (.owned p g) =>
    if o = id then some (p, g) else none
  | _ => none

section Fencing

variable {β : Type} {e : Stmt β} {i : Input} {w : World} {id P : Id} {g : Nat}
  {o : DeploymentOperation}

theorem op?_updated_not {p : DeploymentOperation → Bool}
    {d : DeploymentOperation → DeploymentOperation} (hd : ∀ r, (d r).id = r.id)
    (ho : w.op? id = some o) (hp : p o = false) : (w.updateOperations p d).op? id = some o := by
  rw [World.op?_updateOperations _ _ _ _ hd, ho]
  simp [hp]

theorem op?_run_fencedBy (hf : e.fencedBy id = some (P, g)) (ho : w.op? id = some o)
    (hg : ¬ (o.executionOwner = some P ∧ o.executionGeneration = g)) :
    (e.run i w).2.op? id = some o := by
  cases e with
  | renewExecution p g' a | releaseExecution p g' a | finishOwned p g' a | reportMessage p g' a =>
    simp only [Stmt.fencedBy] at hf
    split at hf
    · cases hf
      refine op?_updated_not (fun _ => rfl) ho ?_
      simp only [ExecutionFence.admits, Bool.and_eq_false_iff, beq_eq_false_iff_ne]
      tauto
    · cases hf
  | advancePhase a phase message fence =>
    cases fence with
    | unowned => cases hf
    | owned p g' =>
      simp only [Stmt.fencedBy] at hf
      split at hf
      · cases hf
        refine op?_updated_not (fun _ => rfl) ho ?_
        simp only [ExecutionFence.admits, Bool.and_eq_false_iff, beq_eq_false_iff_ne]
        tauto
      · cases hf
  | _ => cases hf

theorem op?_exec_fencedBy (hf : e.fencedBy id = some (P, g)) (ho : w.op? id = some o)
    (hg : ¬ (o.executionOwner = some P ∧ o.executionGeneration = g)) :
    (exec e i w).2.op? id = some o := by
  rcases exec_cases e i w with ⟨_, _, he⟩ | ⟨_, he⟩
  · rw [he]; exact ho
  · rw [he]; exact op?_run_fencedBy hf (by simpa using ho) hg

end Fencing

def Stmt.claims {β : Type} : Stmt β → Option (Id × Id)
  | .claimExecution instanceId o => some (instanceId, o)
  | _ => none

/-- A claim of another process takes the operation over from the lease of `P` with generation
`g`. -/
def TakesOver (id P : Id) (g : Nat) (x : Step) : Prop :=
  ∃ Q, Q ≠ P ∧ x.stmt.claims = some (Q, id) ∧
    (∃ o, x.pre.state.op? id = some o ∧ o.executionOwner = some P ∧ o.executionGeneration = g) ∧
    ∃ o, x.post.state.op? id = some o ∧ o.executionOwner = some Q

/-- The generation of the operation is past `g`. -/
def Overtaken (id : Id) (g : Nat) (m : Instant) : Prop :=
  ∃ o, m.state.op? id = some o ∧ g < o.executionGeneration

section Overtaken

variable {id P : Id} {g : Nat}

theorem generation_post (x : Step) {o : DeploymentOperation} (ho : x.pre.state.op? id = some o) :
    ∃ o', x.post.state.op? id = some o' ∧ o.executionGeneration ≤ o'.executionGeneration := by
  have hsome : (x.post.state.op? id).isSome :=
    op?_isSome_exec (e := x.stmt) (i := x.input) (by rw [ho]; rfl)
  obtain ⟨o', ho'⟩ := Option.isSome_iff_exists.mp hsome
  exact ⟨o', ho', generation_exec (e := x.stmt) (i := x.input) ho ho'⟩

theorem overtaken_post (x : Step) (h : Overtaken id g x.pre) : Overtaken id g x.post := by
  obtain ⟨o, ho, hg⟩ := h
  obtain ⟨o', ho', hle⟩ := generation_post x ho
  exact ⟨o', ho', hg.trans_le hle⟩

theorem overtaken_of_takesOver {x : Step} (h : TakesOver id P g x) : Overtaken id g x.post := by
  obtain ⟨m, t, e, i⟩ := x
  obtain ⟨Q, hne, hclaims, ⟨o, ho, howner, hgen⟩, ⟨o', ho', howner'⟩⟩ := h
  cases e with
  | claimExecution instanceId a =>
    cases hclaims
    refine ⟨o', ho', ?_⟩
    change (exec (Stmt.claimExecution Q id) i m.state).2.op? id = some o' at ho'
    rcases exec_cases (Stmt.claimExecution Q id) i m.state with ⟨_, _, he⟩ | ⟨_, he⟩
    · rw [he] at ho'
      obtain rfl := Option.some.inj (ho.symm.trans ho')
      exact absurd (Option.some.inj (howner'.symm.trans howner)) hne
    · rw [he] at ho'
      rcases op?_updated (w := m.state.tick i.dbNow) ho ho' rfl (fun _ => rfl) with rfl | ⟨_, rfl⟩
      · exact absurd (Option.some.inj (howner'.symm.trans howner)) hne
      · have hother : o.executionOwner ≠ some Q := by
          rw [howner]
          exact fun h => hne (Option.some.inj h).symm
        simp only [DeploymentOperation.claim, if_neg hother, hgen]
        exact Nat.lt_succ_self g
  | _ => cases hclaims

theorem fenced_of_overtaken {x : Step} (h : Overtaken id g x.pre)
    (hf : x.stmt.fencedBy id = some (P, g)) : x.post.state.op? id = x.pre.state.op? id := by
  obtain ⟨o, ho, hg⟩ := h
  rw [ho]
  exact op?_exec_fencedBy hf ho fun hheld => absurd hheld.2 hg.ne'

end Overtaken

/-! ## The memory of the processes -/

/-- The statements of `runWithExecutionLease` that enter and leave an execution. -/
def Stmt.handlesLease {β : Type} : Stmt β → Bool
  | .enterExecution .. | .claimExecution .. | .addExecution .. | .leaveExecution _
  | .releaseExecution .. => true
  | _ => false

/-- The context that a statement has created. -/
def Stmt.adds {β : Type} : Stmt β → Except Err β → Option Id
  | .addExecution .., .ok contextId => some contextId
  | _, _ => none

/-- The entry of `localExecutions` that a statement is about to add. -/
def Stmt.enters {β : Type} : Stmt β → Option (Id × Id)
  | .addExecution instanceId operationId _ => some (instanceId, operationId)
  | _ => none

def Stmt.leaves {β : Type} : Stmt β → Option Id
  | .leaveExecution contextId => some contextId
  | _ => none

/-- A program that enters and leaves executions through `runWithExecutionLease` only. -/
inductive Disciplined : {α : Type} → Async α → Prop where
  | ret {α : Type} (r : Except Err α) : Disciplined (.ret r : Async α)
  | call {α β : Type} (e : Stmt β) (k : Except Err β → Async α) : e.handlesLease = false →
      (∀ r, Disciplined (k r)) → Disciplined (.call e k)
  | lease {α : Type} (instanceId : Id) (x : Option Execution) (operationId : Id)
      (task : Option Execution → Async Unit) (k : Except Err Unit → Async α) :
      (∀ y, Disciplined (task y)) → (∀ r, Disciplined (k r)) →
      Disciplined ((runWithExecutionLease instanceId x operationId task).andThen k)

/-- The requests: any disciplined program, in any number of processes. -/
def LeaseUser (_ : Instant) (p : Async Unit) : Prop := Disciplined p

/-- The check of `runWithExecutionLease` still holds when the context is added. -/
def GuardHolds (x : Step) : Prop :=
  ∀ r, x.stmt.enters = some r → r ∉ x.pre.state.localExecutions

/-- Thread `t` has created the live context `k`. -/
def Owns (t : Nat) (k : Id) (m : Instant) : Prop :=
  (∃ e ∈ m.history, e.thread = t ∧ e.stmt.adds e.result = some k) ∧
    ∃ c, m.state.contexts.find? k = some c ∧ c.live = true

structure LeaseMemory (m : Instant) : Prop where
  unique : m.state.contexts.Unique
  fresh : ∀ k ∈ m.state.contexts.keys, k < m.state.db.nextId
  guarded : ∀ c ∈ m.state.contexts.rows, c.live = true →
    (c.instanceId, c.operationId) ∈ m.state.localExecutions
  single : ∀ c ∈ m.state.contexts.rows, ∀ c' ∈ m.state.contexts.rows, c.live = true →
    c'.live = true → c.instanceId = c'.instanceId → c.operationId = c'.operationId → c.id = c'.id
  added : ∀ e ∈ m.history, ∀ k, e.stmt.adds e.result = some k → k < m.state.db.nextId
  adder : ∀ e ∈ m.history, ∀ e' ∈ m.history, ∀ k, e.stmt.adds e.result = some k →
    e'.stmt.adds e'.result = some k → e.thread = e'.thread

/-- The statements that change the memory of a process. -/
def Stmt.writesMemory {β : Type} : Stmt β → Bool
  | .addExecution .. | .leaveExecution _ | .setCompleted .. | .setLost .. => true
  | _ => false

theorem memory_run_of_reads {β : Type} (e : Stmt β) (i : Input) (w : World)
    (h : e.writesMemory = false) :
    (e.run i w).2.contexts = w.contexts ∧
      (e.run i w).2.localExecutions = w.localExecutions := by
  cases e with
  | readContext | captureRegistryArtifact | authenticate | enterExecution | createAllocation
  | createRoute =>
    simp only [Stmt.run]; split <;> exact ⟨rfl, rfl⟩
  | cancelClaimed | rejectBegin | cancelCiRetry | cancelAgentOperation | cancelDirect
  | clearUnversioned | clearLock | abandonEnvironment | teardownPending | bindEnvironment =>
    simp only [Stmt.run, World.snd_requireRows]; split <;> exact ⟨rfl, rfl⟩
  | completeJob => simp only [Stmt.run]; split <;> split <;> exact ⟨rfl, rfl⟩
  | beginClaim | upsertJob =>
    simp only [Stmt.run]
    split
    · exact ⟨rfl, rfl⟩
    · split <;> exact ⟨rfl, rfl⟩
  | queueRouteJob route targetId allocation name request =>
    simp only [Stmt.run, World.queueRouteJob]
    split
    · exact ⟨rfl, rfl⟩
    · split
      · exact ⟨rfl, rfl⟩
      · split <;> exact ⟨rfl, rfl⟩
  | callDeploy | callStart | callStop | callTeardown | prepareDeployment
  | ensureImageAvailable | readArtifactObject | decryptConfig =>
    simp only [Stmt.run, external]; split <;> exact ⟨rfl, rfl⟩
  | _ => first | exact ⟨rfl, rfl⟩ | cases h

theorem memory_exec_of_reads {β : Type} {e : Stmt β} {i : Input} {w : World}
    (h : e.writesMemory = false) :
    (exec e i w).2.contexts = w.contexts ∧
      (exec e i w).2.localExecutions = w.localExecutions := by
  rcases exec_cases e i w with ⟨_, _, he⟩ | ⟨_, he⟩
  · rw [he]; exact ⟨rfl, rfl⟩
  · rw [he]; exact memory_run_of_reads e i _ h

section Memory

variable {β : Type} {e : Stmt β} {i : Input} {w : World} {m : Instant} {t t' : Nat} {k : Id}

/-- A rewritten context keeps its identity and does not come to life. -/
structure SameContext (c c' : Context) : Prop where
  id : c'.id = c.id
  instanceId : c'.instanceId = c.instanceId
  operationId : c'.operationId = c.operationId
  live : c'.live = true → c.live = true

theorem SameContext.refl (c : Context) : SameContext c c := ⟨rfl, rfl, rfl, fun h => h⟩

theorem leaseMemory_of_update (h : LeaseMemory m) (he : ∀ r, e.adds r = none)
    {p : Context → Bool} {d : Context → Context} (hd : ∀ c, SameContext c (d c))
    (hctx : (m.next t e i).state.contexts = m.state.contexts.updateMany p d)
    (hlocal : ∀ c ∈ m.state.contexts.rows, c.live = true → (p c = true → (d c).live = true) →
      (c.instanceId, c.operationId) ∈ (m.next t e i).state.localExecutions) :
    LeaseMemory (m.next t e i) := by
  have hnext : m.state.db.nextId ≤ (m.next t e i).state.db.nextId := nextId_exec
  have hrow : ∀ c' ∈ (m.next t e i).state.contexts.rows, c'.live = true →
      ∃ c ∈ m.state.contexts.rows, c.live = true ∧ SameContext c c' ∧
        (p c = true → (d c).live = true) := by
    intro c' hc' hlive
    rw [hctx] at hc'
    obtain ⟨c, hc, rfl⟩ := Table.mem_updateMany.mp hc'
    by_cases hp : p c = true
    · rw [if_pos hp] at hlive ⊢
      exact ⟨c, hc, (hd c).live hlive, hd c, fun _ => hlive⟩
    · rw [if_neg hp] at hlive ⊢
      exact ⟨c, hc, hlive, .refl c, fun h => absurd h hp⟩
  have hold : ∀ ev ∈ (m.next t e i).history, ∀ k, ev.stmt.adds ev.result = some k →
      ev ∈ m.history := by
    intro ev hev k hk
    rw [Moment.next_history, List.mem_append] at hev
    rcases hev with hev | hev
    · exact hev
    · obtain rfl := List.mem_singleton.mp hev
      rw [he] at hk
      cases hk
  have hkeys : (m.next t e i).state.contexts.keys = m.state.contexts.keys := by
    rw [hctx, Table.keys_updateMany _ _ fun c => (hd c).id]
  refine ⟨?_, ?_, ?_, ?_, ?_, ?_⟩
  · rw [Table.Unique, hkeys]; exact h.unique
  · intro k hk
    rw [hkeys] at hk
    exact (h.fresh k hk).trans_le hnext
  · intro c' hc' hlive
    obtain ⟨c, hc, hl, hs, hp⟩ := hrow c' hc' hlive
    rw [hs.instanceId, hs.operationId]
    exact hlocal c hc hl hp
  · intro c₁ hc₁ c₂ hc₂ hl₁ hl₂ hi ho
    obtain ⟨b₁, hb₁, hbl₁, hs₁, _⟩ := hrow c₁ hc₁ hl₁
    obtain ⟨b₂, hb₂, hbl₂, hs₂, _⟩ := hrow c₂ hc₂ hl₂
    rw [hs₁.id, hs₂.id]
    rw [hs₁.instanceId, hs₂.instanceId] at hi
    rw [hs₁.operationId, hs₂.operationId] at ho
    exact h.single b₁ hb₁ b₂ hb₂ hbl₁ hbl₂ hi ho
  · intro ev hev k hk
    exact (h.added ev (hold ev hev k hk) k hk).trans_le hnext
  · intro ev hev ev' hev' k hk hk'
    exact h.adder ev (hold ev hev k hk) ev' (hold ev' hev' k hk') k hk hk'

theorem leaseMemory_reads (h : LeaseMemory m) (he : e.writesMemory = false) :
    LeaseMemory (m.next t e i) := by
  obtain ⟨hctx, hlocal⟩ := memory_exec_of_reads (i := i) (w := m.state) he
  refine leaseMemory_of_update h ?_ (p := fun _ => false) (d := fun c => c) .refl ?_ ?_
  · intro r
    cases e with
    | addExecution => cases he
    | _ => rfl
  · rw [Moment.next_state, hctx, Table.updateMany_of_none fun _ _ => rfl]
  · intro c hc hl _
    rw [Moment.next_state, hlocal]
    exact h.guarded c hc hl

theorem leaseMemory_leave (h : LeaseMemory m) {c : Context}
    (hc : m.state.contexts.find? k = some c) (hlive : c.live = true) :
    LeaseMemory (m.next t (.leaveExecution k) i) := by
  have hck : c.id = k := Table.find?_key hc
  have hexec : (exec (Stmt.leaveExecution k) i m.state).2 =
      { (m.state.tick i.dbNow).updateContexts (fun x => x.id == k) fun x =>
          { x with live := false, completed := true } with
        localExecutions := m.state.localExecutions.filter (· != (c.instanceId, c.operationId)) } := by
    rw [exec_of_inProcess rfl]
    have hc' : (m.state.tick i.dbNow).contexts.find? k = some c := hc
    simp only [Stmt.run, hc']
    rfl
  refine leaseMemory_of_update h (fun _ => rfl) (p := fun x => x.id == k)
    (d := fun x => { x with live := false, completed := true })
    (fun _ => ⟨rfl, rfl, rfl, fun h => by cases h⟩) (congrArg World.contexts hexec) ?_
  intro c' hc' hl hp
  rw [Moment.next_state, hexec]
  refine List.mem_filter.mpr ⟨h.guarded c' hc' hl, bne_iff_ne.mpr fun heq => ?_⟩
  obtain ⟨hi, ho⟩ := Prod.mk.inj heq
  have hid : c'.id = k := (h.single c' hc' c (Table.mem_of_find? hc) hl hlive hi ho).trans hck
  have := hp (beq_iff_eq.mpr hid)
  cases this

theorem exec_addExecution (P o : Id) (g : Nat) (i : Input) (w : World) :
    exec (Stmt.addExecution P o g) i w =
      (.ok w.db.nextId,
        { w with
          contexts := w.contexts.insert ⟨w.db.nextId, P, o, g, none, false, true⟩
          localExecutions := (P, o) :: w.localExecutions
          db := { w.db with nextId := w.db.nextId + 1, clock := max w.db.clock i.dbNow } }) := by
  rw [exec_of_inProcess rfl]
  rfl

theorem leaseMemory_add (h : LeaseMemory m) {P o : Id} {g : Nat}
    (hguard : (P, o) ∉ m.state.localExecutions) :
    LeaseMemory (m.next t (.addExecution P o g) i) := by
  have hnew : m.state.db.nextId ∉ m.state.contexts.keys := fun hk => lt_irrefl _ (h.fresh _ hk)
  have hexec := exec_addExecution P o g i m.state
  have hrows : (m.next t (.addExecution P o g) i).state.contexts.rows =
      m.state.contexts.rows ++ [⟨m.state.db.nextId, P, o, g, none, false, true⟩] := by
    rw [Moment.next_state, hexec]; rfl
  have hkeys : (m.next t (.addExecution P o g) i).state.contexts.keys =
      m.state.contexts.keys ++ [m.state.db.nextId] := by
    rw [Moment.next_state, hexec]; exact Table.keys_insert _ _
  have hnext : (m.next t (.addExecution P o g) i).state.db.nextId = m.state.db.nextId + 1 := by
    rw [Moment.next_state, hexec]
  have hlocal : (m.next t (.addExecution P o g) i).state.localExecutions =
      (P, o) :: m.state.localExecutions := by
    rw [Moment.next_state, hexec]
  have hrow : ∀ c ∈ (m.next t (.addExecution P o g) i).state.contexts.rows,
      c ∈ m.state.contexts.rows ∨ c = ⟨m.state.db.nextId, P, o, g, none, false, true⟩ := by
    intro c hc
    rw [hrows, List.mem_append, List.mem_singleton] at hc
    exact hc
  have hevent : ∀ ev ∈ (m.next t (.addExecution P o g) i).history, ∀ k,
      ev.stmt.adds ev.result = some k →
      (ev ∈ m.history ∧ k < m.state.db.nextId) ∨ (ev.thread = t ∧ k = m.state.db.nextId) := by
    intro ev hev k hk
    rw [Moment.next_history, List.mem_append] at hev
    rcases hev with hev | hev
    · exact .inl ⟨hev, h.added ev hev k hk⟩
    · obtain rfl := List.mem_singleton.mp hev
      refine .inr ⟨rfl, ?_⟩
      have hk' : (Stmt.addExecution P o g).adds (exec (Stmt.addExecution P o g) i m.state).1 =
        some k := hk
      rw [hexec] at hk'
      exact (Option.some.inj hk').symm
  -- an old live context of the same process and operation would be in `localExecutions`
  have hother : ∀ c ∈ m.state.contexts.rows, c.live = true → c.instanceId = P →
      c.operationId = o → False := by
    intro c hc hl hi ho
    exact hguard (by rw [← hi, ← ho]; exact h.guarded c hc hl)
  refine ⟨?_, ?_, ?_, ?_, ?_, ?_⟩
  · rw [Table.Unique, hkeys]
    refine List.nodup_append.mpr ⟨h.unique, List.nodup_singleton _, ?_⟩
    intro a ha b hb
    obtain rfl := List.mem_singleton.mp hb
    exact fun heq => hnew (heq ▸ ha)
  · intro k hk
    rw [hkeys, List.mem_append, List.mem_singleton] at hk
    rw [hnext]
    rcases hk with hk | rfl
    · exact (h.fresh k hk).trans (Nat.lt_succ_self _)
    · exact Nat.lt_succ_self _
  · intro c hc hl
    rw [hlocal]
    rcases hrow c hc with hc | rfl
    · exact List.mem_cons_of_mem _ (h.guarded c hc hl)
    · exact List.mem_cons_self
  · intro c hc c' hc' hl hl' hi ho
    rcases hrow c hc with hc | rfl <;> rcases hrow c' hc' with hc' | rfl
    · exact h.single c hc c' hc' hl hl' hi ho
    · exact (hother c hc hl hi ho).elim
    · exact (hother c' hc' hl' hi.symm ho.symm).elim
    · rfl
  · intro ev hev k hk
    rw [hnext]
    rcases hevent ev hev k hk with ⟨_, hlt⟩ | ⟨_, rfl⟩
    · exact hlt.trans (Nat.lt_succ_self _)
    · exact Nat.lt_succ_self _
  · intro ev hev ev' hev' k hk hk'
    rcases hevent ev hev k hk with ⟨hev, hlt⟩ | ⟨ht, heq⟩ <;>
      rcases hevent ev' hev' k hk' with ⟨hev', hlt'⟩ | ⟨ht', heq'⟩
    · exact h.adder ev hev ev' hev' k hk hk'
    · exact absurd heq' hlt.ne
    · exact absurd heq hlt'.ne
    · rw [ht, ht']

theorem leaseMemory_post (x : Step) (h : LeaseMemory x.pre) (hok : GuardHolds x)
    (hg : ∀ k, x.stmt.leaves = some k → Owns x.thread k x.pre) : LeaseMemory x.post := by
  obtain ⟨m, t, e, i⟩ := x
  cases hw : e.writesMemory with
  | false => exact leaseMemory_reads h hw
  | true =>
    cases e with
    | addExecution P o g => exact leaseMemory_add h (hok (P, o) rfl)
    | leaveExecution k =>
      obtain ⟨_, c, hc, hl⟩ := hg k rfl
      exact leaseMemory_leave h hc hl
    | setCompleted k completed =>
      have hexec := exec_of_inProcess (e := Stmt.setCompleted k completed) rfl i m.state
      refine leaseMemory_of_update h (fun _ => rfl) (p := fun x => x.id == k)
        (d := fun x => { x with completed := completed }) (fun _ => ⟨rfl, rfl, rfl, fun h => h⟩)
        ?_ fun c hc hl _ => ?_
      · rw [Moment.next_state, hexec]; rfl
      · rw [Moment.next_state, hexec]; exact h.guarded c hc hl
    | setLost k lost =>
      have hexec := exec_of_inProcess (e := Stmt.setLost k lost) rfl i m.state
      refine leaseMemory_of_update h (fun _ => rfl) (p := fun x => x.id == k)
        (d := fun x => { x with lost := some lost }) (fun _ => ⟨rfl, rfl, rfl, fun h => h⟩)
        ?_ fun c hc hl _ => ?_
      · rw [Moment.next_state, hexec]; rfl
      · rw [Moment.next_state, hexec]; exact h.guarded c hc hl
    | _ => cases hw

theorem owns_post (x : Step) (hk : Owns t k x.pre) (hl : x.stmt.leaves ≠ some k) :
    Owns t k x.post := by
  obtain ⟨⟨ev, hev, hevt, hadds⟩, c, hc, hlive⟩ := hk
  refine ⟨⟨ev, List.mem_append_left _ hev, hevt, hadds⟩, ?_⟩
  obtain ⟨m, t', e, i⟩ := x
  change ∃ c, (exec e i m.state).2.contexts.find? k = some c ∧ c.live = true
  have hck : c.id = k := Table.find?_key hc
  cases hw : e.writesMemory with
  | false => exact ⟨c, by rw [(memory_exec_of_reads hw).1]; exact hc, hlive⟩
  | true =>
    cases e with
    | addExecution P o g =>
      rw [exec_addExecution]
      exact ⟨c, Table.find?_insert_of_some hc, hlive⟩
    | setCompleted k' | setLost k' =>
      rw [exec_of_inProcess rfl]
      refine ⟨_, (Table.find?_updateMany _ _ ?_ k).trans (congrArg (Option.map _) hc), ?_⟩
      · intro r; rfl
      · dsimp only
        split
        · exact hlive
        · exact hlive
    | leaveExecution k' =>
      rw [exec_of_inProcess rfl]
      have hne : k' ≠ k := fun heq => hl (congrArg some heq)
      simp only [Stmt.run]
      split
      · exact ⟨c, hc, hlive⟩
      · refine ⟨_, (Table.find?_updateMany _ _ ?_ k).trans (congrArg (Option.map _) hc), ?_⟩
        · intro r; rfl
        · dsimp only
          rw [if_neg (by simp [hck, hne.symm])]
          exact hlive
    | _ => cases hw

end Memory

/-! ## The contract -/

def leaseContract : Contract Stmt Input World Err where
  ok := GuardHolds
  inv := LeaseMemory
  rely t m m' := ∀ k, Owns t k m → Owns t k m'
  guar x := ∀ k, x.stmt.leaves = some k → Owns x.thread k x.pre
  rely_refl _ _ _ h := h
  rely_trans _ _ _ _ h₁ h₂ k h := h₂ k (h₁ k h)
  inv_post := leaseMemory_post
  rely_of_guar x t hinv _ hg ht k hk := by
    by_cases hl : x.stmt.leaves = some k
    · -- both threads would have created the context
      obtain ⟨⟨e, he, het, hadds⟩, _⟩ := hg k hl
      obtain ⟨⟨e', he', het', hadds'⟩, _⟩ := hk
      have hthreads := hinv.adder e he e' he' k hadds hadds'
      exact absurd (by rw [← het, hthreads, het']) ht
    · exact owns_post x hk hl

section Safe

variable {t : Nat} {m : Instant} {ks : List Id} {α β : Type}

def OwnsAll (t : Nat) (ks : List Id) (m : Instant) : Prop := ∀ k ∈ ks, Owns t k m

theorem OwnsAll.of_rely {m' : Instant} (h : OwnsAll t ks m) (hr : leaseContract.rely t m m') :
    OwnsAll t ks m' := fun k hk => hr k (h k hk)

theorem safe_inside {p : Async α} (hp : p.Only fun e => e.leaves = none) (h : OwnsAll t ks m) :
    Safe leaseContract t (fun _ => OwnsAll t ks) p m := by
  refine Safe.of_only (fun _ _ h hr => h.of_rely hr) ?_ hp h
  intro γ e i m he _ _ h
  refine ⟨fun k hk => ?_, fun k hk => ?_⟩
  · rw [he] at hk; cases hk
  · exact owns_post ⟨m, t, e, i⟩ (h k hk) (by rw [he]; nofun)

theorem leaves_of_prepares {e : Stmt β} {o : Id} (h : e.prepares o = true) : e.leaves = none := by
  cases e with
  | leaveExecution => cases h
  | _ => rfl

theorem leaves_of_handlesLease {e : Stmt β} (h : e.handlesLease = false) : e.leaves = none := by
  cases e with
  | leaveExecution => cases h
  | _ => rfl

theorem ownsAll_add {P o : Id} {g : Nat} {i : Input} (hi : LeaseMemory m) (h : OwnsAll t ks m) :
    OwnsAll t (m.state.db.nextId :: ks) (m.next t (.addExecution P o g) i) := by
  intro k hk
  rcases List.mem_cons.mp hk with rfl | hk
  · have hexec := exec_addExecution P o g i m.state
    have hnew : m.state.contexts.find? m.state.db.nextId = none := by
      rw [← Option.not_isSome_iff_eq_none, Table.find?_isSome_iff]
      exact fun hk => lt_irrefl _ (hi.fresh _ hk)
    refine ⟨⟨_, List.mem_append_right _ List.mem_cons_self, rfl, ?_⟩,
      ⟨m.state.db.nextId, P, o, g, none, false, true⟩, ?_, rfl⟩
    · change (Stmt.addExecution P o g).adds (exec (Stmt.addExecution P o g) i m.state).1 = _
      rw [hexec]; rfl
    · rw [Moment.next_state, hexec]
      exact Table.find?_insert_self (r := (⟨m.state.db.nextId, P, o, g, none, false, true⟩ : Context))
        hnew
  · exact owns_post ⟨m, t, .addExecution P o g, i⟩ (h k hk) nofun

theorem safe_leaveExecution {x : Execution} (hx : x.contextId ∉ ks)
    (h : OwnsAll t (x.contextId :: ks) m) :
    Safe leaseContract t (fun _ => OwnsAll t ks) (leaveExecution x) m := by
  refine Safe.await_bind fun m₁ i hr _ _ => ?_
  have h₁ := h.of_rely hr
  refine ⟨fun k hk => ?_, ?_⟩
  · cases hk
    exact h₁ _ List.mem_cons_self
  · have h₂ : OwnsAll t ks (m₁.next t (.leaveExecution x.contextId) i) := by
      intro k hk
      refine owns_post ⟨m₁, t, .leaveExecution x.contextId, i⟩
        (h₁ k (List.mem_cons_of_mem _ hk)) fun heq => hx ?_
      rw [Option.some.inj heq]
      exact hk
    refine Safe.onValue (fun release _ => ?_) fun _ _ => Safe.ret fun _ hr _ => h₂.of_rely hr
    split
    · exact safe_inside (.ignoreError (.await rfl)) h₂
    · exact safe_inside (.ret _) h₂

theorem safe_runWithExecutionLease {instanceId operationId : Id} {x : Option Execution}
    {task : Option Execution → Async Unit} (hi : LeaseMemory m) (h : OwnsAll t ks m)
    (htask : ∀ y ks m, LeaseMemory m → OwnsAll t ks m →
      Safe leaseContract t (fun _ => OwnsAll t ks) (task y) m) :
    Safe leaseContract t (fun _ => OwnsAll t ks)
      (runWithExecutionLease instanceId x operationId task) m := by
  have herr : ∀ {α : Type} {ks : List Id} (e : Err) m, OwnsAll t ks m →
      Safe leaseContract t (fun _ => OwnsAll t ks) (.ret (.error e) : Async α) m :=
    fun e m h => safe_inside (.ret _) h
  unfold runWithExecutionLease
  split
  · exact Safe.bind hi (safe_inside (Only.mono (fun _ he => leaves_of_prepares he)
      prepares_assertExecution) h) (fun _ m' hi' h' => htask x ks m' hi' h')
      fun e m' _ h' => herr e m' h'
  · refine Safe.bind hi (safe_inside (.await rfl) h) (fun _ m₁ hi₁ h₁ => ?_)
      fun e m' _ h' => herr e m' h'
    refine Safe.bind hi₁ (safe_inside (.await rfl) h₁) (fun claim m₂ hi₂ h₂ => ?_)
      fun e m' _ h' => herr e m' h'
    split
    · exact herr _ _ h₂
    · rename_i generation
      refine Safe.await_bind fun m₃ i hr hi₃ hok => ⟨nofun, ?_⟩
      have h₃ := h₂.of_rely hr
      have hi₄ := leaseContract.inv_post ⟨m₃, t, _, i⟩ hi₃ hok nofun
      rw [exec_addExecution]
      have hnew : m₃.state.db.nextId ∉ ks := fun hk => by
        obtain ⟨⟨e, he, _, hadds⟩, _⟩ := h₃ _ hk
        exact lt_irrefl _ (hi₃.added e he _ hadds)
      have h₄ := ownsAll_add (P := instanceId) (o := operationId) (g := generation) (i := i) hi₃ h₃
      refine Safe.andThen hi₄ (Q := fun _ => OwnsAll t (m₃.state.db.nextId :: ks)) ?_
        fun r m₅ hi₅ h₅ => ?_
      · exact Safe.bind hi₄ (htask _ _ _ hi₄ h₄) (fun _ m₅ _ h₅ => safe_inside (Only.mono
          (fun _ he => leaves_of_prepares he) (prepares_throwIfLost (o := operationId))) h₅) fun e m₅ _ h₅ => herr e m₅ h₅
      · refine Safe.andThen hi₅ (safe_leaveExecution hnew h₅) fun r' m₆ _ h₆ => ?_
        cases r' with
        | ok => exact safe_inside (.ret _) h₆
        | error => exact safe_inside (.ret _) h₆

theorem safe_disciplined {p : Async α} (hp : Disciplined p) (hi : LeaseMemory m)
    (h : OwnsAll t ks m) : Safe leaseContract t (fun _ => OwnsAll t ks) p m := by
  induction hp generalizing m ks with
  | ret r => exact safe_inside (.ret r) h
  | call e k he _ ih =>
    refine fun m₁ i hr hi₁ hok => ?_
    have hl := leaves_of_handlesLease he
    have hg : leaseContract.guar ⟨m₁, t, e, i⟩ := fun k hk => by
      have hk' : e.leaves = some k := hk
      rw [hl] at hk'
      cases hk'
    refine ⟨hg, ih _ (leaseContract.inv_post ⟨m₁, t, e, i⟩ hi₁ hok hg) fun k hk => ?_⟩
    exact owns_post ⟨m₁, t, e, i⟩ (h.of_rely hr k hk) (by rw [hl]; nofun)
  | lease instanceId x operationId task k _ _ ihtask ih =>
    refine Safe.andThen hi (safe_runWithExecutionLease hi h fun y ks m hi h => ihtask y hi h)
      fun r m' hi' h' => ih r hi' h'

end Safe

/-! ## Runs -/

/-- The processes have just started: nothing is executing in them. -/
def World.Idle (w : World) : Prop := w.contexts.rows = [] ∧ w.localExecutions = []

theorem leaseMemory_start {w : World} (h : w.Idle) : LeaseMemory ⟨w, []⟩ := by
  have hrows : ∀ c, c ∉ w.contexts.rows := by rw [h.1]; exact fun c => List.not_mem_nil
  have hkeys : w.contexts.keys = [] := by rw [Table.keys, h.1]; rfl
  refine ⟨?_, ?_, ?_, ?_, ?_, ?_⟩
  · rw [Table.Unique, hkeys]; exact List.nodup_nil
  · intro k hk
    rw [hkeys] at hk
    cases hk
  · exact fun c hc => absurd hc (hrows c)
  · exact fun c hc => absurd hc (hrows c)
  · exact fun e he => absurd he List.not_mem_nil
  · exact fun e he => absurd he List.not_mem_nil

/-- The generation has reached `g`. -/
def Reached (id : Id) (g : Nat) (m : Instant) : Prop :=
  ∃ o, m.state.op? id = some o ∧ g ≤ o.executionGeneration

theorem reached_post {id : Id} {g : Nat} (x : Step) (h : Reached id g x.pre) :
    Reached id g x.post := by
  obtain ⟨o, ho, hg⟩ := h
  obtain ⟨o', ho', hle⟩ := generation_post x ho
  exact ⟨o', ho', hg.trans hle⟩

theorem context_unique {m : Instant} (h : LeaseMemory m) {k k' : Context}
    (hk : k ∈ m.state.contexts.rows) (hk' : k' ∈ m.state.contexts.rows) (hl : k.live = true)
    (hl' : k'.live = true) (hi : k.instanceId = k'.instanceId)
    (ho : k.operationId = k'.operationId) : k = k' := by
  have hid : k.id = k'.id := h.single k hk k' hk' hl hl' hi ho
  have hfind : m.state.contexts.find? k.id = some k := h.unique.find?_of_mem hk
  have hfind' : m.state.contexts.find? k'.id = some k' := h.unique.find?_of_mem hk'
  rw [← hid, hfind] at hfind'
  exact Option.some.inj hfind'

/-- Execution fencing over every run: the generation of an operation never decreases; once it has
been taken over from the lease of `P` with generation `g`, no statement fenced by that pair changes
it; and while the process guard holds whenever a context is added, no two live contexts hold the
same lease. -/
theorem execution_fencing {w : World} {c : System} {tr : List Step} (hw : w.Idle)
    (h : Run LeaseUser (Config.start w) tr c) (id : Id) :
    (∀ tr₁ x tr₂, tr = tr₁ ++ x :: tr₂ → ∀ o, x.pre.state.op? id = some o →
      ∃ o', c.moment.state.op? id = some o' ∧ o.executionGeneration ≤ o'.executionGeneration) ∧
    (∀ tr₁ x tr₂ P g, tr = tr₁ ++ x :: tr₂ → TakesOver id P g x →
      ∀ y ∈ tr₂, y.stmt.fencedBy id = some (P, g) →
        y.post.state.op? id = y.pre.state.op? id) ∧
    ((∀ x ∈ tr, GuardHolds x) → ∀ k ∈ c.moment.state.contexts.rows,
      ∀ k' ∈ c.moment.state.contexts.rows, k.live = true → k'.live = true →
      k.operationId = id → k'.operationId = id → k.instanceId = k'.instanceId →
      k.generation = k'.generation → k = k') := by
  refine ⟨?_, ?_, ?_⟩
  · rintro tr₁ x tr₂ rfl o ho
    obtain ⟨c₁, _, h₂⟩ := h.split rfl
    have hpre := h₂.uncons.1
    exact h₂.preserves (Reached id o.executionGeneration) (fun _ => True)
      (fun y _ hy => reached_post y hy) (fun _ _ => trivial) ⟨o, by rw [← hpre]; exact ho, le_rfl⟩
  · rintro tr₁ x tr₂ P g rfl hx y hy hf
    obtain ⟨c₁, _, h₂⟩ := h.split rfl
    obtain ⟨_, c₂, hc₂, h₃⟩ := h₂.uncons
    have hover := h₃.preserves_pre (Overtaken id g) (fun _ => True)
      (fun z _ hz => overtaken_post z hz) (fun _ _ => trivial)
      (by rw [hc₂]; exact overtaken_of_takesOver hx)
    exact fenced_of_overtaken (hover y hy) hf
  · intro hguard k hk k' hk' hl hl' ho ho' hi _
    have hsafe : ∀ m p t, leaseContract.inv m → (∀ e ∈ m.history, e.thread ≠ t) →
        LeaseUser m p → Safe leaseContract t (fun _ m => OwnsAll t [] m) p m :=
      fun _ _ _ hi _ hp => safe_disciplined hp hi fun _ hk => absurd hk List.not_mem_nil
    have hmemory : LeaseMemory c.moment :=
      (h.safe leaseContract hsafe (Run.sound_start _ w (leaseMemory_start hw)) hguard).1.1
    exact context_unique hmemory hk hk' hl hl' hi (ho.trans ho'.symm)

/-! ## The requests of the code -/

section Requests

variable {α : Type}

theorem disciplined_of_only {p : Async α} (hp : p.Only fun e => e.handlesLease = false) :
    Disciplined p := by
  induction p with
  | ret r => exact .ret r
  | call e k ih => exact .call e k hp.1 fun r => ih r (hp.2 r)

theorem Disciplined.andThen {β : Type} {p : Async α} {f : Except Err α → Async β}
    (hp : Disciplined p) (hf : ∀ r, Disciplined (f r)) : Disciplined (p.andThen f) := by
  induction hp with
  | ret r => exact hf r
  | call e k he _ ih => exact .call e _ he fun r => ih r hf
  | lease instanceId x operationId task k htask _ _ ih =>
    rw [andThen_assoc]
    exact .lease instanceId x operationId task _ htask fun r => ih r hf

theorem handlesLease_of_worksOn {β : Type} {o : Id} {e : Stmt β} (h : e.worksOn o = true) :
    e.handlesLease = false := by
  cases e with
  | enterExecution | claimExecution | addExecution | leaveExecution | releaseExecution => cases h
  | _ => rfl

theorem disciplined_worksOn {o : Id} {p : Async α} (hp : WorksOn o p) : Disciplined p :=
  disciplined_of_only (Only.mono (fun _ he => handlesLease_of_worksOn he) hp)

theorem disciplined_runWithExecutionLease {instanceId o : Id} {x : Option Execution}
    {task : Option Execution → Async Unit} (htask : ∀ y, WorksOn o (task y)) :
    Disciplined (runWithExecutionLease instanceId x o task) := by
  have hret : runWithExecutionLease instanceId x o task =
      (runWithExecutionLease instanceId x o task).andThen .ret := (andThen_ret_right _).symm
  rw [hret]
  exact .lease instanceId x o task _ (fun y => disciplined_worksOn (htask y)) .ret

theorem disciplined_begin {projectId : Id} {envName : EnvName} {kind : OperationKind}
    {version : Option String} {artifact : Option Id} {expected : Option ExpectedProductionState} :
    Disciplined (begin projectId envName kind version artifact expected) := by
  refine disciplined_of_only (.bind (.await rfl) fun found => ?_)
  split
  · exact .ret _
  · dsimp only
    split
    · exact .ret _
    · refine .bind (.await rfl) fun (operation, claimed) => ?_
      dsimp only
      split
      · refine .bind ?_ fun _ => .bind (.tryCatch (.await rfl) fun _ => .bind (.await rfl)
          fun _ => .ret _) fun _ => .ret _
        cases expected with
        | none => exact .ret _
        | some expected =>
          refine .bind (.await rfl) fun same => ?_
          split
          · exact .ret _
          · exact .bind (.await rfl) fun _ => .ret _
      · exact .bind (.await rfl) fun _ => .ret _

theorem pervasive_disciplined : Pervasive Disciplined where
  compositional := ⟨.ret, .andThen⟩
  ordinary e he := disciplined_of_only (.await (by
    cases e with
    | enterExecution | claimExecution | addExecution | leaveExecution | releaseExecution => cases he
    | _ => rfl))
  begin := disciplined_begin
  lease := disciplined_runWithExecutionLease

end Requests

/-! The same process is asked twice to deploy operation `1`. Both calls find `localExecutions`
empty, both claim the lease, and a claim by its owner does not count the generation up. -/

def deployTwice : List (Async Unit) :=
  [deployEnvInBackground (sampleApi 0) 0 .dev "v2" false 1,
    deployEnvInBackground (sampleApi 0) 0 .dev "v2" false 1]

def claimedWorld : World :=
  sampleWorld { sampleEnvironment with activeOperationId := some 1 } [sampleOperation .ciDeploy]

theorem leaseUser_of_mem_deployTwice :
    ∀ p ∈ deployTwice, LeaseUser (Config.start claimedWorld).moment p := by
  intro p hp
  simp only [deployTwice, List.mem_cons, List.not_mem_nil, or_false] at hp
  rcases hp with rfl | rfl
  · exact pervasive_disciplined.deployEnvInBackground
  · exact pervasive_disciplined.deployEnvInBackground

theorem execution_lease_shared :
    ∃ (w : World) (c : System) (tr : List Step) (k k' : Context), w.Idle ∧
      Run LeaseUser (Config.start w) tr c ∧ k ∈ c.moment.state.contexts.rows ∧
      k' ∈ c.moment.state.contexts.rows ∧ k.live = true ∧ k'.live = true ∧
      k.operationId = k'.operationId ∧ k.instanceId = k'.instanceId ∧
      k.generation = k'.generation ∧ k ≠ k' := by
  let k : Context := ⟨10, 0, 1, 1, none, false, true⟩
  let k' : Context := ⟨11, 0, 1, 1, none, false, true⟩
  let check := fun (_ : List Step) (c : System) => c.moment.state.contexts.rows == [k, k']
  obtain ⟨tr, c, hrun, hcheck⟩ := run_of_plays (Config.start claimedWorld) deployTwice
    (turns 0 2 ++ turns 1 1 ++ turns 1 1 ++ turns 0 1 ++ turns 1 1) check
    leaseUser_of_mem_deployTwice (by decide)
  have hrows : c.moment.state.contexts.rows = [k, k'] := beq_iff_eq.mp hcheck
  refine ⟨claimedWorld, c, tr, k, k', ⟨rfl, rfl⟩, hrun, ?_, ?_, rfl, rfl, rfl, rfl, rfl, by decide⟩
  · rw [hrows]; exact List.mem_cons_self
  · rw [hrows]; exact List.mem_cons_of_mem _ List.mem_cons_self

theorem execution_fencing_second_call :
    ∃ (c : System) (tr : List Step), Run LeaseUser (Config.start claimedWorld) tr c ∧
      tr.length = 12 ∧ ∀ k ∈ c.moment.state.contexts.rows, ∀ k' ∈ c.moment.state.contexts.rows,
        k.live = true → k'.live = true → k.operationId = 1 → k'.operationId = 1 →
        k.instanceId = k'.instanceId → k.generation = k'.generation → k = k' := by
  let check := fun (tr : List Step) (_ : System) => tr.length == 12 &&
    tr.all fun x => x.stmt.enters.all fun r => !x.pre.state.localExecutions.contains r
  obtain ⟨tr, c, hrun, hcheck⟩ := run_of_plays (Config.start claimedWorld) deployTwice
    (turns 0 3 ++ turns 1 1 ++ turns 0 8) check leaseUser_of_mem_deployTwice (by decide)
  simp only [check, Bool.and_eq_true, beq_iff_eq, List.all_eq_true] at hcheck
  refine ⟨c, tr, hrun, hcheck.1, (execution_fencing ⟨rfl, rfl⟩ hrun 1).2.2 ?_⟩
  intro x hx r hr
  have hnot := hcheck.2 x hx
  rw [hr] at hnot
  simpa using hnot

end InitPad
