import InitPad.Runs.Requests
import InitPad.Deployment.Tasks
import InitPad.Deployment.OperationSteps

/-!
# InitPad.Runs.CancellationWins

A user cancels an operation while its executor deploys it. `remove` only marks the operation as
cancelled; the executor polls that mark once, after the provider has answered. A cancellation that
comes before the poll, of a deployment that does not fail, is final (`accepted_cancellation_wins`).
A later one is accepted as well, but the executor publishes the deployment and completes the
operation over it.
-/

namespace InitPad

open Store Interleave Prog

def Stmt.publishes {β : Type} : Stmt β → Option Id
  | .publishDeployment _ _ o _ _ _ _ => some o
  | _ => none

def Stmt.pollsClear {β : Type} : Stmt β → Except Err β → Option Id
  | .readCancelled o, .ok false => some o
  | _, _ => none

/-- The operation whose deployment the `catch` block of its executor marks as failed. -/
def Stmt.failsDeployment {β : Type} : Stmt β → Option Id
  | .failBackground _ _ o _ => some o
  | _ => none

/-- The operation is cancelled and not finished: its executor has yet to notice. -/
def CancelPending (A : Id) (w : World) : Prop :=
  ∃ o, w.op? A = some o ∧ o.status = .cancelled ∧ o.finishedAt = none

/-- A removal marks the unfinished operation as cancelled. -/
def AcceptsCancel (A : Id) (x : Step) : Prop :=
  x.stmt.cancelsDirect = some A ∧
    (∃ o, x.pre.state.op? A = some o ∧ o.finishedAt = none) ∧
    ∃ o, x.post.state.op? A = some o ∧ o.status = .cancelled

def Polled (A : Id) (m : Instant) : Prop := ∃ e ∈ m.history, e.stmt.pollsClear e.result = some A

def Failed (A : Id) (m : Instant) : Prop := ∃ e ∈ m.history, e.stmt.failsDeployment = some A

/-- The executor has made up its mind: it has polled, or its `catch` block has begun. -/
def Committed (A : Id) (m : Instant) : Prop := Polled A m ∨ Failed A m

/-- A cancellation is accepted only before the executor commits, and the `catch` block marks the
deployment as failed only while no cancellation is pending. -/
structure CancelsInTime (A : Id) (x : Step) : Prop where
  cancel : AcceptsCancel A x → ¬ Committed A x.pre
  fail : x.stmt.failsDeployment = some A → ¬ CancelPending A x.pre.state

/-- Executors with their timers and callbacks, removals, and the recovery sweep. -/
inductive Contender : Instant → Async Unit → Prop where
  | deploy {m} (api : Api) (projectId : Id) (envName : EnvName) (version : String)
      (useRegistry : Bool) (operationId : Id) :
      Contender m (deployEnvInBackground api projectId envName version useRegistry operationId)
  | renewalTick {m} (x : Execution) : x.running m → Contender m (renewalTick x)
  | reportProgress {m} (x : Execution) (projectId : Id) (envName : EnvName) (message : String)
      (p : Async Unit) : x.running m →
      p ∈ reportProgress (some x) x.operationId projectId envName message → Contender m p
  | remove {m} (api : Api) (projectId : Id) (envName : EnvName) :
      Contender m (remove api projectId envName)
  | recoverInterrupted {m} : Contender m recoverInterrupted

section Step

variable {β : Type} {e : Stmt β} {i : Input} {w : World} {m : Instant} {t : Nat} {A : Id}
  {o o' : DeploymentOperation}

theorem cancelPending_post (x : Step) (hA : (x.pre.state.op? A).isSome)
    (h : CancelPending A x.post.state) : CancelPending A x.pre.state ∨ AcceptsCancel A x := by
  obtain ⟨o', ho', hs', hf'⟩ := h
  obtain ⟨o, ho⟩ := Option.isSome_iff_exists.mp hA
  have hdone : o'.finishedAt.isSome → False := by rw [hf']; simp
  cases outcomeStep_exec (e := x.stmt) (i := x.input) ho ho' with
  | kept hs hf => exact .inl ⟨o, ho, hs ▸ hs', hf ▸ hf'⟩
  | cancelledDirect hc _ hf => exact .inr ⟨hc, ⟨o, ho, hf ▸ hf'⟩, ⟨o', ho', hs'⟩⟩
  | cancelled _ hf => exact (hdone hf).elim
  | concluded _ _ hf => exact (hdone hf).elim
  | ended _ _ hf => exact (hdone hf).elim

theorem cancelled_post (x : Step) (ho : x.pre.state.op? A = some o) (hs : o.status = .cancelled)
    (hc : x.stmt.concludes = some A → ¬ CancelPending A x.pre.state) :
    ∃ o', x.post.state.op? A = some o' ∧ o'.status = .cancelled := by
  have hsome : (x.post.state.op? A).isSome := op?_isSome_exec (by rw [ho]; rfl)
  obtain ⟨o', ho'⟩ := Option.isSome_iff_exists.mp hsome
  refine ⟨o', ho', ?_⟩
  cases outcomeStep_exec (e := x.stmt) (i := x.input) ho ho' with
  | kept hs' _ => exact hs'.trans hs
  | cancelled hs' _ => exact hs'
  | cancelledDirect _ hs' _ => exact hs'
  | concluded he hf _ => exact absurd ⟨o, ho, hs, hf⟩ (hc he)
  | ended hs' _ _ => exact absurd hs hs'

theorem not_cancelled_of_pollsClear (h : e.pollsClear (exec e i w).1 = some A) :
    ∀ o, w.op? A = some o → o.status ≠ .cancelled := by
  intro o ho hs
  cases e with
  | readCancelled a =>
    rcases exec_cases (Stmt.readCancelled a) i w with ⟨_, _, he⟩ | ⟨_, he⟩
    · rw [he] at h; cases h
    · rw [he] at h
      simp only [Stmt.run, World.op?_tick] at h
      cases hb : (w.op? a).all fun o => o.status == .cancelled with
      | true => rw [hb] at h; cases h
      | false =>
        rw [hb] at h
        obtain rfl : a = A := Option.some.inj h
        rw [ho, Option.all_some, hs] at hb
        cases hb
  | _ => cases h

theorem polled_next : Polled A (m.next t e i) ↔
    Polled A m ∨ e.pollsClear (exec e i m.state).1 = some A := by
  simp [Polled, or_and_right, exists_or]

theorem failed_next : Failed A (m.next t e i) ↔ Failed A m ∨ e.failsDeployment = some A := by
  simp [Failed, or_and_right, exists_or]

end Step

/-! ## The contract -/

def CommittedClear (A : Id) (m : Instant) : Prop := Committed A m ∧ ¬ CancelPending A m.state

theorem committedClear_post {A : Id} (x : Step) (hA : (x.pre.state.op? A).isSome)
    (hok : CancelsInTime A x) (h : CommittedClear A x.pre) : CommittedClear A x.post := by
  obtain ⟨hc, hp⟩ := h
  refine ⟨hc.imp (fun ⟨e, he, h⟩ => ⟨e, List.mem_append_left _ he, h⟩)
    fun ⟨e, he, h⟩ => ⟨e, List.mem_append_left _ he, h⟩, fun hpost => ?_⟩
  rcases cancelPending_post x hA hpost with h | h
  · exact hp h
  · exact hok.cancel h hc

def cancelContract (A : Id) : Contract Stmt Input World Err where
  ok := CancelsInTime A
  inv m := A < m.state.db.nextId ∧ (m.state.op? A).isSome
  rely _ m m' := (∃ rest, m'.history = m.history ++ rest) ∧
    (CommittedClear A m → CommittedClear A m')
  guar x := (x.stmt.concludes = some A → ¬ CancelPending A x.pre.state) ∧
    (x.stmt.publishes = some A → Polled A x.pre)
  rely_refl t m := ⟨⟨[], by simp⟩, fun h => h⟩
  rely_trans t m₁ m₂ m₃ := by
    rintro ⟨⟨r₁, h₁⟩, hc₁⟩ ⟨⟨r₂, h₂⟩, hc₂⟩
    exact ⟨⟨r₁ ++ r₂, by rw [h₂, h₁, List.append_assoc]⟩, fun h => hc₂ (hc₁ h)⟩
  inv_post x hinv _ _ := ⟨hinv.1.trans_le nextId_exec, op?_isSome_exec hinv.2⟩
  rely_of_guar x t hinv hok _ _ := ⟨⟨_, rfl⟩, committedClear_post x hinv.2 hok⟩

/-- A statement that neither concludes nor publishes `A`. -/
def Spares (A : Id) {β : Type} (e : Stmt β) : Prop := e.concludes ≠ some A ∧ e.publishes ≠ some A

section Spares

variable {A B : Id} {β : Type} {e : Stmt β}

theorem spares_of_prepares (h : e.prepares B = true) : Spares A e := by
  cases e with
  | finishUnowned | finishOwned | publishDeployment => cases h
  | _ => exact ⟨nofun, nofun⟩

theorem spares_of_leases (h : e.leases = true) : Spares A e := by
  cases e with
  | finishUnowned | finishOwned | publishDeployment => cases h
  | _ => exact ⟨nofun, nofun⟩

theorem spares_of_worksOn (hB : B ≠ A) (h : e.worksOn B = true) : Spares A e := by
  rcases Bool.or_eq_true_iff.mp h with h | h
  · exact spares_of_prepares h
  · cases e with
    | finishUnowned | finishOwned =>
      obtain rfl := Option.some.inj (beq_iff_eq.mp h)
      refine ⟨?_, nofun⟩
      simp [Stmt.concludes, hB]
    | publishDeployment =>
      obtain rfl := Option.some.inj (beq_iff_eq.mp h)
      exact ⟨nofun, by simpa [Stmt.publishes] using hB⟩
    | _ => exact ⟨nofun, nofun⟩

theorem spares_of_cancelling (h : (e.prepares B || e.completes B .cancelled) = true) :
    Spares A e := by
  rcases Bool.or_eq_true_iff.mp h with h | h
  · exact spares_of_prepares h
  · cases e with
    | finishUnowned | finishOwned =>
      simp only [Stmt.completes, Bool.and_eq_true, beq_iff_eq] at h
      exact ⟨by simp [Stmt.concludes, h.2], nofun⟩
    | publishDeployment => cases h
    | _ => exact ⟨nofun, nofun⟩

end Spares

section Safe

variable {A : Id} {t : Nat} {m m' : Instant} {α β : Type} {x : Option Execution}

theorem safe_spares {p : Async α} (hp : p.Only (Spares A)) :
    Safe (cancelContract A) t (fun _ _ => True) p m := by
  refine Safe.of_only (A := fun _ => True) (fun _ _ h _ => h) ?_ hp trivial
  intro γ e i m he _ _ _
  exact ⟨⟨fun h => absurd h he.1, fun h => absurd h he.2⟩, trivial⟩

theorem safe_spares_bind {Q : Except Err β → Instant → Prop} {p : Async α} {f : α → Async β}
    (hi : (cancelContract A).inv m) (hp : p.Only (Spares A)) (hQ : ∀ x m, Q (.error x) m)
    (hf : ∀ a m', (cancelContract A).inv m' → Safe (cancelContract A) t Q (f a) m') :
    Safe (cancelContract A) t Q (p >>= f) m :=
  Safe.bind hi (safe_spares hp) (fun a m' hi' _ => hf a m' hi') fun x _ _ _ =>
    Safe.ret fun m'' _ _ => hQ x m''

theorem safe_complete {status : OperationResult} {message : Option String}
    (h : CommittedClear A m) :
    Safe (cancelContract A) t (fun _ _ => True) (complete x A status message) m := by
  have hstable : ∀ m m', CommittedClear A m → (cancelContract A).rely t m m' →
      CommittedClear A m' := fun _ _ h hr => hr.2 h
  refine Safe.mono (fun _ _ _ _ => trivial) (Safe.of_only hstable ?_ completes_complete h)
  intro γ e i m he hi hok h
  refine ⟨⟨fun _ => h.2, fun hp => ?_⟩, committedClear_post ⟨m, t, e, i⟩ hi.2 hok h⟩
  cases e with
  | publishDeployment => cases he
  | _ => cases hp

/-! ## The executor -/

/-- The poll has found the operation not cancelled, and no cancellation is pending since. -/
def Cleared (A : Id) (m : Instant) : Prop := Polled A m ∧ ¬ CancelPending A m.state

theorem Cleared.committedClear (h : Cleared A m) : CommittedClear A m := ⟨.inl h.1, h.2⟩

theorem Cleared.of_rely (h : Cleared A m) (hr : (cancelContract A).rely t m m') :
    Cleared A m' := by
  obtain ⟨e, he, hp⟩ := h.1
  obtain ⟨⟨rest, hh⟩, hc⟩ := hr
  exact ⟨⟨e, by rw [hh]; exact List.mem_append_left _ he, hp⟩, (hc h.committedClear).2⟩

theorem safe_cancelled (hi : (cancelContract A).inv m) :
    Safe (cancelContract A) t (fun r m => r = .ok false → Cleared A m) (cancelled x A) m := by
  refine safe_spares_bind hi (Only.mono (fun _ he => spares_of_prepares he)
    prepares_assertIfOwned) (fun _ _ h => by cases h) fun _ m₁ _ => ?_
  refine Safe.await fun m₂ i _ hi₂ _ => ⟨⟨nofun, nofun⟩, fun m₃ hr₃ _ hr => ?_⟩
  refine Cleared.of_rely ?_ hr₃
  have hpoll : (Stmt.readCancelled A).pollsClear (exec (Stmt.readCancelled A) i m₂.state).1 =
      some A := by rw [hr]; rfl
  refine ⟨polled_next.2 (.inr hpoll), fun hpending => ?_⟩
  rcases cancelPending_post ⟨m₂, t, .readCancelled A, i⟩ hi₂.2 hpending with h | h
  · obtain ⟨o, ho, hs, _⟩ := h
    exact not_cancelled_of_pollsClear hpoll o ho hs
  · cases h.1

theorem safe_publishResult {view : EnvironmentView} {version : String} {image : TestedImage}
    {result : DeployResult} (hi : (cancelContract A).inv m) :
    Safe (cancelContract A) t (fun r m => r = .ok true → CommittedClear A m)
      (publishResult view version image A x result) m := by
  refine Safe.bind hi (safe_cancelled hi) (fun stopped m₁ hi₁ hclear => ?_)
    fun _ _ _ _ => Safe.ret fun _ _ _ h => by cases h
  split
  · -- the poll has noticed the cancellation: clean up
    refine safe_spares_bind hi₁ (.await ⟨nofun, nofun⟩) (fun _ _ h => by cases h) fun _ m₂ hi₂ =>
      safe_spares_bind hi₂ (.await ⟨nofun, nofun⟩) (fun _ _ h => by cases h) fun _ m₃ hi₃ =>
        safe_spares_bind hi₃ (Only.mono (fun _ he => spares_of_cancelling he) completes_complete)
          (fun _ _ h => by cases h) fun _ _ _ => Safe.ret fun _ _ _ h => by cases h
  · rename_i hstopped
    split
    · exact Safe.ret fun _ _ _ h => by cases h
    · have hclear : Cleared A m₁ := hclear (by simpa using hstopped)
      refine Safe.await_bind fun m₂ i hr hi₂ hok => ?_
      have h₂ := hclear.of_rely hr
      refine ⟨⟨nofun, fun _ => h₂.1⟩, ?_⟩
      have h₃ := committedClear_post ⟨m₂, t, _, i⟩ hi₂.2 hok h₂.committedClear
      exact Safe.onValue (fun _ _ => Safe.ret fun m₄ hr₄ _ _ => hr₄.2 h₃)
        fun _ _ => Safe.ret fun _ _ _ h => by cases h

theorem safe_execute {api : Api} {projectId : Id} {envName : EnvName} {version : String}
    {useRegistry : Bool} (hi : (cancelContract A).inv m) :
    Safe (cancelContract A) t (fun r m => r = .ok true → CommittedClear A m)
      (execute api projectId envName version useRegistry A x) m := by
  have hprepare : ∀ {α : Type} {p : Async α}, Prepares A p → p.Only (Spares A) :=
    Only.mono fun _ he => spares_of_prepares he
  refine safe_spares_bind hi (hprepare prepares_advancePhase) (fun _ _ h => by cases h)
    fun _ m₁ hi₁ => ?_
  refine safe_spares_bind hi₁ (hprepare (.await rfl)) (fun _ _ h => by cases h)
    fun _ m₂ hi₂ => ?_
  refine safe_spares_bind hi₂ (hprepare (.await rfl)) (fun _ _ h => by cases h)
    fun view m₃ hi₃ => ?_
  refine safe_spares_bind hi₃ (hprepare (.await rfl)) (fun _ _ h => by cases h)
    fun operation m₄ hi₄ => ?_
  refine safe_spares_bind hi₄ (hprepare prepares_testedImage) (fun _ _ h => by cases h)
    fun image m₅ hi₅ => ?_
  refine safe_spares_bind hi₅ (hprepare prepares_deploymentAllocation) (fun _ _ h => by cases h)
    fun allocation m₆ hi₆ => ?_
  refine safe_spares_bind hi₆ (.await ⟨nofun, nofun⟩) (fun _ _ h => by cases h)
    fun _ m₇ hi₇ => ?_
  refine safe_spares_bind hi₇ (hprepare prepares_advancePhase) (fun _ _ h => by cases h)
    fun _ m₈ hi₈ => ?_
  split
  · unfold handOver
    split
    · split
      · exact safe_spares_bind hi₈ (hprepare prepares_queueDeployment) (fun _ _ h => by cases h)
          fun _ _ _ => Safe.ret fun _ _ _ h => by cases h
      · exact Safe.ret fun _ _ _ h => by cases h
    · exact Safe.ret fun _ _ _ h => by cases h
  · exact safe_spares_bind hi₈ (.await ⟨nofun, nofun⟩) (fun _ _ h => by cases h) fun _ m₉ hi₉ =>
      safe_spares_bind hi₉ (.await ⟨nofun, nofun⟩) (fun _ _ h => by cases h) fun _ _ hi =>
        safe_publishResult hi

theorem safe_deployLeased {api : Api} {projectId : Id} {envName : EnvName} {version : String}
    {useRegistry : Bool} (hi : (cancelContract A).inv m) :
    Safe (cancelContract A) t (fun _ _ => True)
      (deployLeased api projectId envName version useRegistry A x) m := by
  refine Safe.bind hi (safe_execute hi) (fun published m₁ hi₁ hcommitted => ?_)
    fun _ _ _ _ => Safe.ret fun _ _ _ => trivial
  split
  · rename_i h
    exact safe_complete (hcommitted (by rw [h]))
  · exact Safe.ret fun _ _ _ => trivial

theorem safe_failInBackground {projectId : Id} {envName : EnvName} {error : Err}
    (hi : (cancelContract A).inv m) :
    Safe (cancelContract A) t (fun _ _ => True)
      (failInBackground projectId envName A x error) m := by
  refine safe_spares_bind hi (Only.mono (fun _ he => spares_of_prepares he)
    prepares_assertExecution) (fun _ _ => trivial) fun _ m₁ hi₁ => ?_
  refine Safe.await_andThen fun m₂ i hr hi₂ hok => ⟨⟨nofun, nofun⟩, ?_⟩
  refine safe_complete ⟨.inr (failed_next.mpr (.inr rfl)), fun hpending => ?_⟩
  rcases cancelPending_post ⟨m₂, t, _, i⟩ hi₂.2 hpending with h | h
  · exact hok.fail rfl h
  · cases h.1

theorem safe_deployEnvInBackground {api : Api} {projectId : Id} {envName : EnvName}
    {version : String} {useRegistry : Bool} (operationId : Id) (hi : (cancelContract A).inv m) :
    Safe (cancelContract A) t (fun _ _ => True)
      (deployEnvInBackground api projectId envName version useRegistry operationId) m := by
  have htrivial : ∀ {α : Type} (r : Except Err α) m,
      Safe (cancelContract A) t (fun _ _ => True) (.ret r) m :=
    fun _ _ => Safe.ret fun _ _ _ => trivial
  by_cases hA : operationId = A
  · subst hA
    refine Safe.andThen hi (Q := fun _ _ => True) ?_ fun _ m' _ _ => htrivial _ m'
    refine safe_spares_bind hi (.await ⟨nofun, nofun⟩) (fun _ _ => trivial) fun _ m₁ hi₁ =>
      safe_spares_bind hi₁ (.await ⟨nofun, nofun⟩) (fun _ _ => trivial) fun claim m₂ hi₂ => ?_
    split
    · exact htrivial _ _
    · refine safe_spares_bind hi₂ (.await ⟨nofun, nofun⟩) (fun _ _ => trivial)
        fun contextId m₃ hi₃ => ?_
      refine Safe.andThen hi₃ (Q := fun _ _ => True) ?_ fun r m₄ _ _ => safe_spares
        (.andThen (only_leaveExecution fun _ he => spares_of_leases he) fun r' => ?_)
      · refine Safe.bind hi₃ (Q := fun _ _ => True) ?_ (fun _ m₄ _ _ => safe_spares
          (only_throwIfLost fun _ he => spares_of_leases he)) fun _ m₄ _ _ => htrivial _ m₄
        refine Safe.andThen hi₃ (safe_deployLeased hi₃) fun r m₄ hi₄ _ => ?_
        cases r with
        | ok => exact htrivial _ _
        | error => exact safe_failInBackground hi₄
      · cases r' with
        | ok => exact .ret _
        | error => exact .ret _
  · refine safe_spares (.ignoreError (only_runWithExecutionLease
      (fun _ he => spares_of_leases he) fun x => .tryCatch ?_ fun error => ?_))
    · exact Only.mono (fun _ he => spares_of_worksOn hA he) worksOn_deployLeased
    · exact Only.mono (fun _ he => spares_of_worksOn hA he) worksOn_failInBackground

/-! ## Removals -/

theorem beginClaim_id {view : EnvironmentView} {kind : OperationKind} {version : Option String}
    {artifact : Option Id} {expected : Option ExpectedProductionState} {i : Input} {w : World}
    {r : DeploymentOperation × Nat}
    (h : (exec (Stmt.beginClaim view kind version artifact expected) i w).1 = .ok r) :
    r.1.id = w.db.nextId := by
  rcases exec_cases (Stmt.beginClaim view kind version artifact expected) i w with
    ⟨_, _, he⟩ | ⟨_, he⟩
  · rw [he] at h; cases h
  · rw [he] at h
    simp only [Stmt.run] at h
    split at h
    · cases h
    · split at h
      · cases h
      · cases h; rfl

theorem safe_begin {projectId : Id} {envName : EnvName} {kind : OperationKind}
    {version : Option String} {artifact : Option Id} {expected : Option ExpectedProductionState}
    (hi : (cancelContract A).inv m) :
    Safe (cancelContract A) t (fun r _ => ∀ id, r = .ok id → id ≠ A)
      (begin projectId envName kind version artifact expected) m := by
  refine safe_spares_bind hi (.await ⟨nofun, nofun⟩) (fun _ _ => nofun) fun found m₁ hi₁ => ?_
  split
  · exact Safe.ret fun _ _ _ => nofun
  · rename_i view
    dsimp only
    split
    · exact Safe.ret fun _ _ _ => nofun
    · refine Safe.await_bind fun m₂ i _ hi₂ hok => ⟨⟨nofun, nofun⟩, ?_⟩
      have hi₃ := (cancelContract A).inv_post ⟨m₂, t, _, i⟩ hi₂ hok ⟨nofun, nofun⟩
      refine Safe.onValue (fun (operation, claimed) hr => ?_)
        fun _ _ => Safe.ret fun _ _ _ => nofun
      have hid : operation.id = m₂.state.db.nextId := beginClaim_id hr
      have hne : operation.id ≠ A := by rw [hid]; exact hi₂.1.ne'
      split
      · refine safe_spares_bind hi₃ ?_ (fun _ _ => nofun) fun _ m₄ hi₄ =>
          safe_spares_bind hi₄ (.tryCatch (.await ⟨nofun, nofun⟩) fun _ =>
            .bind (.await ⟨nofun, nofun⟩) fun _ => .ret _) (fun _ _ => nofun) fun _ _ _ => ?_
        · cases expected with
          | none => exact .ret _
          | some expected =>
            refine .bind (.await ⟨nofun, nofun⟩) fun same => ?_
            split
            · exact .ret _
            · exact .bind (.await ⟨nofun, nofun⟩) fun _ => .ret _
        · exact Safe.ret fun _ _ _ id h => by cases h; exact hne
      · exact safe_spares_bind hi₃ (.await ⟨nofun, nofun⟩) (fun _ _ => nofun)
          fun _ _ _ => Safe.ret fun _ _ _ => nofun

theorem safe_begin_bind {projectId : Id} {envName : EnvName} {kind : OperationKind}
    {version : Option String} {artifact : Option Id} {expected : Option ExpectedProductionState}
    {f : Id → Async α} (hi : (cancelContract A).inv m) (hf : ∀ o, o ≠ A → (f o).Only (Spares A)) :
    Safe (cancelContract A) t (fun _ _ => True)
      (begin projectId envName kind version artifact expected >>= f) m :=
  Safe.bind hi (safe_begin hi) (fun o _ _ h => safe_spares (hf o (h o rfl))) fun _ _ _ _ =>
    Safe.ret fun _ _ _ => trivial

theorem spares_complete_cancelled {o : Id} {message : Option String} :
    (complete x o .cancelled message).Only (Spares A) :=
  Only.mono (fun _ he => spares_of_cancelling he) completes_complete

theorem spares_worksOn {o : Id} {p : Async α} (ho : o ≠ A) (hp : WorksOn o p) :
    p.Only (Spares A) := Only.mono (fun _ he => spares_of_worksOn ho he) hp

theorem spares_runWithExecutionLease {instanceId o : Id} {task : Option Execution → Async Unit}
    (ho : o ≠ A) (htask : ∀ x, WorksOn o (task (some x))) :
    (runWithExecutionLease instanceId none o task).Only (Spares A) :=
  only_runWithExecutionLease (fun _ he => spares_of_leases he) fun x => spares_worksOn ho (htask x)

theorem safe_abandonOnUnmanagedTarget {projectId : Id} {envName : EnvName}
    (hi : (cancelContract A).inv m) :
    Safe (cancelContract A) t (fun _ _ => True) (abandonOnUnmanagedTarget projectId envName) m := by
  refine safe_spares_bind hi (.await ⟨nofun, nofun⟩) (fun _ _ => trivial) fun found m₁ hi₁ => ?_
  split
  · exact Safe.ret fun _ _ _ => trivial
  · dsimp only
    split
    · exact Safe.ret fun _ _ _ => trivial
    · split
      · exact Safe.ret fun _ _ _ => trivial
      · refine safe_spares_bind hi₁ (.await ⟨nofun, nofun⟩) (fun _ _ => trivial)
          fun now m₂ hi₂ => ?_
        refine safe_spares_bind hi₂ (.await ⟨nofun, nofun⟩) (fun _ _ => trivial)
          fun unfinished m₃ hi₃ => ?_
        refine safe_spares_bind hi₃ (.await ⟨nofun, nofun⟩) (fun _ _ => trivial)
          fun _ m₄ hi₄ => ?_
        refine safe_spares_bind hi₄ (.forEach (fun _ => spares_complete_cancelled) _)
          (fun _ _ => trivial) fun _ m₅ hi₅ => ?_
        refine safe_spares_bind hi₅ (.await ⟨nofun, nofun⟩) (fun _ _ => trivial)
          fun _ m₆ hi₆ => ?_
        exact safe_begin_bind hi₆ fun o ho => .bind (.await ⟨nofun, nofun⟩) fun _ =>
          .bind (spares_worksOn ho worksOn_complete) fun _ => .ret _

theorem safe_cancelActive {api : Api} {projectId : Id} {envName : EnvName}
    {view : EnvironmentView} {activeOperationId : Id} (hi : (cancelContract A).inv m) :
    Safe (cancelContract A) t (fun _ _ => True)
      (cancelActive api projectId envName view activeOperationId) m := by
  refine safe_spares_bind hi (.await ⟨nofun, nofun⟩) (fun _ _ => trivial) fun found m₁ hi₁ => ?_
  split
  · split
    · exact safe_spares (.bind (.await ⟨nofun, nofun⟩) fun _ => spares_complete_cancelled)
    · split
      · refine safe_spares_bind hi₁ (.await ⟨nofun, nofun⟩) (fun _ _ => trivial)
          fun now m₂ hi₂ => ?_
        refine safe_spares_bind hi₂ (.await ⟨nofun, nofun⟩) (fun _ _ => trivial)
          fun _ m₃ hi₃ => ?_
        refine safe_spares_bind hi₃ spares_complete_cancelled (fun _ _ => trivial)
          fun _ m₄ hi₄ => ?_
        dsimp only
        split
        · exact Safe.ret fun _ _ _ => trivial
        · exact safe_begin_bind hi₄ fun o ho => spares_worksOn ho worksOn_queueAgentRemoval
      · exact safe_spares (.await ⟨nofun, nofun⟩)
  · exact safe_spares (.await ⟨nofun, nofun⟩)

theorem safe_removeIdle {api : Api} {projectId : Id} {envName : EnvName} {view : EnvironmentView}
    (hi : (cancelContract A).inv m) :
    Safe (cancelContract A) t (fun _ _ => True) (removeIdle api projectId envName view) m := by
  unfold removeIdle
  dsimp only
  split
  · exact safe_spares (.await ⟨nofun, nofun⟩)
  · refine safe_begin_bind hi fun o ho => ?_
    split
    · exact spares_worksOn ho worksOn_queueAgentRemoval
    · exact spares_runWithExecutionLease ho fun _ => worksOn_removeDirect

theorem safe_remove {api : Api} {projectId : Id} {envName : EnvName}
    (hi : (cancelContract A).inv m) :
    Safe (cancelContract A) t (fun _ _ => True) (remove api projectId envName) m := by
  refine Safe.bind hi (safe_abandonOnUnmanagedTarget hi) (fun abandoned m₁ hi₁ _ => ?_)
    fun _ _ _ _ => Safe.ret fun _ _ _ => trivial
  split
  · exact Safe.ret fun _ _ _ => trivial
  · refine safe_spares_bind hi₁ (Only.mono (fun _ he => spares_of_prepares he)
      (prepares_environmentContext (o := A))) (fun _ _ => trivial) fun view m₂ hi₂ => ?_
    split
    · exact safe_cancelActive hi₂
    · exact safe_removeIdle hi₂

theorem spares_recoverInterrupted : recoverInterrupted.Only (Spares A) := by
  refine .ignoreError (.bind (.await ⟨nofun, nofun⟩) fun now => .bind (.await ⟨nofun, nofun⟩)
    fun interrupted => .forEach (fun (operation, agentJobs) => ?_) _)
  unfold recoverOne
  dsimp only
  split
  · refine .bind (.await ⟨nofun, nofun⟩) fun claimed => ?_
    split
    · exact .bind (.await ⟨nofun, nofun⟩) fun _ => .ignoreError (.await ⟨nofun, nofun⟩)
    · exact .ret _
  · exact .ret _

theorem safe_contender {p : Async Unit} (hi : (cancelContract A).inv m) (hp : Contender m p) :
    Safe (cancelContract A) t (fun _ _ => True) p m := by
  cases hp with
  | deploy api projectId envName version useRegistry operationId =>
    exact safe_deployEnvInBackground operationId hi
  | renewalTick x =>
    exact safe_spares (Only.mono (fun _ he => spares_of_prepares he) prepares_renewalTick)
  | reportProgress x projectId envName message p _ hp =>
    exact safe_spares (Only.mono (fun _ he => spares_of_prepares he) (prepares_reportProgress hp))
  | remove => exact safe_remove hi
  | recoverInterrupted => exact safe_spares spares_recoverInterrupted

end Safe

/-! ## Runs -/

theorem polled_post {A : Id} (x : Step) (h : Polled A x.pre) : Polled A x.post := by
  obtain ⟨e, he, hp⟩ := h
  exact ⟨e, List.mem_append_left _ he, hp⟩

/-- The operation is cancelled and no poll has missed it. -/
def Noticeable (A : Id) (m : Instant) : Prop :=
  (∃ o, m.state.op? A = some o ∧ o.status = .cancelled) ∧ ¬ Polled A m

theorem noticeable_post {A : Id} (x : Step) (hg : (cancelContract A).guar x)
    (h : Noticeable A x.pre) : Noticeable A x.post := by
  obtain ⟨⟨o, ho, hs⟩, hp⟩ := h
  refine ⟨cancelled_post x ho hs hg.1, fun hpost => ?_⟩
  rcases polled_next.1 hpost with h | h
  · exact hp h
  · exact not_cancelled_of_pollsClear h o ho hs

theorem noticeable_of_accepts {A : Id} {x : Step} (hok : CancelsInTime A x)
    (h : AcceptsCancel A x) : Noticeable A x.post ∧ x.stmt.publishes ≠ some A := by
  have hp : ¬ Polled A x.pre := fun hp => hok.cancel h (.inl hp)
  obtain ⟨m, t, e, i⟩ := x
  obtain ⟨he, _, hpost⟩ := h
  cases e with
  | cancelDirect =>
    refine ⟨⟨hpost, fun hpolled => ?_⟩, nofun⟩
    rcases polled_next.1 hpolled with h | h
    · exact hp h
    · cases h
  | _ => cases he

/-- Over every run in which cancellations of `A` come in time: once one is accepted, the operation
stays cancelled, and its deployment is never published, neither before nor after. -/
theorem accepted_cancellation_wins {A : Id} {w : World} {c : System} {tr : List Step}
    (hA : (w.op? A).isSome) (hid : A < w.db.nextId)
    (h : Run Contender (Config.start w) tr c) (hok : ∀ x ∈ tr, CancelsInTime A x)
    (hcancel : ∃ x ∈ tr, AcceptsCancel A x) :
    (∃ o, c.moment.state.op? A = some o ∧ o.status = .cancelled) ∧
      ∀ y ∈ tr, y.stmt.publishes ≠ some A := by
  have hsafe : ∀ m p t, (cancelContract A).inv m → (∀ e ∈ m.history, e.thread ≠ t) →
      Contender m p → Safe (cancelContract A) t (fun _ _ => True) p m :=
    fun _ _ _ hi _ hp => safe_contender hi hp
  have hguar : ∀ x ∈ tr, (cancelContract A).guar x :=
    (h.safe (cancelContract A) hsafe (Run.sound_start _ w ⟨hid, hA⟩) hok).2
  obtain ⟨x, hx, haccept⟩ := hcancel
  obtain ⟨tr₁, tr₂, rfl⟩ := List.append_of_mem hx
  obtain ⟨c₁, h₁, h₂⟩ := h.split rfl
  obtain ⟨hpre, c₂, hc₂, h₃⟩ := h₂.uncons
  obtain ⟨hnoticeable, hpublishes⟩ := noticeable_of_accepts (hok x hx) haccept
  have hafter : ∀ y ∈ tr₂, (cancelContract A).guar y := fun y hy =>
    hguar y (List.mem_append_right _ (List.mem_cons_of_mem _ hy))
  have hstart : Noticeable A c₂.moment := by rw [hc₂]; exact hnoticeable
  refine ⟨(h₃.preserves (Noticeable A) _ noticeable_post hafter hstart).1, fun y hy hpub => ?_⟩
  have hpolled : Polled A y.pre := (hguar y hy).2 hpub
  rcases List.mem_append.mp hy with hy | hy
  · -- a publication before the cancellation follows a poll that precedes it, too
    obtain ⟨tr₃, tr₄, rfl⟩ := List.append_of_mem hy
    obtain ⟨c₃, _, h₄⟩ := h₁.split rfl
    obtain ⟨_, c₄, hc₄, h₅⟩ := h₄.uncons
    have hpolled₁ : Polled A c₁.moment := h₅.preserves (Polled A) (fun _ => True)
      (fun z _ hz => polled_post z hz) (fun _ _ => trivial) (by rw [hc₄]; exact polled_post y hpolled)
    rw [← hpre] at hpolled₁
    exact (hok x hx).cancel haccept (.inl hpolled₁)
  · rcases List.mem_cons.mp hy with rfl | hy
    · exact hpublishes hpub
    · exact (h₃.preserves_pre (Noticeable A) _ noticeable_post hafter hstart y hy).2 hpolled

/-! Operation `1` deploys `v2` while a user removes the environment. When the removal comes between
the poll and the publication, the user is told that the operation is cancelled, and it succeeds. -/

def lockedWorld : World :=
  sampleWorld { sampleEnvironment with activeOperationId := some 1 } [sampleOperation .ciDeploy]

def deployAndRemove : List (Async Unit) :=
  [deployEnvInBackground (sampleApi 0) 0 .dev "v2" false 1, remove (sampleApi 0) 0 .dev]

theorem contender_of_mem_deployAndRemove :
    ∀ p ∈ deployAndRemove, Contender (Config.start lockedWorld).moment p := by
  intro p hp
  simp only [deployAndRemove, List.mem_cons, List.not_mem_nil, or_false] at hp
  rcases hp with rfl | rfl
  · exact .deploy _ _ _ _ _ _
  · exact .remove _ _ _

def acceptsCancel (A : Id) (x : Step) : Bool :=
  x.stmt.cancelsDirect == some A && (x.pre.state.op? A).any (·.finishedAt.isNone) &&
    (x.post.state.op? A).any (·.status == .cancelled)

theorem acceptsCancel_iff {A : Id} {x : Step} : acceptsCancel A x = true ↔ AcceptsCancel A x := by
  simp only [acceptsCancel, AcceptsCancel, Bool.and_eq_true, beq_iff_eq, Option.any_eq_true,
    Option.isNone_iff_eq_none, and_assoc]

theorem accepted_cancellation_loses :
    ∃ (A : Id) (w : World) (c : System) (tr : List Step), (w.op? A).isSome ∧ A < w.db.nextId ∧
      Run Contender (Config.start w) tr c ∧ (∃ x ∈ tr, AcceptsCancel A x) ∧
      (∃ o, c.moment.state.op? A = some o ∧ o.status = .succeeded) ∧
      ∃ e, c.moment.state.env? 0 = some e ∧ e.status = .running ∧ e.version = some "v2" := by
  let check := fun (tr : List Step) (c : System) => tr.any (acceptsCancel 1) &&
    (c.moment.state.op? 1).any (·.status == .succeeded) &&
    (c.moment.state.env? 0).any fun e => e.status == .running && e.version == some "v2"
  obtain ⟨tr, c, hrun, hcheck⟩ := run_of_plays (Config.start lockedWorld) deployAndRemove
    (turns 0 24 ++ turns 1 5 ++ turns 0 12) check contender_of_mem_deployAndRemove
    (by decide)
  simp only [check, Bool.and_eq_true, beq_iff_eq, Option.any_eq_true, List.any_eq_true,
    acceptsCancel_iff] at hcheck
  exact ⟨1, lockedWorld, c, tr, rfl, by decide, hrun, hcheck.1.1, hcheck.1.2, hcheck.2⟩

theorem accepted_cancellation_wins_before_poll :
    ∃ (c : System) (tr : List Step), Run Contender (Config.start lockedWorld) tr c ∧
      (∃ o, c.moment.state.op? 1 = some o ∧ o.status = .cancelled) ∧
      ∀ y ∈ tr, y.stmt.publishes ≠ some 1 := by
  let polled := fun (m : Instant) => m.history.any fun e =>
    e.stmt.pollsClear e.result == some 1 || e.stmt.failsDeployment == some 1
  let check := fun (tr : List Step) (_ : System) => tr.any (acceptsCancel 1) &&
    tr.all fun x => (!acceptsCancel 1 x || !polled x.pre) && x.stmt.failsDeployment != some 1
  obtain ⟨tr, c, hrun, hcheck⟩ := run_of_plays (Config.start lockedWorld) deployAndRemove
    (turns 0 20 ++ turns 1 5 ++ turns 0 17) check contender_of_mem_deployAndRemove
    (by decide)
  simp only [check, Bool.and_eq_true, List.any_eq_true, List.all_eq_true, acceptsCancel_iff,
    Bool.or_eq_true, Bool.not_eq_true', bne_iff_ne] at hcheck
  refine ⟨c, tr, hrun, accepted_cancellation_wins rfl (by decide) hrun (fun x hx => ⟨?_, ?_⟩)
    hcheck.1⟩
  · intro haccept hcommitted
    rcases (hcheck.2 x hx).1 with h | h
    · rw [acceptsCancel_iff.2 haccept] at h; cases h
    · have hall := List.any_eq_false.mp h
      rcases hcommitted with ⟨e, he, hp⟩ | ⟨e, he, hp⟩
      · exact hall e he (by simp [hp])
      · exact hall e he (by simp [hp])
  · intro hfail
    exact absurd hfail (hcheck.2 x hx).2

end InitPad
