import InitPad.Runs.Requests

/-!
# InitPad.Runs.FinishedOperation

Whether a finished `DeploymentOperation` can change its outcome. The writers of a run compare and
set on `finishedAt`; the five cancellations of `Stmt.cancelsById` write by id after an earlier
read, and change a finished operation exactly when they meet one that was not cancelled already.
-/

namespace InitPad

open Store Interleave Prog

/-- The operation that a statement cancels by id, whatever its state, and the finishing time that
it sets. -/
def Stmt.cancelsById {β : Type} : Stmt β → Input → Option (Id × Option Time)
  | .cancelClaimed o _ _, i | .rejectBegin o, i | .cancelCiRetry o _, i => some (o, some i.now)
  | .cancelAgentOperation o _ now, _ => some (o, some now)
  | .cancelDirect o _, _ => some (o, none)
  | _, _ => none

/-- The environment row that a statement of `cancelsById` updates in the same transaction. -/
def Stmt.requiredEnvironment {β : Type} : Stmt β → Option Id
  | .cancelCiRetry _ e | .cancelAgentOperation _ e _ | .cancelDirect _ e => some e
  | _ => none

def SameOutcome (o o' : DeploymentOperation) : Prop :=
  o'.status = o.status ∧ o'.phase = o.phase ∧ o'.finishedAt = o.finishedAt

/-- The operation keeps its outcome in `w`. -/
def World.Keeps (w : World) (id : Id) (o : DeploymentOperation) : Prop :=
  ∃ o', w.op? id = some o' ∧ SameOutcome o o'

def FinishedSafe (id : Id) (x : Step) : Prop :=
  ∀ o, x.pre.state.op? id = some o → o.finishedAt.isSome → x.post.state.Keeps id o

/-- A cancellation by id that takes effect meets an unfinished operation, or one that it has
already cancelled at that time. -/
def CancelsUnfinished (id : Id) (x : Step) : Prop :=
  ∀ time, x.stmt.cancelsById x.input = some (id, time) → x.input.fault = false →
    (∀ e, x.stmt.requiredEnvironment = some e → (x.pre.state.env? e).isSome) →
    ∀ o, x.pre.state.op? id = some o → o.finishedAt.isSome →
      o.status = .cancelled ∧ o.phase = .cancelled ∧ ∀ t, time = some t → o.finishedAt = some t

section Outcome

variable {w : World} {id : Id} {o : DeploymentOperation}

theorem SameOutcome.rfl {o : DeploymentOperation} : SameOutcome o o := ⟨by rfl, by rfl, by rfl⟩

theorem op?_id (h : w.op? id = some o) : o.id = id := Table.find?_key h

theorem keeps_updateOperations {p : DeploymentOperation → Bool}
    {d : DeploymentOperation → DeploymentOperation} (hd : ∀ r, (d r).id = r.id)
    (ho : w.op? id = some o) (hp : p o = true → SameOutcome o (d o)) :
    (w.updateOperations p d).Keeps id o := by
  refine ⟨if p o then d o else o, ?_, ?_⟩
  · rw [World.op?_updateOperations _ _ _ _ hd, ho]; simp only [Option.map_some]
  · by_cases h : p o = true
    · rw [if_pos h]; exact hp h
    · rw [if_neg h]; exact .rfl

theorem op?_updateById {d : DeploymentOperation → DeploymentOperation} (hd : ∀ r, (d r).id = r.id)
    (ho : w.op? id = some o) :
    (w.updateOperations (fun r => r.id == id) d).op? id = some (d o) := by
  rw [World.op?_updateOperations _ _ _ _ hd, ho]
  simp [op?_id ho]

theorem keeps_of_guard {p : DeploymentOperation → Bool}
    {d : DeploymentOperation → DeploymentOperation} (hd : ∀ r, (d r).id = r.id)
    (ho : w.op? id = some o) (hf : o.finishedAt.isSome)
    (hp : p o = true → o.finishedAt.isNone = true) :
    (w.updateOperations p d).Keeps id o := by
  refine keeps_updateOperations hd ho fun h => ?_
  have hn := hp h
  rw [Option.isNone_iff_eq_none] at hn
  rw [hn] at hf
  cases hf

theorem World.Keeps.trans {o₁ : DeploymentOperation} (h : w.Keeps id o₁) (hs : SameOutcome o o₁) :
    w.Keeps id o := by
  obtain ⟨o₂, ho₂, h₁, h₂, h₃⟩ := h
  exact ⟨o₂, ho₂, h₁.trans hs.1, h₂.trans hs.2.1, h₃.trans hs.2.2⟩

end Outcome

theorem keeps_run {β : Type} {e : Stmt β} {i : Input} {w : World} {id : Id}
    {o : DeploymentOperation} (ho : w.op? id = some o) (hf : o.finishedAt.isSome)
    (hc : ∀ time, e.cancelsById i ≠ some (id, time)) : (e.run i w).2.Keeps id o := by
  cases hw : e.writesOperations with
  | false => exact ⟨o, by rw [op?_run_of_reads e i w id hw, ho], .rfl⟩
  | true =>
    cases e with
    | beginClaim view kind version artifact expected =>
      simp only [Stmt.run]
      split
      · exact ⟨o, ho, .rfl⟩
      · split
        · exact ⟨o, ho, .rfl⟩
        · exact ⟨o, Table.find?_insert_of_some ho, .rfl⟩
    | cancelClaimed a | rejectBegin a | cancelCiRetry a | cancelAgentOperation a
    | cancelDirect a =>
      have ha : id ≠ a := fun h => hc _ (by rw [h]; rfl)
      simp only [Stmt.run, World.snd_requireRows]
      split
      · refine keeps_updateOperations (fun _ => rfl) ho fun h => ?_
        exact absurd (by simpa [op?_id ho] using h) ha
      · exact ⟨o, ho, .rfl⟩
    | finishUnowned | finishOwned | advancePhase | recoverOperation | advanceDeploymentPhase =>
      refine keeps_of_guard (fun _ => rfl) ho hf fun h => ?_
      simp only [Bool.and_eq_true] at h
      tauto
    | claimExecution | renewExecution | releaseExecution | reportMessage =>
      exact keeps_updateOperations (fun _ => rfl) ho fun _ => ⟨rfl, rfl, rfl⟩
    | captureRegistryArtifact =>
      simp only [Stmt.run]
      split
      · exact keeps_updateOperations (fun _ => rfl) ho fun _ => ⟨rfl, rfl, rfl⟩
      · exact ⟨o, ho, .rfl⟩
    | publishQueued => exact keeps_updateOperations (fun _ => rfl) ho fun _ => ⟨rfl, rfl, rfl⟩
    | mirrorDeploymentProgress operationId phase message sequence =>
      -- the text is written first, then the phase; only the phase is guarded by `finishedAt`
      obtain ⟨o₁, ho₁, hs₁⟩ := keeps_updateOperations (p := fun r => r.id == operationId &&
        r.status == .running) (d := fun r => { r with message := some message })
        (fun _ => rfl) ho fun _ => ⟨rfl, rfl, rfl⟩
      have hf₁ : o₁.finishedAt.isSome := by rw [hs₁.2.2]; exact hf
      refine (?_ : World.Keeps _ id o₁).trans hs₁
      refine keeps_of_guard (fun _ => rfl) ?_ hf₁ fun h => ?_
      · exact ho₁
      · simp only [Bool.and_eq_true] at h
        tauto
    | finishProjection | failManagedOperation | publishManagedProgress =>
      refine keeps_of_guard (fun _ => rfl) ?_ hf fun h => ?_
      · exact ho
      · simp only [Bool.and_eq_true] at h
        tauto
    | _ => cases hw

theorem inProcess_of_cancelsById {β : Type} {e : Stmt β} {i : Input} {r : Id × Option Time}
    (h : e.cancelsById i = some r) : e.inProcess = false := by
  cases e with
  | cancelClaimed | rejectBegin | cancelCiRetry | cancelAgentOperation | cancelDirect => rfl
  | _ => cases h

theorem missing_requiredEnvironment {β : Type} {e : Stmt β} {i : Input} {w : World} {env id : Id}
    (hr : e.requiredEnvironment = some env) (he : w.env? env = none) :
    (e.run i w).2.op? id = w.op? id := by
  cases e with
  | cancelCiRetry | cancelAgentOperation | cancelDirect =>
    cases hr; simp [Stmt.run, World.snd_requireRows, he]
  | _ => cases hr

theorem op?_run_cancelsById {β : Type} {e : Stmt β} {i : Input} {w : World} {id : Id}
    {time : Option Time} {o : DeploymentOperation} (hc : e.cancelsById i = some (id, time))
    (hr : ∀ env, e.requiredEnvironment = some env → (w.env? env).isSome)
    (ho : w.op? id = some o) :
    ∃ o', (e.run i w).2.op? id = some o' ∧ o'.status = .cancelled ∧ o'.phase = .cancelled ∧
      o'.finishedAt = time.or o.finishedAt := by
  cases e with
  | cancelClaimed a environment message =>
    obtain ⟨rfl, rfl⟩ : a = id ∧ some i.now = time := by simpa [Stmt.cancelsById] using hc
    have hrun : ((Stmt.cancelClaimed a environment message).run i w).2.op? a =
        some (o.finish .cancelled (some message) i.now) := by
      simp only [Stmt.run, World.snd_requireRows, ho, Option.isSome_some, if_true]
      exact op?_updateById (fun _ => rfl) ho
    exact ⟨_, hrun, rfl, rfl, rfl⟩
  | rejectBegin a =>
    obtain ⟨rfl, rfl⟩ : a = id ∧ some i.now = time := by simpa [Stmt.cancelsById] using hc
    have hrun : ((Stmt.rejectBegin a).run i w).2.op? a =
        some (o.finish .cancelled (some "Another operation is already active") i.now) := by
      simp only [Stmt.run, World.snd_requireRows, ho, Option.isSome_some, if_true]
      exact op?_updateById (fun _ => rfl) ho
    exact ⟨_, hrun, rfl, rfl, rfl⟩
  | cancelCiRetry a env =>
    obtain ⟨rfl, rfl⟩ : a = id ∧ some i.now = time := by simpa [Stmt.cancelsById] using hc
    have hrun : ((Stmt.cancelCiRetry a env).run i w).2.op? a =
        some (o.finish .cancelled (some cancelMessage) i.now) := by
      simp only [Stmt.run, World.snd_requireRows, ho, hr env rfl, Option.isSome_some,
        Bool.and_self, if_true]
      exact op?_updateById (fun _ => rfl) ho
    exact ⟨_, hrun, rfl, rfl, rfl⟩
  | cancelAgentOperation a env now =>
    obtain ⟨rfl, rfl⟩ : a = id ∧ some now = time := by simpa [Stmt.cancelsById] using hc
    have hrun : ((Stmt.cancelAgentOperation a env now).run i w).2.op? a =
        some (o.finish .cancelled (some cancelMessage) now) := by
      simp only [Stmt.run, World.snd_requireRows, ho, hr env rfl, Option.isSome_some,
        Bool.and_self, if_true]
      rw [World.op?_patchEnvironment]
      exact op?_updateById (fun _ => rfl) ho
    exact ⟨_, hrun, rfl, rfl, rfl⟩
  | cancelDirect a env =>
    obtain ⟨rfl, rfl⟩ : a = id ∧ none = time := by simpa [Stmt.cancelsById] using hc
    have hrun : ((Stmt.cancelDirect a env).run i w).2.op? a =
        some { o with status := .cancelled, phase := .cancelled, message := some cancelMessage } := by
      simp only [Stmt.run, World.snd_requireRows, ho, hr env rfl, Option.isSome_some,
        Bool.and_self, if_true]
      exact op?_updateById (fun _ => rfl) ho
    exact ⟨_, hrun, rfl, rfl, rfl⟩
  | _ => cases hc

theorem finishedSafe_iff {id : Id} {x : Step} : FinishedSafe id x ↔ CancelsUnfinished id x := by
  obtain ⟨m, t, e, i⟩ := x
  constructor
  · intro h time hc hf hr o ho hfin
    obtain ⟨o', ho', hs⟩ := h o ho hfin
    obtain ⟨o₁, ho₁, h₁, h₂, h₃⟩ := op?_run_cancelsById (w := m.state.tick i.dbNow) hc hr ho
    have hpost : (exec e i m.state).2.op? id = some o' := ho'
    rw [exec_eq, if_neg (by simp [show i.fault = false from hf]), ho₁] at hpost
    cases hpost
    refine ⟨hs.1.symm.trans h₁, hs.2.1.symm.trans h₂, ?_⟩
    rintro t rfl
    rw [← hs.2.2, h₃]; rfl
  · intro h o ho hfin
    change (exec e i m.state).2.Keeps id o
    rcases exec_cases e i m.state with ⟨_, _, he⟩ | ⟨hf, he⟩
    · rw [he]; exact ⟨o, ho, .rfl⟩
    · rw [he]
      by_cases hc : ∃ time, e.cancelsById i = some (id, time)
      · obtain ⟨time, hc⟩ := hc
        have hf' : i.fault = false := by simpa [inProcess_of_cancelsById hc] using hf
        by_cases hr : ∀ env, e.requiredEnvironment = some env → (m.state.env? env).isSome
        · obtain ⟨h₁, h₂, h₃⟩ := h time hc hf' hr o ho hfin
          obtain ⟨o', ho', hs₁, hs₂, hs₃⟩ :=
            op?_run_cancelsById (w := m.state.tick i.dbNow) hc hr ho
          refine ⟨o', ho', hs₁.trans h₁.symm, hs₂.trans h₂.symm, ?_⟩
          cases time with
          | none => exact hs₃
          | some t => rw [hs₃, h₃ t rfl]; rfl
        · push Not at hr
          obtain ⟨env, hr, hn⟩ := hr
          have hn' : (m.state.tick i.dbNow).env? env = none := by simpa using hn
          exact ⟨o, by rw [missing_requiredEnvironment hr hn']; exact ho, .rfl⟩
      · push Not at hc
        exact keeps_run ho hfin hc

/-- Over every run, finished operations keep their outcome exactly when no cancellation by id
meets one that ended otherwise. -/
theorem finished_operation {c c' : System} {tr : List Step} (h : Run Request c tr c') (id : Id) :
    ((∀ x ∈ tr, FinishedSafe id x) ↔ ∀ x ∈ tr, CancelsUnfinished id x) ∧
    ((∀ x ∈ tr, CancelsUnfinished id x) → ∀ o, c.moment.state.op? id = some o →
      o.finishedAt.isSome → c'.moment.state.Keeps id o) := by
  refine ⟨⟨fun hs x hx => finishedSafe_iff.1 (hs x hx),
    fun hs x hx => finishedSafe_iff.2 (hs x hx)⟩, ?_⟩
  intro hs o ho hf
  refine h.preserves (fun m => m.state.Keeps id o) (FinishedSafe id) ?_
    (fun x hx => finishedSafe_iff.2 (hs x hx)) ⟨o, ho, .rfl⟩
  rintro x hx ⟨o₁, ho₁, hs₁⟩
  have hf₁ : o₁.finishedAt.isSome := by rw [hs₁.2.2]; exact hf
  exact (hx o₁ ho₁ hf₁).trans hs₁

/-! A removal reads that operation `1` holds the lock; the operation succeeds; the removal then
cancels it by id. With the removal first the operation stays cancelled. -/

def deployingWorld : World :=
  sampleWorld { sampleEnvironment with activeOperationId := some 1 } [sampleOperation .ciDeploy]

def cancelAndComplete : List (Async Unit) :=
  [remove (sampleApi 0) 0 .dev, complete none 1 .succeeded none]

theorem request_of_mem_cancelAndComplete :
    ∀ p ∈ cancelAndComplete, Request (Config.start deployingWorld).moment p := by
  intro p hp
  simp only [cancelAndComplete, List.mem_cons, List.not_mem_nil, or_false] at hp
  rcases hp with rfl | rfl
  · exact .remove _ _ _
  · exact .complete _ _ _

theorem finished_operation_cancelled :
    ∃ (c c' : System) (tr : List Step) (id : Id),
      Run Request c tr c' ∧ ¬ ∀ x ∈ tr, FinishedSafe id x := by
  let status := fun (m : Instant) => (m.state.op? 1).map fun o => (o.status, o.finishedAt)
  let check := fun (tr : List Step) (_ : System) => tr.any fun x =>
    status x.pre == some (.succeeded, some 7) && status x.post == some (.cancelled, some 7)
  obtain ⟨tr, c', hrun, hcheck⟩ := run_of_plays (Config.start deployingWorld) cancelAndComplete
    (turns 0 4 ++ [(1, { now := 7 })] ++ turns 0 1) check request_of_mem_cancelAndComplete
    (by decide)
  refine ⟨_, c', tr, 1, hrun, fun hsafe => ?_⟩
  obtain ⟨x, hx, hbad⟩ := List.any_eq_true.mp hcheck
  simp only [Bool.and_eq_true, beq_iff_eq, status, Option.map_eq_some_iff] at hbad
  obtain ⟨⟨o, ho, hpre⟩, ⟨o', ho', hpost⟩⟩ := hbad
  obtain ⟨o₁, ho₁, hs, _⟩ := hsafe x hx o ho (by rw [(Prod.mk.inj hpre).2]; rfl)
  rw [ho'] at ho₁
  cases ho₁
  rw [(Prod.mk.inj hpost).1, (Prod.mk.inj hpre).1] at hs
  cases hs

theorem finished_operation_cancelled_first :
    ∃ (c : System) (tr : List Step), Run Request (Config.start deployingWorld) tr c ∧
      tr.length = 7 ∧ ∀ x ∈ tr, FinishedSafe 1 x := by
  let unfinished := fun (m : Instant) => (m.state.op? 1).all fun o => o.finishedAt.isNone
  let check := fun (tr : List Step) (_ : System) => tr.length == 7 &&
    tr.all fun x => (x.stmt.cancelsById x.input).isNone || unfinished x.pre
  obtain ⟨tr, c, hrun, hcheck⟩ := run_of_plays (Config.start deployingWorld) cancelAndComplete
    (turns 0 5 ++ turns 1 2) check request_of_mem_cancelAndComplete (by decide)
  simp only [check, Bool.and_eq_true, beq_iff_eq, List.all_eq_true, Bool.or_eq_true] at hcheck
  refine ⟨c, tr, hrun, hcheck.1, (finished_operation hrun 1).1.mpr ?_⟩
  intro x hx time hc _ _ o ho hf
  rcases hcheck.2 x hx with hn | hun
  · rw [hc] at hn; cases hn
  · simp only [unfinished, ho, Option.all_some] at hun
    rw [Option.isNone_iff_eq_none.mp hun] at hf
    cases hf

end InitPad
