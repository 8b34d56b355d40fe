import InitPad.Deployment.JobSteps
import InitPad.Runs.FinishedOperation

/-!
# InitPad.Runs.History

What the deployment history and the job queue keep over a whole run. Rows are appended and rewritten
in place: an operation stays the one that `begin` wrote, a job that has ended is not touched again,
and neither a dedupe key nor a step of an operation gets a second job.
-/

namespace InitPad

open Store Interleave Prog

/-! ## Operations -/

/-- What any number of statements leave of an operation. -/
structure Continues (o o' : DeploymentOperation) : Prop where
  request : SameRequest o o'
  correlationId : o'.correlationId = o.correlationId
  targetName : o'.targetName = o.targetName
  providerSnapshot : o'.providerSnapshot = o.providerSnapshot
  createdAt : o'.createdAt = o.createdAt
  generation : o.executionGeneration ≤ o'.executionGeneration
  finished : o.finishedAt.isSome → o'.finishedAt.isSome
  artifact : o.buildArtifactId.isSome → o'.buildArtifactId.isSome

section Continuing

variable {o o₁ o₂ : DeploymentOperation}

theorem Continues.refl (o : DeploymentOperation) : Continues o o :=
  ⟨⟨rfl, rfl, rfl, rfl⟩, rfl, rfl, rfl, rfl, Nat.le_refl _, id, id⟩

theorem Continues.trans (h : Continues o o₁) (h' : Continues o₁ o₂) : Continues o o₂ where
  request := ⟨h'.request.1.trans h.request.1, h'.request.2.trans h.request.2,
    h'.request.3.trans h.request.3, h'.request.4.trans h.request.4⟩
  correlationId := h'.correlationId.trans h.correlationId
  targetName := h'.targetName.trans h.targetName
  providerSnapshot := h'.providerSnapshot.trans h.providerSnapshot
  createdAt := h'.createdAt.trans h.createdAt
  generation := h.generation.trans h'.generation
  finished := h'.finished ∘ h.finished
  artifact := h'.artifact ∘ h.artifact

theorem continues_update {d : DeploymentOperation → DeploymentOperation} (hd : OperationUpdate d)
    (o : DeploymentOperation) : Continues o (d o) := by
  cases hd with
  | claim instanceId clock =>
    refine ⟨⟨rfl, rfl, rfl, rfl⟩, rfl, rfl, rfl, rfl, ?_, id, id⟩
    simp only [DeploymentOperation.claim]
    split
    · exact Nat.le_refl _
    · exact Nat.le_succ _
  | finish | complete | completeOwned | recover =>
    exact ⟨⟨rfl, rfl, rfl, rfl⟩, rfl, rfl, rfl, rfl, Nat.le_refl _, fun _ => rfl, id⟩
  | artifact =>
    exact ⟨⟨rfl, rfl, rfl, rfl⟩, rfl, rfl, rfl, rfl, Nat.le_refl _, id, fun _ => rfl⟩
  | _ => exact ⟨⟨rfl, rfl, rfl, rfl⟩, rfl, rfl, rfl, rfl, Nat.le_refl _, id, id⟩

end Continuing

/-- The operations of `w'` are those of `w` and, behind them, operations under ids that were free. -/
structure OperationsAppended (w w' : World) : Prop where
  keys : ∃ added, w'.db.operations.keys = w.db.operations.keys ++ added ∧
    ∀ id ∈ added, w.db.nextId ≤ id
  nextId : w.db.nextId ≤ w'.db.nextId
  rows : ∀ id o, w.op? id = some o → ∃ o', w'.op? id = some o' ∧ Continues o o'

section Worlds

variable {w w₁ w₂ : World}

theorem OperationsAppended.refl (w : World) : OperationsAppended w w :=
  ⟨⟨[], by simp, by simp⟩, Nat.le_refl _, fun _ o h => ⟨o, h, .refl o⟩⟩

theorem OperationsAppended.trans (h : OperationsAppended w w₁) (h' : OperationsAppended w₁ w₂) :
    OperationsAppended w w₂ where
  keys := by
    obtain ⟨added, hkeys, hfree⟩ := h.keys
    obtain ⟨added', hkeys', hfree'⟩ := h'.keys
    refine ⟨added ++ added', by rw [hkeys', hkeys, List.append_assoc], fun id hid => ?_⟩
    rcases List.mem_append.mp hid with hid | hid
    · exact hfree id hid
    · exact h.nextId.trans (hfree' id hid)
  nextId := h.nextId.trans h'.nextId
  rows id o ho := by
    obtain ⟨o₁, ho₁, hcontinues⟩ := h.rows id o ho
    obtain ⟨o₂, ho₂, hcontinues'⟩ := h'.rows id o₁ ho₁
    exact ⟨o₂, ho₂, hcontinues.trans hcontinues'⟩

theorem operationsAppended_exec {β : Type} (e : Stmt β) (i : Input) (w : World) :
    OperationsAppended w (exec e i w).2 := by
  refine ⟨?_, nextId_exec, fun id o ho => ?_⟩
  · rcases exec_cases e i w with ⟨_, _, he⟩ | ⟨_, he⟩
    · rw [he]; exact ⟨[], by simp, by simp⟩
    · rw [he]
      rcases operationKeys_run e i (w.tick i.dbNow) with hk | ⟨hk, _⟩
      · exact ⟨[], by rw [hk, List.append_nil]; rfl, by simp⟩
      · exact ⟨_, hk, fun id hid => Nat.le_of_eq (List.mem_singleton.mp hid).symm⟩
  · obtain ⟨o', ho'⟩ := Option.isSome_iff_exists.mp
      (op?_isSome_exec (e := e) (i := i) (Option.isSome_iff_exists.mpr ⟨o, ho⟩))
    refine ⟨o', ho', ?_⟩
    rcases exec_cases e i w with ⟨_, _, he⟩ | ⟨_, he⟩
    · rw [he, ho] at ho'
      obtain rfl := Option.some.inj ho'
      exact .refl o
    · rw [he] at ho'
      exact operation_run .refl (fun _ _ _ => .trans) (fun _ => continues_update)
        (by simpa using ho) ho'

/-! ## Jobs -/

/-- The dedupe keys are unique, as the index of `AgentJob` keeps them. -/
def World.DedupeUnique (w : World) : Prop := (w.db.agentJobs.rows.map AgentJob.dedupeKey).Nodup

theorem not_mem_of_jobWithKey {k : DedupeKey} (h : w.db.jobWithKey k = none) :
    k ∉ w.db.agentJobs.rows.map AgentJob.dedupeKey := by
  intro hk
  obtain ⟨j, hj, rfl⟩ := List.mem_map.mp hk
  have hne := List.find?_eq_none.mp h j hj
  simp at hne

theorem dedupeUnique_after {β : Type} {e : Stmt β} {i : Input} (h : JobsAfter e i w w₁)
    (hw : w.DedupeUnique) : w₁.DedupeUnique := by
  obtain ⟨u, added, hrows, hu, hadded⟩ := h
  have hkept : (w.db.agentJobs.rows.map u).map AgentJob.dedupeKey =
      w.db.agentJobs.rows.map AgentJob.dedupeKey := by
    rw [List.map_map]
    exact List.map_congr_left fun j _ => (hu j).same.dedupeKey
  have hnew : ∀ j : AgentJob, w.db.jobWithKey j.dedupeKey = none →
      (w.db.agentJobs.rows.map AgentJob.dedupeKey ++ [j.dedupeKey]).Nodup := by
    intro j hj
    rw [← List.concat_eq_append]
    exact hw.concat (not_mem_of_jobWithKey hj)
  rw [World.DedupeUnique, hrows, List.map_append, hkept]
  cases hadded with
  | nothing => rwa [List.map_nil, List.append_nil]
  | upsert _ hnone _ => exact hnew _ hnone
  | route _ hnone _ _ => exact hnew _ hnone

/-- The jobs of `w'` are those of `w`, each the job that it was, and new ones behind them. -/
structure JobsAppended (w w' : World) : Prop where
  rows : ∃ (u : AgentJob → AgentJob) (added : List AgentJob),
    w'.db.agentJobs.rows = w.db.agentJobs.rows.map u ++ added ∧
      ∀ j, SameJob j (u j) ∧ (j.pending = false → u j = j)
  steps : w.StepsUnique → w'.StepsUnique
  dedupe : w.DedupeUnique → w'.DedupeUnique

theorem SameJob.trans {j j₁ j₂ : AgentJob} (h : SameJob j j₁) (h' : SameJob j₁ j₂) :
    SameJob j j₂ :=
  ⟨h'.1.trans h.1, h'.2.trans h.2, h'.3.trans h.3, h'.4.trans h.4, h'.5.trans h.5,
    h'.6.trans h.6, h'.7.trans h.7⟩

theorem JobsAppended.refl (w : World) : JobsAppended w w :=
  ⟨⟨id, [], by simp, fun j => ⟨.refl j, fun _ => rfl⟩⟩, id, id⟩

theorem JobsAppended.trans (h : JobsAppended w w₁) (h' : JobsAppended w₁ w₂) :
    JobsAppended w w₂ where
  rows := by
    obtain ⟨u, added, hrows, hu⟩ := h.rows
    obtain ⟨u', added', hrows', hu'⟩ := h'.rows
    refine ⟨u' ∘ u, added.map u' ++ added', ?_, fun j => ⟨(hu j).1.trans (hu' (u j)).1, ?_⟩⟩
    · rw [hrows', hrows, List.map_append, List.map_map, List.append_assoc]
    · intro hj
      have hsettled := (hu j).2 hj
      rw [Function.comp_apply, hsettled]
      exact (hu' j).2 hj
  steps := h'.steps ∘ h.steps
  dedupe := h'.dedupe ∘ h.dedupe

theorem jobsAppended_exec {β : Type} (e : Stmt β) (i : Input) (w : World) :
    JobsAppended w (exec e i w).2 := by
  have hafter := jobs_exec e i w
  refine ⟨?_, fun hw => stepsUnique_after hafter hw, fun hw => dedupeUnique_after hafter hw⟩
  obtain ⟨u, added, hrows, hu, _⟩ := hafter
  exact ⟨u, added, hrows, fun j => ⟨(hu j).same, (hu j).of_settled⟩⟩

end Worlds

/-! ## Runs -/

variable {c c' : System} {tr : List Step}

/-- The deployment history is append-only in every run, and every operation stays the request that
it was begun for. -/
theorem operation_history (h : Run Request c tr c') :
    OperationsAppended c.moment.state c'.moment.state :=
  h.preserves (fun m => OperationsAppended c.moment.state m.state) (fun _ => True)
    (fun x _ hpre => hpre.trans (operationsAppended_exec x.stmt x.input x.pre.state))
    (fun _ _ => trivial) (.refl _)

theorem operation_history_cancelled :
    ∃ (c : System) (tr : List Step), Run Request (Config.start deployingWorld) tr c ∧
      tr.length = 7 ∧ OperationsAppended deployingWorld c.moment.state := by
  obtain ⟨tr, c, hrun, hcheck⟩ := run_of_plays (Config.start deployingWorld) cancelAndComplete
    (turns 0 5 ++ turns 1 2) (fun tr _ => tr.length == 7) request_of_mem_cancelAndComplete
    (by decide)
  exact ⟨c, tr, hrun, by simpa using hcheck, operation_history hrun⟩

/-- The job queue is append-only in every run: a job keeps what it was created with, one that has
ended is never touched again, and there is one job for a dedupe key and for a step. -/
theorem job_history (h : Run Request c tr c') : JobsAppended c.moment.state c'.moment.state :=
  h.preserves (fun m => JobsAppended c.moment.state m.state) (fun _ => True)
    (fun x _ hpre => hpre.trans (jobsAppended_exec x.stmt x.input x.pre.state))
    (fun _ _ => trivial) (.refl _)

/-- An Agent claims a job. -/
theorem job_history_claimed :
    let w := agentWorld sampleEnvironment [] [sampleJob .probe none]
    ∃ (c : System) (tr : List Step), Run Request (Config.start w) tr c ∧
      (c.moment.state.job? 4).map AgentJob.status = some .leased ∧
      JobsAppended w c.moment.state := by
  intro w
  let claims : List (Async Unit) := [ignoreError (claim (sampleApi 0) (some "credential"))]
  have hrequests : ∀ p ∈ claims, Request (Config.start w).moment p := by
    intro p hp
    rw [List.mem_singleton.mp hp]
    exact .claim _ _
  obtain ⟨tr, c, hrun, hcheck⟩ := run_of_plays (Config.start w) claims (turns 0 4)
    (fun _ c => (c.moment.state.job? 4).map AgentJob.status == some .leased) hrequests (by decide)
  exact ⟨c, tr, hrun, by simpa using hcheck, job_history hrun⟩

end InitPad
