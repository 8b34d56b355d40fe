import InitPad.Runs.Requests

/-!
# InitPad.Runs.LockOwnership

Who releases `Environment.activeOperationId`. Most statements name the operation they expect in
their `where` clause, so they cannot touch the lock of another one (`lock_run`). Five statements of
`ProjectEnvironmentLifecycle` write the environment by its id after an earlier read of the lock
(`Stmt.clearsById`); they keep a foreign lock exactly when they do not meet one.
-/

namespace InitPad

open Store Interleave Prog

/-- The operation on behalf of which a statement writes an environment. -/
def Stmt.actor {β : Type} : Stmt β → Option Id
  | .cancelClaimed o _ _ | .releaseLock o | .reportStatusReason o _ _ _ | .recoverEnvironment o _
  | .cancelCiRetry o _ | .cancelAgentOperation o _ _ | .cancelDirect o _
  | .abandonEnvironment _ o _ | .publishRemoved _ o _ | .publishStopped _ o
  | .failLifecycle _ o _ _ _ | .publishStarted _ _ o _ | .publishEmptied _ _ o _
  | .failBackground _ _ o _ | .markDeploying _ _ o _ | .publishDeployment _ _ o _ _ _ _
  | .publishQueued o _ _ _ | .mirrorDeploymentProgress o _ _ _ | .finishProjection o _ _ _ _ _
  | .failManagedOperation o _ _ _ _ | .publishManagedProgress o _ _ => some o
  | .clearLock _ o => o
  | _ => none

def Stmt.clearsById {β : Type} : Stmt β → Option Id
  | .cancelCiRetry _ e | .cancelAgentOperation _ e _ | .clearUnversioned e | .clearLock e _
  | .abandonEnvironment e _ _ => some e
  | _ => none

/-- The operation row that a statement of `clearsById` updates in the same transaction. -/
def Stmt.requiredOperation {β : Type} : Stmt β → Option Id
  | .cancelCiRetry o _ | .cancelAgentOperation o _ _ => some o
  | _ => none

/-- A step on behalf of one operation leaves the lock of every other one alone. -/
def LockSafe (environmentId : Id) (x : Step) : Prop :=
  ∀ B, x.pre.state.lock environmentId = some B → x.stmt.actor ≠ some B →
    x.post.state.lock environmentId = some B

/-- A write by id that takes effect meets no lock but that of the operation it acts for. -/
def ClearsOwnLock (environmentId : Id) (x : Step) : Prop :=
  x.stmt.clearsById = some environmentId → x.input.fault = false →
    (∀ o, x.stmt.requiredOperation = some o → (x.pre.state.op? o).isSome) →
    ∀ B, x.pre.state.lock environmentId = some B → x.stmt.actor = some B

section Lock

variable {w : World} {id B : Id}

theorem lock_eq_some : w.lock id = some B ↔ ∃ r, w.env? id = some r ∧ r.activeOperationId = some B := by
  simp [World.lock, Option.bind_eq_some_iff]

theorem env?_id {r : Environment} (h : w.env? id = some r) : r.id = id := Table.find?_key h

theorem lock_updateEnvironments {p : Environment → Bool} {d : Environment → Environment}
    (hd : ∀ r, (d r).id = r.id) (hl : w.lock id = some B)
    (hp : ∀ r, r.id = id → r.activeOperationId = some B → p r = true →
      (d r).activeOperationId = some B) :
    (w.updateEnvironments p d).lock id = some B := by
  obtain ⟨r, hr, hB⟩ := lock_eq_some.1 hl
  refine lock_eq_some.2 ⟨if p r then d r else r, ?_, ?_⟩
  · rw [World.env?_updateEnvironments _ _ _ _ hd, hr]; rfl
  · by_cases h : p r = true
    · rw [if_pos h]; exact hp r (env?_id hr) hB h
    · rw [if_neg h]; exact hB

theorem lock_patch {p : Environment → Bool} {d : EnvironmentData} (hl : w.lock id = some B)
    (hp : ∀ r, r.id = id → r.activeOperationId = some B → p r = true →
      d.activeOperationId.getD (some B) = some B) :
    (w.patchEnvironment p d).lock id = some B := by
  refine lock_updateEnvironments (fun _ => rfl) hl fun r hr hB h => ?_
  have := hp r hr hB h
  simp only [EnvironmentData.apply, hB]
  exact this

theorem lock_patch_holds {e A : Id} {d : EnvironmentData} (hl : w.lock id = some B) (hA : A ≠ B) :
    (w.patchEnvironment (holds e A) d).lock id = some B := by
  refine lock_patch hl fun r _ hB h => ?_
  simp [holds, hB] at h
  exact absurd h.2.symm hA

theorem lock_patch_holdsNamed {project A : Id} {name : EnvName} {d : EnvironmentData}
    (hl : w.lock id = some B) (hA : A ≠ B) :
    (w.patchEnvironment (holdsNamed project name A) d).lock id = some B := by
  refine lock_patch hl fun r _ hB h => ?_
  simp [holdsNamed, hB] at h
  exact absurd h.2.symm hA

end Lock

theorem lock_of_env? {w w' : World} {id : Id} (h : w'.env? id = w.env? id) :
    w'.lock id = w.lock id := by simp only [World.lock, h]

theorem lock_run {β : Type} {e : Stmt β} {i : Input} {w : World} {id B : Id}
    (hl : w.lock id = some B) (ha : e.actor ≠ some B) (hc : e.clearsById ≠ some id) :
    (e.run i w).2.lock id = some B := by
  cases hw : e.writesEnvironments with
  | false => rw [lock_of_env? (env?_run_of_reads e i w id hw), hl]
  | true =>
    cases e with
    | beginClaim view kind version artifact expected =>
      simp only [Stmt.run]
      split
      · exact hl
      · split
        · exact hl
        · -- the claim only takes a free lock
          refine lock_patch hl fun r _ hB h => ?_
          simp [claimable, hB] at h
    | cancelClaimed o e message =>
      have hA : o ≠ B := fun h => ha (congrArg some h)
      simp only [Stmt.run, World.snd_requireRows]
      split
      · exact lock_patch_holds hl hA
      · exact hl
    | releaseLock o =>
      refine lock_updateEnvironments (fun _ => rfl) hl fun r _ hB h => ?_
      have hB' : B = o := by simpa [hB] using h
      exact absurd (congrArg some hB'.symm) ha
    | recoverEnvironment o c =>
      refine lock_patch hl fun r _ hB h => ?_
      have hB' : B = o := by simpa [hB] using h
      exact absurd (congrArg some hB'.symm) ha
    | reportStatusReason => exact lock_updateEnvironments (fun _ => rfl) hl fun _ _ hB _ => hB
    | cancelCiRetry o e | cancelAgentOperation o e | clearUnversioned e | clearLock e
    | abandonEnvironment e =>
      have he : id ≠ e := fun h => hc (congrArg some h.symm)
      simp only [Stmt.run, World.snd_requireRows]
      split
      · refine lock_patch hl fun r hr _ h => ?_
        exact absurd (by simpa [hr] using h) he
      · exact hl
    | cancelDirect | teardownPending =>
      simp only [Stmt.run, World.snd_requireRows]
      split
      · exact lock_patch hl fun _ _ _ _ => rfl
      · exact hl
    | bindEnvironment =>
      simp only [Stmt.run, World.snd_requireRows]
      split
      · exact lock_updateEnvironments (fun _ => rfl) hl fun _ _ hB _ => hB
      · exact hl
    | publishRemoved e o | failLifecycle e o | finishProjection o | failManagedOperation o =>
      exact lock_patch_holds hl fun h => ha (congrArg some h)
    | publishEmptied p n o | failBackground p n o =>
      exact lock_patch_holdsNamed hl fun h => ha (congrArg some h)
    | publishStopped | publishStarted | markDeploying | publishDeployment | claimExpiry
    | rescheduleExpiry => exact lock_patch hl fun _ _ _ _ => rfl
    | publishQueued | mirrorDeploymentProgress | publishManagedProgress =>
      refine lock_patch ?_ fun _ _ _ _ => rfl
      exact hl
    | _ => cases hw
theorem lock_run_clearsById {β : Type} {e : Stmt β} {i : Input} {w : World} {id : Id}
    (hc : e.clearsById = some id)
    (ho : ∀ o, e.requiredOperation = some o → (w.op? o).isSome) (he : (w.env? id).isSome) :
    (e.run i w).2.lock id = none := by
  obtain ⟨r, hr⟩ := Option.isSome_iff_exists.mp he
  have hid := env?_id hr
  cases e with
  | cancelCiRetry o e =>
    cases hc
    have ho' := ho o rfl
    simp [Stmt.run, World.snd_requireRows, ho', World.lock, hr, hid, emptyState,
      EnvironmentData.apply]
  | cancelAgentOperation o e now =>
    cases hc
    have ho' := ho o rfl
    simp [Stmt.run, World.snd_requireRows, ho', World.lock, hr, hid, EnvironmentData.apply]
  | clearUnversioned e | clearLock e | abandonEnvironment e =>
    cases hc
    simp [Stmt.run, World.snd_requireRows, World.lock, hr, hid, emptyState, EnvironmentData.apply]
  | _ => cases hc

theorem inProcess_of_clearsById {β : Type} {e : Stmt β} {id : Id} (h : e.clearsById = some id) :
    e.inProcess = false := by
  cases e with
  | cancelCiRetry | cancelAgentOperation | clearUnversioned | clearLock | abandonEnvironment => rfl
  | _ => cases h

theorem missing_requiredOperation {β : Type} {e : Stmt β} {i : Input} {w : World} {id o : Id}
    (hr : e.requiredOperation = some o) (ho : w.op? o = none) :
    (e.run i w).2.lock id = w.lock id := by
  cases e with
  | cancelCiRetry | cancelAgentOperation => cases hr; simp [Stmt.run, World.snd_requireRows, ho]
  | _ => cases hr

theorem lockSafe_of_clearsOwnLock {id : Id} {x : Step} (h : ClearsOwnLock id x) :
    LockSafe id x := by
  obtain ⟨m, t, e, i⟩ := x
  intro B hl ha
  change (exec e i m.state).2.lock id = some B
  rcases exec_cases e i m.state with ⟨_, _, he⟩ | ⟨hf, he⟩
  · rw [he]; exact hl
  · rw [he]
    by_cases hc : e.clearsById = some id
    · have hp := inProcess_of_clearsById hc
      have hf' : i.fault = false := by simpa [hp] using hf
      by_cases ho : ∀ o, e.requiredOperation = some o → (m.state.op? o).isSome
      · exact absurd (h hc hf' ho B hl) ha
      · push Not at ho
        obtain ⟨o, hr, ho⟩ := ho
        have ho' : (m.state.tick i.dbNow).op? o = none := by simpa using ho
        rw [missing_requiredOperation hr ho']
        exact hl
    · exact lock_run hl ha hc

theorem clearsOwnLock_of_lockSafe {id : Id} {x : Step} (h : LockSafe id x) :
    ClearsOwnLock id x := by
  obtain ⟨m, t, e, i⟩ := x
  intro hc hf ho B hl
  by_contra ha
  have hpost : (exec e i m.state).2.lock id = some B := h B hl ha
  obtain ⟨r, hr, _⟩ := lock_eq_some.1 hl
  have he : ((m.state.tick i.dbNow).env? id).isSome := by simp [hr]
  have hfree : (e.run i (m.state.tick i.dbNow)).2.lock id = none := lock_run_clearsById hc ho he
  rw [exec_eq, if_neg (by simp [show i.fault = false from hf]), hfree] at hpost
  cases hpost

/-- Over every run, the steps keep foreign locks exactly when no write by id meets one; then a
claimed lock is held until a step acts for its own operation. -/
theorem lock_ownership {c c' : System} {tr : List Step} (h : Run Request c tr c') (id : Id) :
    ((∀ x ∈ tr, LockSafe id x) ↔ ∀ x ∈ tr, ClearsOwnLock id x) ∧
    ((∀ x ∈ tr, ClearsOwnLock id x) → ∀ B, c.moment.state.lock id = some B →
      (∀ x ∈ tr, x.stmt.actor ≠ some B) → c'.moment.state.lock id = some B) := by
  refine ⟨⟨fun hs x hx => clearsOwnLock_of_lockSafe (hs x hx),
    fun hs x hx => lockSafe_of_clearsOwnLock (hs x hx)⟩, ?_⟩
  intro hs B hB ha
  exact h.preserves (fun m => m.state.lock id = some B)
    (fun x => LockSafe id x ∧ x.stmt.actor ≠ some B) (fun x hx hpre => hx.1 B hpre hx.2)
    (fun x hx => ⟨lockSafe_of_clearsOwnLock (hs x hx), ha x hx⟩) hB

/-! Two removals cancel the same `ci-retry` operation `1`. Between the two cancellations the
environment is free and `begin` claims it for operation `10`, whose lock the second one clears. When
the second removal reads the environment only after `begin`, it cancels operation `10` itself. -/

def retryWorld : World :=
  sampleWorld { sampleEnvironment with activeOperationId := some 1 } [sampleOperation .ciRetry]

def twoCancellations : List (Async Unit) :=
  [remove (sampleApi 0) 0 .dev, remove (sampleApi 0) 0 .dev,
    ignoreError (begin 0 .dev .ciDeploy (some "v3") none none)]

theorem request_of_mem_twoCancellations :
    ∀ p ∈ twoCancellations, Request (Config.start retryWorld).moment p := by
  intro p hp
  simp only [twoCancellations, List.mem_cons, List.not_mem_nil, or_false] at hp
  rcases hp with rfl | rfl | rfl
  · exact .remove _ _ _
  · exact .remove _ _ _
  · exact .begin _ _ _ _ _ _

theorem lock_not_owned :
    ∃ (c c' : System) (tr : List Step) (id : Id),
      Run Request c tr c' ∧ ¬ ∀ x ∈ tr, LockSafe id x := by
  let check := fun (tr : List Step) (_ : System) => tr.any fun x =>
    x.pre.state.lock 0 == some 10 && x.stmt.actor != some 10 && x.post.state.lock 0 != some 10
  obtain ⟨tr, c', hrun, hcheck⟩ := run_of_plays (Config.start retryWorld) twoCancellations
    (turns 1 4 ++ turns 0 5 ++ turns 2 2 ++ turns 1 1) check request_of_mem_twoCancellations
    (by decide)
  refine ⟨_, c', tr, 0, hrun, fun hsafe => ?_⟩
  obtain ⟨x, hx, hbad⟩ := List.any_eq_true.mp hcheck
  simp only [Bool.and_eq_true, beq_iff_eq, bne_iff_ne, ne_eq] at hbad
  exact hbad.2 (hsafe x hx 10 hbad.1.1 hbad.1.2)

theorem lock_ownership_one_cancellation :
    ∃ (c : System) (tr : List Step), Run Request (Config.start retryWorld) tr c ∧
      (∀ x ∈ tr, LockSafe 0 x) ∧ c.moment.state.lock 0 = some 10 := by
  let check := fun (tr : List Step) (c : System) => c.moment.state.lock 0 == some 10 &&
    tr.all fun x => x.stmt.clearsById.isNone || x.pre.state.lock 0 == x.stmt.actor
  obtain ⟨tr, c, hrun, hcheck⟩ := run_of_plays (Config.start retryWorld) twoCancellations
    (turns 0 5 ++ turns 2 2) check request_of_mem_twoCancellations (by decide)
  simp only [check, Bool.and_eq_true, beq_iff_eq, List.all_eq_true, Bool.or_eq_true] at hcheck
  refine ⟨c, tr, hrun, (lock_ownership hrun 0).1.mpr fun x hx hc _ _ B hl => ?_, hcheck.1⟩
  rcases hcheck.2 x hx with hn | hown
  · rw [hc] at hn; cases hn
  · exact hown.symm.trans hl

end InitPad
