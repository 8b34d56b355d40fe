import InitPad.Approvals.ClosedRequests

/-!
# InitPad.Approvals.ApprovedOnce

At most one deployment is started for a production request, and a request for which one was started
is not pending any more. A thread that has claimed a request holds it until it starts the
deployment or reopens the request; there is never a second holder. The exception is an approval that
fails after the start and reopens the request nevertheless.
-/

namespace InitPad

open Store Interleave Prog

/-- The requests for which a deployment has been started. -/
def ApprovalWorld.startedIds (w : ApprovalWorld) : List Id := w.started.map Prod.fst

def ApprovalWorld.notPending (w : ApprovalWorld) (id : Id) : Prop :=
  ∀ r, w.request? id = some r → r.status ≠ .pending

/-- One deployment for a request, which then is not pending. -/
structure ApprovalWorld.StartedOnce (w : ApprovalWorld) : Prop where
  once : w.startedIds.Nodup
  closed : ∀ id ∈ w.startedIds, w.notPending id

/-! ## Claims in the history -/

section Signature

variable {β : Type}

def ApprovalStmt.claims : {β : Type} → ApprovalStmt β → Except Err β → Option Id
  | _, .moveRequest requestId _ .approving _, .ok 1 => some requestId
  | _, _, _ => none

def ApprovalStmt.starts : ApprovalStmt β → Option Id
  | .startDeployment requestId _ => some requestId
  | _ => none

/-- The request that a statement puts back to pending. -/
def ApprovalStmt.reopens : ApprovalStmt β → Option Id
  | .moveRequest requestId [.approving] .pending _ => some requestId
  | _ => none

theorem claims_moveRequest {requestId id : Id} {statuses : List RequestStatus}
    {data : ReviewData} {r : Except Err Nat}
    (h : (ApprovalStmt.moveRequest requestId statuses .approving data).claims r = some id) :
    requestId = id := by
  unfold ApprovalStmt.claims at h
  split at h
  · rename_i heq
    cases heq
    exact Option.some.inj h
  · cases h

theorem moves_of_reopens {e : ApprovalStmt β} {id : Id} (h : e.reopens = some id) :
    e.moves = some (id, [.approving], .pending) ∧ e.inProcess = false := by
  unfold ApprovalStmt.reopens at h
  split at h
  · cases h
    exact ⟨rfl, rfl⟩
  · cases h

theorem reopens_of_moves {e : ApprovalStmt β} {id : Id}
    (h : e.moves = some (id, [.approving], .pending)) : e.reopens = some id := by
  cases e with
  | moveRequest => cases h; rfl
  | _ => cases h

end Signature

/-- Thread `t` has claimed the request. -/
def Claimed (m : ApprovalMoment) (t : Nat) (id : Id) : Prop :=
  ∃ ev ∈ m.history, ev.thread = t ∧ ev.stmt.claims ev.result = some id

def Started (m : ApprovalMoment) (t : Nat) (id : Id) : Prop :=
  ∃ ev ∈ m.history, ev.thread = t ∧ ev.stmt.starts = some id

def Reopened (m : ApprovalMoment) (t : Nat) (id : Id) : Prop :=
  ∃ ev ∈ m.history, ev.thread = t ∧ ev.stmt.reopens = some id

/-- Thread `t` has claimed the request and has neither started its deployment nor reopened it. -/
structure Holds (m : ApprovalMoment) (t : Nat) (id : Id) : Prop where
  claimed : Claimed m t id
  unstarted : ¬ Started m t id
  unopened : ¬ Reopened m t id

section Next

variable {m : ApprovalMoment} {t t' : Nat} {id : Id} {β : Type} {e : ApprovalStmt β} {i : Input}

theorem claimed_next : Claimed (m.next t e i) t' id ↔
    Claimed m t' id ∨ (t = t' ∧ e.claims (exec e i m.state).1 = some id) := by
  simp [Claimed, or_and_right, exists_or]

theorem started_next : Started (m.next t e i) t' id ↔
    Started m t' id ∨ (t = t' ∧ e.starts = some id) := by
  simp [Started, or_and_right, exists_or]

theorem reopened_next : Reopened (m.next t e i) t' id ↔
    Reopened m t' id ∨ (t = t' ∧ e.reopens = some id) := by
  simp [Reopened, or_and_right, exists_or]

theorem holds_next (h : Holds (m.next t e i) t' id) :
    Holds m t' id ∨ (t = t' ∧ e.claims (exec e i m.state).1 = some id) := by
  rcases claimed_next.1 h.claimed with hc | hc
  · exact .inl ⟨hc, fun hs => h.unstarted (started_next.mpr (.inl hs)),
      fun hr => h.unopened (reopened_next.mpr (.inl hr))⟩
  · exact .inr hc

end Next

/-! ## The invariant -/

structure ApprovalMemory (m : ApprovalMoment) : Prop where
  kept : m.state.WellKept
  startedOnce : m.state.StartedOnce
  held : ∀ t id, Holds m t id → m.state.notPending id
  unstarted : ∀ t id, Holds m t id → id ∉ m.state.startedIds
  single : ∀ t t' id, Holds m t id → Holds m t' id → t = t'
  claimedKnown : ∀ t id, Claimed m t id → id < m.state.nextRequestId
  startedKnown : ∀ id ∈ m.state.startedIds, id < m.state.nextRequestId
  recorded : ∀ t id, Started m t id → id ∈ m.state.startedIds

/-- The catch branch of `approve` reopens a request only if no deployment was started for it. -/
def ReopensUnstarted (x : ApprovalStep) : Prop :=
  ∀ id r, x.stmt.reopens = some id → x.input.fault = false →
    x.pre.state.request? id = some r → r.status = .approving → id ∉ x.pre.state.startedIds

/-- The statements of approvals are executed by the thread that holds the request. -/
structure ActsAsHolder (x : ApprovalStep) : Prop where
  moderate : x.stmt.moderate = true
  claims : ∀ id r, x.stmt.claims r = some id →
    x.stmt.moves = some (id, [.pending], .approving) ∧
      ¬ Started x.pre x.thread id ∧ ¬ Reopened x.pre x.thread id
  starts : ∀ id, x.stmt.starts = some id → Holds x.pre x.thread id
  pending : ∀ id statuses, x.stmt.moves = some (id, statuses, .pending) → statuses = [.approving]
  reopens : ∀ id, x.stmt.reopens = some id →
    Claimed x.pre x.thread id ∧ ¬ Reopened x.pre x.thread id

section Steps

variable {β : Type} {e : ApprovalStmt β} {i : Input} {w : ApprovalWorld} {id : Id}

theorem startedIds_exec (e : ApprovalStmt β) (i : Input) (w : ApprovalWorld) :
    (exec e i w).2.startedIds = w.startedIds ++ e.starts.toList := by
  have hnone : ∀ w' : ApprovalWorld, w'.started = w.started →
      w'.startedIds = w.startedIds ++ [] := by
    intro w' h
    rw [ApprovalWorld.startedIds, h, List.append_nil]
    rfl
  change (if i.fault && !e.inProcess then (_, w) else e.run i w).2.startedIds = _
  cases e with
  | startDeployment requestId operationId =>
    change (if i.fault && false then (_, w) else _).2.startedIds = _
    rw [Bool.and_false]
    exact List.map_append
  | createRequest =>
    split
    · exact hnone w rfl
    · refine hnone _ ?_
      simp only [ApprovalStmt.run, ApprovalWorld.createRequest]
      split <;> rfl
  | approveRequest =>
    split
    · exact hnone w rfl
    · refine hnone _ ?_
      simp only [ApprovalStmt.run, ApprovalWorld.approveRequest]
      split
      · rfl
      · split <;> rfl
  | _ =>
    split
    · exact hnone w rfl
    · exact hnone _ rfl

theorem nextRequestId_exec (e : ApprovalStmt β) (i : Input) (w : ApprovalWorld) :
    w.nextRequestId ≤ (exec e i w).2.nextRequestId := by
  obtain ⟨_, _, _, _, _, _, hadded⟩ := requests_exec e i w
  cases hadded with
  | nothing h => exact Nat.le_of_eq h.symm
  | created _ _ h _ => rw [h]; exact Nat.le_succ _

theorem exec_of_fault (hp : e.inProcess = false) (hf : i.fault = true) : (exec e i w).2 = w := by
  change (if i.fault && !e.inProcess then (_, w) else e.run i w).2 = w
  rw [hp, hf]
  rfl

theorem exec_of_working (hf : i.fault = false) : exec e i w = e.run i w := by
  change (if i.fault && !e.inProcess then _ else e.run i w) = _
  rw [hf]
  rfl

theorem notPending_exec (hk : w.WellKept) (hid : id < w.nextRequestId) (h : w.notPending id)
    (hmoves : ∀ statuses, e.moves = some (id, statuses, .pending) → statuses = [.approving])
    (hno : ∀ r, e.reopens = some id → i.fault = false → w.request? id = some r →
      r.status ≠ .approving) : (exec e i w).2.notPending id := by
  intro r' hr' hpending
  have hid' : r'.id = id := Table.find?_key hr'
  rcases (requests_exec e i w).row (Table.mem_of_find? hr') with ⟨r, hrow, hstep⟩ | ⟨hnew, _⟩
  · have hr : w.request? id = some r := by
      have hrid : r.id = id := hstep.id.symm.trans hid'
      exact hrid ▸ hk.unique.find?_of_mem hrow
    cases hstep with
    | kept heq => exact h r hr (heq ▸ hpending)
    | @moved statuses status data hm hs heq =>
      obtain rfl : status = .pending := by rw [heq] at hpending; exact hpending
      have hrid : r.id = id := Table.find?_key hr
      rw [hrid] at hm
      obtain rfl := hmoves statuses hm
      have hreopen := reopens_of_moves hm
      have hp := (moves_of_reopens hreopen).2
      cases hf : i.fault with
      | false => exact hno r hreopen hf hr (List.mem_singleton.mp hs)
      | true =>
        rw [exec_of_fault hp hf] at hr'
        exact h r' hr' hpending
    | approved _ heq => rw [heq] at hpending; cases hpending
    | replaced _ _ heq => rw [heq] at hpending; cases hpending
  · exact absurd (hid'.symm.trans hnew) (Nat.ne_of_lt hid)

theorem pending_of_claims (hk : w.WellKept) (h : e.claims (exec e i w).1 = some id)
    (hmoves : e.moves = some (id, [.pending], .approving)) :
    (∃ r, w.request? id = some r ∧ r.status = .pending) ∧ (exec e i w).2.notPending id ∧
      e.starts = none ∧ e.reopens = none := by
  cases e with
  | moveRequest requestId statuses status data =>
    cases hmoves
    cases hf : i.fault with
    | true =>
      have herror : (exec (ApprovalStmt.moveRequest id [.pending] .approving data) i w).1 =
          .error .databaseFault := by
        change (if i.fault && true then (Except.error Err.databaseFault, w) else _).1 = _
        rw [hf]
        rfl
      rw [herror] at h
      cases h
    | false =>
      rw [exec_of_working hf] at h ⊢
      have hcount : w.requests.count (fun r => r.id == id && [RequestStatus.pending].contains
          r.status) = 1 := by
        unfold ApprovalStmt.claims at h
        split at h
        · rename_i heq
          exact Except.ok.inj heq
        · cases h
      obtain ⟨r, hr, hp⟩ := (Table.count_pos_iff _ _).mp (hcount ▸ Nat.one_pos)
      simp only [Bool.and_eq_true, beq_iff_eq, List.contains_iff_mem, List.mem_singleton] at hp
      have hrow : w.request? id = some r := hp.1 ▸ hk.unique.find?_of_mem hr
      refine ⟨⟨r, hrow, hp.2⟩, ?_, rfl, rfl⟩
      intro r' hr'
      change (w.updateRequests _ _).request? id = some r' at hr'
      rw [request?_updateRequests (by intro r; rfl), hrow, Option.map_some,
        if_pos (by simp [hp.1, hp.2]), Option.some.injEq] at hr'
      rw [← hr']
      intro hpending
      cases hpending
  | _ => cases hmoves

end Steps

section Memory

variable {x : ApprovalStep} {id : Id} {t : Nat}

theorem known_post (hid : id < x.pre.state.nextRequestId) : id < x.post.state.nextRequestId :=
  Nat.lt_of_lt_of_le hid (nextRequestId_exec x.stmt x.input x.pre.state)

theorem holds_of_reopens (h : ApprovalMemory x.pre) (ha : ActsAsHolder x) (ho : ReopensUnstarted x)
    {r : ProductionDeploymentRequest} (hr : x.stmt.reopens = some id) (hf : x.input.fault = false)
    (hrow : x.pre.state.request? id = some r) (hs : r.status = .approving) :
    Holds x.pre x.thread id := by
  obtain ⟨hclaimed, hopened⟩ := ha.reopens id hr
  exact ⟨hclaimed, fun hstarted => ho id r hr hf hrow hs (h.recorded x.thread id hstarted), hopened⟩

theorem notPending_post (h : ApprovalMemory x.pre) (ha : ActsAsHolder x)
    (hid : id < x.pre.state.nextRequestId) (hn : x.pre.state.notPending id)
    (hno : ∀ r, x.stmt.reopens = some id → x.input.fault = false →
      x.pre.state.request? id = some r → r.status ≠ .approving) : x.post.state.notPending id :=
  notPending_exec h.kept hid hn (ha.pending id) hno

theorem mem_startedIds_post : id ∈ x.post.state.startedIds ↔
    id ∈ x.pre.state.startedIds ∨ x.stmt.starts = some id := by
  have hids : x.post.state.startedIds = x.pre.state.startedIds ++ x.stmt.starts.toList :=
    startedIds_exec x.stmt x.input x.pre.state
  rw [hids, List.mem_append, Option.mem_toList]

/-- A request that has just been claimed was pending, so nobody else held it and nothing was
started for it. -/
theorem unheld_of_claims (h : ApprovalMemory x.pre) (ha : ActsAsHolder x)
    (hc : x.stmt.claims x.result = some id) :
    (∀ t, ¬ Holds x.pre t id) ∧ id ∉ x.pre.state.startedIds ∧ x.post.state.notPending id ∧
      x.stmt.starts = none ∧ id < x.pre.state.nextRequestId := by
  obtain ⟨⟨r, hr, hs⟩, hpost, hstarts, _⟩ :=
    pending_of_claims h.kept hc (ha.claims id _ hc).1
  have hid : r.id = id := Table.find?_key hr
  exact ⟨fun t ht => h.held t id ht r hr hs, fun hm => h.startedOnce.closed id hm r hr hs, hpost,
    hstarts, hid ▸ h.kept.fresh r (Table.mem_of_find? hr)⟩

theorem startedOnce_post (h : ApprovalMemory x.pre) (ha : ActsAsHolder x)
    (ho : ReopensUnstarted x) : x.post.state.StartedOnce := by
  constructor
  · have hids : x.post.state.startedIds = x.pre.state.startedIds ++ x.stmt.starts.toList :=
      startedIds_exec x.stmt x.input x.pre.state
    rw [hids]
    cases hs : x.stmt.starts with
    | none => simpa using h.startedOnce.once
    | some id =>
      have hnot := h.unstarted x.thread id (ha.starts id hs)
      exact h.startedOnce.once.append (by simp) (by simpa using hnot)
  · intro id hid
    rcases mem_startedIds_post.1 hid with hid | hs
    · exact notPending_post h ha (h.startedKnown id hid) (h.startedOnce.closed id hid)
        fun r hr hf hrow hs => ho id r hr hf hrow hs hid
    · have hholds := ha.starts id hs
      refine notPending_post h ha (h.claimedKnown _ id hholds.claimed) (h.held _ id hholds) ?_
      intro r hr _ _ _
      obtain ⟨m, t, e, i⟩ := x
      cases e with
      | startDeployment => cases hr
      | _ => cases hs

theorem approvalMemory_post (h : ApprovalMemory x.pre) (ho : ReopensUnstarted x)
    (ha : ActsAsHolder x) : ApprovalMemory x.post := by
  have hnew := fun {id : Id} (hc : x.stmt.claims x.result = some id) => unheld_of_claims h ha hc
  constructor
  · exact wellKept_after (requests_exec _ _ _) ha.moderate h.kept
  · exact startedOnce_post h ha ho
  · intro t id hh
    rcases holds_next hh with hold | ⟨_, hc⟩
    · refine notPending_post h ha (h.claimedKnown t id hold.claimed) (h.held t id hold) ?_
      intro r hr hf hrow hs
      have hthread := h.single _ _ id (holds_of_reopens h ha ho hr hf hrow hs) hold
      exact hh.unopened (reopened_next.mpr (.inr ⟨hthread, hr⟩))
    · exact (hnew hc).2.2.1
  · intro t id hh hmem
    rcases holds_next hh with hold | ⟨_, hc⟩
    · rcases mem_startedIds_post.1 hmem with hmem | hs
      · exact h.unstarted t id hold hmem
      · have hthread := h.single _ _ id (ha.starts id hs) hold
        exact hh.unstarted (started_next.mpr (.inr ⟨hthread, hs⟩))
    · obtain ⟨_, hnot, _, hstarts, _⟩ := hnew hc
      rcases mem_startedIds_post.1 hmem with hmem | hs
      · exact hnot hmem
      · rw [hstarts] at hs
        cases hs
  · intro t t' id hh hh'
    rcases holds_next hh with hold | ⟨ht, hc⟩ <;> rcases holds_next hh' with hold' | ⟨ht', hc'⟩
    · exact h.single t t' id hold hold'
    · exact absurd hold ((hnew hc').1 t)
    · exact absurd hold' ((hnew hc).1 t')
    · exact ht.symm.trans ht'
  · intro t id hh
    refine known_post ?_
    rcases claimed_next.1 hh with hold | ⟨_, hc⟩
    · exact h.claimedKnown t id hold
    · exact (hnew hc).2.2.2.2
  · intro id hmem
    refine known_post ?_
    rcases mem_startedIds_post.1 hmem with hmem | hs
    · exact h.startedKnown id hmem
    · exact h.claimedKnown _ id (ha.starts id hs).claimed
  · intro t id hs
    refine mem_startedIds_post.2 ?_
    rcases started_next.1 hs with hs | ⟨_, hs⟩
    · exact .inl (h.recorded t id hs)
    · exact .inr hs

end Memory

/-! ## The threads -/

/-- Between two statements of thread `t` the others add their own events to the history. -/
def onceContract : Contract ApprovalStmt Input ApprovalWorld Err where
  ok := ReopensUnstarted
  inv := ApprovalMemory
  rely t m m' := ∃ rest, m'.history = m.history ++ rest ∧ ∀ ev ∈ rest, ev.thread ≠ t
  guar := ActsAsHolder
  rely_refl _ m := ⟨[], (List.append_nil _).symm, fun _ h => absurd h List.not_mem_nil⟩
  rely_trans t m₁ m₂ m₃ := by
    rintro ⟨rest, h, hrest⟩ ⟨rest', h', hrest'⟩
    refine ⟨rest ++ rest', by rw [h', h, List.append_assoc], fun ev hev => ?_⟩
    rcases List.mem_append.mp hev with hev | hev
    · exact hrest ev hev
    · exact hrest' ev hev
  inv_post _ h ho ha := approvalMemory_post h ho ha
  rely_of_guar x t _ _ _ ht := ⟨_, rfl, fun ev hev => by
    rw [List.mem_singleton.mp hev]
    exact ht⟩

/-- Thread `t` has neither started a deployment nor reopened a request. -/
structure Idle (t : Nat) (m : ApprovalMoment) : Prop where
  unstarted : ∀ id, ¬ Started m t id
  unopened : ∀ id, ¬ Reopened m t id

/-- Thread `t` has claimed `id` and owes it an end. -/
structure Holding (t : Nat) (id : Id) (m : ApprovalMoment) : Prop extends Idle t m where
  claimed : Claimed m t id

/-- Thread `t` has claimed `id` and may have started its deployment. -/
structure Owing (t : Nat) (id : Id) (m : ApprovalMoment) : Prop where
  claimed : Claimed m t id
  unopened : ∀ id, ¬ Reopened m t id

theorem Holding.owing {t : Nat} {id : Id} {m : ApprovalMoment} (h : Holding t id m) :
    Owing t id m := ⟨h.claimed, h.unopened⟩

/-- What thread `t` itself keeps with quiet statements, and the others cannot touch. -/
structure Lasts (t : Nat) (A : ApprovalMoment → Prop) : Prop where
  rely : ∀ m m', onceContract.rely t m m' → A m → A m'
  step : ∀ {β : Type} (e : ApprovalStmt β) (i : Input) (m : ApprovalMoment), e.quiet = true →
    A m → A (m.next t e i)

section Threads

variable {t : Nat} {id : Id} {m m' : ApprovalMoment} {α β : Type}

theorem own_rely (h : onceContract.rely t m m') {P : Event ApprovalStmt Input Err → Prop} :
    (∃ ev ∈ m'.history, ev.thread = t ∧ P ev) ↔ ∃ ev ∈ m.history, ev.thread = t ∧ P ev := by
  obtain ⟨rest, hhistory, hrest⟩ := h
  rw [hhistory]
  constructor
  · rintro ⟨ev, hev, ht, hp⟩
    rcases List.mem_append.mp hev with hev | hev
    · exact ⟨ev, hev, ht, hp⟩
    · exact absurd ht (hrest ev hev)
  · rintro ⟨ev, hev, h⟩
    exact ⟨ev, List.mem_append_left _ hev, h⟩

theorem quiet_cases {e : ApprovalStmt β} (h : e.quiet = true) :
    (∀ r, e.claims r = none) ∧ e.starts = none ∧
      ∀ id statuses, e.moves ≠ some (id, statuses, .pending) := by
  cases e with
  | moveRequest requestId statuses status data =>
    simp only [ApprovalStmt.quiet, Bool.and_eq_true] at h
    cases status with
    | pending | approving => cases h.2
    | _ => exact ⟨fun _ => rfl, rfl, by rintro _ _ ⟨⟩⟩
  | startDeployment => cases h
  | _ => exact ⟨fun _ => rfl, rfl, by rintro _ _ ⟨⟩⟩

theorem reopens_of_quiet {e : ApprovalStmt β} (h : e.quiet = true) : e.reopens = none := by
  cases hr : e.reopens with
  | none => rfl
  | some id => exact absurd (moves_of_reopens hr).1 ((quiet_cases h).2.2 _ _)

theorem not_started_next {e : ApprovalStmt β} {i : Input} (h : e.quiet = true)
    (hs : ¬ Started m t id) : ¬ Started (m.next t e i) t id := by
  rw [started_next, (quiet_cases h).2.1]
  exact fun hs' => hs'.elim hs fun h => nomatch h.2

theorem not_reopened_next {e : ApprovalStmt β} {i : Input} (h : e.reopens = none)
    (hr : ¬ Reopened m t id) : ¬ Reopened (m.next t e i) t id := by
  rw [reopened_next, h]
  exact fun hr' => hr'.elim hr fun h => nomatch h.2

variable (t) in
theorem lasts_idle : Lasts t (Idle t) :=
  ⟨fun _ _ hr h => ⟨fun id hs => h.unstarted id ((own_rely hr).mp hs),
      fun id ho => h.unopened id ((own_rely hr).mp ho)⟩,
    fun _ _ _ hq h => ⟨fun id => not_started_next hq (h.unstarted id),
      fun id => not_reopened_next (reopens_of_quiet hq) (h.unopened id)⟩⟩

variable (t id) in
theorem lasts_holding : Lasts t (Holding t id) :=
  ⟨fun m m' hr h => ⟨(lasts_idle t).rely m m' hr h.toIdle, (own_rely hr).mpr h.claimed⟩,
    fun e i m hq h => ⟨(lasts_idle t).step e i m hq h.toIdle, claimed_next.2 (.inl h.claimed)⟩⟩

variable (t id) in
theorem lasts_owing : Lasts t (Owing t id) :=
  ⟨fun _ _ hr h => ⟨(own_rely hr).mpr h.claimed,
      fun id ho => h.unopened id ((own_rely hr).mp ho)⟩,
    fun _ _ _ hq h => ⟨claimed_next.2 (.inl h.claimed),
      fun id => not_reopened_next (reopens_of_quiet hq) (h.unopened id)⟩⟩

theorem actsAsHolder_of_quiet {e : ApprovalStmt β} {i : Input} (h : e.quiet = true) :
    ActsAsHolder ⟨m, t, e, i⟩ := by
  obtain ⟨hclaims, hstarts, hmoves⟩ := quiet_cases h
  refine ⟨moderate_of_quiet e h, fun id r hc => ?_, fun id hs => ?_,
    fun id statuses hm => absurd hm (hmoves id statuses), fun id hr => ?_⟩
  · rw [hclaims r] at hc; cases hc
  · rw [hstarts] at hs; cases hs
  · rw [reopens_of_quiet h] at hr; cases hr

variable {A : ApprovalMoment → Prop} (hA : Lasts t A)

include hA

theorem safe_quiet {p : Approving α} (hp : Quiet p) (hm : A m) :
    Safe onceContract t (fun _ => A) p m :=
  Safe.of_only (fun m m' hm hr => hA.rely m m' hr hm)
    (fun e i m he _ _ hm => ⟨actsAsHolder_of_quiet he, hA.step e i m he hm⟩) hp hm

theorem safe_ret {Q : Except Err α → ApprovalMoment → Prop} {r : Except Err α}
    (hQ : ∀ m, A m → Q r m) (hm : A m) : Safe onceContract t Q (.ret r) m :=
  fun m' hr _ => hQ m' (hA.rely m m' hr hm)

theorem safe_quiet_bind {Q : Except Err β → ApprovalMoment → Prop} {p : Approving α}
    {f : α → Approving β} (hi : ApprovalMemory m) (hp : Quiet p) (hm : A m)
    (hQ : ∀ x m, A m → Q (.error x) m)
    (hf : ∀ a m, ApprovalMemory m → A m → Safe onceContract t Q (f a) m) :
    Safe onceContract t Q (p >>= f) m :=
  Safe.bind hi (safe_quiet hA hp hm) (fun a m' hi' hm' => hf a m' hi' hm')
    fun x _ _ hm' => safe_ret hA (hQ x) hm'

end Threads

section Approvals

variable {t : Nat} {id : Id} {m : ApprovalMoment} {projectId requestId userId : Id}
  {request : ProductionDeploymentRequest} {tokens : StateTokens}

theorem safe_schedule (hi : ApprovalMemory m) (h : Holding t request.id m) :
    Safe onceContract t (fun _ => Owing t request.id) (schedule projectId request) m := by
  refine safe_quiet_bind (lasts_holding t request.id) hi (quiet_onBase _) h
    (fun _ _ h => h.owing) fun operationId m₁ hi₁ h₁ => ?_
  refine Safe.await_bind fun m₂ i hr hi₂ _ => ?_
  have h₂ := (lasts_holding t request.id).rely m₁ m₂ hr h₁
  refine ⟨⟨rfl, (fun id r hc => by cases hc), fun id hs => ?_, (fun id s hm => by cases hm),
    (fun id hr => by cases hr)⟩, ?_⟩
  · cases hs
    exact ⟨h₂.claimed, h₂.unstarted _, h₂.unopened _⟩
  · have h₃ : Owing t request.id (m₂.next t (.startDeployment request.id operationId) i) :=
      ⟨claimed_next.2 (.inl h₂.claimed), fun id => not_reopened_next rfl (h₂.unopened id)⟩
    exact Safe.onValue (fun _ _ => safe_ret (lasts_owing t request.id) (fun _ h => h) h₃)
      fun _ _ => safe_ret (lasts_owing t request.id) (fun _ h => h) h₃

theorem safe_abandonClaim {stale : Bool} (h : Owing t request.id m) :
    Safe onceContract t (fun _ _ => True) (abandonClaim request.id stale) m := by
  cases stale with
  | true => exact (safe_quiet (lasts_owing t request.id) (.await rfl) h).mono fun _ _ _ _ => trivial
  | false =>
    refine Safe.await fun m' i hr _ _ => ⟨?_, fun _ _ _ => trivial⟩
    have h' := (lasts_owing t request.id).rely m m' hr h
    refine ⟨rfl, fun id r hc => ?_, (fun id hs => by cases hs), (fun id s hm => by cases hm; rfl),
      fun id hreopen => ?_⟩
    · cases r with
      | ok n => cases hc
      | error => cases hc
    · cases hreopen
      exact ⟨h'.claimed, h'.unopened _⟩

theorem lasts_true : Lasts t fun _ => True :=
  ⟨fun _ _ _ _ => trivial, fun _ _ _ _ _ => trivial⟩

/-- `approve` after its claim: whatever fails, the thread owes the request an end, and the catch
branch gives it one. -/
theorem safe_applyApproval (hi : ApprovalMemory m) (h : Holding t request.id m) :
    Safe onceContract t (fun _ _ => True) (applyApproval projectId request) m := by
  refine Safe.andThen (Q := fun _ => Owing t request.id) hi ?_ fun r m₁ hi₁ h₁ => ?_
  · refine safe_quiet_bind (lasts_holding t request.id) hi (.await rfl) h (fun _ _ h => h.owing)
      fun _ m₁ hi₁ h₁ => ?_
    refine Safe.bind hi₁ (safe_schedule hi₁ h₁) (fun operationId m₂ hi₂ h₂ => ?_)
      fun _ _ _ h₂ => safe_ret (lasts_owing t request.id) (fun _ h => h) h₂
    exact safe_quiet (lasts_owing t request.id)
      (.bind (.await rfl) fun _ => .ignoreError (.await rfl)) h₂
  · cases r with
    | ok a => exact safe_ret lasts_true (fun _ h => h) trivial
    | error error =>
      refine Safe.bind hi₁ (safe_abandonClaim h₁) (fun _ m₂ _ _ => ?_)
        fun _ _ _ _ => safe_ret lasts_true (fun _ h => h) trivial
      exact safe_quiet lasts_true (.bind (.ignoreError (.await rfl)) fun _ => .ret _) trivial

theorem safe_claimRequest {note : Option String} {now : Time} (h : Idle t m) :
    Safe onceContract t (fun r m => Idle t m ∧ (r = .ok 1 → Claimed m t requestId))
      (claimRequest requestId userId note now) m := by
  refine Safe.await fun m' i hr _ _ => ?_
  have h' := (lasts_idle t).rely m m' hr h
  have hidle : Idle t (m'.next t (.moveRequest requestId [.pending] .approving
      (reviewData userId note now)) i) :=
    ⟨fun id hs => (started_next.mp hs).elim (h'.unstarted id) (fun hs => by cases hs.2),
      fun id => not_reopened_next rfl (h'.unopened id)⟩
  refine ⟨⟨rfl, fun id r hc => ?_,  (fun id hs => by cases hs), (fun id s hm => by cases hm),
      (fun id hr => by cases hr)⟩, fun m'' hr' _ => ⟨(lasts_idle t).rely _ _ hr' hidle, fun hone => ?_⟩⟩
  · obtain rfl := claims_moveRequest hc
    exact ⟨rfl, h'.unstarted _, h'.unopened _⟩
  · refine (own_rely hr').mpr (claimed_next.mpr (.inr ⟨rfl, ?_⟩))
    rw [hone]
    rfl

theorem safe_approve {note : Option String} (hi : ApprovalMemory m) (h : Idle t m) :
    Safe onceContract t (fun _ _ => True) (approve tokens projectId requestId userId note) m := by
  have hA := lasts_idle t
  refine safe_quiet_bind hA hi quiet_reviewable h (fun _ _ _ => trivial) fun request m₁ hi₁ h₁ =>
    safe_quiet_bind hA hi₁ (reading_matchesCurrentState).quiet h₁ (fun _ _ _ => trivial)
      fun same m₂ hi₂ h₂ => ?_
  split
  · exact safe_quiet lasts_true (.bind (.await rfl) fun _ => .ret _) trivial
  · refine safe_quiet_bind hA hi₂ (quiet_onBase _) h₂ (fun _ _ _ => trivial) fun now m₃ hi₃ h₃ => ?_
    refine Safe.bind hi₃ (safe_claimRequest h₃) (fun claimed m₄ hi₄ h₄ => ?_)
      fun _ _ _ _ => safe_ret lasts_true (fun _ _ => trivial) trivial
    split
    · exact safe_ret lasts_true (fun _ _ => trivial) trivial
    · rename_i hone
      have hholding : Holding t request.id m₄ := ⟨h₄.1, h₄.2 (by rw [not_not.mp hone])⟩
      refine Safe.bind hi₄ (safe_applyApproval hi₄ hholding) (fun _ m₅ _ _ => ?_)
        fun _ _ _ _ => safe_ret lasts_true (fun _ _ => trivial) trivial
      exact safe_quiet lasts_true quiet_latest trivial

theorem safe_request {p : Approving Unit} (hi : ApprovalMemory m) (h : Idle t m)
    (hp : ApprovalRequest tokens m p) : Safe onceContract t (fun _ _ => True) p m := by
  rcases quiet_or_approve hp with hquiet | ⟨projectId, requestId, userId, note, rfl⟩
  · exact safe_quiet lasts_true hquiet trivial
  · exact Safe.andThen hi (safe_approve hi h) fun _ _ _ _ =>
      safe_ret lasts_true (fun _ h => h) trivial

end Approvals

end InitPad
