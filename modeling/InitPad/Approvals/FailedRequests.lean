import InitPad.Approvals.ClosedRequests
import InitPad.Interleave.Sequential

/-!
# InitPad.Approvals.FailedRequests

What a failed `create` leaves behind. Its transaction retires the pending request of the environment
and inserts the new one; when the audit log refuses the new one afterwards, only that row is deleted.
-/

namespace InitPad

open Store Interleave Prog

abbrev ApprovalEvent := Event ApprovalStmt Input Err

def ApprovalStmt.inserted {β : Type} : ApprovalStmt β → Except Err β → Option (Id × Id)
  | .createRequest _ _ snapshot, .ok request => some (snapshot.environmentId, request.id)
  | _, _ => none

def ApprovalStmt.deleted {β : Type} : ApprovalStmt β → Except Err β → Option Id
  | .deletePending requestId, .ok () => some requestId
  | _, _ => none

/-- The statements of a call that began at `m`. -/
def callsSince (m m' : ApprovalMoment) : List ApprovalEvent := m'.history.drop m.history.length

def ApprovalWorld.statuses (w : ApprovalWorld) : List (Id × RequestStatus) :=
  w.requests.rows.map fun r => (r.id, r.status)

def ApprovalWorld.Quiescent (w : ApprovalWorld) (environmentId : Id) : Prop :=
  ∀ r ∈ w.requests.rows, r.snapshot.environmentId = environmentId → r.status ≠ .pending

/-- The call inserted no request; or it found none pending, and its compensation was carried out. -/
def Undone (m m' : ApprovalMoment) : Prop :=
  ∀ ev ∈ callsSince m m', ∀ environmentId requestId,
    ev.stmt.inserted ev.result = some (environmentId, requestId) →
      m.state.Quiescent environmentId ∧
        ∃ ev' ∈ callsSince m m', ev'.stmt.deleted ev'.result = some requestId

/-- The part of `create` behind its reads. -/
def submit (projectId userId : Id) (snapshot : ProductionSnapshot) : Approving RequestView := do
  let request ← tryCatch (await (.createRequest projectId userId snapshot)) fun error =>
    if error = .uniqueViolation then throw (.conflict
      "Another production request was created at the same time. Reload and review it.")
    else throw error
  tryCatch (await (.recordAudit request.id .requested)) fun error => do
    await (.deletePending request.id)
    throw error
  toView request userId

section Reads

variable {α : Type} {m m' m₁ : ApprovalMoment}

/-- The call went from `m` to `m'` with reads only. -/
def ReadsUntil (m m' : ApprovalMoment) : Prop :=
  m'.state = m.state ∧ ∃ evs, m'.history = m.history ++ evs ∧
    ∀ ev ∈ evs, ev.stmt.reads = true

theorem ReadsUntil.trans (h : ReadsUntil m m₁) (h' : ReadsUntil m₁ m') : ReadsUntil m m' := by
  obtain ⟨hstate, evs, hhistory, hreads⟩ := h
  obtain ⟨hstate', evs', hhistory', hreads'⟩ := h'
  refine ⟨hstate'.trans hstate, evs ++ evs', ?_, fun ev hev => ?_⟩
  · rw [hhistory', hhistory, List.append_assoc]
  · rcases List.mem_append.mp hev with hev | hev
    · exact hreads ev hev
    · exact hreads' ev hev

theorem Reading.until {p : Approving α} (hp : Reading p) {r : Except Err α} (h : Ends p m r m') :
    ReadsUntil m m' := by
  obtain ⟨evs, hhistory, hreads⟩ := h.events hp
  refine ⟨?_, evs, hhistory, hreads⟩
  have hstep : ∀ {γ : Type} (e : ApprovalStmt γ) (i : Input) (m₁ : ApprovalMoment),
      e.reads = true → m₁.state = m.state → (m₁.next 0 e i).state = m.state := by
    intro γ e i m₁ he hm₁
    rw [Moment.next_state, state_of_reads he, hm₁]
  exact Ends.keeps (A := fun m₁ => m₁.state = m.state) hstep hp h rfl

end Reads

section Calls

variable {tokens : StateTokens} {projectId userId : Id} {input : CreateInput}
  {m m' : ApprovalMoment} {x : Err}

theorem ends_createRequest_error
    (h : Ends (createRequest tokens projectId userId input) m (.error x) m') :
    ReadsUntil m m' ∨ ∃ m₁ snapshot, ReadsUntil m m₁ ∧
      Ends (submit projectId userId snapshot) m₁ (.error x) m' := by
  rcases ends_bind.mp h with ⟨_, m₁, hproject, h⟩ | ⟨_, hproject, _⟩
  · rcases ends_bind.mp h with ⟨snapshot, m₂, hsnapshot, h⟩ | ⟨_, hsnapshot, _⟩
    · rcases ends_bind.mp h with ⟨_, m₃, huser, h⟩ | ⟨_, huser, _⟩
      · exact .inr ⟨m₃, snapshot, ((reading_requireProject.until hproject).trans
          (reading_snapshot.until hsnapshot)).trans (reading_requireUser.until huser), h⟩
      · exact .inl (((reading_requireProject.until hproject).trans
          (reading_snapshot.until hsnapshot)).trans (reading_requireUser.until huser))
    · exact .inl ((reading_requireProject.until hproject).trans
        (reading_snapshot.until hsnapshot))
  · exact .inl (reading_requireProject.until hproject)

/-- How the part behind the reads fails. -/
inductive SubmitFails (projectId userId : Id) (snapshot : ProductionSnapshot)
    (m m' : ApprovalMoment) : Prop where
  | rejected (i : Input) (x : Err) :
      (exec (ApprovalStmt.createRequest projectId userId snapshot) i m.state).1 = .error x →
      m' = m.next 0 (.createRequest projectId userId snapshot) i →
      SubmitFails projectId userId snapshot m m'
  | unrecorded (i j k : Input) (request : ProductionDeploymentRequest) :
      (exec (ApprovalStmt.createRequest projectId userId snapshot) i m.state).1 = .ok request →
      m' = ((m.next 0 (.createRequest projectId userId snapshot) i).next 0
        (.recordAudit request.id .requested) j).next 0 (.deletePending request.id) k →
      SubmitFails projectId userId snapshot m m'
  | unseen (i j : Input) (request : ProductionDeploymentRequest) :
      (exec (ApprovalStmt.createRequest projectId userId snapshot) i m.state).1 = .ok request →
      ReadsUntil ((m.next 0 (.createRequest projectId userId snapshot) i).next 0
        (.recordAudit request.id .requested) j) m' →
      SubmitFails projectId userId snapshot m m'

theorem submitFails {snapshot : ProductionSnapshot}
    (h : Ends (submit projectId userId snapshot) m (.error x) m') :
    SubmitFails projectId userId snapshot m m' := by
  rcases ends_bind.mp h with ⟨request, m₁, hcreate, h⟩ | ⟨y, hcreate, _⟩
  · rcases ends_tryCatch.mp hcreate with ⟨_, hcreate, hok⟩ | ⟨_, _, _, hthrow⟩
    · cases hok
      obtain ⟨i, hi, rfl⟩ := ends_await.mp hcreate
      rcases ends_bind.mp h with ⟨_, m₂, haudit, h⟩ | ⟨_, haudit, _⟩
      · rcases ends_tryCatch.mp haudit with ⟨_, haudit, _⟩ | ⟨_, _, _, hdelete⟩
        · obtain ⟨j, _, rfl⟩ := ends_await.mp haudit
          exact .unseen i j request hi.symm (reading_toView.until h)
        · obtain ⟨_, _, _, hthrow⟩ := ends_bind_ok.mp hdelete
          obtain ⟨hr, _⟩ := ends_throw.mp hthrow
          cases hr
      · rcases ends_tryCatch.mp haudit with ⟨_, _, hok⟩ | ⟨_, m₂, haudit, hdelete⟩
        · cases hok
        · obtain ⟨j, _, rfl⟩ := ends_await.mp haudit
          rcases ends_bind.mp hdelete with ⟨_, m₃, hdelete, hthrow⟩ | ⟨_, hdelete, _⟩
          · obtain ⟨k, _, rfl⟩ := ends_await.mp hdelete
            obtain ⟨_, rfl⟩ := ends_throw.mp hthrow
            exact .unrecorded i j k request hi.symm rfl
          · obtain ⟨k, _, rfl⟩ := ends_await.mp hdelete
            exact .unrecorded i j k request hi.symm rfl
    · split at hthrow
      · obtain ⟨hr, _⟩ := ends_throw.mp hthrow
        cases hr
      · obtain ⟨hr, _⟩ := ends_throw.mp hthrow
        cases hr
  · rcases ends_tryCatch.mp hcreate with ⟨_, _, hok⟩ | ⟨z, m₁, hcreate, hthrow⟩
    · cases hok
    · obtain ⟨i, hi, rfl⟩ := ends_await.mp hcreate
      split at hthrow
      · obtain ⟨_, rfl⟩ := ends_throw.mp hthrow
        exact .rejected i z hi.symm rfl
      · obtain ⟨_, rfl⟩ := ends_throw.mp hthrow
        exact .rejected i z hi.symm rfl

end Calls

/-! ## What the failed call leaves -/

/-- What the transaction of `create` does to an older request. -/
def retire (snapshot : ProductionSnapshot) (r : ProductionDeploymentRequest) :
    ProductionDeploymentRequest :=
  if r.snapshot.environmentId == snapshot.environmentId && r.status == .pending then
    r.move .stale { reviewNote := some (some "Replaced by a newer production request") }
  else r

section Effects

variable {projectId userId : Id} {snapshot : ProductionSnapshot} {i j k : Input}
  {w : ApprovalWorld} {request : ProductionDeploymentRequest}

theorem retire_of_not {r : ProductionDeploymentRequest}
    (h : r.snapshot.environmentId = snapshot.environmentId → r.status ≠ .pending) :
    retire snapshot r = r := by
  unfold retire
  split
  · rename_i hr
    simp only [Bool.and_eq_true, beq_iff_eq] at hr
    exact absurd hr.2 (h hr.1)
  · rfl

theorem retire_status {r : ProductionDeploymentRequest}
    (hsnapshot : r.snapshot.environmentId = snapshot.environmentId) (hstatus : r.status = .pending) :
    (retire snapshot r).status = .stale := by
  unfold retire
  rw [if_pos (by simp [hsnapshot, hstatus])]
  rfl

theorem retire_id (r : ProductionDeploymentRequest) : (retire snapshot r).id = r.id := by
  unfold retire
  split <;> rfl

theorem exec_createRequest : exec (ApprovalStmt.createRequest projectId userId snapshot) i w =
    if i.fault then (.error .databaseFault, w) else w.createRequest projectId userId snapshot := by
  change (if i.fault && !false then _ else _) = _
  cases i.fault <;> rfl

theorem createRequest_error {x : Err}
    (h : (exec (ApprovalStmt.createRequest projectId userId snapshot) i w).1 = .error x) :
    (exec (ApprovalStmt.createRequest projectId userId snapshot) i w).2 = w := by
  rw [exec_createRequest] at h ⊢
  cases hfault : i.fault with
  | true => rfl
  | false =>
    rw [hfault, if_neg Bool.false_ne_true] at h
    rw [if_neg Bool.false_ne_true]
    unfold ApprovalWorld.createRequest at h ⊢
    dsimp only at h ⊢
    split at h
    · rename_i hcount
      rw [if_pos hcount]
    · cases h

theorem createRequest_ok
    (h : (exec (ApprovalStmt.createRequest projectId userId snapshot) i w).1 = .ok request) :
    (exec (ApprovalStmt.createRequest projectId userId snapshot) i w).2.requests.rows =
        w.requests.rows.map (retire snapshot) ++ [request] ∧
      request.id = w.nextRequestId ∧ request.snapshot = snapshot ∧ request.status = .pending := by
  rw [exec_createRequest] at h ⊢
  cases hfault : i.fault with
  | true =>
    rw [hfault] at h
    cases h
  | false =>
    rw [hfault, if_neg Bool.false_ne_true] at h
    rw [if_neg Bool.false_ne_true]
    unfold ApprovalWorld.createRequest at h ⊢
    dsimp only at h ⊢
    split at h
    · cases h
    · rename_i hcount
      rw [if_neg hcount]
      cases h
      exact ⟨rfl, rfl, rfl, rfl⟩

theorem state_recordAudit {requestId : Id} {action : AuditAction} :
    (exec (ApprovalStmt.recordAudit requestId action) i w).2 = w := by
  change (if i.fault && !false then (_, w) else (_, w)).2 = w
  split <;> rfl

theorem exec_deletePending {requestId : Id} :
    exec (ApprovalStmt.deletePending requestId) i w =
      if i.fault then (.error .databaseFault, w) else
        (.ok (), { w with requests :=
          ⟨w.requests.rows.filter fun r => !(r.id == requestId && r.status == .pending)⟩ }) := by
  change (if i.fault && !false then _ else _) = _
  cases i.fault <;> rfl

theorem deleted_deletePending {requestId : Id} : (ApprovalStmt.deletePending requestId).deleted
    (exec (ApprovalStmt.deletePending requestId) k w).1 =
      if k.fault then none else some requestId := by
  rw [exec_deletePending]
  cases k.fault <;> rfl

theorem filter_retired (hfresh : ∀ r ∈ w.requests.rows, r.id < w.nextRequestId)
    (hid : request.id = w.nextRequestId) (hstatus : request.status = .pending) :
    (w.requests.rows.map (retire snapshot) ++ [request]).filter
        (fun r => !(r.id == request.id && r.status == .pending)) =
      w.requests.rows.map (retire snapshot) := by
  have hold : ∀ r ∈ w.requests.rows.map (retire snapshot),
      (!(r.id == request.id && r.status == .pending)) = true := by
    intro r hr
    obtain ⟨r₀, hr₀, rfl⟩ := List.mem_map.mp hr
    have hlt := hfresh r₀ hr₀
    have hne : (retire snapshot r₀).id ≠ request.id := by
      rw [retire_id, hid]
      exact Nat.ne_of_lt hlt
    simp [hne]
  rw [List.filter_append, List.filter_eq_self.mpr hold]
  simp [hstatus]

theorem statuses_retired :
    (w.requests.rows.map (retire snapshot)).map (fun r => (r.id, r.status)) = w.statuses ↔
      w.Quiescent snapshot.environmentId := by
  unfold ApprovalWorld.statuses
  rw [List.map_map, List.map_inj_left]
  constructor
  · intro h r hr hsnapshot hstatus
    have hpair := congrArg Prod.snd (h r hr)
    change (retire snapshot r).status = r.status at hpair
    rw [retire_status hsnapshot hstatus, hstatus] at hpair
    cases hpair
  · intro h r hr
    change ((retire snapshot r).id, (retire snapshot r).status) = _
    rw [retire_of_not (h r hr)]

theorem map_retire_of_quiescent (h : w.Quiescent snapshot.environmentId) :
    w.requests.rows.map (retire snapshot) = w.requests.rows := by
  conv => rhs; rw [← List.map_id w.requests.rows]
  exact List.map_congr_left fun r hr => retire_of_not (h r hr)

end Effects

section Outcome

variable {projectId userId : Id} {snapshot : ProductionSnapshot} {m m' m₁ : ApprovalMoment}

theorem callsSince_eq {evs : List ApprovalEvent} (h : m'.history = m.history ++ evs) :
    callsSince m m' = evs := by
  unfold callsSince
  rw [h, List.drop_left]

theorem inserted_of_reads {β : Type} {e : ApprovalStmt β} (h : e.reads = true) (r : Except Err β) :
    e.inserted r = none := by
  cases e with
  | createRequest => cases h
  | _ => rfl

theorem deleted_of_reads {β : Type} {e : ApprovalStmt β} (h : e.reads = true) (r : Except Err β) :
    e.deleted r = none := by
  cases e with
  | deletePending => cases h
  | _ => rfl

theorem undone_of_reads (h : ReadsUntil m m') : Undone m m' := by
  obtain ⟨_, evs, hhistory, hreads⟩ := h
  intro ev hev environmentId requestId hinserted
  rw [callsSince_eq hhistory] at hev
  rw [inserted_of_reads (hreads ev hev)] at hinserted
  cases hinserted

theorem ReadsUntil.undone_iff (h : ReadsUntil m m₁) (hafter : ∃ evs, m'.history = m₁.history ++ evs) :
    Undone m m' ↔ Undone m₁ m' := by
  obtain ⟨hstate, evs, hhistory, hreads⟩ := h
  obtain ⟨evs', hafter⟩ := hafter
  have hall : callsSince m m' = evs ++ evs' :=
    callsSince_eq (by rw [hafter, hhistory, List.append_assoc])
  unfold Undone
  rw [hall, callsSince_eq hafter, hstate]
  constructor
  · intro h ev hev environmentId requestId hinserted
    obtain ⟨hquiescent, ev', hev', hdeleted⟩ :=
      h ev (List.mem_append_right _ hev) environmentId requestId hinserted
    refine ⟨hquiescent, ev', ?_, hdeleted⟩
    rcases List.mem_append.mp hev' with hev' | hev'
    · rw [deleted_of_reads (hreads ev' hev')] at hdeleted
      cases hdeleted
    · exact hev'
  · intro h ev hev environmentId requestId hinserted
    rcases List.mem_append.mp hev with hev | hev
    · rw [inserted_of_reads (hreads ev hev)] at hinserted
      cases hinserted
    · obtain ⟨hquiescent, ev', hev', hdeleted⟩ := h ev hev environmentId requestId hinserted
      exact ⟨hquiescent, ev', List.mem_append_right _ hev', hdeleted⟩

theorem statuses_ne {request : ProductionDeploymentRequest} {w w' : ApprovalWorld}
    (h : w'.requests.rows = w.requests.rows.map (retire snapshot) ++ [request]) :
    w'.statuses ≠ w.statuses := by
  intro heq
  have hlength := congrArg List.length heq
  unfold ApprovalWorld.statuses at hlength
  rw [h] at hlength
  simp at hlength

theorem undone_iff_of_created {i : Input} {request : ProductionDeploymentRequest}
    {rest : List ApprovalEvent}
    (hok : (exec (ApprovalStmt.createRequest projectId userId snapshot) i m.state).1 = .ok request)
    (hhistory : m'.history = (m.next 0 (.createRequest projectId userId snapshot) i).history ++ rest)
    (hrest : ∀ ev ∈ rest, ev.stmt.inserted ev.result = none) :
    Undone m m' ↔ m.state.Quiescent snapshot.environmentId ∧
      ∃ ev ∈ rest, ev.stmt.deleted ev.result = some request.id := by
  rw [Moment.next_history, hok, List.append_assoc] at hhistory
  have hcalls := callsSince_eq hhistory
  unfold Undone
  rw [hcalls]
  constructor
  · intro h
    obtain ⟨hquiescent, ev, hev, hdeleted⟩ :=
      h _ (List.mem_append_left _ (List.mem_singleton.mpr rfl)) snapshot.environmentId request.id rfl
    refine ⟨hquiescent, ev, ?_, hdeleted⟩
    rcases List.mem_append.mp hev with hev | hev
    · rw [List.mem_singleton.mp hev] at hdeleted
      cases hdeleted
    · exact hev
  · rintro ⟨hquiescent, ev', hev', hdeleted⟩ ev hev environmentId requestId hinserted
    rcases List.mem_append.mp hev with hev | hev
    · rw [List.mem_singleton.mp hev] at hinserted
      cases hinserted
      exact ⟨hquiescent, ev', List.mem_append_right _ hev', hdeleted⟩
    · rw [hrest ev hev] at hinserted
      cases hinserted

theorem SubmitFails.statuses (hfresh : ∀ r ∈ m.state.requests.rows, r.id < m.state.nextRequestId)
    (h : SubmitFails projectId userId snapshot m m') :
    (m'.state.statuses = m.state.statuses ↔ Undone m m') ∧
      (Undone m m' → m'.state.requests.rows = m.state.requests.rows) := by
  cases h with
  | rejected i x herror hm' =>
    subst hm'
    have hstate := createRequest_error herror
    have hundone : Undone m (m.next 0 (.createRequest projectId userId snapshot) i) := by
      intro ev hev environmentId requestId hinserted
      rw [callsSince_eq (Moment.next_history ..), List.mem_singleton] at hev
      rw [hev] at hinserted
      change ApprovalStmt.inserted _ (exec _ i m.state).1 = _ at hinserted
      rw [herror] at hinserted
      cases hinserted
    rw [Moment.next_state, hstate]
    exact ⟨iff_of_true rfl hundone, fun _ => rfl⟩
  | unrecorded i j k request hok hm' =>
    subst hm'
    obtain ⟨hrows, hid, _, hstatus⟩ := createRequest_ok hok
    rw [undone_iff_of_created hok (List.append_assoc ..) (by simp [ApprovalStmt.inserted])]
    simp only [List.singleton_append, List.mem_cons, List.not_mem_nil, or_false, exists_eq_or_imp,
      exists_eq_left, Moment.next_state, state_recordAudit, deleted_deletePending]
    rw [exec_deletePending]
    cases hfault : k.fault with
    | true =>
      refine ⟨iff_of_false (statuses_ne hrows) ?_, ?_⟩
      · rintro ⟨_, hdeleted | hdeleted⟩ <;> cases hdeleted
      · rintro ⟨_, hdeleted | hdeleted⟩ <;> cases hdeleted
    | false =>
      rw [if_neg Bool.false_ne_true, hrows, filter_retired hfresh hid hstatus]
      refine ⟨?_, fun h => map_retire_of_quiescent h.1⟩
      exact statuses_retired.trans ⟨fun h => ⟨h, .inr rfl⟩, fun h => h.1⟩
  | unseen i j request hok hreads =>
    obtain ⟨hrows, _⟩ := createRequest_ok hok
    obtain ⟨hstate, evs, hhistory, hreads⟩ := hreads
    rw [Moment.next_state, state_recordAudit, Moment.next_state] at hstate
    have hundone : ¬ Undone m m' := by
      rw [undone_iff_of_created hok (hhistory.trans (List.append_assoc ..))]
      · rintro ⟨_, ev, hev, hdeleted⟩
        rcases List.mem_append.mp hev with hev | hev
        · rw [List.mem_singleton.mp hev] at hdeleted
          cases hdeleted
        · rw [deleted_of_reads (hreads ev hev)] at hdeleted
          cases hdeleted
      · intro ev hev
        rcases List.mem_append.mp hev with hev | hev
        · rw [List.mem_singleton.mp hev]
          rfl
        · exact inserted_of_reads (hreads ev hev) _
    rw [hstate]
    exact ⟨iff_of_false (statuses_ne hrows) hundone, fun h => absurd h hundone⟩

end Outcome

/-- A failed `create` leaves the requests and their statuses as they were exactly if it inserted no
request, or if no request of the environment was pending and its compensation was carried out. -/
theorem failed_request {tokens : StateTokens} {projectId userId : Id} {input : CreateInput}
    {m m' : ApprovalMoment} {x : Err} (hw : m.state.WellKept)
    (h : Ends (createRequest tokens projectId userId input) m (.error x) m') :
    (m'.state.statuses = m.state.statuses ↔ Undone m m') ∧
      (Undone m m' → m'.state.requests.rows = m.state.requests.rows) := by
  rcases ends_createRequest_error h with hreads | ⟨m₁, snapshot, hreads, hsubmit⟩
  · rw [hreads.1]
    exact ⟨iff_of_true rfl (undone_of_reads hreads), fun _ => rfl⟩
  · rw [hreads.undone_iff hsubmit.history, ← hreads.1]
    exact (submitFails hsubmit).statuses (by rw [hreads.1]; exact hw.fresh)

/-- The audit log refuses the first request of the environment; the compensation deletes it. -/
theorem failed_request_first : ∃ (m' : ApprovalMoment) (x : Err),
    Ends (createRequest sampleTokens 0 1 ⟨.redeploy, none, none⟩)
      (⟨productionWorld, []⟩ : ApprovalMoment) (.error x) m' ∧
        Undone ⟨productionWorld, []⟩ m' ∧ m'.state.statuses = productionWorld.statuses := by
  obtain ⟨r, m', hends, hcheck⟩ := ends_of_performs
    (createRequest sampleTokens 0 1 ⟨.redeploy, none, none⟩)
    [{}, {}, {}, {}, {}, { fault := true }, {}] (⟨productionWorld, []⟩ : ApprovalMoment)
    (fun r m' => r.toOption.isNone && m'.state.statuses == []) (by decide)
  simp only [Bool.and_eq_true, beq_iff_eq] at hcheck
  cases r with
  | ok => cases hcheck.1
  | error x =>
    have hstatuses : m'.state.statuses = productionWorld.statuses := hcheck.2
    exact ⟨m', x, hends, (failed_request productionWorld_wellKept hends).1.mp hstatuses, hstatuses⟩

def samplePending : ProductionDeploymentRequest where
  id := 0
  projectId := 0
  requestedById := 1
  snapshot :=
    { candidate := ⟨.redeploy, .stage .prod, none, none, "v1", none, none⟩
      workspaceId := 0
      environmentId := sampleEnvironment.id
      targetId := none
      allocationId := none
      provider := .docker
      configRevision := 0
      targetRevision := none
      allocationRevision := none
      policy := .selfReview
      stateToken := "v1" }
  status := .pending
  reviewedById := none
  reviewedAt := none
  reviewNote := none
  deploymentOperationId := none

def pendingWorld : ApprovalWorld :=
  { productionWorld with requests := ⟨[samplePending]⟩, nextRequestId := 1 }

theorem pendingWorld_wellKept : pendingWorld.WellKept where
  unique := List.nodup_singleton _
  fresh := by
    intro r hr
    rw [List.mem_singleton.mp hr]
    exact Nat.zero_lt_one
  oneLive := by
    intro r hr r' hr' _ _ _
    rw [List.mem_singleton.mp hr, List.mem_singleton.mp hr']

/-- The audit log refuses the second request of the environment; the first one stays retired. -/
theorem failed_request_retires : ¬ ∀ (tokens : StateTokens) (projectId userId : Id)
    (input : CreateInput) (m m' : ApprovalMoment) (x : Err), m.state.WellKept →
      Ends (createRequest tokens projectId userId input) m (.error x) m' →
        m'.state.statuses = m.state.statuses := by
  intro h
  obtain ⟨r, m', hends, hcheck⟩ := ends_of_performs
    (createRequest sampleTokens 0 1 ⟨.redeploy, none, none⟩)
    [{}, {}, {}, {}, {}, { fault := true }, {}] (⟨pendingWorld, []⟩ : ApprovalMoment)
    (fun r m' => r.toOption.isNone && m'.state.statuses == [(0, .stale)]) (by decide)
  simp only [Bool.and_eq_true, beq_iff_eq] at hcheck
  cases r with
  | ok => cases hcheck.1
  | error x =>
    have hstatuses := h _ _ _ _ _ m' x pendingWorld_wellKept hends
    rw [hcheck.2] at hstatuses
    cases hstatuses

end InitPad
