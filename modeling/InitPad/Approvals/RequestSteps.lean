import InitPad.Approvals.Review

/-!
# InitPad.Approvals.RequestSteps

What one statement can do to the production requests: change rows one by one (`RequestStep`), delete
a pending row, and add a pending row to an environment without a live one. The programs move a
request only from a live status (`Moderate`), with one exception: the update by id of `approve`.
-/

namespace InitPad

open Store Interleave Prog

section Signature

variable {β : Type}

def ApprovalStmt.moves : ApprovalStmt β → Option (Id × List RequestStatus × RequestStatus)
  | .moveRequest requestId statuses status _ => some (requestId, statuses, status)
  | _ => none

def ApprovalStmt.approves : ApprovalStmt β → Option (Id × Id)
  | .approveRequest requestId operationId => some (requestId, operationId)
  | _ => none

def ApprovalStmt.replaces : ApprovalStmt β → Option Id
  | .createRequest _ _ snapshot => some snapshot.environmentId
  | _ => none

/-- The change that `e` may make to one request. -/
inductive RequestStep (e : ApprovalStmt β) (r r' : ProductionDeploymentRequest) : Prop where
  | kept : r' = r → RequestStep e r r'
  | moved {statuses : List RequestStatus} {status : RequestStatus} {data : ReviewData} :
      e.moves = some (r.id, statuses, status) → r.status ∈ statuses → r' = r.move status data →
      RequestStep e r r'
  | approved {operationId : Id} : e.approves = some (r.id, operationId) →
      r' = { r with status := .approved, deploymentOperationId := some operationId } →
      RequestStep e r r'
  | replaced {data : ReviewData} : e.replaces = some r.snapshot.environmentId →
      r.status = .pending → r' = r.move .stale data → RequestStep e r r'

/-- The request that `e` may add; `u` is what it does to the others. -/
inductive AddsRequest (e : ApprovalStmt β) (w : ApprovalWorld)
    (u : ProductionDeploymentRequest → ProductionDeploymentRequest) (w' : ApprovalWorld) :
    List ProductionDeploymentRequest → Prop where
  | nothing : w'.nextRequestId = w.nextRequestId → AddsRequest e w u w' []
  | created {r : ProductionDeploymentRequest} : r.id = w.nextRequestId → r.status = .pending →
      w'.nextRequestId = w.nextRequestId + 1 →
      (∀ x ∈ w.requests.rows, (u x).snapshot.environmentId = r.snapshot.environmentId →
        (u x).live = false) → AddsRequest e w u w' [r]

/-- The table after `e`: some pending rows are gone, the others rewritten, at most one is new. -/
def RequestsAfter (e : ApprovalStmt β) (w w' : ApprovalWorld) : Prop :=
  ∃ (keep : ProductionDeploymentRequest → Bool)
    (u : ProductionDeploymentRequest → ProductionDeploymentRequest)
    (added : List ProductionDeploymentRequest),
    w'.requests.rows = (w.requests.rows.filter keep).map u ++ added ∧
      (∀ r, keep r = false → r.status = .pending) ∧ (∀ r, RequestStep e r (u r)) ∧
        AddsRequest e w u w' added

variable {e : ApprovalStmt β} {i : Input} {w w' : ApprovalWorld}

theorem request?_updateRequests {p : ProductionDeploymentRequest → Bool}
    {d : ProductionDeploymentRequest → ProductionDeploymentRequest} {id : Id}
    (hd : ∀ r, (d r).id = r.id) : (w.updateRequests p d).request? id =
      (w.request? id).map fun r => if p r then d r else r :=
  Table.find?_updateMany _ _ hd id

theorem filter_kept (rows : List ProductionDeploymentRequest) :
    rows.filter (fun _ => true) = rows := List.filter_eq_self.mpr fun _ _ => rfl

theorem pending_of_dropped (r : ProductionDeploymentRequest) (h : true = false) :
    r.status = .pending := Bool.noConfusion h

theorem requestsAfter_kept (h : w'.requests = w.requests)
    (hnext : w'.nextRequestId = w.nextRequestId) : RequestsAfter e w w' :=
  ⟨fun _ => true, id, [], by simp [h], pending_of_dropped, fun _ => .kept rfl, .nothing hnext⟩

theorem requestsAfter_updated {p : ProductionDeploymentRequest → Bool}
    {d : ProductionDeploymentRequest → ProductionDeploymentRequest}
    (hw : w'.requests = w.requests.updateMany p d) (hnext : w'.nextRequestId = w.nextRequestId)
    (h : ∀ r, p r = true → RequestStep e r (d r)) : RequestsAfter e w w' := by
  refine ⟨fun _ => true, fun r => if p r then d r else r, [], by simp [hw, Table.updateMany],
    pending_of_dropped, fun r => ?_, .nothing hnext⟩
  by_cases hp : p r = true
  · simp only [hp, if_true]; exact h r hp
  · simp only [hp]; exact .kept rfl

/-- What `createRequest` does to the request that it replaces. -/
def replacedBy (snapshot : ProductionSnapshot) (r : ProductionDeploymentRequest) :
    ProductionDeploymentRequest :=
  if r.snapshot.environmentId == snapshot.environmentId && r.status == .pending then
    r.move .stale { reviewNote := some (some "Replaced by a newer production request") }
  else r

theorem requests_createRequest {projectId userId : Id} {snapshot : ProductionSnapshot}
    (w : ApprovalWorld) : RequestsAfter (.createRequest projectId userId snapshot) w
      (w.createRequest projectId userId snapshot).2 := by
  simp only [ApprovalWorld.createRequest]
  split
  · exact requestsAfter_kept rfl rfl
  · rename_i hnone
    refine ⟨fun _ => true, replacedBy snapshot, _, by rw [filter_kept]; rfl,
      pending_of_dropped, fun r => ?_, .created rfl rfl rfl ?_⟩
    · unfold replacedBy
      split
      · rename_i hp
        simp only [Bool.and_eq_true, beq_iff_eq] at hp
        exact .replaced (by rw [hp.1]; rfl) hp.2 rfl
      · exact .kept rfl
    · intro x hx henv
      have hmem : replacedBy snapshot x ∈ w.requests.rows.map (replacedBy snapshot) :=
        List.mem_map_of_mem hx
      have hrow := (Table.count_eq_zero_iff _ _).mp (not_not.mp hnone) _ hmem
      simpa [henv] using hrow

theorem requests_run (e : ApprovalStmt β) (i : Input) (w : ApprovalWorld) :
    RequestsAfter e w (e.run i w).2 := by
  cases e with
  | base | query | recordAudit | startDeployment => exact requestsAfter_kept rfl rfl
  | createRequest => exact requests_createRequest w
  | deletePending requestId =>
    refine ⟨fun r => !(r.id == requestId && r.status == .pending), id, [],
      by rw [List.map_id, List.append_nil]; rfl, fun r hr => ?_, fun _ => .kept rfl, .nothing rfl⟩
    simp only [Bool.not_eq_false', Bool.and_eq_true, beq_iff_eq] at hr
    exact hr.2
  | moveRequest requestId statuses status data =>
    refine requestsAfter_updated rfl rfl fun r hr => ?_
    simp only [Bool.and_eq_true, beq_iff_eq, List.contains_iff_mem] at hr
    exact .moved (by rw [hr.1]; rfl) hr.2 rfl
  | approveRequest requestId operationId =>
    simp only [ApprovalStmt.run, ApprovalWorld.approveRequest]
    split
    · exact requestsAfter_kept rfl rfl
    · split
      · exact requestsAfter_kept rfl rfl
      · refine requestsAfter_updated rfl rfl fun r hr => ?_
        exact .approved (by rw [beq_iff_eq.mp hr]; rfl) rfl

theorem requests_exec (e : ApprovalStmt β) (i : Input) (w : ApprovalWorld) :
    RequestsAfter e w (exec e i w).2 := by
  change RequestsAfter e w (if i.fault && !e.inProcess then _ else e.run i w).2
  split
  · exact requestsAfter_kept rfl rfl
  · exact requests_run e i w

theorem RequestStep.id {r r' : ProductionDeploymentRequest} (h : RequestStep e r r') :
    r'.id = r.id := by
  cases h with
  | kept h => rw [h]
  | moved _ _ h => rw [h]; rfl
  | approved _ h => rw [h]
  | replaced _ _ h => rw [h]; rfl

theorem RequestStep.environmentId {r r' : ProductionDeploymentRequest} (h : RequestStep e r r') :
    r'.snapshot.environmentId = r.snapshot.environmentId := by
  cases h with
  | kept h => rw [h]
  | moved _ _ h => rw [h]; rfl
  | approved _ h => rw [h]
  | replaced _ _ h => rw [h]; rfl

end Signature

/-! ## Moderate statements -/

def ApprovalStmt.moderate {β : Type} : ApprovalStmt β → Bool
  | .moveRequest _ statuses _ _ => statuses.all RequestStatus.live
  | _ => true

/-- The statement closes requests at most; it neither claims nor reopens one, and starts nothing. -/
def ApprovalStmt.quiet {β : Type} : ApprovalStmt β → Bool
  | .moveRequest _ statuses status _ => statuses.all RequestStatus.live && !status.live
  | .startDeployment .. => false
  | _ => true

def Moderate {α : Type} (p : Approving α) : Prop := p.Only fun e => e.moderate = true

def Quiet {α : Type} (p : Approving α) : Prop := p.Only fun e => e.quiet = true

theorem moderate_of_quiet {β : Type} (e : ApprovalStmt β) (h : e.quiet = true) :
    e.moderate = true := by
  cases e with
  | moveRequest =>
    simp only [ApprovalStmt.quiet, Bool.and_eq_true] at h
    exact h.1
  | _ => rfl

theorem Quiet.moderate {α : Type} {p : Approving α} (h : Quiet p) : Moderate p :=
  Only.mono moderate_of_quiet h

section Tables

variable {β : Type} {e : ApprovalStmt β} {i : Input} {w w' : ApprovalWorld}

theorem live_of_moves {r : ProductionDeploymentRequest} {statuses : List RequestStatus}
    {status : RequestStatus} (hm : e.moderate = true)
    (h : e.moves = some (r.id, statuses, status)) (hs : r.status ∈ statuses) : r.live = true := by
  cases e with
  | moveRequest =>
    cases h
    exact List.all_eq_true.mp hm _ hs
  | _ => cases h

theorem RequestStep.live {r r' : ProductionDeploymentRequest} (h : RequestStep e r r')
    (hm : e.moderate = true) (hlive : r'.live = true) : r.live = true := by
  cases h with
  | kept h => rw [← h]; exact hlive
  | moved hmoves hs _ => exact live_of_moves hm hmoves hs
  | approved _ h => rw [h] at hlive; cases hlive
  | replaced _ hs _ => rw [ProductionDeploymentRequest.live, hs]; rfl

/-- The keys of the table, and the partial unique index. -/
structure ApprovalWorld.WellKept (w : ApprovalWorld) : Prop where
  unique : w.requests.Unique
  fresh : ∀ r ∈ w.requests.rows, r.id < w.nextRequestId
  oneLive : ∀ r ∈ w.requests.rows, ∀ r' ∈ w.requests.rows,
    r.snapshot.environmentId = r'.snapshot.environmentId → r.live = true → r'.live = true → r = r'

theorem RequestsAfter.row (h : RequestsAfter e w w') {r' : ProductionDeploymentRequest}
    (hr' : r' ∈ w'.requests.rows) : (∃ r ∈ w.requests.rows, RequestStep e r r') ∨
      (r'.id = w.nextRequestId ∧ r'.status = .pending) := by
  obtain ⟨keep, u, added, hrows, _, hu, hadded⟩ := h
  rw [hrows] at hr'
  rcases List.mem_append.mp hr' with hr' | hr'
  · obtain ⟨r, hr, rfl⟩ := List.mem_map.mp hr'
    exact .inl ⟨r, (List.mem_filter.mp hr).1, hu r⟩
  · cases hadded with
    | nothing => cases hr'
    | created hid hs _ _ =>
      rw [List.mem_singleton.mp hr']
      exact .inr ⟨hid, hs⟩

theorem wellKept_after (h : RequestsAfter e w w') (hm : e.moderate = true) (hw : w.WellKept) :
    w'.WellKept := by
  obtain ⟨keep, u, added, hrows, _, hu, hadded⟩ := h
  have hkeys : ((w.requests.rows.filter keep).map u).map Keyed.key =
      (w.requests.rows.filter keep).map Keyed.key := by
    rw [List.map_map]
    exact List.map_congr_left fun r _ => (hu r).id
  have hold : ((w.requests.rows.filter keep).map u).map Keyed.key |>.Nodup := by
    rw [hkeys]
    exact hw.unique.sublist (List.filter_sublist.map _)
  have hfresh : ∀ r ∈ (w.requests.rows.filter keep).map u, r.id < w.nextRequestId := by
    intro r hr
    obtain ⟨a, ha, rfl⟩ := List.mem_map.mp hr
    rw [(hu a).id]
    exact hw.fresh a (List.mem_filter.mp ha).1
  have hone : ∀ r ∈ (w.requests.rows.filter keep).map u,
      ∀ r' ∈ (w.requests.rows.filter keep).map u,
        r.snapshot.environmentId = r'.snapshot.environmentId → r.live = true → r'.live = true →
          r = r' := by
    intro r hr r' hr' henv hlive hlive'
    obtain ⟨a, ha, rfl⟩ := List.mem_map.mp hr
    obtain ⟨b, hb, rfl⟩ := List.mem_map.mp hr'
    rw [(hu a).environmentId, (hu b).environmentId] at henv
    rw [hw.oneLive a (List.mem_filter.mp ha).1 b (List.mem_filter.mp hb).1 henv
      ((hu a).live hm hlive) ((hu b).live hm hlive')]
  cases hadded with
  | nothing hnext =>
    rw [List.append_nil] at hrows
    refine ⟨?_, ?_, ?_⟩
    · rw [Table.Unique, Table.keys, hrows]; exact hold
    · rw [hrows, hnext]; exact hfresh
    · rw [hrows]; exact hone
  | @created r hid hs hnext hnone =>
    have hdead : ∀ x ∈ (w.requests.rows.filter keep).map u,
        x.snapshot.environmentId = r.snapshot.environmentId → x.live = false := by
      intro x hx henv
      obtain ⟨a, ha, rfl⟩ := List.mem_map.mp hx
      exact hnone a (List.mem_filter.mp ha).1 henv
    refine ⟨?_, ?_, ?_⟩
    · rw [Table.Unique, Table.keys, hrows, List.map_append, List.nodup_append]
      refine ⟨hold, by simp, ?_⟩
      intro k hk k' hk' heq
      obtain ⟨x, hx, rfl⟩ := List.mem_map.mp hk
      rw [List.map_singleton, List.mem_singleton] at hk'
      have hlt := hfresh x hx
      have hxid : x.id = w.nextRequestId := (heq.trans hk').trans hid
      exact absurd hxid (Nat.ne_of_lt hlt)
    · intro x hx
      rw [hrows] at hx
      rw [hnext]
      rcases List.mem_append.mp hx with hx | hx
      · exact Nat.lt_succ_of_lt (hfresh x hx)
      · rw [List.mem_singleton.mp hx, hid]
        exact Nat.lt_succ_self _
    · intro x hx y hy henv hlive hlive'
      rw [hrows] at hx hy
      rcases List.mem_append.mp hx with hx | hx <;> rcases List.mem_append.mp hy with hy | hy
      · exact hone x hx y hy henv hlive hlive'
      · rw [List.mem_singleton.mp hy] at henv
        rw [hdead x hx henv] at hlive
        cases hlive
      · rw [List.mem_singleton.mp hx] at henv
        rw [hdead y hy henv.symm] at hlive'
        cases hlive'
      · rw [List.mem_singleton.mp hx, List.mem_singleton.mp hy]

theorem request?_after (h : RequestsAfter e w w') (hw' : w'.requests.Unique) {id : Id}
    {r : ProductionDeploymentRequest} (hr : w.request? id = some r) (hs : r.status ≠ .pending) :
    ∃ r', w'.request? id = some r' ∧ RequestStep e r r' := by
  obtain ⟨keep, u, added, hrows, hkeep, hu, _⟩ := h
  have hkept : keep r = true := by
    cases hk : keep r with
    | true => rfl
    | false => exact absurd (hkeep r hk) hs
  have hmem : u r ∈ w'.requests.rows := by
    rw [hrows]
    exact List.mem_append_left _ (List.mem_map_of_mem
      (List.mem_filter.mpr ⟨Table.mem_of_find? hr, hkept⟩))
  have hid : (u r).id = id := ((hu r).id).trans (Table.find?_key hr)
  exact ⟨u r, hid ▸ hw'.find?_of_mem hmem, hu r⟩

end Tables

end InitPad
