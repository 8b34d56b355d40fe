import InitPad.Approvals.ReviewRules
import InitPad.Runs.Requests

/-!
# InitPad.Approvals.ClosedRequests

Once a production request is approved, rejected, cancelled or stale, its status stays, and an
environment has at most one live request. The first part depends on the update by id with which
`approve` ends: it has to find the request as it was claimed.
-/

namespace InitPad

open Store Interleave Prog

/-! ## Closed requests -/

/-- The final statuses. -/
def RequestStatus.closed : RequestStatus → Bool
  | .approved | .rejected | .cancelled | .stale => true
  | _ => false

def ClosedKept (x : ApprovalStep) : Prop :=
  ∀ id r, x.pre.state.request? id = some r → r.status.closed = true →
    ∃ r', x.post.state.request? id = some r' ∧ r'.status = r.status

/-- The update by id of `approve` changes a row. -/
def Approves (x : ApprovalStep) (id : Id) : Prop :=
  ∃ operationId, x.stmt.approves = some (id, operationId) ∧ x.input.fault = false ∧
    (x.pre.state.request? id).isSome = true ∧ x.pre.state.requests.count
      (fun r => r.id != id && r.deploymentOperationId == some operationId) = 0

/-- When the update by id of `approve` changes a request, it has not been closed since its claim. -/
def ApprovesOpen (x : ApprovalStep) : Prop :=
  ∀ id r, Approves x id → x.pre.state.request? id = some r → r.status.closed = true →
    r.status = .approved

section Steps

variable {β : Type} {e : ApprovalStmt β} {i : Input} {w : ApprovalWorld}

theorem exec_approveRequest {requestId operationId : Id} (hf : i.fault = false)
    (hr : (w.request? requestId).isSome = true)
    (hnone : w.requests.count (fun r => r.id != requestId &&
      r.deploymentOperationId == some operationId) = 0) :
    exec (ApprovalStmt.approveRequest requestId operationId) i w =
      (.ok (), w.updateRequests (fun r => r.id == requestId) fun r =>
        { r with status := .approved, deploymentOperationId := some operationId }) := by
  change (if i.fault && !false then _ else w.approveRequest requestId operationId) = _
  simp [hf, ApprovalWorld.approveRequest, Option.isNone_eq_false_iff.mpr hr, hnone]

theorem exec_approveRequest_same {requestId operationId : Id}
    (h : ¬ (i.fault = false ∧ (w.request? requestId).isSome = true ∧
      w.requests.count (fun r => r.id != requestId &&
        r.deploymentOperationId == some operationId) = 0)) :
    (exec (ApprovalStmt.approveRequest requestId operationId) i w).2 = w := by
  change (if i.fault && !false then (_, w) else w.approveRequest requestId operationId).2 = w
  split
  · rfl
  · rename_i hf
    unfold ApprovalWorld.approveRequest
    split
    · rfl
    · rename_i hr
      split
      · rfl
      · rename_i hnone
        exact absurd ⟨by simpa using hf, by simpa [Option.isSome_iff_ne_none] using hr,
          not_not.mp hnone⟩ h

theorem closedKept_of_approvesOpen {x : ApprovalStep} (hw : x.pre.state.WellKept)
    (hm : x.stmt.moderate = true) (h : ApprovesOpen x) : ClosedKept x := by
  intro id r hr hclosed
  have hafter : RequestsAfter x.stmt x.pre.state x.post.state := requests_exec _ _ _
  have hs : r.status ≠ .pending := by
    intro hs
    rw [hs] at hclosed
    cases hclosed
  obtain ⟨r', hr', hstep⟩ := request?_after hafter (wellKept_after hafter hm hw).unique hr hs
  have hid : r.id = id := Table.find?_key hr
  cases hstep with
  | kept h => exact ⟨r', hr', by rw [h]⟩
  | moved hmoves hmem _ =>
    have hlive := live_of_moves hm hmoves hmem
    unfold ProductionDeploymentRequest.live at hlive
    cases hstatus : r.status with
    | pending => exact absurd hstatus hs
    | approving | failed => rw [hstatus] at hclosed; cases hclosed
    | approved | rejected | stale | cancelled => rw [hstatus] at hlive; cases hlive
  | @approved operationId happroves heq =>
    rw [hid] at happroves
    by_cases heffect : Approves x id
    · exact ⟨r', hr', by rw [heq, h id r heffect hr hclosed]⟩
    · have hsame : x.post.state = x.pre.state := by
        obtain ⟨m, t, e, i⟩ := x
        cases e with
        | approveRequest =>
          cases happroves
          exact exec_approveRequest_same fun hx => heffect ⟨_, rfl, hx.1, hx.2.1, hx.2.2⟩
        | _ => cases happroves
      exact ⟨r, by rw [hsame]; exact hr, rfl⟩
  | replaced _ hpending _ => exact absurd hpending hs

theorem approvesOpen_of_closedKept {x : ApprovalStep} (h : ClosedKept x) : ApprovesOpen x := by
  intro id r ⟨operationId, happroves, hf, hsome, hnone⟩ hr hclosed
  obtain ⟨r', hr', hstatus⟩ := h id r hr hclosed
  obtain ⟨m, t, e, i⟩ := x
  cases e with
  | approveRequest =>
    cases happroves
    have hpost : (exec (ApprovalStmt.approveRequest id operationId) i m.state).2.request? id = some r' := hr'
    rw [exec_approveRequest hf hsome hnone] at hpost

    have hrow : m.state.request? id = some r := hr
    have hid : r.id = id := Table.find?_key hr
    rw [request?_updateRequests (by intro r; rfl), hrow] at hpost
    simp only [Option.map_some, hid, beq_self_eq_true, if_true, Option.some.injEq] at hpost
    rw [← hpost] at hstatus
    exact hstatus.symm
  | _ => cases happroves

end Steps

/-- In every run, an environment has at most one live request; and closed requests keep their
status in exactly the runs where the update by id of `approve` meets no closed request. -/
theorem closed_requests {tokens : StateTokens} {w : ApprovalWorld} {c : ApprovalSystem}
    {tr : List ApprovalStep} (hw : w.WellKept)
    (h : Run (ApprovalRequest tokens) (Config.start w) tr c) :
    c.moment.state.WellKept ∧
      ((∀ x ∈ tr, ClosedKept x) ↔ ∀ x ∈ tr, ApprovesOpen x) := by
  have hmoderate : ∀ x ∈ tr, x.stmt.moderate = true :=
    (h.only (fun _ _ hp => moderate_of_request hp) fun p hp => absurd hp List.not_mem_nil).2
  let P : ApprovalMoment → Prop := fun m => m.state.WellKept
  have hstep : ∀ x : ApprovalStep, x.stmt.moderate = true → P x.pre → P x.post :=
    fun x hx hpre => wellKept_after (requests_exec x.stmt x.input x.pre.state) hx hpre
  refine ⟨h.preserves P _ hstep hmoderate hw,
    fun hkept x hx => approvesOpen_of_closedKept (hkept x hx), fun hopen x hx => ?_⟩
  exact closedKept_of_approvesOpen (h.preserves_pre P _ hstep hmoderate hw x hx) (hmoderate x hx)
    (hopen x hx)

/-! User `1` asks for a redeployment of production; `2` and `3` may review it. -/

def sampleTokens : StateTokens := ⟨fun s => s.candidate.version, fun _ => "rollback"⟩

def productionWorld : ApprovalWorld where
  base := sampleWorld { sampleEnvironment with name := .prod } []
  users := ⟨[⟨1, "alice"⟩, ⟨2, "bob"⟩, ⟨3, "eve"⟩]⟩
  members := [⟨0, 1, .member⟩, ⟨0, 2, .maintainer⟩, ⟨0, 3, .maintainer⟩]

def requestRedeploy : Approving Unit :=
  ignoreError (createRequest sampleTokens 0 1 ⟨.redeploy, none, none⟩)

def approveAs (userId : Id) : Approving Unit :=
  ignoreError (approve sampleTokens 0 0 userId none)

def twoReviewers : List (Approving Unit) := [requestRedeploy, approveAs 2, approveAs 3]

theorem request_of_mem_twoReviewers {m : ApprovalMoment} :
    ∀ p ∈ twoReviewers, ApprovalRequest sampleTokens m p := by
  intro p hp
  simp only [twoReviewers, List.mem_cons, List.not_mem_nil, or_false] at hp
  rcases hp with rfl | rfl | rfl
  · exact .create _ _ _
  · exact .approve _ _ _ _
  · exact .approve _ _ _ _

theorem productionWorld_wellKept : productionWorld.WellKept where
  unique := List.nodup_nil
  fresh := by
    intro r hr
    cases hr
  oneLive := by
    intro r hr
    cases hr

/-- Two reviewers approve one after the other: the second one finds the request approved. -/
theorem closed_requests_in_turn : ∃ (c : ApprovalSystem) (tr : List ApprovalStep),
    Run (ApprovalRequest sampleTokens) (Config.start productionWorld) tr c ∧
      (∀ x ∈ tr, ClosedKept x) ∧ c.moment.state.WellKept ∧
        (c.moment.state.request? 0).map (·.status) = some .approved := by
  obtain ⟨tr, c, hrun, hcheck⟩ := run_of_plays (Config.start productionWorld)
    twoReviewers (turns 0 8 ++ turns 1 21 ++ turns 2 3)
    (fun tr c => tr.all (fun x => x.stmt.approves.all fun t =>
        (x.pre.state.request? t.1).all fun r => !r.status.closed) &&
      (c.moment.state.request? 0).map (·.status) == some .approved)
    request_of_mem_twoReviewers (by decide)
  simp only [Bool.and_eq_true, List.all_eq_true, beq_iff_eq] at hcheck
  obtain ⟨hkept, hiff⟩ := closed_requests productionWorld_wellKept hrun
  refine ⟨c, tr, hrun, hiff.mpr fun x hx id r ⟨_, happroves, _⟩ hr hclosed => ?_, hkept, hcheck.2⟩
  have hopen := hcheck.1 x hx
  rw [happroves] at hopen
  simp [hr, hclosed] at hopen

/-- The second reviewer sees the deployment that the first approval has just started, takes it for
a change of production, and marks the request as stale; then the first approval ends. -/
theorem closed_request_reopened : ¬ ∀ (tokens : StateTokens) (w : ApprovalWorld)
    (c : ApprovalSystem) (tr : List ApprovalStep), w.WellKept →
      Run (ApprovalRequest tokens) (Config.start w) tr c → ∀ x ∈ tr, ClosedKept x := by
  intro h
  obtain ⟨tr, c, hrun, hcheck⟩ := run_of_plays (Config.start productionWorld)
    twoReviewers (turns 0 8 ++ turns 2 5 ++ turns 1 14 ++ turns 2 2 ++ turns 1 1)
    (fun tr _ => tr.any fun x => (x.pre.state.request? 0).any (fun r => r.status == .stale) &&
      (x.post.state.request? 0).any fun r => r.status == .approved)
    request_of_mem_twoReviewers (by decide)
  simp only [List.any_eq_true, Bool.and_eq_true, Option.any_eq_true, beq_iff_eq] at hcheck
  obtain ⟨x, hx, ⟨r, hr, hstale⟩, r', hr', happroved⟩ := hcheck
  obtain ⟨r'', hr'', hstatus⟩ := h _ _ c tr productionWorld_wellKept hrun x hx 0 r hr
    (by rw [hstale]; rfl)
  obtain rfl := Option.some.inj (hr'.symm.trans hr'')
  rw [happroved, hstale] at hstatus
  cases hstatus

end InitPad
