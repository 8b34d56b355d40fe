import InitPad.Approvals.RequestSteps

/-!
# InitPad.Approvals.ReviewRules

The requests about production, and which statements they execute: all of them are quiet, except for
the claim, the start and the reopening in `approve`.
-/

namespace InitPad

open Store Interleave Prog

abbrev ApprovalMoment := Moment ApprovalStmt Input ApprovalWorld Err
abbrev ApprovalStep := Transition ApprovalStmt Input ApprovalWorld Err
abbrev ApprovalSystem := Config ApprovalStmt Input ApprovalWorld Err

/-- Everything that arrives: the requests about production by any user, and whatever else the
control plane executes. -/
inductive ApprovalRequest (tokens : StateTokens) : ApprovalMoment → Approving Unit → Prop where
  | latest {m} (projectId userId : Id) :
      ApprovalRequest tokens m (ignoreError (latest tokens projectId userId))
  | create {m} (projectId userId : Id) (input : CreateInput) :
      ApprovalRequest tokens m (ignoreError (createRequest tokens projectId userId input))
  | cancel {m} (projectId requestId userId : Id) :
      ApprovalRequest tokens m (ignoreError (cancelRequest tokens projectId requestId userId))
  | reject {m} (projectId requestId userId : Id) (note : Option String) :
      ApprovalRequest tokens m (ignoreError (reject tokens projectId requestId userId note))
  | approve {m} (projectId requestId userId : Id) (note : Option String) :
      ApprovalRequest tokens m (ignoreError (approve tokens projectId requestId userId note))
  | other {m} (p : Async Unit) : ApprovalRequest tokens m (onBase p)

/-! ## Quiet programs -/

theorem quiet_onBase {α : Type} (p : Async α) : Quiet (onBase p) := by
  refine only_translate ?_ p
  intro γ e
  rfl

def ApprovalStmt.reads {β : Type} : ApprovalStmt β → Bool
  | .query _ => true
  | _ => false

theorem state_of_reads {β : Type} {e : ApprovalStmt β} (h : e.reads = true) (i : Input)
    (w : ApprovalWorld) : (exec e i w).2 = w := by
  cases e with
  | query f =>
    change (if i.fault && !(ApprovalStmt.query f).inProcess then _ else _ : Except Err β × _).2 = w
    split <;> rfl
  | _ => cases h

/-- The program only reads. -/
def Reading {α : Type} (p : Approving α) : Prop := p.Only fun e => e.reads = true

theorem Reading.quiet {α : Type} {p : Approving α} (h : Reading p) : Quiet p :=
  Only.mono (fun e he => by
    cases e with
    | query => rfl
    | _ => cases he) h

theorem reading_read {β : Type} (f : ApprovalWorld → Except Err β) : Reading (read f) :=
  .await rfl

section Programs

variable {tokens : StateTokens} {projectId requestId userId workspaceId : Id}
  {request : ProductionDeploymentRequest}

theorem reading_rollbackPreview {name : EnvName} :
    Reading (rollbackPreview tokens projectId name) := by
  refine .bind (reading_read _) fun found => ?_
  split
  · exact .ret _
  · dsimp only
    split
    · exact .ret _
    · refine .bind (reading_read _) fun candidate => ?_
      split
      · exact .ret _
      · exact .ret _

theorem reading_candidate {input : CreateInput} {view : ProjectView} :
    Reading (candidate tokens projectId input view) := by
  unfold candidate
  split
  · unfold rollbackSource
    split
    · refine .bind reading_rollbackPreview fun preview => ?_
      split
      · exact .ret _
      · split
        · exact .ret _
        · split
          · exact .ret _
          · exact .ret _
    · exact .ret _
  · exact .ret _

theorem reading_snapshot {input : CreateInput} : Reading (snapshot tokens projectId input) := by
  refine .bind (reading_read _) fun found => ?_
  split
  · exact .ret _
  · exact .bind (.ret _) fun production => .bind reading_candidate fun _ => .ret _

theorem reading_matchesCurrentState : Reading (matchesCurrentState tokens request) :=
  .tryCatch (.bind reading_snapshot fun _ => .ret _) fun _ => .ret _

theorem reading_requireProject {permission : WorkspacePermission} :
    Reading (requireProject userId projectId permission) := by
  refine .bind (reading_read _) fun project => ?_
  split
  · exact .ret _
  · refine .bind (reading_read _) fun role => ?_
    split
    · exact .ret _
    · split
      · exact .ret _
      · exact .ret _

theorem reading_requireUser {message : String} : Reading (requireUser userId message) := by
  refine .bind (reading_read _) fun user => ?_
  split
  · exact .ret _
  · exact .ret _

theorem reading_toView : Reading (toView request userId) :=
  .bind (reading_read _) fun _ => .bind (reading_read _) fun _ => .ret _

theorem quiet_latest : Quiet (latest tokens projectId userId) := by
  have hview : ∀ r, Quiet (some <$> toView r userId) := fun r =>
    .bind (reading_toView).quiet fun _ => .ret _
  refine .bind (reading_requireProject).quiet fun _ => .bind (reading_read _).quiet fun request => ?_
  split
  · exact .ret _
  · refine .bind ?_ fun same => ?_
    · split
      · exact (reading_matchesCurrentState).quiet
      · exact .ret _
    · split
      · exact hview _
      · refine .bind (.await rfl) fun changed => ?_
        split
        · exact hview _
        · refine .bind (.await rfl) fun _ => .bind (reading_read _).quiet fun request => ?_
          split
          · exact .ret _
          · exact hview _

theorem quiet_createRequest {input : CreateInput} :
    Quiet (createRequest tokens projectId userId input) := by
  refine .bind (reading_requireProject).quiet fun _ => .bind (reading_snapshot).quiet fun _ =>
    .bind (reading_requireUser).quiet fun _ =>
      .bind (.tryCatch (.await rfl) fun error => ?_) fun request =>
      .bind (.tryCatch (.await rfl) fun _ => .bind (.await rfl) fun _ => .ret _)
        fun _ => (reading_toView).quiet
  split
  · exact .ret _
  · exact .ret _

theorem quiet_cancelRequest : Quiet (cancelRequest tokens projectId requestId userId) := by
  refine .bind (reading_requireProject).quiet fun _ => .bind (reading_read _).quiet fun request => ?_
  split
  · exact .ret _
  · refine .bind (quiet_onBase _) fun now => .bind (.await rfl) fun updated => ?_
    split
    · exact .ret _
    · exact .bind (.await rfl) fun _ => quiet_latest

theorem quiet_reviewable {approve : Bool} :
    Quiet (reviewable projectId requestId userId approve) := by
  refine .bind (reading_requireProject).quiet fun _ => .bind (reading_read _).quiet fun request => ?_
  split
  · exact .ret _
  · split
    · exact .ret _
    · refine .bind (reading_read _).quiet fun policy => ?_
      split
      · exact .ret _
      · exact .bind (reading_requireUser).quiet fun _ => .ret _

theorem quiet_reject {note : Option String} :
    Quiet (reject tokens projectId requestId userId note) := by
  refine .bind quiet_reviewable fun request => .bind (quiet_onBase _) fun now =>
    .bind (.await rfl) fun updated => ?_
  split
  · exact .ret _
  · exact .bind (.await rfl) fun _ => quiet_latest

theorem moderate_applyApproval : Moderate (applyApproval projectId request) := by
  refine .tryCatch (.bind (.await rfl) fun _ => .bind ?_ fun _ => .bind (.await rfl) fun _ =>
    .ignoreError (.await rfl)) fun error => .bind (.await ?_) fun _ =>
      .bind (.ignoreError (.await rfl)) fun _ => .ret _
  · exact .bind (quiet_onBase _).moderate fun _ => .bind (.await rfl) fun _ => .ret _
  · cases error.isConflict with
    | true => rfl
    | false => rfl

theorem moderate_approve {note : Option String} :
    Moderate (approve tokens projectId requestId userId note) := by
  refine .bind (quiet_reviewable).moderate fun request =>
    .bind (reading_matchesCurrentState).quiet.moderate fun same => ?_
  split
  · exact .bind (.await rfl) fun _ => .ret _
  · refine .bind (quiet_onBase _).moderate fun now => .bind (.await rfl) fun claimed => ?_
    split
    · exact .ret _
    · exact .bind moderate_applyApproval fun _ => (quiet_latest).moderate

theorem quiet_or_approve {m : ApprovalMoment} {p : Approving Unit}
    (h : ApprovalRequest tokens m p) : Quiet p ∨ ∃ projectId requestId userId note,
      p = ignoreError (approve tokens projectId requestId userId note) := by
  cases h with
  | latest => exact .inl (.ignoreError quiet_latest)
  | create => exact .inl (.ignoreError quiet_createRequest)
  | cancel => exact .inl (.ignoreError quiet_cancelRequest)
  | reject => exact .inl (.ignoreError quiet_reject)
  | approve projectId requestId userId note =>
    exact .inr ⟨projectId, requestId, userId, note, rfl⟩
  | other p => exact .inl (quiet_onBase p)

theorem moderate_of_request {m : ApprovalMoment} {p : Approving Unit}
    (h : ApprovalRequest tokens m p) : Moderate p := by
  rcases quiet_or_approve h with hquiet | ⟨_, _, _, _, rfl⟩
  · exact hquiet.moderate
  · exact .ignoreError moderate_approve

end Programs

end InitPad
