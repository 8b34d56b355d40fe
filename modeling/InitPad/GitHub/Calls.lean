import InitPad.GitHub.Writes

/-!
# InitPad.GitHub.Calls

What a call has read when it writes. A setup binds an installation that GitHub has shown to it, for
the user and the workspace of a setup state, with the role and the linked account that it has read;
a webhook writes what its event says, behind a delivery table that does not know it. `CallRule`
says so for each statement, and is all that later proofs know about the calls.
-/

namespace InitPad.GitHub

open Interleave Store
open Prog (await refuseIf)

variable {β : Type}

/-! ## What a request has read -/

def Stmt.foundSetup : Stmt β → Except Failure β → Option GitHubInstallationSetup
  | .findSetup _, r => r.toOption.join
  | .findOpenSetup _ _ _ _, r => r.toOption.join
  | _, _ => none

/-- The role that the statement has read, and whose. -/
def Stmt.foundRole : Stmt β → Except Failure β → Option (Id × Id × Option WorkspaceMember)
  | .findMembership workspaceId userId, r => r.toOption.map fun member => (workspaceId, userId, member)
  | _, _ => none

/-- The linked account that the statement has found, and whose. -/
def Stmt.foundIdentity : Stmt β → Except Failure β → Option (Id × ExternalIdentity)
  | .findIdentity userId, r => r.toOption.join.map fun identity => (userId, identity)
  | _, _ => none

/-- The installation that GitHub shows to the account. -/
def Stmt.foundAccessible : Stmt β → Except Failure β → Option (String × VerifiedGitHubInstallation)
  | .getUserAccessibleInstallation _ _ providerUserId, r =>
    r.toOption.map fun accessible => (providerUserId, accessible)
  | _, _ => none

def Stmt.consults : Stmt β → Except Failure β → Option Nat
  | .countDelivery _ (.installation event), r => if r.toOption = some 0 then some event else none
  | _, _ => none

def Stmt.shown : Stmt β → Except Failure β → List VerifiedGitHubInstallation
  | .getInstallation _, r => r.toOption.toList
  | .listInstallations, r => r.toOption.getD []
  | _, _ => []

def Stmt.keyed : Stmt β → Except Failure β → Prop
  | .findOpenSetup userId workspaceId _ _, r => ∀ setup, r = .ok (some setup) →
    setup.userId = userId ∧ setup.workspaceId = workspaceId
  | _, _ => True

def Learned {α : Type} (read : GitHubEvent → Option α) (a : α) (h : History) : Prop :=
  ∃ ev ∈ h, read ev = some a

theorem Learned.mono {α : Type} {read : GitHubEvent → Option α} {a : α} {h h' : History}
    (hlearned : Learned read a h) (hsub : h ⊆ h') : Learned read a h' := by
  obtain ⟨ev, hmem, hread⟩ := hlearned
  exact ⟨ev, hsub hmem, hread⟩

theorem Learned.append {α : Type} {read : GitHubEvent → Option α} {a : α} {h : History}
    (hlearned : Learned read a h) (ev : GitHubEvent) : Learned read a (h ++ [ev]) := by
  obtain ⟨ev', hmem, hread⟩ := hlearned
  exact ⟨ev', List.mem_append_left _ hmem, hread⟩

theorem learned_last {α : Type} {read : GitHubEvent → Option α} {a : α} {h : History}
    {ev : GitHubEvent} (hread : read ev = some a) : Learned read a (h ++ [ev]) :=
  ⟨ev, List.mem_append_right _ (.head _), hread⟩

theorem Learned.of_event {α γ : Type} {read : GitHubEvent → Option α} {a : α} {e : Stmt γ} {b : γ}
    {t : Nat} {h : History} (hevent : ∃ ev ∈ h, ev = ⟨t, e, ev.input, .ok b⟩)
    (hread : ∀ i, read ⟨t, e, i, .ok b⟩ = some a) : Learned read a h := by
  obtain ⟨ev, hmem, heq⟩ := hevent
  exact ⟨ev, hmem, heq ▸ hread ev.input⟩

abbrev SetupFound := Learned fun ev => ev.stmt.foundSetup ev.result
abbrev RoleFound := Learned fun ev => ev.stmt.foundRole ev.result
abbrev IdentityFound := Learned fun ev => ev.stmt.foundIdentity ev.result
abbrev AccessibleFound := Learned fun ev => ev.stmt.foundAccessible ev.result
abbrev Consulted := Learned fun ev => ev.stmt.consults ev.result

def Shown (verified : VerifiedGitHubInstallation) (h : History) : Prop :=
  ∃ ev ∈ h, verified ∈ ev.stmt.shown ev.result

theorem Shown.mono {verified : VerifiedGitHubInstallation} {h h' : History}
    (hshown : Shown verified h) (hsub : h ⊆ h') : Shown verified h' := by
  obtain ⟨ev, hmem, hin⟩ := hshown
  exact ⟨ev, hsub hmem, hin⟩

/-- The proof that the GitHub account may grant the installation. -/
def Proven (providerUserId : String) (verified : VerifiedGitHubInstallation) (h : History) : Prop :=
  match verified.accountType with
  | .user => providerUserId = verified.accountId
  | .organization => ∃ accessible, AccessibleFound (providerUserId, accessible) h ∧
      accessible.installationId = verified.installationId ∧
      accessible.accountId = verified.accountId

/-- What a request has read when it binds. -/
structure Authorized (binding : Binding) (h : History) : Prop where
  setup : ∃ setup, SetupFound setup h ∧ setup.id = binding.setupId ∧
    setup.userId = binding.userId ∧ setup.workspaceId = binding.workspaceId
  role : ∃ member, RoleFound (binding.workspaceId, binding.userId, member) h ∧
    workspaceAdmin member = true
  identity : ∃ identity, IdentityFound (binding.userId, identity) h ∧
    Proven identity.providerUserId binding.verified h
  shown : Shown binding.verified h

/-- What the event with this number says about an installation: its id, its account, and whether it
is removed. -/
def report [Environment] (event : Nat) : Option (String × String × Bool) :=
  (emitted event).installation.bind fun inst =>
    inst.identified.map fun (installationId, accountId, _) =>
      (installationId, accountId, (emitted event).action = some .deleted)

structure CallRule [Environment] (e : Stmt β) (h : History) : Prop where
  binds : ∀ binding, e.binds = some binding → Authorized binding h
  reports : ∀ said, e.reported = some said → ∃ event, Consulted event h ∧ report event = some said

/-- Statements that bind and report nothing. -/
structure Quiet (e : Stmt β) : Prop where
  binds : e.binds = none
  reported : e.reported = none

theorem Quiet.rule [Environment] {e : Stmt β} {h : History} (he : Quiet e) : CallRule e h where
  binds binding hbinds := by
    rw [he.binds] at hbinds
    cases hbinds
  reports said hsaid := by
    rw [he.reported] at hsaid
    cases hsaid

section Programs

variable {α γ : Type} {t : Nat} {h : History}

/-! ## Calls that bind and report nothing -/

theorem quiet_loadSetupCandidate (state : Option SetupState) (installationId : String) :
    (loadSetupCandidate state installationId).Only fun e => Quiet e := by
  unfold loadSetupCandidate
  split
  · refine .bind (.await ⟨rfl, rfl⟩) fun found => .bind (.await ⟨rfl, rfl⟩) fun now => ?_
    split
    · exact .ret _
    · exact .bind (.await ⟨rfl, rfl⟩) fun verified => .bind (.ret _) fun _ => .ret _
  · exact .ret _

theorem quiet_createSetup (userId workspaceId : Id) :
    (createSetup userId workspaceId).Only fun e => Quiet e :=
  .bind (.await ⟨rfl, rfl⟩) fun _ => .bind (.ret _) fun _ => .bind (.await ⟨rfl, rfl⟩) fun _ =>
    .bind (.await ⟨rfl, rfl⟩) fun _ => .await ⟨rfl, rfl⟩

theorem quiet_markRequested (state : Option SetupState) :
    (markRequested state).Only fun e => Quiet e := by
  cases state with
  | none => exact .ret _
  | some state => exact .bind (.await ⟨rfl, rfl⟩) fun _ => .await ⟨rfl, rfl⟩

theorem quiet_suspension (event : InstallationEvent) (inst : EventInstallation) :
    (suspension event inst).Only fun e => Quiet e := by
  unfold suspension
  split
  · exact .bind (.await ⟨rfl, rfl⟩) fun _ => .ret _
  · exact .ret _
  · exact .ret _

theorem quiet_handleTargetEvent (event : InstallationTargetEvent) :
    (handleTargetEvent event).Only fun e => Quiet e := by
  unfold handleTargetEvent
  split
  · exact .await ⟨rfl, rfl⟩
  · exact .ret _

theorem quiet_record (delivery event : String) : (record delivery event).Only fun e => Quiet e :=
  .bind (.await ⟨rfl, rfl⟩) fun _ => .bind (.await ⟨rfl, rfl⟩) fun _ => .await ⟨rfl, rfl⟩

theorem quiet_reauthorize (identity : ExternalIdentity) :
    (reauthorize identity : Call α).Only fun e => Quiet e :=
  .bind (.await ⟨rfl, rfl⟩) fun _ => .ret _

theorem quiet_rotate (identity : ExternalIdentity) (claimTime : Time) (refreshToken : String) :
    (rotate identity claimTime refreshToken).Only fun e => Quiet e := by
  refine .tryCatch ?_ fun e => .bind (.await ⟨rfl, rfl⟩) fun _ => .ret _
  exact .bind (.await ⟨rfl, rfl⟩) fun _ => .bind (.await ⟨rfl, rfl⟩) fun _ =>
    .bind (.await ⟨rfl, rfl⟩) fun _ => .bind (.ret _) fun _ => .ret _

theorem quiet_storeExchange (userId : Id) (exchange : GitHubOAuthExchange) :
    (storeExchange userId exchange).Only fun e => Quiet e :=
  .bind (.await ⟨rfl, rfl⟩) fun _ => .ret _

variable [Environment]

theorem quiet_refresh (identity : ExternalIdentity) (stored : Secrets.StoredSecret) :
    (refresh identity stored).Only fun e => Quiet e := by
  refine .bind (.await ⟨rfl, rfl⟩) fun claimTime => .bind (.await ⟨rfl, rfl⟩) fun now => ?_
  refine .bind (.await ⟨rfl, rfl⟩) fun claimed => ?_
  split
  · exact .bind (.await ⟨rfl, rfl⟩) fun _ => .ret _
  split
  · exact quiet_reauthorize identity
  · exact .bind (quiet_rotate _ _ _) fun _ => .ret _

theorem quiet_attemptAccess (userId : Id) : (attemptAccess userId).Only fun e => Quiet e := by
  have hrenew : ∀ identity, (renew identity).Only fun e => Quiet e := by
    intro identity
    refine .bind (.await ⟨rfl, rfl⟩) fun now => ?_
    split
    · exact quiet_refresh _ _
    · exact quiet_reauthorize identity
  refine .bind (.await ⟨rfl, rfl⟩) fun found => ?_
  split
  · exact .ret _
  split
  · exact .ret _
  split
  · exact quiet_reauthorize _
  refine .bind (.await ⟨rfl, rfl⟩) fun now => ?_
  split
  · exact .ret _
  · exact hrenew _

theorem quiet_accessTokenForUser (userId : Id) :
    (accessTokenForUser userId).Only fun e => Quiet e := by
  unfold accessTokenForUser
  induction REFRESH_WAIT_ATTEMPTS with
  | zero => exact .ret _
  | succ attempts ih =>
    refine .bind (quiet_attemptAccess userId) fun token => ?_
    cases token with
    | none => exact ih
    | some accessToken => exact .ret _

/-- The program binds only where the rule allows it. -/
abbrev Obeys (Q : Except Failure α → History → Prop) (t : Nat) (p : Call α) (h : History) : Prop :=
  p.Meets (fun ev => ev.stmt.keyed ev.result) CallRule Q t h

theorem obeys_quiet {p : Call α} (hp : p.Only fun e => Quiet e) :
    Obeys (fun _ _ => True) t p h :=
  .mono (fun _ _ _ => trivial) (.of_only (B := fun _ => True)
    (fun _ _ he _ => ⟨he.rule, fun _ _ _ => trivial⟩) hp trivial)

theorem obeys_await {e : Stmt γ} {f : γ → Call α} (he : Quiet e)
    (hf : ∀ a h', h ⊆ h' → (∃ ev ∈ h', ev = ⟨t, e, ev.input, .ok a⟩) → e.keyed (.ok a) →
      Obeys (fun _ _ => True) t (f a) h') :
    Obeys (fun _ _ => True) t (await e >>= f) h :=
  .await_bind he.rule (fun _ a hkeyed => hf a _ (List.subset_append_left _ _)
    ⟨_, List.mem_append_right _ (.head _), rfl⟩ hkeyed) fun _ _ _ => trivial

theorem obeys_then {Q : Except Failure γ → History → Prop} {p : Call γ} {f : γ → Call α}
    (hp : Obeys Q t p h)
    (hf : ∀ a h', h ⊆ h' → Q (.ok a) h' → Obeys (fun _ _ => True) t (f a) h') :
    Obeys (fun _ _ => True) t (p >>= f) h := by
  have hkeep : ∀ h' ev, h ⊆ h' → h ⊆ h' ++ [ev] := fun _ _ hsub =>
    List.Subset.trans hsub (List.subset_append_left _ _)
  exact (hp.keep hkeep (List.Subset.refl h)).bind (fun a h' hQ => hf a h' hQ.2 hQ.1)
    fun _ _ _ => trivial

theorem obeys_refuseIf {condition : Bool} {x : Failure} {f : Unit → Call α}
    (hf : condition = false → Obeys (fun _ _ => True) t (f ()) h) :
    Obeys (fun _ _ => True) t (refuseIf condition x >>= f) h := by
  cases condition with
  | true => exact trivial
  | false => exact hf rfl

/-! ## Webhooks -/

theorem obeys_handleEvent {event : Nat} (hconsulted : Consulted event h) :
    Obeys (fun _ _ => True) t (handleEvent (emitted event)) h := by
  unfold handleEvent
  cases hinst : (emitted event).installation with
  | none => exact trivial
  | some inst =>
    simp only
    cases hidentified : inst.identified with
    | none => exact trivial
    | some ids =>
      obtain ⟨installationId, accountId, accountLogin⟩ := ids
      have hreport : report event =
          some (installationId, accountId, decide ((emitted event).action = some .deleted)) := by
        simp only [report, hinst, hidentified, Option.bind_some, Option.map_some]
      refine obeys_await ⟨rfl, rfl⟩ fun existing h₁ hsub₁ _ _ => ?_
      refine obeys_refuseIf fun _ => ?_
      split
      · rename_i hdeleted
        refine obeys_await ⟨rfl, rfl⟩ fun now h₂ hsub₂ _ _ => ?_
        refine .await ⟨(fun _ hbinds => by cases hbinds), fun said hsaid => ?_⟩ fun _ _ _ => trivial
        cases hsaid
        exact ⟨event, (hconsulted.mono hsub₁).mono hsub₂, by simp [hreport, hdeleted]⟩
      · rename_i hkept
        refine obeys_then (obeys_quiet (quiet_suspension _ _)) fun suspendedAt h₂ hsub₂ _ => ?_
        refine .await ⟨(fun _ hbinds => by cases hbinds), fun said hsaid => ?_⟩ fun _ _ _ => trivial
        cases hsaid
        exact ⟨event, (hconsulted.mono hsub₁).mono hsub₂, by simp [hreport, hkept]⟩

theorem obeys_apply {body : WebhookBody}
    (hconsulted : ∀ event, body = .installation event → Consulted event h) :
    Obeys (fun _ _ => True) t (apply body) h := by
  unfold apply
  split
  · exact obeys_handleEvent (hconsulted _ rfl)
  · exact obeys_quiet (quiet_handleTargetEvent _)
  · exact obeys_quiet (.await ⟨rfl, rfl⟩)
  · exact trivial

theorem obeys_handleDelivery (delivery : String) (body : WebhookBody) :
    Obeys (fun _ _ => True) t (handleDelivery delivery body) h := by
  have happlied : Obeys (fun r h => r = .ok false → ∀ event, body = .installation event →
      Consulted event h) t (applied delivery body) h := by
    refine .await_bind (Quiet.rule ⟨rfl, rfl⟩) (fun i count _ => ?_) fun _ _ _ hr => by cases hr
    intro hr event hbody
    have hzero : count = 0 := by
      have hr : (Except.ok (decide (0 < count)) : Except Failure Bool) = .ok false := hr
      have hzero := of_decide_eq_false (Except.ok.inj hr)
      omega
    subst hbody hzero
    exact learned_last rfl
  refine obeys_then happlied fun known h₁ _ hknown => ?_
  cases known with
  | true => exact trivial
  | false =>
    refine obeys_then (obeys_apply (hknown rfl)) fun _ _ _ _ => ?_
    exact obeys_quiet (quiet_record _ _)

theorem obeys_handle (request : WebhookRequest) :
    Obeys (fun _ _ => True) t (handle request) h := by
  refine obeys_refuseIf fun _ => ?_
  split
  · exact trivial
  split
  · exact trivial
  · exact obeys_handleDelivery _ _

/-! ## Setups -/

theorem obeys_loadSetupCandidate (state : Option SetupState) (installationId : String) :
    Obeys (fun r h => ∀ setup verified, r = .ok (setup, verified) →
      SetupFound setup h ∧ Shown verified h) t (loadSetupCandidate state installationId) h := by
  unfold loadSetupCandidate
  split
  case h_2 => exact fun setup verified hr => by cases hr
  rename_i _ state _
  refine .await_bind (Quiet.rule ⟨rfl, rfl⟩) (fun i found _ => ?_) fun _ _ _ _ _ hr => by cases hr
  refine .await_bind (Quiet.rule ⟨rfl, rfl⟩) (fun j now _ => ?_) fun _ _ _ _ _ hr => by cases hr
  split
  case h_1 => exact fun setup verified hr => by cases hr
  rename_i setup hfilter
  obtain rfl : found = some setup := (Option.filter_eq_some_iff.mp hfilter).1
  have hfound : SetupFound setup
      (h ++ [(⟨t, .findSetup (hashState state), i, .ok (some setup)⟩ : GitHubEvent)]) :=
    learned_last rfl
  refine .await_bind (Quiet.rule ⟨rfl, rfl⟩) (fun k verified _ => ?_) fun _ _ _ _ _ hr => by cases hr
  have hshown : Shown verified (h ++ [(⟨t, .findSetup (hashState state), i, .ok (some setup)⟩ :
      GitHubEvent)] ++ [⟨t, .clock, j, .ok now⟩] ++
        [⟨t, .getInstallation installationId, k, .ok verified⟩]) :=
    ⟨_, List.mem_append_right _ (.head _), .head _⟩
  exact .bind (Q := fun _ h => SetupFound setup h ∧ Shown verified h)
    ⟨(hfound.append _).append _, hshown⟩
    (fun _ _ hfound _ _ hr => by cases hr; exact hfound) fun _ _ _ _ _ hr => by cases hr

theorem obeys_authorizeInstallation (userAccessToken : Option String)
    (verified : VerifiedGitHubInstallation) (providerUserId : String) :
    Obeys (fun r h => r = .ok () → Proven providerUserId verified h) t
      (authorizeInstallation userAccessToken verified providerUserId) h := by
  unfold authorizeInstallation Proven
  cases htype : verified.accountType with
  | user =>
    intro hr
    by_cases hother : providerUserId = verified.accountId
    · exact hother
    · simp [hother] at hr
  | organization =>
    simp only
    unfold authorizeOrganization
    cases userAccessToken.filter (!·.isEmpty) with
    | none => exact fun hr => by cases hr
    | some token =>
      refine .tryCatch (Q := fun r h => r = .ok () → ∃ accessible,
          AccessibleFound (providerUserId, accessible) h ∧
            accessible.installationId = verified.installationId ∧
            accessible.accountId = verified.accountId) ?_ (fun _ _ hQ => hQ) fun _ _ _ hr => by cases hr
      refine .await_bind (Quiet.rule ⟨rfl, rfl⟩) (fun i accessible _ => ?_) fun _ _ _ hr => by cases hr
      intro hr
      refine ⟨accessible, learned_last rfl, ?_⟩
      simp only [Bool.or_eq_true, decide_eq_true_eq] at hr
      split at hr
      · cases hr
      · rename_i hsame
        simp only [not_or, ne_eq, not_not] at hsame
        exact hsame.1

theorem obeys_bind {setup : GitHubInstallationSetup} {now : Time}
    {verified : VerifiedGitHubInstallation} {userId workspaceId : Id}
    {member : Option WorkspaceMember} {identity : ExternalIdentity} {f : Bool → Call α}
    (hf : ∀ claimed, (f claimed).Only fun e => Quiet e) (hsetup : SetupFound setup h)
    (huser : setup.userId = userId) (hworkspace : setup.workspaceId = workspaceId)
    (hrole : RoleFound (workspaceId, userId, member) h) (hadmin : workspaceAdmin member = true)
    (hidentity : IdentityFound (userId, identity) h)
    (hproven : Proven identity.providerUserId verified h) (hshown : Shown verified h) :
    Obeys (fun _ _ => True) t
      (await (.bindInstallation setup.id now verified userId workspaceId) >>= f) h := by
  refine .await_bind ⟨fun binding hbinds => ?_, fun _ hsaid => by cases hsaid⟩
    (fun _ claimed _ => obeys_quiet (hf claimed)) fun _ _ _ => trivial
  cases hbinds
  exact ⟨⟨setup, hsetup, rfl, huser, hworkspace⟩, ⟨member, hrole, hadmin⟩,
    ⟨identity, hidentity, hproven⟩, hshown⟩

theorem obeys_completeSetup (state : Option SetupState) (installationId : String)
    (userAccessToken : Option String) :
    Obeys (fun _ _ => True) t (completeSetup state installationId userAccessToken) h := by
  refine obeys_then (obeys_loadSetupCandidate state installationId) fun candidate h _ hfound => ?_
  obtain ⟨setup, verified⟩ := candidate
  obtain ⟨hsetup, hshown⟩ := hfound setup verified rfl
  refine obeys_await ⟨rfl, rfl⟩ fun now h₁ hsub₁ _ _ => ?_
  refine obeys_await ⟨rfl, rfl⟩ fun found h₂ hsub₂ hidentity _ => ?_
  refine obeys_await ⟨rfl, rfl⟩ fun membership h₃ hsub₃ hrole _ => ?_
  cases found with
  | none => exact trivial
  | some identity =>
    refine obeys_refuseIf fun hadmin => ?_
    have hidentity : IdentityFound (setup.userId, identity) h₂ := .of_event hidentity fun _ => rfl
    have hrole : RoleFound (setup.workspaceId, setup.userId, membership) h₃ :=
      .of_event hrole fun _ => rfl
    refine obeys_then (obeys_authorizeInstallation userAccessToken verified
      identity.providerUserId) fun _ h₄ hsub₄ hproven => ?_
    refine obeys_bind (fun _ => .bind (.ret _) fun _ => .ret _) ?_ rfl rfl (hrole.mono hsub₄)
      (by simpa using hadmin) ((hidentity.mono hsub₃).mono hsub₄) (hproven rfl) ?_
    · exact (((hsetup.mono hsub₁).mono hsub₂).mono hsub₃).mono hsub₄
    · exact (((hshown.mono hsub₁).mono hsub₂).mono hsub₃).mono hsub₄

theorem obeys_recoverPersonalSetup (userId workspaceId : Id) :
    Obeys (fun _ _ => True) t (recoverPersonalSetup userId workspaceId) h := by
  refine obeys_await ⟨rfl, rfl⟩ fun now h₁ _ _ _ => ?_
  refine obeys_await ⟨rfl, rfl⟩ fun foundSetup h₂ _ hsetup hkeyed => ?_
  refine obeys_await ⟨rfl, rfl⟩ fun foundIdentity h₃ hsub₃ hidentity _ => ?_
  refine obeys_await ⟨rfl, rfl⟩ fun membership h₄ hsub₄ hrole _ => ?_
  cases foundSetup with
  | none => exact trivial
  | some setup =>
    cases foundIdentity with
    | none => exact trivial
    | some identity =>
      refine obeys_refuseIf fun hadmin => ?_
      have hsetup : SetupFound setup h₂ := .of_event hsetup fun _ => rfl
      have hidentity : IdentityFound (userId, identity) h₃ := .of_event hidentity fun _ => rfl
      have hrole : RoleFound (workspaceId, userId, membership) h₄ := .of_event hrole fun _ => rfl
      obtain ⟨huser, hworkspace⟩ := hkeyed setup rfl
      refine obeys_await ⟨rfl, rfl⟩ fun installations h₅ hsub₅ hlisted _ => ?_
      cases hfind : installations.find? (personal identity.providerUserId) with
      | none => exact trivial
      | some verified =>
        refine obeys_await ⟨rfl, rfl⟩ fun alreadyBound h₆ hsub₆ _ _ => ?_
        split
        · exact trivial
        have hpersonal := List.find?_some hfind
        simp only [personal, Bool.and_eq_true, decide_eq_true_eq] at hpersonal
        refine obeys_bind (fun _ => .ret _) ?_ huser hworkspace
          ((hrole.mono hsub₅).mono hsub₆) (by simpa using hadmin)
          (((hidentity.mono hsub₄).mono hsub₅).mono hsub₆) ?_ (Shown.mono ?_ hsub₆)
        · exact (((hsetup.mono hsub₃).mono hsub₄).mono hsub₅).mono hsub₆
        · rw [Proven, hpersonal.1.1]
          exact hpersonal.1.2.symm
        · obtain ⟨ev, hmem, heq⟩ := hlisted
          refine ⟨ev, hmem, ?_⟩
          rw [heq]
          exact List.mem_of_find?_eq_some hfind

theorem obeys_verifyApproved (approved : GitHubInstallation) (providerUserId : String)
    {userAccessToken : Call String} (htoken : userAccessToken.Only fun e => Quiet e) :
    Obeys (fun r h => ∀ verified, r = .ok (some verified) →
      Proven providerUserId verified h ∧ Shown verified h) t
      (verifyApproved approved providerUserId userAccessToken) h := by
  refine .tryCatch (Q := fun r h => ∀ verified, r = .ok (some verified) →
    Proven providerUserId verified h ∧ Shown verified h) ?_ (fun _ _ hQ => hQ) fun _ _ _ _ hr => by cases hr
  refine .await_bind (Quiet.rule ⟨rfl, rfl⟩) (fun k verified _ => ?_) fun _ _ _ _ hr => by cases hr
  have hshown : Shown verified
      (h ++ [(⟨t, .getInstallation approved.installationId, k, .ok verified⟩ : GitHubEvent)]) :=
    ⟨_, List.mem_append_right _ (.head _), .head _⟩
  generalize h ++ [(⟨t, .getInstallation approved.installationId, k, .ok verified⟩ :
    GitHubEvent)] = h₁ at hshown ⊢
  have hkeep : ∀ h ev, Shown verified h → Shown verified (h ++ [ev]) := fun _ _ hshown =>
    hshown.mono (List.subset_append_left _ _)
  refine ((obeys_quiet htoken).keep hkeep hshown).bind (fun token h hshown => ?_)
    fun _ _ _ _ hr => by cases hr
  refine .await_bind (Quiet.rule ⟨rfl, rfl⟩) (fun i accessible _ => ?_) fun _ _ _ _ hr => by cases hr
  intro verified' hr
  by_cases hclaimable : claimableApproved approved verified accessible = true
  · have hsame : verified = verified' := by
      have hr : Except.ok (if claimableApproved approved verified accessible then some verified
        else none) = (Except.ok (some verified') : Except Failure _) := hr
      rw [if_pos hclaimable] at hr
      cases hr
      rfl
    subst hsame
    simp only [claimableApproved, Bool.and_eq_true, decide_eq_true_eq] at hclaimable
    rw [Proven, hclaimable.1.1.1.1]
    exact ⟨⟨accessible, learned_last rfl, hclaimable.1.2, hclaimable.2⟩, hkeep _ _ hshown.2⟩
  · have hr : Except.ok (if claimableApproved approved verified accessible then some verified
      else none) = (Except.ok (some verified') : Except Failure _) := hr
    rw [if_neg hclaimable] at hr
    cases hr

theorem obeys_recoverRequestedOrganizationSetup (userId workspaceId : Id)
    {userAccessToken : Call String} (htoken : userAccessToken.Only fun e => Quiet e) :
    Obeys (fun _ _ => True) t
      (recoverRequestedOrganizationSetup userId workspaceId userAccessToken) h := by
  refine obeys_await ⟨rfl, rfl⟩ fun now h₁ _ _ _ => ?_
  refine obeys_await ⟨rfl, rfl⟩ fun foundSetup h₂ _ hsetup hkeyed => ?_
  refine obeys_await ⟨rfl, rfl⟩ fun foundIdentity h₃ hsub₃ hidentity _ => ?_
  refine obeys_await ⟨rfl, rfl⟩ fun membership h₄ hsub₄ hrole _ => ?_
  cases foundSetup with
  | none => exact trivial
  | some setup =>
    cases foundIdentity with
    | none => exact trivial
    | some identity =>
      refine obeys_refuseIf fun hadmin => ?_
      have hsetup : SetupFound setup h₂ := .of_event hsetup fun _ => rfl
      have hidentity : IdentityFound (userId, identity) h₃ := .of_event hidentity fun _ => rfl
      have hrole : RoleFound (workspaceId, userId, membership) h₄ := .of_event hrole fun _ => rfl
      obtain ⟨huser, hworkspace⟩ := hkeyed setup rfl
      refine obeys_await ⟨rfl, rfl⟩ fun approved h₅ hsub₅ _ _ => ?_
      cases approved with
      | none => exact trivial
      | some approved =>
        refine obeys_then (obeys_verifyApproved approved identity.providerUserId htoken)
          fun verified h₆ hsub₆ hproven => ?_
        cases verified with
        | none => exact trivial
        | some verified =>
          refine obeys_bind (fun _ => .ret _) ?_ huser hworkspace
            ((hrole.mono hsub₅).mono hsub₆) (by simpa using hadmin)
            (((hidentity.mono hsub₄).mono hsub₅).mono hsub₆) (hproven verified rfl).1
            (hproven verified rfl).2
          exact (((hsetup.mono hsub₃).mono hsub₄).mono hsub₅).mono hsub₆

theorem obeys_gitHubCall {p : Call Unit} (hp : GitHubCall p) :
    Obeys (fun _ _ => True) t p h := by
  cases hp with
  | webhook request => exact obeys_handle request
  | createSetup userId workspaceId =>
    exact obeys_quiet (quiet_createSetup userId workspaceId).ignoreError
  | markRequested state => exact obeys_quiet (quiet_markRequested state)
  | inspectSetup state installationId =>
    have hload := quiet_loadSetupCandidate state installationId
    exact obeys_quiet (.ignoreError (.bind hload fun _ => .ret _))
  | completeSetup state installationId userAccessToken =>
    exact (obeys_completeSetup state installationId userAccessToken).andThen fun _ _ _ => trivial
  | recover userId workspaceId =>
    have hrecover : Obeys (fun _ _ => True) t (recover userId workspaceId) h := by
      refine obeys_then (obeys_recoverPersonalSetup userId workspaceId) fun recovered h _ _ => ?_
      cases recovered with
      | some installation => exact trivial
      | none =>
        exact obeys_recoverRequestedOrganizationSetup userId workspaceId
          (quiet_accessTokenForUser userId)
    exact hrecover.andThen fun _ _ _ => trivial
  | storeExchange userId exchange => exact obeys_quiet (quiet_storeExchange userId exchange)
  | accessTokenForUser userId => exact obeys_quiet (quiet_accessTokenForUser userId).ignoreError
  | setRole workspaceId userId role => exact obeys_quiet (.await ⟨rfl, rfl⟩)
  | link userId providerUserId => exact obeys_quiet (.await ⟨rfl, rfl⟩)
  | unlink userId => exact obeys_quiet (.await ⟨rfl, rfl⟩)

end Programs

end InitPad.GitHub
