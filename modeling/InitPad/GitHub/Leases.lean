import InitPad.GitHub.Calls

/-!
# InitPad.GitHub.Leases

The lease under which a call refreshes the tokens of a linked account, read off its own events: from
an answered claim until the update with the new tokens, or until the lease is given back. `LeaseRule`
says which statements need it, and every call keeps the rule.
-/

namespace InitPad.GitHub

open Interleave
open Prog (await refuseIf)

variable {α β γ : Type}

structure Lease where
  id : Id
  version : Nat
  claimTime : Time
  deriving DecidableEq

/-! ## What statements do with a lease -/

/-- The lease that the statement asks for, and the time it is checked against. -/
def Stmt.claims : Stmt β → Option (Lease × Time)
  | .claimRefresh id version claimTime now => some (⟨id, version, claimTime⟩, now)
  | _ => none

/-- The claim that the statement has won. -/
def Stmt.claimed : Stmt β → Except Failure β → Option (Lease × Time)
  | .claimRefresh id version claimTime now, r =>
    if r.toOption = some 1 then some (⟨id, version, claimTime⟩, now) else none
  | _, _ => none

def Stmt.sends : Stmt β → Bool
  | .sendRefresh _ => true
  | _ => false

/-- The lease under which the statement writes new tokens. -/
def Stmt.stores : Stmt β → Option Lease
  | .storeRefreshed id version claimTime _ => some ⟨id, version, claimTime⟩
  | _ => none

def Stmt.releases : Stmt β → Option Lease
  | .releaseLease id version claimTime => some ⟨id, version, claimTime⟩
  | _ => none

def Stmt.clockRead : Stmt β → Except Failure β → Option Time
  | .clock, r => r.toOption
  | _, _ => none

abbrev ClockRead := Learned fun ev => ev.stmt.clockRead ev.result

/-- The lease of a call after its statement is answered. -/
def Stmt.leaseAfter : Stmt β → Except Failure β → Option Lease → Option Lease
  | .claimRefresh id version claimTime _, r, lease =>
    if r.toOption = some 1 then some ⟨id, version, claimTime⟩ else lease
  | .storeRefreshed _ _ _ _, r, lease => if r.toOption = some 1 then none else lease
  | .releaseLease _ _ _, _, _ => none
  | .clearVersion _ _, _, _ => none
  | _, _, lease => lease

def lease (h : History) : Option Lease :=
  h.foldl (fun held ev => ev.stmt.leaseAfter ev.result held) none

theorem lease_append (h : History) (ev : GitHubEvent) :
    lease (h ++ [ev]) = ev.stmt.leaseAfter ev.result (lease h) := by
  simp [lease, List.foldl_append]

theorem claims_of_claimed {e : Stmt β} {r : Except Failure β} {l : Lease} {now : Time}
    (h : e.claimed r = some (l, now)) : e.claims = some (l, now) := by
  cases e with
  | claimRefresh id version claimTime now' =>
    simp only [Stmt.claimed] at h
    split at h
    · exact h
    · cases h
  | _ => cases h

theorem leaseAfter_some {e : Stmt β} {r : Except Failure β} {held : Option Lease} {l : Lease}
    (h : e.leaseAfter r held = some l) :
    (held = some l ∧ e.releases = none) ∨ ∃ now, e.claimed r = some (l, now) := by
  cases e with
  | claimRefresh id version claimTime now =>
    simp only [Stmt.leaseAfter] at h
    split at h
    · rename_i hone
      cases h
      exact .inr ⟨now, if_pos hone⟩
    · exact .inl ⟨h, rfl⟩
  | storeRefreshed id version claimTime token =>
    simp only [Stmt.leaseAfter] at h
    split at h
    · cases h
    · exact .inl ⟨h, rfl⟩
  | releaseLease | clearVersion => cases h
  | _ => exact .inl ⟨h, rfl⟩

structure LeaseRule (e : Stmt β) (h : History) : Prop where
  claims : ∀ l now, e.claims = some (l, now) → lease h = none ∧ ClockRead now h
  sends : e.sends = true → (lease h).isSome
  stores : ∀ l, e.stores = some l → lease h = some l
  releases : ∀ l, e.releases = some l → lease h = some l

/-- Statements without a lease. -/
structure Unleased (e : Stmt β) : Prop where
  claims : e.claims = none
  sends : e.sends = false
  stores : e.stores = none
  releases : e.releases = none

theorem Unleased.rule {e : Stmt β} {h : History} (he : Unleased e) : LeaseRule e h where
  claims l now hclaims := by
    rw [he.claims] at hclaims
    cases hclaims
  sends hsends := by
    rw [he.sends] at hsends
    cases hsends
  stores l hstores := by
    rw [he.stores] at hstores
    cases hstores
  releases l hreleases := by
    rw [he.releases] at hreleases
    cases hreleases

theorem Unleased.after {e : Stmt β} {r : Except Failure β} (he : Unleased e) :
    e.leaseAfter r none = none := by
  cases hafter : e.leaseAfter r none with
  | none => rfl
  | some l =>
    rcases leaseAfter_some hafter with ⟨hnone, -⟩ | ⟨now, hclaimed⟩
    · cases hnone
    · have hclaims := claims_of_claimed hclaimed
      rw [he.claims] at hclaims
      cases hclaims

/-! ## Calls without a lease -/

theorem unleased_handleEvent (event : InstallationEvent) :
    (handleEvent event).Only fun e => Unleased e := by
  have hsuspension : ∀ inst, (suspension event inst).Only fun e => Unleased e := by
    intro inst
    unfold suspension
    split
    · exact .bind (.await ⟨rfl, rfl, rfl, rfl⟩) fun _ => .ret _
    · exact .ret _
    · exact .ret _
  unfold handleEvent
  split
  · exact .ret _
  split
  · exact .ret _
  refine .bind (.await ⟨rfl, rfl, rfl, rfl⟩) fun existing => .bind (.ret _) fun _ => ?_
  split
  · exact .bind (.await ⟨rfl, rfl, rfl, rfl⟩) fun now => .await ⟨rfl, rfl, rfl, rfl⟩
  · exact .bind (hsuspension _) fun suspendedAt => .await ⟨rfl, rfl, rfl, rfl⟩

theorem unleased_apply [Environment] (body : WebhookBody) :
    (apply body).Only fun e => Unleased e := by
  unfold apply
  split
  · exact unleased_handleEvent _
  · unfold handleTargetEvent
    split
    · exact .await ⟨rfl, rfl, rfl, rfl⟩
    · exact .ret _
  · exact .await ⟨rfl, rfl, rfl, rfl⟩
  · exact .ret _

theorem unleased_handle [Environment] (request : WebhookRequest) :
    (handle request).Only fun e => Unleased e := by
  have hrecord : ∀ delivery event, (record delivery event).Only fun e => Unleased e :=
    fun delivery event => .bind (.await ⟨rfl, rfl, rfl, rfl⟩) fun now =>
      .bind (.await ⟨rfl, rfl, rfl, rfl⟩) fun _ => .await ⟨rfl, rfl, rfl, rfl⟩
  refine .bind (.ret _) fun _ => ?_
  split
  · exact .ret _
  split
  · exact .ret _
  refine .bind (.bind (.await ⟨rfl, rfl, rfl, rfl⟩) fun _ => .ret _) fun known => ?_
  cases known with
  | true => exact .ret _
  | false => exact .bind (unleased_apply _) fun _ => hrecord _ _

theorem unleased_loadSetupCandidate (state : Option SetupState) (installationId : String) :
    (loadSetupCandidate state installationId).Only fun e => Unleased e := by
  unfold loadSetupCandidate
  split
  · refine .bind (.await ⟨rfl, rfl, rfl, rfl⟩) fun found =>
      .bind (.await ⟨rfl, rfl, rfl, rfl⟩) fun now => ?_
    split
    · exact .ret _
    · exact .bind (.await ⟨rfl, rfl, rfl, rfl⟩) fun verified => .bind (.ret _) fun _ => .ret _
  · exact .ret _

theorem unleased_completeSetup (state : Option SetupState) (installationId : String)
    (userAccessToken : Option String) :
    (completeSetup state installationId userAccessToken).Only fun e => Unleased e := by
  have horganization : ∀ verified providerUserId,
      (authorizeOrganization userAccessToken verified providerUserId).Only
        fun e => Unleased e := by
    intro verified providerUserId
    unfold authorizeOrganization
    split
    · exact .ret _
    · exact .tryCatch (.bind (.await ⟨rfl, rfl, rfl, rfl⟩) fun _ => .ret _) fun _ => .ret _
  have hauthorize : ∀ verified providerUserId,
      (authorizeInstallation userAccessToken verified providerUserId).Only
        fun e => Unleased e := by
    intro verified providerUserId
    unfold authorizeInstallation
    split
    · exact .ret _
    · exact horganization verified providerUserId
  refine .bind (unleased_loadSetupCandidate state installationId) fun candidate => ?_
  refine .bind (.await ⟨rfl, rfl, rfl, rfl⟩) fun now =>
    .bind (.await ⟨rfl, rfl, rfl, rfl⟩) fun identity =>
      .bind (.await ⟨rfl, rfl, rfl, rfl⟩) fun membership => ?_
  cases identity with
  | none => exact .ret _
  | some identity =>
    refine .bind (.ret _) fun _ => .bind (hauthorize _ _) fun _ => ?_
    exact .bind (.await ⟨rfl, rfl, rfl, rfl⟩) fun _ => .bind (.ret _) fun _ => .ret _

theorem unleased_claimSetup (setup : GitHubInstallationSetup) (now : Time)
    (verified : VerifiedGitHubInstallation) (userId workspaceId : Id) :
    (claimSetup setup now verified userId workspaceId).Only fun e => Unleased e :=
  .bind (.await ⟨rfl, rfl, rfl, rfl⟩) fun _ => .ret _

theorem unleased_recoverPersonalSetup (userId workspaceId : Id) :
    (recoverPersonalSetup userId workspaceId).Only fun e => Unleased e := by
  refine .bind (.await ⟨rfl, rfl, rfl, rfl⟩) fun now =>
    .bind (.await ⟨rfl, rfl, rfl, rfl⟩) fun setup =>
      .bind (.await ⟨rfl, rfl, rfl, rfl⟩) fun identity =>
        .bind (.await ⟨rfl, rfl, rfl, rfl⟩) fun membership => ?_
  split
  · refine .bind (.ret _) fun _ => .bind (.await ⟨rfl, rfl, rfl, rfl⟩) fun installations => ?_
    split
    · exact .ret _
    · refine .bind (.await ⟨rfl, rfl, rfl, rfl⟩) fun alreadyBound => ?_
      split
      · exact .ret _
      · exact unleased_claimSetup _ _ _ _ _
  · exact .ret _

theorem unleased_reauthorize (identity : ExternalIdentity) :
    (reauthorize identity : Call α).Only fun e => Unleased e :=
  .bind (.await ⟨rfl, rfl, rfl, rfl⟩) fun _ => .ret _

/-! ## Calls that keep the rule -/

/-- Without a lease, the program keeps the rule and ends without one. -/
def LeaseKept (t : Nat) (p : Call α) : Prop := ∀ h, lease h = none →
  p.Meets (fun _ => True) LeaseRule (fun _ h => lease h = none) t h

variable {t : Nat}

theorem compositional_leaseKept : Prog.Compositional (E := Stmt) (ε := Failure)
    fun p => LeaseKept t p where
  ret _ _ hnone := hnone
  andThen hp hf h hnone := (hp h hnone).andThen fun r h' hnone' => hf r h' hnone'

theorem leaseKept_unleased {p : Call α} (hp : p.Only fun e => Unleased e) : LeaseKept t p :=
  hp.compose compositional_leaseKept fun e he h hnone => .await he.rule fun i r _ => by
    rw [lease_append, hnone]
    exact he.after

theorem lease_kept {e : Stmt γ} {i : GitHubInput} {r : Except Failure γ} {h : History}
    {l : Lease} (hlease : lease h = some l) (hkept : e.leaseAfter r (some l) = some l) :
    lease (h ++ [(⟨t, e, i, r⟩ : GitHubEvent)]) = some l := by
  rw [lease_append, hlease]
  exact hkept

theorem exchange_meets {identity : ExternalIdentity} {claimTime : Time} {l : Lease}
    (refreshToken : String) (hl : l = ⟨identity.id, identity.credentialVersion, claimTime⟩)
    {h : History} (hlease : lease h = some l) :
    (exchangeRefreshToken identity claimTime refreshToken).Meets (fun _ => True) LeaseRule
      (fun r h => lease h = if r.isOk then none else some l) t h := by
  have hsends : LeaseRule (.sendRefresh refreshToken) h :=
    ⟨nofun, fun _ => by rw [hlease]; rfl, nofun, nofun⟩
  refine .await_bind hsends (fun i _ _ => ?_) fun _ _ _ => lease_kept hlease rfl
  have hsent := lease_kept (t := t) (i := i) (r := .ok ()) (e := .sendRefresh refreshToken) hlease rfl
  refine .await_bind ⟨nofun, nofun, nofun, nofun⟩ (fun j token _ => ?_)
    fun _ _ _ => lease_kept hsent rfl
  have hanswered := lease_kept (t := t) (i := j) (r := .ok token) (e := .refreshAnswer) hsent rfl
  refine .await_bind ⟨nofun, nofun, fun l' hl' => ?_, nofun⟩ (fun k stored _ => ?_)
    fun _ _ _ => lease_kept hanswered rfl
  · cases hl'
    rw [hanswered, hl]
  by_cases hone : stored = 1
  · subst hone
    have hover : lease (h ++ [(⟨t, .sendRefresh refreshToken, i, .ok ()⟩ : GitHubEvent)] ++
        [⟨t, .refreshAnswer, j, .ok token⟩] ++ [⟨t, .storeRefreshed identity.id
          identity.credentialVersion claimTime token, k, .ok 1⟩]) = none := lease_append _ _
    exact hover
  · have hkept : Stmt.leaseAfter (.storeRefreshed identity.id identity.credentialVersion claimTime
        token) (.ok stored) (some l) = some l := by
      simp [Stmt.leaseAfter, Except.toOption, hone]
    have hrefused : refuseIf (decide (stored ≠ 1)) refreshInProgress =
        (throw refreshInProgress : Call Unit) := by
      simp [hone, refuseIf, Prog.throw_eq]
    rw [hrefused]
    exact lease_kept hanswered hkept

theorem rotate_meets {identity : ExternalIdentity} {claimTime : Time} (refreshToken : String)
    {h : History} (hlease : lease h = some ⟨identity.id, identity.credentialVersion, claimTime⟩) :
    (rotate identity claimTime refreshToken).Meets (fun _ => True) LeaseRule
      (fun _ h => lease h = none) t h := by
  refine .tryCatch (exchange_meets refreshToken rfl hlease) (fun _ _ hnone => hnone)
    fun x h hheld => ?_
  have hreleases : LeaseRule (.releaseLease identity.id identity.credentialVersion claimTime) h :=
    ⟨nofun, nofun, nofun, fun l hl => by cases hl; exact hheld⟩
  refine .await_bind hreleases (fun i _ _ => ?_) fun i _ _ => ?_
  · exact lease_append _ _
  · exact lease_append _ _

section

variable [Environment]

theorem refresh_leaseKept (identity : ExternalIdentity) (stored : Secrets.StoredSecret) :
    LeaseKept t (refresh identity stored) := by
  intro h hnone
  have hclock : ∀ {h i} {r : Except Failure Time}, lease h = none →
      lease (h ++ [(⟨t, .clock, i, r⟩ : GitHubEvent)]) = none := by
    intro h i r hnone
    rw [lease_append]
    exact hnone
  refine .await_bind ⟨nofun, nofun, nofun, nofun⟩ (fun i claimTime _ => ?_)
    fun _ _ _ => hclock hnone
  have hnone := hclock (i := i) (r := .ok claimTime) hnone
  refine .await_bind ⟨nofun, nofun, nofun, nofun⟩ (fun j now _ => ?_)
    fun _ _ _ => hclock hnone
  have hread : ClockRead now (h ++ [(⟨t, .clock, i, .ok claimTime⟩ : GitHubEvent)] ++
    [⟨t, .clock, j, .ok now⟩]) := learned_last rfl
  have hnone := hclock (i := j) (r := .ok now) hnone
  generalize h ++ [(⟨t, .clock, i, .ok claimTime⟩ : GitHubEvent)] ++ [⟨t, .clock, j, .ok now⟩] = h
    at hread hnone
  have hclaims : LeaseRule (.claimRefresh identity.id identity.credentialVersion claimTime now)
      h := ⟨fun l now' hl => by cases hl; exact ⟨hnone, hread⟩, nofun, nofun, nofun⟩
  refine .await_bind hclaims (fun k claimed _ => ?_) fun k x _ => (lease_append _ _).trans hnone
  by_cases hone : claimed = 1
  · subst hone
    have hheld : lease (h ++ [(⟨t, .claimRefresh identity.id identity.credentialVersion claimTime
        now, k, .ok 1⟩ : GitHubEvent)]) =
          some ⟨identity.id, identity.credentialVersion, claimTime⟩ := lease_append _ _
    rw [if_neg (by simp)]
    split
    · refine .await_bind (Unleased.rule ⟨rfl, rfl, rfl, rfl⟩) (fun _ _ _ => ?_) fun _ _ _ => ?_
      · exact lease_append _ _
      · exact lease_append _ _
    · exact (rotate_meets _ hheld).bind (fun _ _ hnone => hnone) fun _ _ hnone => hnone
  · rw [if_pos hone]
    have hfree : lease (h ++ [(⟨t, .claimRefresh identity.id identity.credentialVersion claimTime
        now, k, .ok claimed⟩ : GitHubEvent)]) = none := by
      rw [lease_append, hnone]
      simp [Stmt.leaseAfter, Except.toOption, hone]
    refine leaseKept_unleased ?_ _ hfree
    exact .bind (.await ⟨rfl, rfl, rfl, rfl⟩) fun _ => .ret _

theorem accessTokenForUser_leaseKept (userId : Id) : LeaseKept t (accessTokenForUser userId) := by
  have hrenew : ∀ identity, LeaseKept t (renew identity) := by
    intro identity
    refine compositional_leaseKept.bind ?_ fun now => ?_
    · exact leaseKept_unleased (.await ⟨rfl, rfl, rfl, rfl⟩)
    split
    · exact refresh_leaseKept _ _
    · exact leaseKept_unleased (unleased_reauthorize identity)
  have hattempt : LeaseKept t (attemptAccess userId) := by
    refine compositional_leaseKept.bind ?_ fun found => ?_
    · exact leaseKept_unleased (.await ⟨rfl, rfl, rfl, rfl⟩)
    split
    · exact compositional_leaseKept.ret _
    split
    · exact compositional_leaseKept.ret _
    split
    · exact leaseKept_unleased (unleased_reauthorize _)
    refine compositional_leaseKept.bind ?_ fun now => ?_
    · exact leaseKept_unleased (.await ⟨rfl, rfl, rfl, rfl⟩)
    split
    · exact compositional_leaseKept.ret _
    · exact hrenew _
  unfold accessTokenForUser
  induction REFRESH_WAIT_ATTEMPTS with
  | zero => exact compositional_leaseKept.ret _
  | succ attempts ih =>
    refine compositional_leaseKept.bind hattempt fun token => ?_
    cases token with
    | none => exact ih
    | some accessToken => exact compositional_leaseKept.ret _

theorem recover_leaseKept (userId workspaceId : Id) :
    LeaseKept t (recover userId workspaceId) := by
  have hverify : ∀ approved providerUserId, LeaseKept t
      (verifyApproved approved providerUserId (accessTokenForUser userId)) := by
    intro approved providerUserId
    refine compositional_leaseKept.tryCatch ?_ fun _ => compositional_leaseKept.ret _
    refine compositional_leaseKept.bind ?_ fun verified => ?_
    · exact leaseKept_unleased (.await ⟨rfl, rfl, rfl, rfl⟩)
    refine compositional_leaseKept.bind (accessTokenForUser_leaseKept userId) fun token => ?_
    exact leaseKept_unleased (.bind (.await ⟨rfl, rfl, rfl, rfl⟩) fun _ => .ret _)
  refine compositional_leaseKept.bind ?_ fun recovered => ?_
  · exact leaseKept_unleased (unleased_recoverPersonalSetup userId workspaceId)
  cases recovered with
  | some installation => exact compositional_leaseKept.ret _
  | none =>
    have hread : ∀ {β : Type} {e : Stmt β}, Unleased e → LeaseKept t (await e) :=
      fun he => leaseKept_unleased (.await he)
    refine compositional_leaseKept.bind (hread ⟨rfl, rfl, rfl, rfl⟩) fun now => ?_
    refine compositional_leaseKept.bind (hread ⟨rfl, rfl, rfl, rfl⟩) fun setup => ?_
    refine compositional_leaseKept.bind (hread ⟨rfl, rfl, rfl, rfl⟩) fun identity => ?_
    refine compositional_leaseKept.bind (hread ⟨rfl, rfl, rfl, rfl⟩) fun membership => ?_
    split
    · refine compositional_leaseKept.bind (compositional_leaseKept.ret _) fun _ => ?_
      refine compositional_leaseKept.bind (hread ⟨rfl, rfl, rfl, rfl⟩) fun approved => ?_
      cases approved with
      | none => exact compositional_leaseKept.ret _
      | some approved =>
        refine compositional_leaseKept.bind (hverify _ _) fun verified => ?_
        cases verified with
        | none => exact compositional_leaseKept.ret _
        | some verified => exact leaseKept_unleased (unleased_claimSetup _ _ _ _ _)
    · exact compositional_leaseKept.ret _

theorem gitHubCall_leaseKept {p : Call Unit} (hp : GitHubCall p) : LeaseKept t p := by
  cases hp with
  | webhook request => exact leaseKept_unleased (unleased_handle request)
  | createSetup userId workspaceId =>
    refine leaseKept_unleased (.ignoreError ?_)
    exact .bind (.await ⟨rfl, rfl, rfl, rfl⟩) fun _ => .bind (.ret _) fun _ =>
      .bind (.await ⟨rfl, rfl, rfl, rfl⟩) fun _ => .bind (.await ⟨rfl, rfl, rfl, rfl⟩) fun _ =>
        .await ⟨rfl, rfl, rfl, rfl⟩
  | markRequested state =>
    refine leaseKept_unleased ?_
    cases state with
    | none => exact .ret _
    | some state => exact .bind (.await ⟨rfl, rfl, rfl, rfl⟩) fun _ => .await ⟨rfl, rfl, rfl, rfl⟩
  | inspectSetup state installationId =>
    have hload := unleased_loadSetupCandidate state installationId
    exact leaseKept_unleased (.ignoreError (.bind hload fun _ => .ret _))
  | completeSetup state installationId userAccessToken =>
    exact leaseKept_unleased (unleased_completeSetup _ _ _).ignoreError
  | recover userId workspaceId =>
    exact compositional_leaseKept.ignoreError (recover_leaseKept userId workspaceId)
  | storeExchange userId exchange =>
    exact leaseKept_unleased (.bind (.await ⟨rfl, rfl, rfl, rfl⟩) fun _ => .ret _)
  | accessTokenForUser userId =>
    exact compositional_leaseKept.ignoreError (accessTokenForUser_leaseKept userId)
  | setRole workspaceId userId role => exact leaseKept_unleased (.await ⟨rfl, rfl, rfl, rfl⟩)
  | link userId providerUserId => exact leaseKept_unleased (.await ⟨rfl, rfl, rfl, rfl⟩)
  | unlink userId => exact leaseKept_unleased (.await ⟨rfl, rfl, rfl, rfl⟩)

end

end InitPad.GitHub
