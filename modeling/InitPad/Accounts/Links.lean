import InitPad.Accounts.Writes
import InitPad.Interleave.Trace
import InitPad.Store.Descent

/-!
# InitPad.Accounts.Links

The links that verify an e-mail address, reset a password or activate an account. A request claims
its link with a compare-and-set, and only a later transaction brings the effect: nobody uses a link
twice, and `Completed` is the condition under which a claimed link has had its effect.
-/

namespace InitPad.Accounts

open Interleave Store
open Prog (await refuseIf lift)

variable {β : Type}

/-! ## What a request has done -/

/-- The link that the statement has claimed for its caller. -/
def Stmt.claimed : Stmt β → Except Failure β → Option Id
  | .claimAuthToken id _ _, r => if r.toOption = some 1 then some id else none
  | _, _ => none

theorem claimed_iff {id a : Id} {kind : MailKind} {now : Time} {r : Except Failure Nat} :
    (Stmt.claimAuthToken id kind now).claimed r = some a ↔ r = .ok 1 ∧ id = a := by
  cases r with
  | error x => simp [Stmt.claimed, Except.toOption]
  | ok n => simp [Stmt.claimed, Except.toOption]

def Stmt.foundLink : Stmt β → Except Failure β → Option AuthTokenRow
  | .findAuthToken _, .ok found => found
  | _, _ => none

/-- The effect of a link: what the link is for, the account, and the update. -/
def Stmt.applies : Stmt β → Option (MailKind × Id × (UserRow → UserRow))
  | .verifyEmail userId now => some (.emailVerify, userId, .verified now)
  | .replacePassword userId passwordHash .passwordReset =>
    some (.passwordReset, userId, .withPassword passwordHash)
  | .replacePassword userId passwordHash .accountActivated =>
    some (.activation, userId, .withPassword passwordHash)
  | _ => none

/-- The statements from the claim of a link to its effect. -/
def Stmt.settles : Stmt β → Bool
  | .clock | .claimAuthToken .. | .hashPassword _ => true
  | e => e.applies.isSome

def Claimed (a : Id) (h : History) : Prop := ∃ ev ∈ h, ev.stmt.claimed ev.result = some a

def Found (record : AuthTokenRow) (h : History) : Prop :=
  ∃ ev ∈ h, ev.stmt.foundLink ev.result = some record

def Applied (h : History) : Prop := ∃ ev ∈ h, ev.stmt.applies.isSome

/-- No statement behind a claim has failed. -/
def Answered (h : History) : Prop :=
  ∀ ev ∈ h, ev.stmt.settles = true → ∀ x, ev.result ≠ .error x

section Append

variable {a : Id} {record : AuthTokenRow} {h : History} {ev : Event Stmt ApiInput Failure}

theorem claimed_append :
    Claimed a (h ++ [ev]) ↔ Claimed a h ∨ ev.stmt.claimed ev.result = some a := by
  simp [Claimed, or_and_right, exists_or]

theorem applied_append : Applied (h ++ [ev]) ↔ Applied h ∨ ev.stmt.applies.isSome := by
  simp [Applied, or_and_right, exists_or]

theorem Found.append (hfound : Found record h) (ev : Event Stmt ApiInput Failure) :
    Found record (h ++ [ev]) := by
  obtain ⟨ev', hev', hrecord⟩ := hfound
  exact ⟨ev', List.mem_append_left _ hev', hrecord⟩

end Append

/-! ## One request -/

/-- Nothing has been claimed. -/
structure Fresh (h : History) : Prop where
  claimed : ∀ a, ¬ Claimed a h
  applied : ¬ Applied h

theorem fresh_nil : Fresh [] := by
  refine ⟨fun a hclaimed => ?_, fun happlied => ?_⟩
  · obtain ⟨ev, hev, -⟩ := hclaimed
    cases hev
  · obtain ⟨ev, hev, -⟩ := happlied
    cases hev

/-- The link of `record` has been claimed, and has no effect yet. -/
structure Held (record : AuthTokenRow) (h : History) : Prop where
  found : Found record h
  claimed : Claimed record.id h
  only : ∀ a, Claimed a h → a = record.id
  applied : ¬ Applied h

/-- A claim without an effect is left by a failure alone. -/
def Settled (h : History) : Prop :=
  Answered h → ∀ a, Claimed a h → Applied h ∧ ∀ a', Claimed a' h → a' = a

structure LinkRule (e : Stmt β) (h : History) : Prop where
  applies : ∀ kind userId change, e.applies = some (kind, userId, change) →
    ∃ record, Held record h ∧ record.userId = userId ∧ record.kind = kind
  claims : e.claimsLink.isSome → Fresh h

/-- Statements that claim and apply nothing. -/
def Idle (e : Stmt β) : Prop := e.applies = none ∧ e.claimsLink = none

namespace Idle

variable {e : Stmt β} {h : History} {t : Nat} {i : ApiInput} {r : Except Failure β}
  {record : AuthTokenRow}

theorem claimed (he : Idle e) : e.claimed r = none := by
  obtain ⟨-, hclaims⟩ := he
  cases e with
  | claimAuthToken => cases hclaims
  | _ => rfl

theorem rule (he : Idle e) : LinkRule e h where
  applies kind userId change hsome := by
    rw [he.1] at hsome
    cases hsome
  claims hsome := by
    rw [he.2] at hsome
    cases hsome

theorem fresh (he : Idle e) (hfresh : Fresh h) : Fresh (h ++ [⟨t, e, i, r⟩]) where
  claimed a hclaimed := by
    rcases claimed_append.1 hclaimed with hclaimed | hclaimed
    · exact hfresh.claimed a hclaimed
    · rw [he.claimed] at hclaimed
      cases hclaimed
  applied happlied := by
    rcases applied_append.1 happlied with happlied | happlied
    · exact hfresh.applied happlied
    · rw [he.1] at happlied
      cases happlied

theorem claimed_iff (he : Idle e) {a : Id} :
    Claimed a (h ++ [⟨t, e, i, r⟩]) ↔ Claimed a h := by
  rw [claimed_append, he.claimed]
  simp

theorem held (he : Idle e) (hheld : Held record h) : Held record (h ++ [⟨t, e, i, r⟩]) where
  found := hheld.found.append _
  claimed := he.claimed_iff.mpr hheld.claimed
  only a hclaimed := hheld.only a (he.claimed_iff.mp hclaimed)
  applied happlied := by
    rcases applied_append.1 happlied with happlied | happlied
    · exact hheld.applied happlied
    · rw [he.1] at happlied
      cases happlied

end Idle

theorem Answered.of_append {h : History} {ev : Event Stmt ApiInput Failure}
    (hanswered : Answered (h ++ [ev])) : Answered h :=
  fun ev' hev' => hanswered ev' (List.mem_append_left _ hev')

theorem settled_of_fresh {h : History} (hfresh : Fresh h) : Settled h :=
  fun _ a hclaimed => absurd hclaimed (hfresh.claimed a)

theorem settled_of_error {h : History} {t : Nat} {e : Stmt β} {i : ApiInput} {x : Failure}
    (he : e.settles = true) : Settled (h ++ [⟨t, e, i, .error x⟩]) := by
  intro hanswered
  exact absurd rfl (hanswered _ (List.mem_append_right _ (List.mem_singleton.mpr rfl)) he x)

theorem settled_of_applied {record : AuthTokenRow} {h : History} {t : Nat} {e : Stmt β}
    {i : ApiInput} {r : Except Failure β} (hheld : Held record h) (happlies : e.applies.isSome)
    (hclaims : e.claimed r = none) : Settled (h ++ [⟨t, e, i, r⟩]) := by
  have honly : ∀ a, Claimed a (h ++ [⟨t, e, i, r⟩]) → a = record.id := by
    intro a hclaimed
    rcases claimed_append.1 hclaimed with hclaimed | hclaimed
    · exact hheld.only a hclaimed
    · rw [hclaims] at hclaimed
      cases hclaimed
  intro _ a hclaimed
  refine ⟨applied_append.2 (.inr happlies), fun a' hclaimed' => ?_⟩
  rw [honly a hclaimed, honly a' hclaimed']

theorem Idle.settled {e : Stmt β} {h : History} {t : Nat} {i : ApiInput} {r : Except Failure β}
    (he : Idle e) (hsettled : Settled h) : Settled (h ++ [⟨t, e, i, r⟩]) := by
  intro hanswered a hclaimed
  obtain ⟨happlied, honly⟩ := hsettled hanswered.of_append a (he.claimed_iff.mp hclaimed)
  exact ⟨applied_append.2 (.inl happlied), fun a' h' => honly a' (he.claimed_iff.mp h')⟩

section

variable {α γ : Type} {t : Nat} {h : History} {record : AuthTokenRow}

/-- The program obeys the rule, and ends with `Q`. -/
abbrev Obeys (Q : Except Failure α → History → Prop) (t : Nat) (p : ApiCall α) (h : History) :
    Prop := p.Meets (fun _ => True) LinkRule Q t h

theorem obeys_settled {p : ApiCall α} (hp : p.Only fun e => Idle e) (hsettled : Settled h) :
    Obeys (fun _ => Settled) t p h :=
  .of_only (fun _ _ he hsettled => ⟨he.rule, fun _ _ _ => he.settled hsettled⟩) hp hsettled

theorem obeys_found {p : ApiCall α} (hp : p.Only fun e => Idle e) (hfresh : Fresh h)
    (hfound : Found record h) : Obeys (fun _ h => Fresh h ∧ Found record h) t p h :=
  .of_only (B := fun h => Fresh h ∧ Found record h) (fun _ _ he hB =>
    ⟨he.rule, fun _ _ _ => ⟨he.fresh hB.1, hB.2.append _⟩⟩) hp ⟨hfresh, hfound⟩

theorem obeys_fresh_bind {Q : Except Failure α → History → Prop} {e : Stmt γ}
    {f : γ → ApiCall α} (he : Idle e) (hfresh : Fresh h)
    (hok : ∀ i a, Fresh (h ++ [⟨t, e, i, .ok a⟩]) → Obeys Q t (f a) (h ++ [⟨t, e, i, .ok a⟩]))
    (herr : ∀ x h', Fresh h' → Q (.error x) h') : Obeys Q t (await e >>= f) h :=
  .await_bind he.rule (fun i a _ => hok i a (he.fresh hfresh)) fun _ x _ =>
    herr x _ (he.fresh hfresh)

theorem idle_aside (what : String) : (await (.aside what) : ApiCall Unit).Only fun e => Idle e :=
  .await ⟨rfl, rfl⟩

theorem idle_issue (user : UserRow) (client : SessionClient) :
    (issue user client).Only fun e => Idle e := by
  refine .bind (.await ⟨rfl, rfl⟩) fun now => ?_
  refine .bind (.await ⟨rfl, rfl⟩) fun _ => ?_
  refine .bind (.await ⟨rfl, rfl⟩) fun sid => ?_
  exact .bind (.await ⟨rfl, rfl⟩) fun _ => .ret _

theorem idle_issueAuthLink (user : UserRow) (kind : MailKind) (ttlMs : Nat) :
    (issueAuthLink user kind ttlMs).Only fun e => Idle e := .await ⟨rfl, rfl⟩

theorem idle_revokeGitCredential (userId : Id) :
    (revokeGitCredential userId).Only fun e => Idle e := by
  refine .bind (.await ⟨rfl, rfl⟩) fun user => ?_
  split
  · refine .bind (.tryCatch ?_ fun _ => .ret _) fun _ => .await ⟨rfl, rfl⟩
    exact .bind (idle_aside _) fun _ => idle_aside _
  · exact .ret _

theorem obeys_findUsableAuthToken (token : Option RandomToken) (kind : MailKind)
    (hfresh : Fresh h) :
    Obeys (fun r h => Fresh h ∧ ∀ record, r = .ok record → Found record h ∧ record.kind = kind) t
      (findUsableAuthToken token kind) h := by
  have herr : ∀ x (h' : History), Fresh h' →
      Fresh h' ∧ ∀ record, (.error x : Except Failure AuthTokenRow) = .ok record →
        Found record h' ∧ record.kind = kind := fun x h' hfresh => ⟨hfresh, fun record hr => by cases hr⟩
  cases token with
  | none => exact herr _ _ hfresh
  | some token =>
    refine obeys_fresh_bind ⟨rfl, rfl⟩ hfresh (fun i found hfresh => ?_) herr
    refine obeys_fresh_bind ⟨rfl, rfl⟩ hfresh (fun j now hfresh => ?_) herr
    cases husable : usable kind now found with
    | none => exact herr _ _ hfresh
    | some record =>
      obtain ⟨hrecord, husable⟩ := Option.filter_eq_some_iff.mp husable
      simp only [Bool.and_eq_true, decide_eq_true_eq] at husable
      refine ⟨hfresh, fun record' hr => ?_⟩
      cases hr
      refine ⟨Found.append ⟨⟨t, .findAuthToken (hashToken token), i, .ok found⟩, ?_, hrecord⟩ _,
        husable.1.1⟩
      exact List.mem_append_right _ (List.mem_singleton.mpr rfl)

theorem obeys_claimAuthToken (hfresh : Fresh h) (hfound : Found record h) :
    Obeys (fun r h => match r with
      | .ok _ => Held record h
      | .error _ => Settled h) t (claimAuthToken record) h := by
  refine .await_bind (Idle.rule ⟨rfl, rfl⟩) (fun i now _ => ?_) fun i x _ =>
    settled_of_fresh (Idle.fresh ⟨rfl, rfl⟩ hfresh)
  have hfresh' : Fresh (h ++ [⟨t, .clock, i, .ok now⟩]) := Idle.fresh ⟨rfl, rfl⟩ hfresh
  have hfound' := hfound.append ⟨t, .clock, i, .ok now⟩
  generalize h ++ [(⟨t, .clock, i, .ok now⟩ : Event Stmt ApiInput Failure)] = h' at hfresh' hfound'
  have hrule : LinkRule (.claimAuthToken record.id record.kind now) h' :=
    ⟨fun _ _ _ hsome => (by cases hsome), fun _ => hfresh'⟩
  refine .await_bind hrule (fun j n _ => ?_) fun j x _ => settled_of_error rfl
  by_cases hn : n = 1
  · subst hn
    exact {
      found := hfound'.append _
      claimed := claimed_append.2 (.inr rfl)
      only := fun a hclaimed => by
        rcases claimed_append.1 hclaimed with hclaimed | hclaimed
        · exact absurd hclaimed (hfresh'.claimed a)
        · exact (claimed_iff.mp hclaimed).2.symm
      applied := fun happlied => by
        rcases applied_append.1 happlied with happlied | happlied
        · exact hfresh'.applied happlied
        · cases happlied }
  · have hsettled : Settled (h' ++ [⟨t, .claimAuthToken record.id record.kind now, j, .ok n⟩]) := by
      intro _ a hclaim
      rcases claimed_append.1 hclaim with hclaim | hclaim
      · exact absurd hclaim (hfresh'.claimed a)
      · have hone := (claimed_iff.mp hclaim).1
        cases hone
        exact absurd rfl hn
    rw [refuseIf, decide_eq_true hn]
    exact hsettled

/-- What `p` does with the link that it gets. -/
def Uses (t : Nat) (kind : MailKind) (userId : Id) (p : ApiCall α) : Prop :=
  ∀ record h, Held record h → record.userId = userId → record.kind = kind →
    Obeys (fun _ => Settled) t p h

theorem uses_apply {e : Stmt γ} {f : Except Failure γ → ApiCall α} {kind : MailKind} {userId : Id}
    {change : UserRow → UserRow} (happlies : e.applies = some (kind, userId, change))
    (hclaims : e.claimsLink = none) (hrest : ∀ a, (f a).Only fun e => Idle e) :
    Uses t kind userId ((await e).andThen f) := by
  have hclaimed : ∀ r, e.claimed r = none := by
    intro r
    cases e with
    | claimAuthToken => cases hclaims
    | _ => rfl
  intro record h hheld huser hkind
  have hrule : LinkRule e h := by
    refine ⟨fun kind' userId' change' hsome => ?_, fun hsome => ?_⟩
    · cases happlies.symm.trans hsome
      exact ⟨record, hheld, huser, hkind⟩
    · rw [hclaims] at hsome
      cases hsome
  refine ⟨hrule, fun i r _ => obeys_settled (hrest r) ?_⟩
  exact settled_of_applied hheld (by rw [happlies]; rfl) (hclaimed r)

theorem uses_bind {e : Stmt γ} {f : γ → ApiCall α} {kind : MailKind} {userId : Id} (he : Idle e)
    (hsettles : e.settles = true) (hf : ∀ a, Uses t kind userId (f a)) :
    Uses t kind userId (await e >>= f) := by
  intro record h hheld huser hkind
  refine .await_bind he.rule (fun i a _ => ?_) fun i x _ => settled_of_error hsettles
  exact hf a record _ (he.held hheld) huser hkind

/-- A request that finds its link, claims it and uses it, with `q` before the claim. -/
def usingLink (token : Option RandomToken) (kind : MailKind) (q : Id → ApiCall Unit)
    (p : Id → ApiCall α) : ApiCall α := do
  let record ← findUsableAuthToken token kind
  q record.userId
  claimAuthToken record
  p record.userId

theorem obeys_usingLink {p : Id → ApiCall α} {q : Id → ApiCall Unit} (token : Option RandomToken)
    (kind : MailKind) (hfresh : Fresh h) (hq : ∀ userId, (q userId).Only fun e => Idle e)
    (hp : ∀ userId, Uses t kind userId (p userId)) :
    Obeys (fun _ => Settled) t (usingLink token kind q p) h := by
  refine (obeys_findUsableAuthToken token kind hfresh).bind (fun record h hfound => ?_)
    fun x h hfound => settled_of_fresh hfound.1
  obtain ⟨hfresh, hrecord⟩ := hfound
  obtain ⟨hfound, hkind⟩ := hrecord record rfl
  refine (obeys_found (hq record.userId) hfresh hfound).bind (fun _ h hfound => ?_)
    fun x h hfound => settled_of_fresh hfound.1
  refine (obeys_claimAuthToken hfound.1 hfound.2).bind (fun _ h hheld => ?_) fun x h hsettled => ?_
  · exact hp record.userId record h hheld rfl hkind
  · exact hsettled

theorem consume_bind (token : Option RandomToken) (kind : MailKind) (p : Id → ApiCall α) :
    (consumeAuthToken token kind >>= p) = usingLink token kind (fun _ => pure ()) p := by
  unfold consumeAuthToken usingLink
  simp only [Prog.bind_assoc]
  rfl

theorem resetPassword_eq (token : Option RandomToken) (newPassword : String) :
    resetPassword token newPassword = usingLink token .passwordReset revokeGitCredential
      (fun userId => do
        let passwordHash ← await (.hashPassword newPassword)
        let _ ← await (.replacePassword userId passwordHash .passwordReset)) := rfl

theorem obeys_verifyEmail (token : Option RandomToken) (hfresh : Fresh h) :
    Obeys (fun _ => Settled) t (verifyEmail token) h := by
  unfold verifyEmail
  rw [consume_bind]
  refine obeys_usingLink token .emailVerify hfresh (fun _ => .ret _) fun userId => ?_
  refine uses_bind ⟨rfl, rfl⟩ rfl fun now => ?_
  rw [← Prog.andThen_ret_right (await (.verifyEmail userId now) : ApiCall Unit)]
  exact uses_apply rfl rfl fun _ => .ret _

theorem obeys_resetPassword (token : Option RandomToken) (newPassword : String)
    (hfresh : Fresh h) : Obeys (fun _ => Settled) t (resetPassword token newPassword) h := by
  rw [resetPassword_eq]
  refine obeys_usingLink token .passwordReset hfresh idle_revokeGitCredential fun userId => ?_
  refine uses_bind ⟨rfl, rfl⟩ rfl fun passwordHash => ?_
  refine uses_apply rfl rfl fun r => ?_
  cases r with
  | ok _ => exact .ret _
  | error _ => exact .ret _

end

section

variable [Installation] {t : Nat} {h : History}

theorem obeys_activate (token : Option RandomToken) (newPassword : String)
    (client : SessionClient) (hfresh : Fresh h) :
    Obeys (fun _ => Settled) t (activate token newPassword client) h := by
  unfold activate
  rw [consume_bind]
  refine obeys_usingLink token .activation hfresh (fun _ => .ret _) fun userId => ?_
  refine uses_bind ⟨rfl, rfl⟩ rfl fun passwordHash => ?_
  refine uses_apply rfl rfl fun r => ?_
  cases r with
  | ok user => exact .bind (idle_issue user client) fun _ => .ret _
  | error _ => exact .ret _

/-- The requests that issue and use links. -/
inductive LinkCall : ApiCall Unit → Prop where
  | requestEmailVerification (userId : Id) :
      LinkCall (do let _ ← requestEmailVerification userId)
  | requestPasswordReset (identity : String) : LinkCall (requestPasswordReset identity)
  | createActivationLink (userId : Id) : LinkCall (do let _ ← createActivationLink userId)
  | verifyEmail (token : Option RandomToken) : LinkCall (verifyEmail token)
  | resetPassword (token : Option RandomToken) (newPassword : String) :
      LinkCall (resetPassword token newPassword)
  | activate (token : Option RandomToken) (newPassword : String) (client : SessionClient) :
      LinkCall (do let _ ← activate token newPassword client)

def LinkCalls (_ : AccountMoment) (p : ApiCall Unit) : Prop := LinkCall p

theorem idle_requestEmailVerification (userId : Id) :
    (requestEmailVerification userId).Only fun e => Idle e := by
  refine .bind (.ret _) fun _ => .bind (.await ⟨rfl, rfl⟩) fun user => ?_
  cases user with
  | none => exact .ret _
  | some user =>
    exact .bind (.ret _) fun _ => .bind (.ret _) fun _ => idle_issueAuthLink user _ _

theorem idle_requestPasswordReset (identity : String) :
    (requestPasswordReset identity).Only fun e => Idle e := by
  unfold requestPasswordReset
  dsimp only
  split
  · exact .ret _
  · refine .bind (.await ⟨rfl, rfl⟩) fun found => ?_
    split
    · exact .ret _
    · exact .bind (idle_issueAuthLink _ _ _) fun _ => idle_aside _

omit [Installation] in
theorem idle_createActivationLink (userId : Id) :
    (createActivationLink userId).Only fun e => Idle e := by
  refine .bind (.await ⟨rfl, rfl⟩) fun user => ?_
  cases user with
  | none => exact .ret _
  | some user => exact idle_issueAuthLink user _ _

theorem obeys_linkCall {p : ApiCall Unit} (hp : LinkCall p) :
    Obeys (fun _ => Settled) t p [] := by
  have hsettled := settled_of_fresh fresh_nil
  cases hp with
  | requestEmailVerification userId =>
    exact obeys_settled (.bind (idle_requestEmailVerification userId) fun _ => .ret _) hsettled
  | requestPasswordReset identity =>
    exact obeys_settled (idle_requestPasswordReset identity) hsettled
  | createActivationLink userId =>
    exact obeys_settled (.bind (idle_createActivationLink userId) fun _ => .ret _) hsettled
  | verifyEmail token => exact obeys_verifyEmail token fresh_nil
  | resetPassword token newPassword => exact obeys_resetPassword token newPassword fresh_nil
  | activate token newPassword client =>
    exact (obeys_activate token newPassword client fresh_nil).bind (fun _ _ h => h) fun _ _ h => h

end

end InitPad.Accounts
