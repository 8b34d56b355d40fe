import InitPad.Accounts.Writes
import InitPad.Interleave.Trace

/-!
# InitPad.Accounts.SignIns

The requests that sign in, act with a session or an OIDC grant, and replace a password. What a
request has read decides what it may sign: `SignInRule` says so for each of its statements, and is
all that later proofs know about the requests.
-/

namespace InitPad.Accounts

open Interleave Store
open Prog (await refuseIf lift)

variable {β : Type}

/-! ## What a request has read -/

/-- The account that the statement has read, for a check of its password or its generation. -/
def Stmt.checked : Stmt β → Except Failure β → Option UserRow
  | .findByIdentifier _ _, r => r.toOption.join
  | .findUser _, r => r.toOption.join
  | _, _ => none

def Stmt.replaced : Stmt β → Except Failure β → Option UserRow
  | .replacePassword _ _ .passwordChanged, r => r.toOption
  | _, _ => none

def Stmt.verified : Stmt β → Except Failure β → Option JwtPayload
  | .verifyToken payload, r => r.toOption.map fun _ => payload
  | _, _ => none

def Stmt.entry : Stmt β → Except Failure β → Option OidcGrant
  | .findGrant _, r => r.toOption.join
  | .findAccessToken _ _, r => r.toOption.join
  | _, _ => none

def checks (h : History) : List UserRow := h.filterMap fun ev => ev.stmt.checked ev.result

def replacements (h : History) : List UserRow := h.filterMap fun ev => ev.stmt.replaced ev.result

def verifies (h : History) : List JwtPayload := h.filterMap fun ev => ev.stmt.verified ev.result

def entries (h : History) : List OidcGrant := h.filterMap fun ev => ev.stmt.entry ev.result

/-- An account is found by the id that was asked for. -/
def Stmt.keyed : Stmt β → Except Failure β → Prop
  | .findUser id, r => ∀ user, r = .ok (some user) → user.id = id
  | .findSession _, r => ∀ session user, r = .ok (some (session, user)) → user.id = session.userId
  | _, _ => True

/-- A session is signed for the account whose password was checked or replaced; a code is issued
for the session that was verified, and an access token for the code that was redeemed. -/
structure SignInRule (e : Stmt β) (h : History) : Prop where
  signs : ∀ payload, e.signs = some payload → ∃ user : UserRow, payload.sub = user.id ∧
    payload.ver = some user.tokenVersion ∧ (user ∈ replacements h ∨ checks h = [user])
  codes : ∀ userId version, e.grants = some (.authorizationCode, userId, version) →
    ∀ payload ∈ verifies h, payload.sub = userId ∧ payload.ver.getD 0 = version
  tokens : ∀ userId version, e.grants = some (.accessToken, userId, version) →
    ∀ entry ∈ entries h, entry.userId = userId ∧ entry.tokenVersion = version

/-- What the request has read so far, and accounts among those that it has replaced. -/
structure Seen (checked replaced : List UserRow) (verified : List JwtPayload)
    (found : List OidcGrant) (h : History) : Prop where
  checks : checks h = checked
  replacements : replaced ⊆ replacements h
  verifies : verifies h = verified
  entries : entries h = found

/-- Statements that sign and grant nothing. -/
structure Harmless (e : Stmt β) : Prop where
  signs : e.signs = none
  grants : e.grants = none

/-- Statements that read nothing of what counts either. -/
structure Plain (e : Stmt β) : Prop extends Harmless e where
  checked : ∀ r, e.checked r = none
  verified : ∀ r, e.verified r = none
  entry : ∀ r, e.entry r = none

theorem Harmless.rule {e : Stmt β} {h : History} (he : Harmless e) : SignInRule e h where
  signs _ hsome := by rw [he.signs] at hsome; cases hsome
  codes _ _ hsome := by rw [he.grants] at hsome; cases hsome
  tokens _ _ hsome := by rw [he.grants] at hsome; cases hsome

section Seen

variable {α γ : Type} {cs us : List UserRow} {vs : List JwtPayload} {es : List OidcGrant}
  {t : Nat} {h : History}

theorem filterMap_append_singleton {δ : Type} (f : Event Stmt ApiInput Failure → Option δ)
    (h : History) (ev : Event Stmt ApiInput Failure) :
    (h ++ [ev]).filterMap f = h.filterMap f ++ (f ev).toList := by
  rw [List.filterMap_append]
  cases hf : f ev with
  | none => simp [hf]
  | some a => simp [hf]

theorem Seen.append (hseen : Seen cs us vs es h) (ev : Event Stmt ApiInput Failure) :
    Seen (cs ++ (ev.stmt.checked ev.result).toList) (us ++ (ev.stmt.replaced ev.result).toList)
      (vs ++ (ev.stmt.verified ev.result).toList) (es ++ (ev.stmt.entry ev.result).toList)
      (h ++ [ev]) where
  checks := (filterMap_append_singleton _ h ev).trans (congrArg (· ++ _) hseen.checks)
  replacements := by
    have happend := filterMap_append_singleton (fun ev => ev.stmt.replaced ev.result) h ev
    intro user hmem
    refine (happend.symm ▸ ?_ : user ∈ (h ++ [ev]).filterMap fun ev => ev.stmt.replaced ev.result)
    rcases List.mem_append.mp hmem with hmem | hmem
    · exact List.mem_append_left _ (hseen.replacements hmem)
    · exact List.mem_append_right _ hmem
  verifies := (filterMap_append_singleton _ h ev).trans (congrArg (· ++ _) hseen.verifies)
  entries := (filterMap_append_singleton _ h ev).trans (congrArg (· ++ _) hseen.entries)

theorem Seen.plain (hseen : Seen cs us vs es h) {e : Stmt γ} (he : Plain e) (i : ApiInput)
    (r : Except Failure γ) : Seen cs us vs es (h ++ [⟨t, e, i, r⟩]) := by
  have happend := hseen.append ⟨t, e, i, r⟩
  simp only [he.checked, he.verified, he.entry, Option.toList_none, List.append_nil] at happend
  exact ⟨happend.checks, fun _ hmem => happend.replacements (List.mem_append_left _ hmem),
    happend.verifies, happend.entries⟩

/-- The program obeys the rule, and ends with `Q`. -/
abbrev Follows (Q : Except Failure α → History → Prop) (t : Nat) (p : ApiCall α) (h : History) :
    Prop := p.Meets (fun ev => ev.stmt.keyed ev.result) SignInRule Q t h

theorem follows_plain {p : ApiCall α} (hp : p.Only fun e => Plain e)
    (hseen : Seen cs us vs es h) : Follows (fun _ => Seen cs us vs es) t p h :=
  .of_only (fun _ _ he hseen => ⟨he.rule, fun i r _ => hseen.plain he i r⟩) hp hseen

theorem follows_harmless {p : ApiCall α} (hp : p.Only fun e => Harmless e) :
    Follows (fun _ _ => True) t p h :=
  .mono (fun _ _ _ => trivial) (.of_only (B := fun _ => True)
    (fun _ _ he _ => ⟨he.rule, fun _ _ _ => trivial⟩) hp trivial)

theorem follows_plain_bind {p : ApiCall γ} {f : γ → ApiCall α} (hp : p.Only fun e => Plain e)
    (hseen : Seen cs us vs es h)
    (hf : ∀ a h, Seen cs us vs es h → Follows (fun _ _ => True) t (f a) h) :
    Follows (fun _ _ => True) t (p >>= f) h :=
  (follows_plain hp hseen).bind (fun a h hseen => hf a h hseen) fun _ _ _ => trivial

theorem follows_read {e : Stmt γ} {f : γ → ApiCall α} (hsigns : e.signs = none)
    (hgrants : e.grants = none) (hseen : Seen cs us vs es h)
    (hf : ∀ a h, e.keyed (.ok a) → Seen (cs ++ (e.checked (.ok a)).toList)
      (us ++ (e.replaced (.ok a)).toList) (vs ++ (e.verified (.ok a)).toList)
      (es ++ (e.entry (.ok a)).toList) h → Follows (fun _ _ => True) t (f a) h) :
    Follows (fun _ _ => True) t (await e >>= f) h := by
  have he : Harmless e := ⟨hsigns, hgrants⟩
  exact .await_bind he.rule (fun i a hkeyed => hf a _ hkeyed (hseen.append ⟨t, e, i, .ok a⟩))
    fun _ _ _ => trivial

end Seen

section Requests

variable {α γ : Type} {cs us : List UserRow} {vs : List JwtPayload} {es : List OidcGrant}
  {t : Nat} {h : History}

theorem plain_aside (what : String) : (await (.aside what) : ApiCall Unit).Only fun e => Plain e :=
  .await ⟨⟨rfl, rfl⟩, fun _ => rfl, fun _ => rfl, fun _ => rfl⟩

theorem plain_clock : (await .clock : ApiCall Time).Only fun e => Plain e :=
  .await ⟨⟨rfl, rfl⟩, fun _ => rfl, fun _ => rfl, fun _ => rfl⟩

theorem follows_issue {user : UserRow} (client : SessionClient) (hseen : Seen cs us vs es h)
    (huser : user ∈ us ∨ cs = [user]) :
    Follows (fun _ _ => True) t (issue user client) h := by
  refine follows_plain_bind plain_clock hseen fun now h hseen => ?_
  have hprune : (await (.pruneSessions now) : ApiCall Unit).Only fun e => Plain e :=
    .await ⟨⟨rfl, rfl⟩, fun _ => rfl, fun _ => rfl, fun _ => rfl⟩
  refine follows_plain_bind hprune hseen fun _ h hseen => ?_
  have hcreate : (await (.createSession user.id user.tokenVersion client.column
      (now + SESSION_TTL_MS)) : ApiCall Id).Only fun e => Plain e :=
    .await ⟨⟨rfl, rfl⟩, fun _ => rfl, fun _ => rfl, fun _ => rfl⟩
  refine follows_plain_bind hcreate hseen fun sid h hseen => ?_
  refine .await_bind ⟨fun payload hsigns => ?_, fun _ _ hgrants => ?_, fun _ _ hgrants => ?_⟩
    (fun _ _ _ => trivial) fun _ _ _ => trivial
  · cases hsigns
    refine ⟨user, rfl, rfl, ?_⟩
    rcases huser with hmem | hchecks
    · exact .inl (hseen.replacements hmem)
    · exact .inr (hseen.checks.trans hchecks)
  · cases hgrants
  · cases hgrants

theorem follows_createSession [Installation] {user : UserRow} (client : SessionClient)
    (hseen : Seen cs us vs es h) (huser : user ∈ us ∨ cs = [user]) :
    Follows (fun _ _ => True) t (createSession user client) h :=
  (follows_issue client hseen huser).bind (fun _ _ _ => trivial) fun _ _ _ => trivial

theorem follows_login [Installation] (dto : LoginDto) (client : SessionClient)
    (hseen : Seen [] [] [] [] h) :
    Follows (fun _ _ => True) t (login dto client) h := by
  unfold login
  cases settings.edition with
  | saas => exact trivial
  | selfHosted =>
    refine follows_read rfl rfl hseen fun found h _ hseen => ?_
    cases hmatch : found.filter fun user => passwordMatches dto.password (some user) with
    | none => exact follows_harmless (.bind (.await ⟨rfl, rfl⟩) fun _ => .ret _)
    | some user =>
      obtain rfl : found = some user := (Option.filter_eq_some_iff.mp hmatch).1
      have hactive : (if user.active then pure () else do
          await (.aside "audit auth.sign_in_failed")
          throw (unauthorized "This account has been deactivated") : ApiCall Unit).Only
            fun e => Plain e := by
        split
        · exact .ret _
        · exact .bind (plain_aside _) fun _ => .ret _
      refine follows_plain_bind hactive hseen fun _ h hseen => ?_
      refine follows_plain_bind (plain_aside _) hseen fun _ h hseen => ?_
      exact follows_createSession client hseen (.inr rfl)

theorem follows_changePassword [Installation] (userId : Id) (currentPassword newPassword : String)
    (client : SessionClient) (hseen : Seen [] [] [] [] h) :
    Follows (fun _ _ => True) t (changePassword userId currentPassword newPassword client) h := by
  refine follows_read rfl rfl hseen fun user h _ hseen => ?_
  refine follows_plain_bind (.ret _) hseen fun _ h hseen => ?_
  refine follows_plain_bind (.ret _) hseen fun _ h hseen => ?_
  refine follows_read rfl rfl hseen fun passwordHash h _ hseen => ?_
  refine follows_read rfl rfl hseen fun updated h _ hseen => ?_
  exact follows_createSession client hseen (.inl (List.mem_append_right _ (.head _)))

/-! ## Requests that sign and grant nothing -/

theorem harmless_aside (what : String) :
    (await (.aside what) : ApiCall Unit).Only fun e => Harmless e := .await ⟨rfl, rfl⟩

theorem harmless_authenticate (token : JwtPayload) :
    (authenticate token).Only fun e => Harmless e := by
  refine .bind (.tryCatch (.await ⟨rfl, rfl⟩) fun _ => .ret _) fun _ => ?_
  cases token.sid with
  | some sid =>
    refine .bind (.await ⟨rfl, rfl⟩) fun found => .bind (.await ⟨rfl, rfl⟩) fun now => ?_
    split
    · exact .ret _
    · exact .ret _
  | none => exact .bind (.await ⟨rfl, rfl⟩) fun user => .ret _

theorem harmless_revokeToken (token : JwtPayload) :
    (revokeToken token).Only fun e => Harmless e := by
  refine .andThen (.await ⟨rfl, rfl⟩) fun r => ?_
  cases r with
  | error x => exact .ret _
  | ok u =>
    unfold endSession
    cases token.sid with
    | some sid => exact .bind (.await ⟨rfl, rfl⟩) fun now => .await ⟨rfl, rfl⟩
    | none => exact .await ⟨rfl, rfl⟩

theorem harmless_endSessions (userId : Id) (filter : SessionFilter) :
    (endSessions userId filter).Only fun e => Harmless e := by
  have hrevoke : (revoke userId filter).Only fun e => Harmless e := by
    refine .bind (.await ⟨rfl, rfl⟩) fun user => ?_
    cases user with
    | none => exact .ret _
    | some user => exact .bind (.await ⟨rfl, rfl⟩) fun now => .await ⟨rfl, rfl⟩
  refine .bind (.await ⟨rfl, rfl⟩) fun user => .bind (.ret _) fun _ => .bind hrevoke fun ended => ?_
  split
  · exact .bind (harmless_aside _) fun _ => .ret _
  · exact .ret _

theorem harmless_requestPasswordReset [Installation] (identity : String) :
    (requestPasswordReset identity).Only fun e => Harmless e := by
  unfold requestPasswordReset
  simp only
  split
  · exact .ret _
  refine .bind (.await ⟨rfl, rfl⟩) fun found => ?_
  cases found.filter fun user =>
      user.passwordHash.isSome && user.email.isSome && settings.mailEnabled with
  | none => exact .ret _
  | some user => exact .bind (.await ⟨rfl, rfl⟩) fun _ => harmless_aside _

theorem harmless_findUsableAuthToken (token : Option RandomToken) (kind : MailKind) :
    (findUsableAuthToken token kind).Only fun e => Harmless e := by
  cases token with
  | none => exact .ret _
  | some token =>
    refine .bind (.await ⟨rfl, rfl⟩) fun found => .bind (.await ⟨rfl, rfl⟩) fun now => ?_
    cases usable kind now found with
    | none => exact .ret _
    | some record => exact .ret _

theorem harmless_claimAuthToken (record : AuthTokenRow) :
    (claimAuthToken record).Only fun e => Harmless e :=
  .bind (.await ⟨rfl, rfl⟩) fun _ => .bind (.await ⟨rfl, rfl⟩) fun _ => .ret _

theorem harmless_resetPassword (token : Option RandomToken) (newPassword : String) :
    (resetPassword token newPassword).Only fun e => Harmless e := by
  have hcredential : ∀ userId, (revokeGitCredential userId).Only fun e => Harmless e := by
    intro userId
    refine .bind (.await ⟨rfl, rfl⟩) fun user => ?_
    split
    · exact .bind (.tryCatch (.bind (harmless_aside _) fun _ => harmless_aside _)
        fun _ => .ret _) fun _ => .await ⟨rfl, rfl⟩
    · exact .ret _
  refine .bind (harmless_findUsableAuthToken token _) fun record => ?_
  refine .bind (hcredential _) fun _ => .bind (harmless_claimAuthToken record) fun _ => ?_
  exact .bind (.await ⟨rfl, rfl⟩) fun passwordHash => .bind (.await ⟨rfl, rfl⟩) fun _ => .ret _

theorem harmless_userinfo (token : Option RandomToken) :
    (userinfo token).Only fun e => Harmless e := by
  have haccess : (accessForToken token).Only fun e => Harmless e := by
    cases token with
    | none => exact .ret _
    | some token => exact .bind (.await ⟨rfl, rfl⟩) fun now => .await ⟨rfl, rfl⟩
  refine .bind haccess fun access => ?_
  cases access with
  | none => exact .ret _
  | some access =>
    refine .bind (.await ⟨rfl, rfl⟩) fun user => ?_
    split
    · exact .ret _
    · exact .ret _

/-! ## Requests that act for a session or a code -/

theorem of_ok {payload : JwtPayload} {found : Option UserRow} {session : AuthenticatedUser}
    (h : AuthenticatedUser.of payload found = .ok session) : ∃ user, found = some user ∧
      session.id = user.id ∧ session.tokenVersion = user.tokenVersion ∧
      payload.ver.getD 0 = user.tokenVersion := by
  unfold AuthenticatedUser.of at h
  split at h
  · cases h
  · rename_i user hfilter
    split at h
    · cases h
    · rename_i hver
      cases h
      exact ⟨user, (Option.filter_eq_some_iff.mp hfilter).1, rfl, rfl, not_not.mp hver⟩

theorem liveSession_some {payload : JwtPayload} {now : Time}
    {found : Option (UserSession × UserRow)} {session : UserSession} {user : UserRow}
    (h : liveSession payload now found = some (session, user)) :
    found = some (session, user) ∧ session.userId = payload.sub := by
  obtain ⟨hfound, hlive⟩ := Option.filter_eq_some_iff.mp h
  simp only [Bool.and_eq_true, decide_eq_true_eq] at hlive
  exact ⟨hfound, hlive.1.1⟩

theorem fenced_some {found : Option UserRow} {tokenVersion : Nat} {user : UserRow}
    (h : fenced found tokenVersion = some user) :
    found = some user ∧ user.tokenVersion = tokenVersion := by
  obtain ⟨hfound, hfenced⟩ := Option.filter_eq_some_iff.mp h
  simp only [Bool.and_eq_true, decide_eq_true_eq] at hfenced
  exact ⟨hfound, hfenced.2⟩

/-- What `authenticate` ends with: the token that it verified, and whom it is for. -/
def Authenticated (token : JwtPayload) (r : Except Failure AuthenticatedUser) (h : History) :
    Prop :=
  ∀ session, r = .ok session →
    (∃ cs, Seen cs [] [token] [] h) ∧ session.id = token.sub ∧
      session.tokenVersion = token.ver.getD 0

theorem follows_authenticate (token : JwtPayload) (hseen : Seen [] [] [] [] h) :
    Follows (Authenticated token) t (authenticate token) h := by
  have hverify : Follows (fun r h => r = .ok () → Seen [] [] [token] [] h) t
      (verifyJwt token) h := by
    refine .tryCatch (.await (Q := fun r h => r = .ok () → Seen [] [] [token] [] h)
      (Harmless.rule ⟨rfl, rfl⟩) fun i r _ hr => ?_) (fun _ _ hQ => hQ) fun x h _ => ?_
    · subst hr
      exact hseen.append ⟨t, .verifyToken token, i, .ok ()⟩
    · exact fun hr => by cases hr
  refine hverify.bind (fun u h hverified => ?_) fun x h _ session hr => by cases hr
  have hseen : Seen [] [] [token] [] h := hverified rfl
  cases hsid : token.sid with
  | some sid =>
    simp only
    refine .await_bind (Harmless.rule ⟨rfl, rfl⟩) (fun i found hkeyed => ?_)
      fun i x _ session hr => by cases hr
    have hfound := hseen.append ⟨t, .findSession sid, i, .ok found⟩
    generalize h ++ [(⟨t, .findSession sid, i, .ok found⟩ : Event Stmt ApiInput Failure)] = h₁
      at hfound ⊢
    refine .await_bind (Harmless.rule ⟨rfl, rfl⟩) (fun j now _ => ?_)
      fun i x _ session hr => by cases hr
    have hclock := hfound.append ⟨t, .clock, j, .ok now⟩
    generalize h₁ ++ [(⟨t, .clock, j, .ok now⟩ : Event Stmt ApiInput Failure)] = h₂ at hclock ⊢
    cases hlive : liveSession token now found with
    | none => exact fun session hr => by cases hr
    | some pair =>
      obtain ⟨session, user⟩ := pair
      obtain ⟨rfl, hsub⟩ := liveSession_some hlive
      have hid : user.id = session.userId := hkeyed session user rfl
      intro session' hr
      obtain ⟨_, hsome, hid', hversion, hver⟩ := of_ok hr
      cases hsome
      exact ⟨⟨_, hclock⟩, hid'.trans (hid.trans hsub), hversion.trans hver.symm⟩
  | none =>
    simp only
    refine .await_bind (Harmless.rule ⟨rfl, rfl⟩) (fun i found hkeyed => ?_)
      fun i x _ session hr => by cases hr
    intro session hr
    obtain ⟨user, rfl, hid, hversion, hver⟩ := of_ok hr
    have hsub : user.id = token.sub := hkeyed user rfl
    exact ⟨⟨_, hseen.append ⟨t, .findUser token.sub, i, .ok (some user)⟩⟩, hid.trans hsub,
      hversion.trans hver.symm⟩

theorem follows_authorize (token : JwtPayload) (clientId redirectUri : String)
    (nonce : Option String) (hseen : Seen [] [] [] [] h) :
    Follows (fun _ _ => True) t (authorize token clientId redirectUri nonce) h := by
  refine (follows_authenticate token hseen).andThen fun r h hauth => ?_
  cases r with
  | error x => exact trivial
  | ok session =>
    obtain ⟨⟨cs, hseen⟩, hid, hversion⟩ := hauth session rfl
    simp only
    split
    · exact trivial
    · refine Prog.Meets.bind (Q := fun _ _ => True) ?_ (fun _ _ _ => trivial) fun _ _ _ => trivial
      refine follows_plain_bind plain_clock hseen fun pruned h hseen => ?_
      have hprune : (await (.pruneGrants pruned) : ApiCall Unit).Only fun e => Plain e :=
        .await ⟨⟨rfl, rfl⟩, fun _ => rfl, fun _ => rfl, fun _ => rfl⟩
      refine follows_plain_bind hprune hseen fun _ h hseen => ?_
      refine follows_plain_bind plain_clock hseen fun now h hseen => ?_
      refine .await ⟨fun _ hsigns => ?_, fun userId version hgrants => ?_, fun _ _ hgrants => ?_⟩
        fun _ _ _ => trivial
      · cases hsigns
      · cases hgrants
        intro payload hmem
        rw [hseen.verifies] at hmem
        obtain rfl := List.mem_singleton.mp hmem
        exact ⟨hid.symm, hversion.symm⟩
      · cases hgrants

theorem code_some {entry : OidcGrant} {code : AuthCode} (h : entry.code = some code) :
    code.userId = entry.userId ∧ code.tokenVersion = entry.tokenVersion := by
  unfold OidcGrant.code at h
  split at h
  · cases h
    exact ⟨rfl, rfl⟩
  · cases h

/-- What `consumeCode` ends with: the code that it found. -/
def Consumed (r : Except Failure (Option AuthCode)) (h : History) : Prop :=
  ∀ code, r = .ok (some code) → ∃ entry, Seen [] [] [] [entry] h ∧
    code.userId = entry.userId ∧ code.tokenVersion = entry.tokenVersion

theorem follows_consumeCode (code : Option RandomToken) (hseen : Seen [] [] [] [] h) :
    Follows Consumed t (consumeCode code) h := by
  cases code with
  | none => exact fun code hr => by cases hr
  | some token =>
    refine .await_bind (Harmless.rule ⟨rfl, rfl⟩) (fun i now _ => ?_)
      fun i x _ code hr => by cases hr
    have hclock := hseen.append ⟨t, .clock, i, .ok now⟩
    generalize h ++ [(⟨t, .clock, i, .ok now⟩ : Event Stmt ApiInput Failure)] = h₁ at hclock ⊢
    refine .await_bind (Harmless.rule ⟨rfl, rfl⟩) (fun i claimed _ => ?_)
      fun i x _ code hr => by cases hr
    have hclaim := hclock.append ⟨t, .claimCode (hashToken token) now, i, .ok claimed⟩
    generalize h₁ ++ [(⟨t, .claimCode (hashToken token) now, i, .ok claimed⟩ :
      Event Stmt ApiInput Failure)] = h₂ at hclaim ⊢
    split
    · exact fun code hr => by cases hr
    refine .await_bind (Harmless.rule ⟨rfl, rfl⟩) (fun i found _ => ?_)
      fun i x _ code hr => by cases hr
    intro code hr
    have hcode : found.bind (·.code) = some code := Except.ok.inj hr
    obtain ⟨entry, rfl, hcode⟩ := Option.bind_eq_some_iff.mp hcode
    exact ⟨entry, hclaim.append ⟨t, .findGrant (hashToken token), i, .ok (some entry)⟩,
      code_some hcode⟩

theorem follows_exchange (code : Option RandomToken) (clientId redirectUri : String)
    (hseen : Seen [] [] [] [] h) :
    Follows (fun _ _ => True) t (exchange code clientId redirectUri) h := by
  refine (follows_consumeCode code hseen).bind (fun consumed h hconsumed => ?_) fun _ _ _ => trivial
  cases hfilter : consumed.filter fun code =>
      code.clientId = clientId && code.redirectUri = redirectUri with
  | none => exact trivial
  | some code =>
    obtain rfl : consumed = some code := (Option.filter_eq_some_iff.mp hfilter).1
    obtain ⟨entry, hseen, huser, hversion⟩ := hconsumed code rfl
    refine .await_bind (Harmless.rule ⟨rfl, rfl⟩) (fun i found hkeyed => ?_) fun _ _ _ => trivial
    have hseen := hseen.append ⟨t, .findUser code.userId, i, .ok found⟩
    generalize h ++ [(⟨t, .findUser code.userId, i, .ok found⟩ :
      Event Stmt ApiInput Failure)] = h₁ at hseen ⊢
    cases hfenced : fenced found code.tokenVersion with
    | none => exact trivial
    | some user =>
      obtain ⟨rfl, hfence⟩ := fenced_some hfenced
      have hid : user.id = code.userId := hkeyed user rfl
      refine follows_plain_bind plain_clock hseen fun pruned h hseen => ?_
      have hprune : (await (.pruneGrants pruned) : ApiCall Unit).Only fun e => Plain e :=
        .await ⟨⟨rfl, rfl⟩, fun _ => rfl, fun _ => rfl, fun _ => rfl⟩
      refine follows_plain_bind hprune hseen fun _ h hseen => ?_
      refine follows_plain_bind plain_clock hseen fun now h hseen => ?_
      refine .await ⟨fun _ hsigns => ?_, fun _ _ hgrants => ?_, fun userId version hgrants => ?_⟩
        fun _ _ _ => trivial
      · cases hsigns
      · cases hgrants
      · cases hgrants
        intro entry' hmem
        rw [hseen.entries] at hmem
        obtain rfl := List.mem_singleton.mp hmem
        exact ⟨huser.symm.trans hid.symm, hversion.symm.trans hfence.symm⟩

variable [Installation]

inductive SignInCall : ApiCall Unit → Prop
  | login (dto : LoginDto) (client : SessionClient) : SignInCall (login dto client).ignoreError
  | changePassword (userId : Id) (currentPassword newPassword : String) (client : SessionClient) :
      SignInCall (changePassword userId currentPassword newPassword client).ignoreError
  | requestPasswordReset (identity : String) : SignInCall (requestPasswordReset identity)
  | resetPassword (token : Option RandomToken) (newPassword : String) :
      SignInCall (resetPassword token newPassword)
  | authenticate (token : JwtPayload) : SignInCall (authenticate token).ignoreError
  | revokeToken (token : JwtPayload) : SignInCall (revokeToken token)
  | endSessions (userId : Id) (filter : SessionFilter) :
      SignInCall (endSessions userId filter).ignoreError
  | authorize (token : JwtPayload) (clientId redirectUri : String) (nonce : Option String) :
      SignInCall (authorize token clientId redirectUri nonce).ignoreError
  | exchange (code : Option RandomToken) (clientId redirectUri : String) :
      SignInCall (exchange code clientId redirectUri).ignoreError
  | userinfo (token : Option RandomToken) : SignInCall (userinfo token).ignoreError

def SignInCalls (_ : AccountMoment) (p : ApiCall Unit) : Prop := SignInCall p

theorem follows_signInCall {p : ApiCall Unit} (hp : SignInCall p) :
    Follows (fun _ _ => True) t p [] := by
  have hnil : Seen [] [] [] [] [] := ⟨rfl, List.nil_subset _, rfl, rfl⟩
  cases hp with
  | login dto client => exact (follows_login dto client hnil).andThen fun _ _ _ => trivial
  | changePassword userId currentPassword newPassword client =>
    have hchange := follows_changePassword (t := t) userId currentPassword newPassword client hnil
    exact hchange.andThen fun _ _ _ => trivial
  | requestPasswordReset identity => exact follows_harmless (harmless_requestPasswordReset identity)
  | resetPassword token newPassword =>
    exact follows_harmless (harmless_resetPassword token newPassword)
  | authenticate token => exact follows_harmless (harmless_authenticate token).ignoreError
  | revokeToken token => exact follows_harmless (harmless_revokeToken token)
  | endSessions userId filter =>
    exact follows_harmless (harmless_endSessions userId filter).ignoreError
  | authorize token clientId redirectUri nonce =>
    have hauthorize := follows_authorize (t := t) token clientId redirectUri nonce hnil
    exact hauthorize.andThen fun _ _ _ => trivial
  | exchange code clientId redirectUri =>
    have hexchange := follows_exchange (t := t) code clientId redirectUri hnil
    exact hexchange.andThen fun _ _ _ => trivial
  | userinfo token => exact follows_harmless (harmless_userinfo token).ignoreError

end Requests

end InitPad.Accounts
