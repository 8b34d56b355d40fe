import InitPad.Accounts.Generations

/-!
# InitPad.Accounts.Fencing

A new password ends the sign-ins before it. A session or a grant carries the generation that was
read with the credential check behind it, and it is accepted under that generation only. The one
exception is a change of the password whose own check is older than another new password: it goes
on as if nothing had happened, and signs a session of the newest generation.
-/

namespace InitPad.Accounts

open Interleave Store

variable {β : Type}

def Stmt.replaces : Stmt β → Option Id
  | .replacePassword userId _ _ => some userId
  | _ => none

theorem replaces_of_replaced {e : Stmt β} {r : Except Failure β} {user : UserRow}
    (h : e.replaced r = some user) : e.replaces.isSome := by
  cases e with
  | replacePassword => rfl
  | _ => cases h

/-- With this answer `authenticate` accepts the token. -/
def Stmt.accepts (payload : JwtPayload) (now : Time) : Stmt β → Except Failure β → Bool
  | .findSession sid, r => payload.sid = some sid &&
    (liveSession payload now r.toOption.join).any fun (_, user) =>
      (AuthenticatedUser.of payload (some user)).toOption.isSome
  | .findUser userId, r => payload.sid.isNone && userId = payload.sub &&
    (AuthenticatedUser.of payload r.toOption.join).toOption.isSome
  | _, _ => false

/-- With this answer the holder of the grant is still the same. -/
def Stmt.admits (entry : OidcGrant) : Stmt β → Except Failure β → Bool
  | .findUser userId, r =>
    userId = entry.userId && (fenced r.toOption.join entry.tokenVersion).isSome
  | _, _ => false

theorem findSession_version {w : World} (hw : AccountsStored w) {sid : Id} {session : UserSession}
    {user : UserRow} (h : w.findSession sid = some (session, user)) :
    user.id = session.userId ∧ w.version user.id = user.tokenVersion := by
  obtain ⟨session', -, hmap⟩ := Option.bind_eq_some_iff.mp h
  obtain ⟨user', huser, hpair⟩ := Option.map_eq_some_iff.mp hmap
  cases hpair
  exact ⟨Table.find?_key huser, hw.version (Table.mem_of_find? huser)⟩

theorem ok_of_isSome {ε α : Type} {r : Except ε α} (h : r.toOption.isSome = true) :
    ∃ a, r = .ok a := by
  cases r with
  | error x => cases h
  | ok a => exact ⟨a, rfl⟩

theorem toOption_join_some {ε α : Type} {r : Except ε (Option α)} {a : α}
    (h : r.toOption.join = some a) : r = .ok (some a) := by
  cases r with
  | error x => cases h
  | ok found =>
    have hfound : found = some a := h
    rw [hfound]

theorem mem_checks {t : Nat} {h : History} {row : UserRow} (hrow : row ∈ checks (own t h)) :
    ∃ ev ∈ h, ev.thread = t ∧ ev.stmt.checked ev.result = some row := by
  obtain ⟨ev, hev, hchecked⟩ := List.mem_filterMap.mp hrow
  obtain ⟨hev, ht⟩ := List.mem_filter.mp hev
  exact ⟨ev, hev, of_decide_eq_true ht, hchecked⟩

theorem mem_replacements {t : Nat} {h : History} {row : UserRow}
    (hrow : row ∈ replacements (own t h)) :
    ∃ ev ∈ h, ev.thread = t ∧ ev.stmt.replaced ev.result = some row := by
  obtain ⟨ev, hev, hreplaced⟩ := List.mem_filterMap.mp hrow
  obtain ⟨hev, ht⟩ := List.mem_filter.mp hev
  exact ⟨ev, hev, of_decide_eq_true ht, hreplaced⟩

theorem mem_entries {t : Nat} {h : History} {entry : OidcGrant} (hentry : entry ∈ entries (own t h)) :
    ∃ ev ∈ h, ev.stmt.entry ev.result = some entry := by
  obtain ⟨ev, hev, hfound⟩ := List.mem_filterMap.mp hentry
  exact ⟨ev, (List.mem_filter.mp hev).1, hfound⟩

section

variable [Installation]

/-- The password of the account is replaced, whatever the caller is told. -/
def Commits (x : AccountStep) (userId : Id) : Prop :=
  x.stmt.replaces = some userId ∧ x.pre.state.version userId < x.post.state.version userId

/-- Thread `t` has read the account, for a check of its password, before the step. -/
def CheckedBefore (x : AccountStep) (t : Nat) (userId : Id) : Prop :=
  ∃ row ∈ checks (own t x.pre.history), row.id = userId

/-- The session stems from a check before the step: it was signed before the run, or by another
request that had read the account already. -/
def OlderSession (w : World) (tr : List AccountStep) (x : AccountStep) (payload : JwtPayload) :
    Prop :=
  payload ∈ w.signed ∨ ∃ s ∈ tr, s.stmt.signs = some payload ∧ s.thread ≠ x.thread ∧
    CheckedBefore x s.thread payload.sub

inductive OlderGrant (w : World) (tr : List AccountStep) (x : AccountStep) (userId : Id) :
    RandomToken → Prop
  | stored {token : RandomToken} {row : OidcGrant} : row ∈ w.grants.rows →
      row.tokenHash = hashToken token → row.userId = userId → OlderGrant w tr x userId token
  | code {token : RandomToken} {g : AccountStep} {version : Nat} {payload : JwtPayload} :
      g ∈ tr → g.stmt.issued g.result = some (token, userId, version) →
      g.stmt.grants = some (.authorizationCode, userId, version) →
      payload ∈ verifies (own g.thread g.pre.history) → OlderSession w tr x payload →
      OlderGrant w tr x userId token
  | accessToken {code token : RandomToken} {g : AccountStep} {version : Nat} {entry : OidcGrant} :
      g ∈ tr → g.stmt.issued g.result = some (token, userId, version) →
      g.stmt.grants = some (.accessToken, userId, version) →
      entry ∈ entries (own g.thread g.pre.history) → entry.tokenHash = hashToken code →
      OlderGrant w tr x userId code → OlderGrant w tr x userId token

def AcceptsSession (y : AccountStep) (payload : JwtPayload) : Prop :=
  ∃ now, y.stmt.accepts payload now y.result = true

/-- The request has found the grant, and its holder is still the same. -/
def AcceptsGrant (y : AccountStep) (token : RandomToken) : Prop :=
  ∃ entry ∈ entries (own y.thread y.pre.history), entry.tokenHash = hashToken token ∧
    y.stmt.admits entry y.result = true

/-- Nothing older than a new password is accepted behind it, and a code is redeemed once. -/
structure CredentialFence (w : World) (tr : List AccountStep) : Prop where
  sessions : tr.Pairwise fun x y => ∀ payload, Commits x payload.sub →
    OlderSession w tr x payload → ¬ AcceptsSession y payload
  grants : tr.Pairwise fun x y => ∀ userId token, Commits x userId →
    OlderGrant w tr x userId token → ¬ AcceptsGrant y token
  codes : tr.Pairwise fun x y => ∀ hash, x.stmt.redeemed x.result = some hash →
    y.stmt.redeemed y.result ≠ some hash

/-- No password is replaced between the check of a password change and its own update. -/
def Undisturbed (tr : List AccountStep) : Prop :=
  tr.Pairwise fun x z => ∀ user, z.stmt.replaced z.result = some user → Commits x user.id →
    ¬ CheckedBefore x z.thread user.id

/-- Nothing of a later generation was issued before the run. -/
structure WellIssued (w : World) : Prop where
  accounts : AccountsStored w
  grants : GrantsStored w
  signed : ∀ payload ∈ w.signed, payload.ver.getD 0 ≤ w.version payload.sub
  granted : ∀ row ∈ w.grants.rows, row.tokenVersion ≤ w.version row.userId

/-- What the earlier of two steps of a run has left for the later one. -/
structure Earlier (x y : AccountStep) : Prop where
  history : x.post.history <+: y.pre.history
  version : ∀ userId, x.post.state.version userId ≤ y.pre.state.version userId
  redeemed : ∀ hash, Redeemed hash x.post.state → Redeemed hash y.pre.state

variable {w : World} {tr : List AccountStep} {c : AccountSystem}

theorem earlier_run (hrun : Run SignInCalls (Config.start w) tr c) : tr.Pairwise Earlier := by
  have hhistory := hrun.history_prefix.1
  have hversion := (hrun.pairwise
    (fun x m => ∀ userId, x.post.state.version userId ≤ m.state.version userId) (fun _ => True)
    (fun _ _ _ => Nat.le_refl _)
    (fun _ y _ hpre userId => Nat.le_trans (hpre userId) (version_post y userId))
    fun _ _ => trivial).1
  have hredeemed := (hrun.pairwise
    (fun x m => ∀ hash, Redeemed hash x.post.state → Redeemed hash m.state) (fun _ => True)
    (fun _ _ _ h => h) (fun _ y _ hpre hash h => redeemed_post (hpre hash h))
    fun _ _ => trivial).1
  exact (hhistory.and (hversion.and hredeemed)).imp fun h => ⟨h.1, h.2.1, h.2.2⟩

theorem Earlier.version_le {x y : AccountStep} (h : Earlier x y) (userId : Id) :
    x.pre.state.version userId ≤ y.pre.state.version userId :=
  Nat.le_trans (version_post x userId) (h.version userId)

/-! ## Acceptance -/

theorem read_version {y : AccountStep} (hw : AccountsStored y.pre.state) {user : UserRow}
    (h : y.stmt.checked y.result = some user) :
    y.pre.state.version user.id = user.tokenVersion := by
  have htick : AccountsStored (y.pre.state.tick y.input.elapsed) := ⟨hw.unique, hw.ids⟩
  cases hresult : y.result with
  | error failure =>
    rw [hresult, checked_error] at h
    cases h
  | ok b =>
    rw [hresult] at h
    exact (checked_version htick (run_of_ok hresult) h).symm

theorem accepts_version {y : AccountStep} (hw : AccountsStored y.pre.state) {payload : JwtPayload}
    (h : AcceptsSession y payload) : y.pre.state.version payload.sub = payload.ver.getD 0 := by
  obtain ⟨m, t, e, i⟩ := y
  cases e with
  | findSession sid =>
    obtain ⟨now, h⟩ := h
    have h := (Bool.and_eq_true _ _ ▸ h : _ ∧ _)
    obtain ⟨⟨session, user⟩, hlive, haccepts⟩ := (Option.any_eq_true _ _).mp h.2
    obtain ⟨accepted, haccepted⟩ := ok_of_isSome haccepts
    obtain ⟨hfound, hsub⟩ := liveSession_some hlive
    have hresult := toOption_join_some hfound
    have hfind := (Prod.mk.inj (Except.ok.inj (execute_ok hresult))).1
    have hw : AccountsStored (m.state.tick i.elapsed) := ⟨hw.unique, hw.ids⟩
    obtain ⟨hid, hversion⟩ := findSession_version hw hfind
    obtain ⟨_, hsome, -, -, hver⟩ := of_ok haccepted
    cases hsome
    rw [hver, ← hversion, ← hsub, hid]
    rfl
  | findUser userId =>
    obtain ⟨now, h⟩ := h
    simp only [Stmt.accepts, Bool.and_eq_true, decide_eq_true_eq] at h
    obtain ⟨⟨-, rfl⟩, haccepts⟩ := h
    obtain ⟨accepted, haccepted⟩ := ok_of_isSome haccepts
    obtain ⟨user, hfound, -, -, hver⟩ := of_ok haccepted
    have hread := read_version hw (y := ⟨m, t, .findUser payload.sub, i⟩) hfound
    have hresult := toOption_join_some hfound
    have hfind := (Prod.mk.inj (Except.ok.inj (execute_ok hresult))).1
    have hid : user.id = payload.sub := Table.find?_key hfind
    rw [hver, ← hread, hid]
  | _ =>
    obtain ⟨now, h⟩ := h
    cases h

theorem admits_version {y : AccountStep} (hw : AccountsStored y.pre.state) {entry : OidcGrant}
    (h : y.stmt.admits entry y.result = true) :
    y.pre.state.version entry.userId = entry.tokenVersion := by
  obtain ⟨m, t, e, i⟩ := y
  cases e with
  | findUser userId =>
    simp only [Stmt.admits, Bool.and_eq_true, decide_eq_true_eq] at h
    obtain ⟨rfl, hsome⟩ := h
    obtain ⟨user, hfenced⟩ := Option.isSome_iff_exists.mp hsome
    obtain ⟨hfound, hversion⟩ := fenced_some hfenced
    have hread := read_version hw (y := ⟨m, t, .findUser entry.userId, i⟩) hfound
    have hresult := toOption_join_some hfound
    have hfind := (Prod.mk.inj (Except.ok.inj (execute_ok hresult))).1
    have hid : user.id = entry.userId := Table.find?_key hfind
    rw [← hversion, ← hread, hid]
  | _ => cases h

/-! ## Runs -/

theorem rule_run (hrun : Run SignInCalls (Config.start w) tr c) :
    ∀ x ∈ tr, SignInRule x.stmt (own x.thread x.pre.history) := by
  have hentry : ∀ (m : AccountMoment) (p : ApiCall Unit) (t : Nat), SignInCalls m p →
      Follows (fun _ _ => True) t p [] := fun _ _ _ => follows_signInCall
  refine (Run.meets hentry hrun ?_).2
  intro ev hev
  rw [hrun.history_eq] at hev
  obtain ⟨x, -, rfl⟩ := List.mem_map.mp hev
  have hkeyed : x.stmt.keyed x.result := by
    cases hresult : x.result with
    | error failure => exact keyed_error _ _
    | ok b => exact keyed_run (run_of_ok hresult)
  exact hkeyed

theorem versionInvariant_run (hw : WellIssued w) (hrun : Run SignInCalls (Config.start w) tr c) :
    ∀ x ∈ tr, VersionInvariant x.pre :=
  hrun.preserves_pre VersionInvariant (fun _ => True) (fun _ _ => versionInvariant_post)
    (fun _ _ => trivial) ⟨hw.accounts, fun _ hev => absurd hev List.not_mem_nil⟩

omit [Installation] in
theorem grantInvariant_start (hw : WellIssued w) : GrantInvariant w (Config.start w).moment := by
  have howns : ∀ token owner, Owns w [] token owner →
      ∃ row ∈ w.grants.rows, token = ⟨row.id⟩ ∧ row.owner = owner := by
    rintro token owner (⟨row, hrow, hhash, howner⟩ | ⟨ev, hev, -⟩)
    · have htoken : hashToken ⟨row.id⟩ = hashToken token :=
        (hw.grants.hashes row hrow).symm.trans hhash
      cases htoken
      exact ⟨row, hrow, rfl, howner⟩
    · exact absurd hev List.not_mem_nil
  constructor
  case stored => exact hw.grants
  case drawn =>
    intro token owner hown
    obtain ⟨row, hrow, rfl, -⟩ := howns token owner hown
    exact hw.grants.ids row hrow
  case rows =>
    intro row hrow owner hown
    obtain ⟨row', hrow', htoken, howner⟩ := howns _ owner hown
    have hid : row.id = row'.id := congrArg RandomToken.random htoken
    rw [hw.grants.unique.eq_of_key hrow hrow' hid]
    exact howner
  case read => exact fun ev hev => absurd hev List.not_mem_nil

theorem grantInvariant_run (hw : WellIssued w) (hrun : Run SignInCalls (Config.start w) tr c) :
    GrantInvariant w c.moment :=
  hrun.preserves (GrantInvariant w) (fun _ => True) (fun _ _ => grantInvariant_post)
    (fun _ _ => trivial) (grantInvariant_start hw)

theorem grantsStored_run (hw : WellIssued w) (hrun : Run SignInCalls (Config.start w) tr c) :
    ∀ x ∈ tr, GrantsStored x.pre.state := fun x hx =>
  (hrun.preserves_pre (GrantInvariant w) (fun _ => True) (fun _ _ => grantInvariant_post)
    (fun _ _ => trivial) (grantInvariant_start hw) x hx).stored

theorem version_run (hrun : Run SignInCalls (Config.start w) tr c) (userId : Id) :
    ∀ x ∈ tr, w.version userId ≤ x.pre.state.version userId :=
  hrun.preserves_pre (fun m => w.version userId ≤ m.state.version userId) (fun _ => True)
    (fun x _ hpre => Nat.le_trans hpre (version_post x userId)) (fun _ _ => trivial)
    (Nat.le_refl _)

theorem olderSession_version (hw : WellIssued w) (hrun : Run SignInCalls (Config.start w) tr c)
    (hundisturbed : Undisturbed tr) {x : AccountStep} (hx : x ∈ tr) {payload : JwtPayload}
    (hcommits : Commits x payload.sub) (h : OlderSession w tr x payload) :
    payload.ver.getD 0 ≤ x.pre.state.version payload.sub := by
  rcases h with hsigned | ⟨s, hs, hsigns, hthread, row, hrow, hid⟩
  · exact Nat.le_trans (hw.signed payload hsigned) (version_run hrun payload.sub x hx)
  obtain ⟨user, hsub, hver, huser⟩ := (rule_run hrun s hs).signs payload hsigns
  have hversions := versionInvariant_run hw hrun
  have hread : ∀ y ∈ tr, ∀ ev ∈ y.pre.history, ev.stmt.checked ev.result = some user ∨
      ev.stmt.replaced ev.result = some user →
      payload.ver.getD 0 ≤ y.pre.state.version payload.sub := by
    intro y hy ev hev hread
    rw [hver, hsub]
    exact (hversions y hy).read ev hev user hread
  rcases huser with hreplaced | hchecked
  · -- The session of a password change: its own update is not behind the new password.
    obtain ⟨ev, hev, ht, hreplaced⟩ := mem_replacements hreplaced
    rcases hrun.mem_history hs hev with hnil | ⟨z, hz, rfl⟩
    · exact absurd hnil List.not_mem_nil
    rcases pairwise_cases ((earlier_run hrun).and hundisturbed) hx hz with rfl | ⟨-, hzx⟩ | ⟨hzx, -⟩
    · exact absurd ht.symm hthread
    · have hcommits' : Commits x user.id := hsub ▸ hcommits
      have hfree := hzx user hreplaced hcommits'
      have ht : z.thread = s.thread := ht
      rw [ht] at hfree
      exact absurd ⟨row, hrow, hid.trans hsub⟩ hfree
    · have hmem : z.event ∈ x.pre.history := by
        refine hzx.history.subset ?_
        rw [z.post_history]
        exact List.mem_append_right _ (.head _)
      exact hread x hx z.event hmem (.inr hreplaced)
  · obtain ⟨ev, hev, -, huser⟩ := mem_checks (hchecked ▸ List.mem_singleton.mpr rfl :
      user ∈ checks (own s.thread s.pre.history))
    rcases pairwise_cases (earlier_run hrun) hx hs with rfl | hearlier | hearlier
    · exact absurd rfl hthread
    · -- The account that was read before the new password is the one that was checked.
      obtain ⟨ev', hev', ht', hrow'⟩ := mem_checks hrow
      have hmem : ev' ∈ s.pre.history := by
        refine hearlier.history.subset ?_
        rw [x.post_history]
        exact List.mem_append_left _ hev'
      have hown : row ∈ checks (own s.thread s.pre.history) :=
        List.mem_filterMap.mpr ⟨ev', List.mem_filter.mpr ⟨hmem, decide_eq_true ht'⟩, hrow'⟩
      rw [hchecked] at hown
      obtain rfl := List.mem_singleton.mp hown
      exact hread x hx ev' hev' (.inl hrow')
    · exact Nat.le_trans (hread s hs ev hev (.inl huser)) (hearlier.version_le payload.sub)

theorem entry_owner (hw : WellIssued w) (hrun : Run SignInCalls (Config.start w) tr c)
    {y : AccountStep} (hy : y ∈ tr) {entry : OidcGrant} {token : RandomToken} {owner : Id × Nat}
    (hentry : entry ∈ entries (own y.thread y.pre.history)) (hhash : entry.tokenHash = hashToken token)
    (hown : Owns w c.moment.history token owner) : entry.owner = owner := by
  obtain ⟨ev, hev, hfound⟩ := mem_entries hentry
  have hlater : ev ∈ c.moment.history := by
    refine (hrun.history_prefix.2 y hy).subset ?_
    rw [y.post_history]
    exact List.mem_append_left _ hev
  exact ((grantInvariant_run hw hrun).read ev hlater entry hfound token owner hhash).2 hown

theorem olderGrant_version (hw : WellIssued w) (hrun : Run SignInCalls (Config.start w) tr c)
    (hundisturbed : Undisturbed tr) {x : AccountStep} (hx : x ∈ tr) {userId : Id}
    (hcommits : Commits x userId) {token : RandomToken} (h : OlderGrant w tr x userId token) :
    ∃ version, Owns w c.moment.history token (userId, version) ∧
      version ≤ x.pre.state.version userId := by
  have hissued : ∀ g ∈ tr, ∀ token owner, g.stmt.issued g.result = some (token, owner) →
      Owns w c.moment.history token owner := by
    intro g hg token owner hissued
    refine .inr ⟨g.event, ?_, hissued⟩
    rw [hrun.history_eq]
    exact List.mem_append_right _ (List.mem_map_of_mem hg)
  induction h with
  | @stored token row hrow hhash huser =>
    refine ⟨row.tokenVersion, .inl ⟨row, hrow, hhash, ?_⟩, ?_⟩
    · rw [← huser]
      rfl
    · have hversion := hw.granted row hrow
      rw [huser] at hversion
      exact Nat.le_trans hversion (version_run hrun userId x hx)
  | @code token g version payload hg hissue hgrants hverified holder =>
    obtain ⟨hsub, hver⟩ := (rule_run hrun g hg).codes userId version hgrants payload hverified
    refine ⟨version, hissued g hg token _ hissue, ?_⟩
    rw [← hver, ← hsub]
    exact olderSession_version hw hrun hundisturbed hx (hsub.symm ▸ hcommits) holder
  | @accessToken code token g version entry hg hissue hgrants hentry hhash _ ih =>
    obtain ⟨version', hown, hle⟩ := ih
    have howner := entry_owner hw hrun hg hentry hhash hown
    obtain ⟨-, hversion⟩ := (rule_run hrun g hg).tokens userId version hgrants entry hentry
    have hsame : version = version' := hversion.symm.trans (congrArg Prod.snd howner)
    exact ⟨version, hissued g hg token _ hissue, hsame ▸ hle⟩

theorem commits_lt {x y : AccountStep} (hearlier : Earlier x y) {userId : Id}
    (hcommits : Commits x userId) : x.pre.state.version userId < y.pre.state.version userId :=
  Nat.lt_of_lt_of_le hcommits.2 (hearlier.version userId)

/-- In every run in which no password is replaced between the check of a password change and its
update, a new password ends all sign-ins before it. -/
theorem older_signIns_fenced (hw : WellIssued w) (hrun : Run SignInCalls (Config.start w) tr c)
    (hundisturbed : Undisturbed tr) : CredentialFence w tr := by
  have hstored : ∀ y ∈ tr, AccountsStored y.pre.state := fun y hy =>
    (versionInvariant_run hw hrun y hy).stored
  have horder := earlier_run hrun
  constructor
  case sessions =>
    refine horder.imp_of_mem fun {x y} hx hy hearlier payload hcommits holder haccepts => ?_
    have hle := olderSession_version hw hrun hundisturbed hx hcommits holder
    have hversion := accepts_version (hstored y hy) haccepts
    have hlt := commits_lt hearlier hcommits
    omega
  case grants =>
    refine horder.imp_of_mem fun {x y} hx hy hearlier userId token hcommits holder haccepts => ?_
    obtain ⟨version, hown, hle⟩ := olderGrant_version hw hrun hundisturbed hx hcommits holder
    obtain ⟨entry, hentry, hhash, hadmits⟩ := haccepts
    have howner := entry_owner hw hrun hy hentry hhash hown
    have hversion := admits_version (hstored y hy) hadmits
    have huser : entry.userId = userId := congrArg Prod.fst howner
    have hsame : entry.tokenVersion = version := congrArg Prod.snd howner
    have hlt := commits_lt hearlier hcommits
    rw [huser] at hversion
    omega
  case codes =>
    refine horder.imp_of_mem fun {x y} hx hy hearlier hash hredeemed hagain => ?_
    have hgrants := grantsStored_run hw hrun
    have hbehind := (redeemed_step (hgrants x hx) hredeemed).2
    exact (redeemed_step (hgrants y hy) hagain).1 (hearlier.redeemed hash hbehind)

end

/-! ## A reset behind the check of a password change -/

def stolen : UserRow where
  id := 0
  giteaId := none
  username := "ada"
  name := none
  email := some "ada@example.org"
  avatarUrl := none
  accessToken := ""
  passwordHash := some ⟨"leaked", 0⟩
  platformRole := .user
  active := true
  mustChangePassword := false
  tokenVersion := 0
  emailVerifiedAt := none

/-- An account whose owner has a link for a new password. -/
def recovering : World where
  users := ⟨[stolen]⟩
  authTokens := ⟨[⟨1, 0, .passwordReset, hashToken ⟨1⟩, 1000, none⟩]⟩
  drawn := 2

theorem recovering_wellIssued : WellIssued recovering where
  accounts := ⟨by decide, by decide⟩
  grants := ⟨by decide, by decide, by decide⟩
  signed := by decide
  granted := by decide

section

attribute [local instance] closedInstallation

def reset : ApiCall Unit := resetPassword (some ⟨1⟩) "recovered"

def changed : ApiCall Unit := (changePassword 0 "leaked" "stolen" {}).ignoreError

def signedIn : ApiCall Unit := (login ⟨"ada", "leaked"⟩ {}).ignoreError

def shown (token : JwtPayload) : ApiCall Unit := (authenticate token).ignoreError

theorem recovering_calls {m : AccountMoment} (token : JwtPayload) :
    ∀ p ∈ [reset, changed, signedIn, shown token], SignInCalls m p := by
  simp only [List.mem_cons, List.not_mem_nil, or_false, forall_eq_or_imp, forall_eq]
  exact ⟨.resetPassword _ _, .changePassword _ _ _ _, .login _ _, .authenticate _⟩

def turns (schedule : List (Nat × Nat)) : List (Nat × ApiInput) :=
  schedule.flatMap fun (t, n) => List.replicate n (t, {})

/-- A sign-in is under way while the password is reset: its session is refused. -/
theorem signIn_fenced : ∃ (tr : List AccountStep) (c : AccountSystem),
    Run SignInCalls (Config.start recovering) tr c ∧ CredentialFence recovering tr ∧
      c.moment.state.version 0 = 1 ∧ c.moment.state.signed = [⟨0, some 0, some 3⟩] := by
  obtain ⟨tr, c, hrun, hcheck⟩ := run_of_plays (Config.start recovering)
    [reset, changed, signedIn, shown ⟨0, some 0, some 3⟩] (turns [(2, 2), (0, 7), (2, 4), (3, 3)])
    (fun tr c => tr.Pairwise (fun x z => x.stmt.replaces = none ∨ z.stmt.replaces = none) &&
      (c.moment.state.version 0 = 1 && c.moment.state.signed = [⟨0, some 0, some 3⟩]))
    (recovering_calls _) (by decide)
  simp only [Bool.and_eq_true, decide_eq_true_eq] at hcheck
  obtain ⟨hone, hversion, hsigned⟩ := hcheck
  have hundisturbed : Undisturbed tr := by
    refine hone.imp fun {x z} hnone user hreplaced hcommits => ?_
    rcases hnone with hnone | hnone
    · exact absurd (hnone.symm.trans hcommits.1) nofun
    · exact absurd (replaces_of_replaced hreplaced) (by simp [hnone])
  exact ⟨tr, c, hrun, older_signIns_fenced recovering_wellIssued hrun hundisturbed, hversion,
    hsigned⟩

def thiefSession : JwtPayload := ⟨0, some 2, some 4⟩

/-- The check of a password change is older than a reset; its session is signed and accepted behind
the reset. -/
def outlives (tr : List AccountStep) : Bool :=
  match tr[8]?, tr[13]?, tr[15]? with
  | some x, some s, some y =>
    x.stmt.replaces = some 0 && x.pre.state.version 0 < x.post.state.version 0 &&
      (s.stmt.signs = some thiefSession && s.thread ≠ x.thread &&
        (checks (own s.thread x.pre.history)).any (·.id = 0)) &&
      y.stmt.accepts thiefSession y.pre.state.now y.result
  | _, _, _ => false

theorem stolen_session_outlives_reset : ¬ ∀ (w : World) (tr : List AccountStep) (c : AccountSystem),
    WellIssued w → Run SignInCalls (Config.start w) tr c → CredentialFence w tr := by
  intro h
  obtain ⟨tr, c, hrun, hcheck⟩ := run_of_plays (Config.start recovering)
    [reset, changed, signedIn, shown thiefSession] (turns [(1, 2), (0, 7), (1, 5), (3, 2)])
    (fun tr _ => outlives tr) (recovering_calls _) (by decide)
  have hfence := (h recovering tr c recovering_wellIssued hrun).sessions
  unfold outlives at hcheck
  split at hcheck
  · rename_i x s y hx hs hy
    simp only [Bool.and_eq_true, decide_eq_true_eq, List.any_eq_true] at hcheck
    obtain ⟨⟨⟨hreplaces, hlt⟩, ⟨hsigns, hthread⟩, row, hrow, hid⟩, haccepts⟩ := hcheck
    obtain ⟨hlenx, rfl⟩ := List.getElem?_eq_some_iff.mp hx
    obtain ⟨hleny, rfl⟩ := List.getElem?_eq_some_iff.mp hy
    have holder : OlderSession recovering tr tr[8] thiefSession :=
      .inr ⟨s, List.mem_of_getElem? hs, hsigns, hthread, row, hrow, hid⟩
    exact List.pairwise_iff_getElem.mp hfence 8 15 hlenx hleny (by decide) thiefSession
      ⟨hreplaces, hlt⟩ holder ⟨_, haccepts⟩
  · cases hcheck

end

end InitPad.Accounts
