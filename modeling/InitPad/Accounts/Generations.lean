import InitPad.Accounts.LinkUse
import InitPad.Accounts.SignIns

/-!
# InitPad.Accounts.Generations

The generation of an account and the rows of the OIDC provider, step by step: a generation only
grows, a row of a grant keeps the account and the generation that it was issued for, and a code that
was redeemed is not redeemed again.
-/

namespace InitPad.Accounts

open Interleave Store

variable {β : Type}

/-! ## Generations -/

/-- The generation of the account. -/
def World.version (w : World) (userId : Id) : Nat :=
  ((w.users.find? userId).map (·.tokenVersion)).getD 0

structure AccountsStored (w : World) : Prop where
  unique : w.users.Unique
  ids : ∀ row ∈ w.users.rows, row.id < w.drawn

theorem AccountsStored.version {w : World} (hw : AccountsStored w) {row : UserRow}
    (hrow : row ∈ w.users.rows) : w.version row.id = row.tokenVersion := by
  have hfind : w.users.find? row.id = some row := hw.unique.find?_of_mem hrow
  simp [World.version, hfind]

theorem rewrites_keeps {e : Stmt β} {p : UserRow → Bool} {change : UserRow → UserRow}
    (h : e.rewrites = some (p, change)) (row : UserRow) :
    (change row).id = row.id ∧ row.tokenVersion ≤ (change row).tokenVersion := by
  cases e with
  | replacePassword | signOutEverywhere =>
    cases h
    exact ⟨rfl, Nat.le_succ _⟩
  | verifyEmail | clearAccessToken =>
    cases h
    exact ⟨rfl, Nat.le_refl _⟩
  | _ => cases h

namespace Effect

variable {e : Stmt β} {w w' : World}

theorem accountsStored (h : Effect e w w') (hw : AccountsStored w) : AccountsStored w' := by
  cases h with
  | @createdUser data row _ hid _ =>
    constructor
    case unique =>
      refine hw.unique.insert fun hmem => ?_
      obtain ⟨old, hold, hkey⟩ := List.mem_map.mp hmem
      exact absurd (hkey.trans hid) (Nat.ne_of_lt (hw.ids old hold))
    case ids =>
      intro row' hrow'
      rcases Table.mem_insert.mp hrow' with hold | rfl
      · exact Nat.lt_succ_of_lt (hw.ids row' hold)
      · rw [hid]
        exact Nat.lt_succ_self _
  | rewroteUsers hrewrites =>
    have hkeeps := rewrites_keeps hrewrites
    constructor
    case unique => exact hw.unique.updateMany _ fun row => (hkeeps row).1
    case ids =>
      intro row' hrow'
      obtain ⟨row, hrow, rfl⟩ := Table.mem_updateMany.mp hrow'
      split
      · rw [(hkeeps row).1]
        exact hw.ids row hrow
      · exact hw.ids row hrow
  | _ => exact ⟨hw.unique, fun row hrow => Nat.lt_of_lt_of_le (hw.ids row hrow) (by
      first | exact Nat.le_refl _ | exact Nat.le_add_right _ _)⟩

theorem version_le (h : Effect e w w') (userId : Id) : w.version userId ≤ w'.version userId := by
  cases h with
  | @createdUser data row =>
    cases hfind : w.users.find? userId with
    | none => simp [World.version, hfind]
    | some user =>
      have hfind' : (w.users.insert row).find? userId = some user :=
        Table.find?_insert_of_some hfind
      simp [World.version, hfind, hfind']
  | @rewroteUsers p change hrewrites =>
    have hkeeps := rewrites_keeps hrewrites
    have hfind' : (w.users.updateMany p change).find? userId
        = (w.users.find? userId).map fun row => if p row then change row else row :=
      Table.find?_updateMany _ _ (fun row => (hkeeps row).1) userId
    cases hfind : w.users.find? userId with
    | none => simp [World.version, hfind]
    | some user =>
      simp only [World.version, hfind', hfind, Option.map_some, Option.getD_some]
      split
      · exact (hkeeps user).2
      · exact Nat.le_refl _
  | _ => exact Nat.le_refl _

end Effect

/-! ## Reads -/

theorem checked_version {e : Stmt β} {w w' : World} {settings : Settings} {i : ApiInput} {b : β}
    {row : UserRow} (hw : AccountsStored w) (hrun : e.run settings i w = .ok (b, w'))
    (h : e.checked (.ok b) = some row) : row.tokenVersion = w.version row.id := by
  cases e with
  | findByIdentifier username email =>
    cases hrun
    have hfind : w.findByIdentifier settings username email = some row := h
    exact (hw.version (List.mem_of_find?_eq_some hfind)).symm
  | findUser id =>
    cases hrun
    have hfind : w.users.find? id = some row := h
    exact (hw.version (Table.mem_of_find? hfind)).symm
  | _ => cases h

theorem replaced_version {e : Stmt β} {w w' : World} {settings : Settings} {i : ApiInput} {b : β}
    {row : UserRow} (hrun : e.run settings i w = .ok (b, w'))
    (h : e.replaced (.ok b) = some row) : row.tokenVersion = w'.version row.id := by
  cases e with
  | replacePassword userId passwordHash action =>
    cases action with
    | passwordChanged =>
      cases h
      have hupdate : w.updateUser userId (.withPassword passwordHash) = .ok (row, w') := hrun
      unfold World.updateUser at hupdate
      split at hupdate
      · cases hupdate
      · rename_i old hfind
        cases hupdate
        have hid : old.id = userId := Table.find?_key hfind
        have hfind' : (w.users.updateMany (·.id = userId) (.withPassword passwordHash)).find? userId
            = some (old.withPassword passwordHash) := by
          have hkey : ∀ row, key (UserRow.withPassword passwordHash row) = key row := fun _ => rfl
          rw [Table.find?_updateMany _ _ hkey, hfind]
          simp [hid]
        have hid' : (old.withPassword passwordHash).id = userId := hid
        simp [World.version, hid', hfind']
    | passwordReset | accountActivated => cases h
  | _ => cases h

theorem keyed_run {e : Stmt β} {w w' : World} {settings : Settings} {i : ApiInput} {b : β}
    (hrun : e.run settings i w = .ok (b, w')) : e.keyed (.ok b) := by
  cases e with
  | findUser id =>
    cases hrun
    intro user huser
    have hfind : w.users.find? id = some user := Except.ok.inj huser
    exact Table.find?_key hfind
  | findSession sid =>
    cases hrun
    intro session user hfound
    have hfind : w.findSession sid = some (session, user) := Except.ok.inj hfound
    obtain ⟨session', -, hmap⟩ := Option.bind_eq_some_iff.mp hfind
    obtain ⟨user', huser, hpair⟩ := Option.map_eq_some_iff.mp hmap
    cases hpair
    exact Table.find?_key huser
  | _ => trivial

theorem checked_error (e : Stmt β) (x : Failure) : e.checked (.error x) = none := by
  cases e <;> rfl

theorem replaced_error (e : Stmt β) (x : Failure) : e.replaced (.error x) = none := by
  cases e with
  | replacePassword userId passwordHash action => cases action <;> rfl
  | _ => rfl

theorem keyed_error (e : Stmt β) (x : Failure) : e.keyed (.error x) := by
  cases e with
  | findUser => exact fun _ h => by cases h
  | findSession => exact fun _ _ h => by cases h
  | _ => trivial

section Steps

variable [Installation]

theorem run_of_ok {x : AccountStep} {b : x.β} (h : x.result = .ok b) :
    x.stmt.run settings x.input (x.pre.state.tick x.input.elapsed) = .ok (b, x.post.state) :=
  execute_ok h

structure VersionInvariant (m : AccountMoment) : Prop where
  stored : AccountsStored m.state
  read : ∀ ev ∈ m.history, ∀ row, ev.stmt.checked ev.result = some row ∨
    ev.stmt.replaced ev.result = some row → row.tokenVersion ≤ m.state.version row.id

theorem version_post (x : AccountStep) (userId : Id) :
    x.pre.state.version userId ≤ x.post.state.version userId := (post_effect x).version_le userId

theorem versionInvariant_post {x : AccountStep} (h : VersionInvariant x.pre) :
    VersionInvariant x.post := by
  have htick : AccountsStored (x.pre.state.tick x.input.elapsed) := ⟨h.stored.unique, h.stored.ids⟩
  constructor
  case stored => exact (post_effect x).accountsStored htick
  case read =>
    intro ev hev row hrow
    rw [x.post_history] at hev
    rcases List.mem_append.mp hev with hev | hev
    · exact Nat.le_trans (h.read ev hev row hrow) (version_post x row.id)
    obtain rfl := List.mem_singleton.mp hev
    have hrow : x.stmt.checked x.result = some row ∨ x.stmt.replaced x.result = some row := hrow
    cases hresult : x.result with
    | error failure =>
      rw [hresult, checked_error, replaced_error] at hrow
      rcases hrow with hrow | hrow <;> cases hrow
    | ok b =>
      rw [hresult] at hrow
      have hrun := run_of_ok hresult
      rcases hrow with hrow | hrow
      · rw [checked_version htick hrun hrow]
        exact version_post x row.id
      · exact Nat.le_of_eq (replaced_version hrun hrow)

end Steps

/-! ## Grants -/

/-- The token that the statement has handed out, with the account and the generation of its row. -/
def Stmt.issued : Stmt β → Except Failure β → Option (RandomToken × Id × Nat)
  | .createGrant _ userId tokenVersion _ _ _ _, r =>
    r.toOption.map fun token => (token, userId, tokenVersion)
  | _, _ => none

def Stmt.redeemed : Stmt β → Except Failure β → Option TokenHash
  | .claimCode hash _, r => if r.toOption = some 1 then some hash else none
  | _, _ => none

theorem redeemed_iff {hash hash' : TokenHash} {now : Time} {r : Except Failure Nat} :
    (Stmt.claimCode hash now).redeemed r = some hash' ↔ r = .ok 1 ∧ hash = hash' := by
  cases r with
  | error x => simp [Stmt.redeemed, Except.toOption]
  | ok n => simp [Stmt.redeemed, Except.toOption]

def OidcGrant.owner (row : OidcGrant) : Id × Nat := (row.userId, row.tokenVersion)

structure GrantsStored (w : World) : Prop where
  unique : w.grants.Unique
  ids : ∀ row ∈ w.grants.rows, row.id < w.drawn
  hashes : ∀ row ∈ w.grants.rows, row.tokenHash = hashToken ⟨row.id⟩

structure SameGrant (row row' : OidcGrant) : Prop where
  id : row'.id = row.id
  hash : row'.tokenHash = row.tokenHash
  owner : row'.owner = row.owner
  used : row.usedAt.isSome → row'.usedAt.isSome

theorem SameGrant.refl (row : OidcGrant) : SameGrant row row := ⟨rfl, rfl, rfl, fun h => h⟩

/-- The row that a statement with these grants stores. -/
structure NewGrant (e : Stmt β) (w w' : World) (row : OidcGrant) : Prop where
  id : row.id = w.drawn
  drawn : w.drawn < w'.drawn
  hash : row.tokenHash = hashToken ⟨row.id⟩
  grants : ∃ kind, e.grants = some (kind, row.owner)

namespace Effect

variable {e : Stmt β} {w w' : World}

theorem grants (h : Effect e w w') : w.grants.Descends SameGrant (NewGrant e w w') w'.grants := by
  cases h with
  | prunedGrants => exact Table.descends_deleteMany .refl _
  | granted clientId redirectUri nonce expiresAt hgrants =>
    exact (Table.descends_refl .refl).insert ⟨rfl, Nat.lt_succ_self _, rfl, _, hgrants⟩
  | claimedCode =>
    exact Table.descends_updateMany .refl fun row _ _ => ⟨rfl, rfl, rfl, fun _ => rfl⟩
  | _ => exact Table.descends_refl .refl

theorem grantsStored (h : Effect e w w') (hw : GrantsStored w) : GrantsStored w' := by
  have hrows := h.grants
  constructor
  case unique =>
    cases h with
    | prunedGrants => exact hw.unique.deleteMany _
    | granted =>
      refine hw.unique.insert fun hmem => ?_
      obtain ⟨row, hrow, hid⟩ := List.mem_map.mp hmem
      exact absurd hid (Nat.ne_of_lt (hw.ids row hrow))
    | claimedCode => exact hw.unique.updateMany _ fun _ => rfl
    | _ => exact hw.unique
  case ids =>
    refine hrows.forall (P := fun row => row.id < w'.drawn) (fun row hrow => ?_) ?_ ?_
    · exact Nat.lt_of_lt_of_le (hw.ids row hrow) h.drawn_le
    · intro row row' hlt hsame
      rw [hsame.id]
      exact hlt
    · intro row hnew
      rw [hnew.id]
      exact hnew.drawn
  case hashes =>
    refine hrows.forall (P := fun row => row.tokenHash = hashToken ⟨row.id⟩) hw.hashes ?_ ?_
    · intro row row' hhash hsame
      rw [hsame.hash, hsame.id]
      exact hhash
    · exact fun row hnew => hnew.hash

end Effect

/-- The account and the generation for which the token was handed out. -/
def Owns (w : World) (h : History) (token : RandomToken) (owner : Id × Nat) : Prop :=
  (∃ row ∈ w.grants.rows, row.tokenHash = hashToken token ∧ row.owner = owner) ∨
    ∃ ev ∈ h, ev.stmt.issued ev.result = some (token, owner)

theorem owns_append {w : World} {h : History} {ev : Event Stmt ApiInput Failure}
    {token : RandomToken} {owner : Id × Nat} :
    Owns w (h ++ [ev]) token owner ↔
      Owns w h token owner ∨ ev.stmt.issued ev.result = some (token, owner) := by
  simp only [Owns, List.mem_append, List.mem_singleton, or_and_right, exists_or, exists_eq_left]
  exact or_assoc.symm

section Steps

variable [Installation]

/-- Rows and reads agree with what was handed out. -/
structure GrantInvariant (w : World) (m : AccountMoment) : Prop where
  stored : GrantsStored m.state
  drawn : ∀ token owner, Owns w m.history token owner → token.random < m.state.drawn
  rows : ∀ row ∈ m.state.grants.rows, ∀ owner, Owns w m.history ⟨row.id⟩ owner → row.owner = owner
  read : ∀ ev ∈ m.history, ∀ entry, ev.stmt.entry ev.result = some entry →
    ∀ token owner, entry.tokenHash = hashToken token →
      token.random < m.state.drawn ∧ (Owns w m.history token owner → entry.owner = owner)

theorem issued_post {x : AccountStep} {token : RandomToken} {owner : Id × Nat}
    (h : x.stmt.issued x.result = some (token, owner)) :
    token.random = x.pre.state.drawn ∧ x.pre.state.drawn < x.post.state.drawn ∧
      ∃ kind, x.stmt.grants = some (kind, owner) := by
  obtain ⟨m, t, e, i⟩ := x
  cases e with
  | createGrant kind userId tokenVersion clientId redirectUri nonce expiresAt =>
    obtain ⟨b, hb, hpair⟩ := Option.map_eq_some_iff.mp h
    cases hpair
    have hresult : (Transition.mk m t (.createGrant kind userId tokenVersion clientId redirectUri
        nonce expiresAt) i : AccountStep).result = .ok token := by
      cases hr : (Transition.mk m t (.createGrant kind userId tokenVersion clientId redirectUri
        nonce expiresAt) i : AccountStep).result with
      | error x => rw [hr] at hb; cases hb
      | ok b => rw [hr] at hb; cases hb; rfl
    have hrun := run_of_ok hresult
    have hcreate : (m.state.tick i.elapsed).createGrant kind userId tokenVersion clientId
        redirectUri nonce expiresAt = .ok (token, _) := hrun
    unfold World.createGrant at hcreate
    split at hcreate
    · cases hcreate
    · have hpair := Except.ok.inj hcreate
      have htoken : (⟨m.state.drawn⟩ : RandomToken) = token := congrArg Prod.fst hpair
      have hworld := congrArg (fun r => World.drawn r.2) hpair
      refine ⟨congrArg RandomToken.random htoken.symm, ?_, kind, rfl⟩
      have hnext : m.state.drawn + 1 = (Transition.mk m t (.createGrant kind userId tokenVersion
        clientId redirectUri nonce expiresAt) i : AccountStep).post.state.drawn := hworld
      exact hnext ▸ Nat.lt_succ_self _
  | _ => cases h

omit [Installation] in
theorem entry_mem {e : Stmt β} {w w' : World} {settings : Settings} {i : ApiInput} {b : β}
    {entry : OidcGrant} (hrun : e.run settings i w = .ok (b, w'))
    (h : e.entry (.ok b) = some entry) : entry ∈ w.grants.rows := by
  cases e with
  | findGrant hash =>
    cases hrun
    have hfind : w.grants.findFirst? (·.tokenHash = hash) = some entry := h
    exact List.mem_of_find?_eq_some hfind
  | findAccessToken hash now =>
    cases hrun
    have hfind : (w.grants.findFirst? fun row => row.tokenHash = hash && row.kind = .accessToken &&
      row.usedAt.isNone && now < row.expiresAt) = some entry := h
    exact List.mem_of_find?_eq_some hfind
  | _ => cases h

omit [Installation] in
theorem entry_error (e : Stmt β) (x : Failure) : e.entry (.error x) = none := by
  cases e <;> rfl

theorem grantInvariant_post {w : World} {x : AccountStep} (h : GrantInvariant w x.pre) :
    GrantInvariant w x.post := by
  have hstored : GrantsStored (x.pre.state.tick x.input.elapsed) :=
    ⟨h.stored.unique, h.stored.ids, h.stored.hashes⟩
  have hdrawn : x.pre.state.drawn ≤ x.post.state.drawn := (post_effect x).drawn_le
  -- Handed out before this step, or by it.
  have howns : ∀ token owner, Owns w x.post.history token owner →
      (token.random < x.pre.state.drawn ∧ Owns w x.pre.history token owner) ∨
        x.stmt.issued x.result = some (token, owner) := by
    intro token owner howns
    rw [x.post_history] at howns
    rcases owns_append.1 howns with howns | hissued
    · exact .inl ⟨h.drawn token owner howns, howns⟩
    · exact .inr hissued
  constructor
  case stored => exact (post_effect x).grantsStored hstored
  case drawn =>
    intro token owner hown
    rcases howns token owner hown with ⟨hlt, -⟩ | hissued
    · exact Nat.lt_of_lt_of_le hlt hdrawn
    · obtain ⟨hrandom, hlt, -⟩ := issued_post hissued
      rw [hrandom]
      exact hlt
  case rows =>
    intro row' hrow' owner hown
    rcases (post_effect x).grants row' hrow' with ⟨row, hrow, hsame⟩ | hnew
    · rw [hsame.id] at hown
      rcases howns _ owner hown with ⟨-, hown⟩ | hissued
      · exact hsame.owner.trans (h.rows row hrow owner hown)
      · have hid : row.id = x.pre.state.drawn := (issued_post hissued).1
        exact absurd hid (Nat.ne_of_lt (h.stored.ids row hrow))
    · have hid : row'.id = x.pre.state.drawn := hnew.id
      rcases howns _ owner hown with ⟨hlt, -⟩ | hissued
      · exact absurd hid (Nat.ne_of_lt hlt)
      · obtain ⟨-, -, kind, hgrants⟩ := issued_post hissued
        obtain ⟨kind', hgrants'⟩ := hnew.grants
        rw [hgrants] at hgrants'
        cases hgrants'
        rfl
  case read =>
    intro ev hev entry hentry token owner hhash
    rw [x.post_history] at hev
    -- The token is older than this step, so that the step does not hand it out.
    have hold : token.random < x.pre.state.drawn ∧
        (Owns w x.pre.history token owner → entry.owner = owner) := by
      rcases List.mem_append.mp hev with hev | hev
      · exact h.read ev hev entry hentry token owner hhash
      obtain rfl := List.mem_singleton.mp hev
      have hentry : x.stmt.entry x.result = some entry := hentry
      cases hresult : x.result with
      | error failure =>
        rw [hresult, entry_error] at hentry
        cases hentry
      | ok b =>
        rw [hresult] at hentry
        have hmem : entry ∈ (x.pre.state.tick x.input.elapsed).grants.rows :=
          entry_mem (run_of_ok hresult) hentry
        have htoken : hashToken ⟨entry.id⟩ = hashToken token :=
          (h.stored.hashes entry hmem).symm.trans hhash
        cases htoken
        exact ⟨h.stored.ids entry hmem, h.rows entry hmem owner⟩
    refine ⟨Nat.lt_of_lt_of_le hold.1 hdrawn, fun hown => ?_⟩
    rcases howns token owner hown with ⟨-, hown⟩ | hissued
    · exact hold.2 hown
    · exact absurd (issued_post hissued).1 (Nat.ne_of_lt hold.1)

/-- The code is stored with a used row, or not at all. -/
def Redeemed (hash : TokenHash) (w : World) : Prop :=
  hash.token.random < w.drawn ∧ ∀ row ∈ w.grants.rows, row.tokenHash = hash → row.usedAt.isSome

theorem redeemed_post {x : AccountStep} {hash : TokenHash} (h : Redeemed hash x.pre.state) :
    Redeemed hash x.post.state := by
  refine ⟨Nat.lt_of_lt_of_le h.1 (post_effect x).drawn_le, fun row' hrow' hhash => ?_⟩
  rcases (post_effect x).grants row' hrow' with ⟨row, hrow, hsame⟩ | hnew
  · exact hsame.used (h.2 row hrow (hsame.hash.symm.trans hhash))
  · have hrandom : hash.token.random = x.pre.state.drawn := by
      rw [← hhash, hnew.hash]
      exact hnew.id
    exact absurd hrandom (Nat.ne_of_lt h.1)

omit [Installation] in
theorem redeemed_rows {w : World} (hw : GrantsStored w) {hash : TokenHash} {now : Time}
    (hone : w.grants.count (OidcGrant.redeemable hash now) = 1) :
    (∃ row ∈ w.grants.rows, row.tokenHash = hash ∧ row.usedAt = none) ∧
      hash.token.random < w.drawn ∧
      ∀ row' ∈ (w.grants.updateMany (OidcGrant.redeemable hash now) (.used now)).rows,
        row'.tokenHash = hash → row'.usedAt.isSome := by
  have hpos : 0 < w.grants.count (OidcGrant.redeemable hash now) := by rw [hone]; exact Nat.one_pos
  obtain ⟨row, hrow, hredeem⟩ := (Table.count_pos_iff _ _).mp hpos
  have hmatch := hredeem
  simp only [OidcGrant.redeemable, Bool.and_eq_true, decide_eq_true_eq,
    Option.isNone_iff_eq_none] at hmatch
  have hhash : row.tokenHash = hash := hmatch.1.1.1
  have hid : hash.token.random = row.id := by
    rw [← hhash, hw.hashes row hrow]
    rfl
  refine ⟨⟨row, hrow, hhash, hmatch.1.2⟩, hid ▸ hw.ids row hrow, fun row' hrow' hhash' => ?_⟩
  obtain ⟨old, hold, rfl⟩ := Table.mem_updateMany.mp hrow'
  have hsame : old.tokenHash = hash := by
    by_cases hp : OidcGrant.redeemable hash now old = true
    · rw [if_pos hp] at hhash'
      exact hhash'
    · rw [if_neg hp] at hhash'
      exact hhash'
  have holdid : old.id = row.id := by
    rw [← hid, ← hsame, hw.hashes old hold]
    rfl
  rw [hw.unique.eq_of_key hold hrow holdid, if_pos hredeem]
  rfl

theorem redeemed_step {x : AccountStep} {hash : TokenHash} (hw : GrantsStored x.pre.state)
    (h : x.stmt.redeemed x.result = some hash) :
    ¬ Redeemed hash x.pre.state ∧ Redeemed hash x.post.state := by
  have htick : GrantsStored (x.pre.state.tick x.input.elapsed) := ⟨hw.unique, hw.ids, hw.hashes⟩
  have hdrawn : x.pre.state.drawn ≤ x.post.state.drawn := (post_effect x).drawn_le
  obtain ⟨m, t, e, i⟩ := x
  cases e with
  | claimCode hash' now =>
    obtain ⟨hone, rfl⟩ := redeemed_iff.1 h
    obtain ⟨hcount, hstate⟩ := Prod.mk.inj (Except.ok.inj (execute_ok hone))
    have htable := congrArg World.grants hstate
    obtain ⟨⟨row, hrow, hhash, hunused⟩, hlt, hrows⟩ := redeemed_rows htick hcount
    refine ⟨fun hpre => ?_, Nat.lt_of_lt_of_le hlt hdrawn, fun row' hrow' => ?_⟩
    · have hused := hpre.2 row hrow hhash
      rw [hunused] at hused
      cases hused
    · exact hrows row' (Eq.mpr (congrArg (row' ∈ Table.rows ·) htable) hrow')
  | _ => cases h

end Steps

end InitPad.Accounts
