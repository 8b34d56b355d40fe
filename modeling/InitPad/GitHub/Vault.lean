import InitPad.GitHub.Leases
import InitPad.GitHub.Grants

/-!
# InitPad.GitHub.Vault

The tokens of linked accounts over whole runs. The version of a row moves with its tokens, and an
update under an old version changes nothing. The lease keeps two calls from presenting one refresh
token, as long as its holder sends the request and stores the answer before it expires: nothing
checks the lease again behind the claim.
-/

namespace InitPad.GitHub

open Interleave Store
open Prog (await)

variable {β : Type}

/-! ## Rows -/

structure IdentitiesStored (w : World) : Prop where
  unique : w.identities.Unique
  ids : ∀ row ∈ w.identities.rows, row.id < w.drawn

def Stmt.resets (row : ExternalIdentity) : Stmt β → Bool
  | .revokeTokens providerUserId => row.providerUserId = providerUserId
  | .storeExchange userId exchange =>
    row.userId = userId && row.providerUserId = exchange.providerUserId
  | .clearVersion id version => row.id = id && row.credentialVersion = version
  | .unlink userId => row.userId = userId
  | _ => false

def ExternalIdentity.tokens (row : ExternalIdentity) :=
  (row.accessTokenEncrypted, row.accessTokenExpiresAt, row.refreshTokenEncrypted,
    row.refreshTokenExpiresAt)

/-- What a statement does to the row of a linked account. -/
inductive IdentityEffect (e : Stmt β) (w w' : World) (row' : ExternalIdentity) : Prop
  | kept : row' ∈ w.identities.rows → IdentityEffect e w w' row'
  | renewed {row : ExternalIdentity} : row ∈ w.identities.rows → row'.id = row.id →
      row'.credentialVersion = row.credentialVersion + 1 → IdentityEffect e w w' row'
  | leased {row : ExternalIdentity} {l : Lease} {now : Time} : row ∈ w.identities.rows →
      e.claims = some (l, now) → row.leasable l.id l.version now = true →
      row' = row.leased l.claimTime → IdentityEffect e w w' row'
  | released {row : ExternalIdentity} {l : Lease} : row ∈ w.identities.rows →
      e.releases = some l → row.held l.id l.version l.claimTime = true → row' = row.released →
      IdentityEffect e w w' row'
  | linked : row'.id = w.drawn → w.drawn < w'.drawn → IdentityEffect e w w' row'

/-- The same row later on: its version moves with its tokens. -/
structure Advanced (row row' : ExternalIdentity) : Prop where
  id : row'.id = row.id
  version : row.credentialVersion ≤ row'.credentialVersion
  tokens : row'.credentialVersion = row.credentialVersion → row'.tokens = row.tokens

theorem Advanced.refl (row : ExternalIdentity) : Advanced row row := ⟨rfl, Nat.le_refl _, fun _ => rfl⟩

theorem Advanced.trans {row row' row'' : ExternalIdentity} (h : Advanced row row')
    (h' : Advanced row' row'') : Advanced row row'' := by
  refine ⟨h'.id.trans h.id, Nat.le_trans h.version h'.version, fun hsame => ?_⟩
  have hle := h.version
  have hle' := h'.version
  rw [h'.tokens (by omega), h.tokens (by omega)]

theorem IdentityEffect.advances {e : Stmt β} {w w' : World} {row' : ExternalIdentity}
    (h : IdentityEffect e w w' row') : (∃ row ∈ w.identities.rows, Advanced row row') ∨
      row'.id = w.drawn ∧ w.drawn < w'.drawn := by
  cases h with
  | kept hrow => exact .inl ⟨row', hrow, .refl row'⟩
  | @renewed row hrow hid hversion =>
    exact .inl ⟨row, hrow, hid, by omega, fun hsame => by omega⟩
  | @leased row l now hrow _ _ heq =>
    subst heq
    exact .inl ⟨row, hrow, rfl, Nat.le_refl _, fun _ => rfl⟩
  | @released row l hrow _ _ heq =>
    subst heq
    exact .inl ⟨row, hrow, rfl, Nat.le_refl _, fun _ => rfl⟩
  | linked hid hlt => exact .inr ⟨hid, hlt⟩

section

variable [Environment] {e : Stmt β} {i : GitHubInput} {w w' : World} {b : β}

theorem run_identities (h : e.run i w = .ok (b, w')) {row' : ExternalIdentity}
    (hrow' : row' ∈ w'.identities.rows) : IdentityEffect e w w' row' := by
  cases e with
  | recordDelivery deliveryId event receivedAt =>
    cases h
    unfold World.recordDelivery at hrow'
    split at hrow' <;> exact .kept hrow'
  | upsertInstallation installationId data =>
    cases h
    unfold World.upsertInstallation at hrow'
    split at hrow' <;> exact .kept hrow'
  | bindInstallation setupId now verified userId workspaceId =>
    rcases bindInstallation_ok h with rfl | ⟨-, hbind⟩
    · exact .kept hrow'
    obtain ⟨installation, -, rfl⟩ := bindVerifiedInstallation_ok hbind
    rw [upsertAccess_identities, upsertInstallation_identities] at hrow'
    exact .kept hrow'
  | storeExchange | revokeTokens | storeRefreshed | clearVersion =>
    cases h
    obtain ⟨row, hrow, rfl⟩ := Table.mem_updateMany.mp hrow'
    split
    · exact .renewed hrow rfl rfl
    · exact .kept hrow
  | claimRefresh id version claimTime now =>
    cases h
    obtain ⟨row, hrow, rfl⟩ := Table.mem_updateMany.mp hrow'
    split
    · rename_i hleasable
      exact .leased hrow rfl hleasable rfl
    · exact .kept hrow
  | releaseLease id version claimTime =>
    cases h
    obtain ⟨row, hrow, rfl⟩ := Table.mem_updateMany.mp hrow'
    split
    · rename_i hheld
      exact .released hrow rfl hheld rfl
    · exact .kept hrow
  | setRole workspaceId userId role =>
    cases h
    cases role with
    | none => exact .kept hrow'
    | some role => exact .kept hrow'
  | link userId providerUserId =>
    cases h
    unfold World.link at hrow'
    split at hrow'
    · exact .kept hrow'
    · rename_i hnone
      rcases Table.mem_insert.mp hrow' with hold | rfl
      · exact .kept hold
      · refine .linked rfl ?_
        have hdrawn : (w.link userId providerUserId).drawn = w.drawn + 1 := by
          rw [World.link, if_neg hnone]
          rfl
        rw [hdrawn]
        exact Nat.lt_succ_self _
  | unlink userId =>
    cases h
    exact .kept (Table.mem_deleteMany.mp hrow').1
  | _ =>
    cases h
    exact .kept hrow'

theorem run_now (h : e.run i w = .ok (b, w')) : w'.now = w.now := by
  cases e with
  | recordDelivery deliveryId event receivedAt =>
    cases h
    unfold World.recordDelivery
    split <;> rfl
  | upsertInstallation installationId data =>
    cases h
    exact upsertInstallation_now _ _
  | bindInstallation setupId now verified userId workspaceId =>
    rcases bindInstallation_ok h with rfl | ⟨-, hbind⟩
    · rfl
    obtain ⟨installation, -, rfl⟩ := bindVerifiedInstallation_ok hbind
    rw [upsertAccess_now, upsertInstallation_now]
    rfl
  | setRole workspaceId userId role =>
    cases h
    cases role with
    | none => rfl
    | some role => rfl
  | link userId providerUserId =>
    cases h
    unfold World.link
    split <;> rfl
  | _ =>
    cases h
    rfl

theorem run_identitiesStored (h : e.run i w = .ok (b, w')) (hw : IdentitiesStored w) :
    IdentitiesStored w' := by
  constructor
  case ids =>
    intro row' hrow'
    have hdrawn : w.drawn ≤ w'.drawn := (run_setups h).2
    rcases (run_identities h hrow').advances with ⟨row, hrow, hadvanced⟩ | ⟨hid, hlt⟩
    · rw [hadvanced.id]
      exact Nat.lt_of_lt_of_le (hw.ids row hrow) hdrawn
    · rw [hid]
      exact hlt
  case unique =>
    cases e with
    | recordDelivery deliveryId event receivedAt =>
      cases h
      unfold World.recordDelivery
      split <;> exact hw.unique
    | upsertInstallation installationId data =>
      cases h
      rw [upsertInstallation_identities]
      exact hw.unique
    | bindInstallation setupId now verified userId workspaceId =>
      rcases bindInstallation_ok h with rfl | ⟨-, hbind⟩
      · exact hw.unique
      obtain ⟨installation, -, rfl⟩ := bindVerifiedInstallation_ok hbind
      rw [upsertAccess_identities, upsertInstallation_identities]
      exact hw.unique
    | storeExchange | claimRefresh | storeRefreshed | releaseLease | clearVersion | revokeTokens =>
      cases h
      exact hw.unique.updateMany _ fun _ => rfl
    | setRole workspaceId userId role =>
      cases h
      cases role with
      | none => exact hw.unique
      | some role => exact hw.unique
    | link userId providerUserId =>
      cases h
      unfold World.link
      split
      · exact hw.unique
      · refine hw.unique.insert fun hmem => ?_
        obtain ⟨row, hrow, hid⟩ := List.mem_map.mp hmem
        exact absurd hid (Nat.ne_of_lt (hw.ids row hrow))
    | unlink userId =>
      cases h
      exact hw.unique.deleteMany _
    | _ =>
      cases h
      exact hw.unique

/-! ## Steps -/

theorem identities_post (x : GitHubStep) {row' : ExternalIdentity}
    (hrow' : row' ∈ x.post.state.identities.rows) :
    IdentityEffect x.stmt x.pre.state x.post.state row' := by
  rcases post_run x with hsame | ⟨b, hrun⟩
  · rw [hsame] at hrow'
    exact .kept hrow'
  · cases run_identities hrun hrow' with
    | kept hrow => exact .kept hrow
    | renewed hrow hid hversion => exact .renewed hrow hid hversion
    | leased hrow hclaims hleasable heq => exact .leased hrow hclaims hleasable heq
    | released hrow hreleases hheld heq => exact .released hrow hreleases hheld heq
    | linked hid hlt => exact .linked hid hlt

theorem drawn_post (x : GitHubStep) : x.pre.state.drawn ≤ x.post.state.drawn := by
  rcases post_run x with hsame | ⟨b, hrun⟩
  · rw [hsame]
    exact Nat.le_refl _
  · exact (run_setups hrun).2

theorem now_post (x : GitHubStep) : x.pre.state.now ≤ x.post.state.now := by
  rcases post_run x with hsame | ⟨b, hrun⟩
  · rw [hsame]
    exact Nat.le_add_right _ _
  · rw [run_now hrun]
    exact Nat.le_add_right _ _

theorem stored_post (x : GitHubStep) (h : IdentitiesStored x.pre.state) :
    IdentitiesStored x.post.state := by
  rcases post_run x with hsame | ⟨b, hrun⟩
  · rw [hsame]
    exact ⟨h.unique, h.ids⟩
  · exact run_identitiesStored hrun ⟨h.unique, h.ids⟩

theorem claimed_post {x : GitHubStep} {l : Lease} {now : Time}
    (h : x.stmt.claimed x.result = some (l, now)) :
    (∃ row ∈ x.pre.state.identities.rows, row.leasable l.id l.version now = true) ∧
      x.post.state.identities = x.pre.state.identities.updateMany
        (ExternalIdentity.leasable l.id l.version now) (.leased l.claimTime) := by
  have hok : ∀ {n}, x.result = .ok n → x.stmt.run x.input (x.pre.state.tick x.input.elapsed) =
    .ok (n, x.post.state) := run_of_ok
  generalize x.post.state = w' at hok ⊢
  generalize x.result = r at h hok
  obtain ⟨m, t, e, i⟩ := x
  cases e with
  | claimRefresh id version claimTime now' =>
    cases r with
    | error failure => cases h
    | ok count =>
      simp only [Stmt.claimed, Except.toOption, Option.some.injEq] at h
      split at h
      · rename_i hone
        cases h
        have hrun := hok rfl
        cases hrun
        refine ⟨?_, rfl⟩
        have hpos : 0 < m.state.identities.count
            (ExternalIdentity.leasable id version now) := by
          have hcount : m.state.identities.count
            (ExternalIdentity.leasable id version now) = 1 := hone
          omega
        exact (Table.count_pos_iff _ _).mp hpos
      · cases h
  | _ => cases h

theorem clock_post {x : GitHubStep} {now : Time} (h : x.stmt.clockRead x.result = some now) :
    now = x.post.state.now := by
  have hok : ∀ {n}, x.result = .ok n → x.stmt.run x.input (x.pre.state.tick x.input.elapsed) =
    .ok (n, x.post.state) := run_of_ok
  generalize x.post.state = w' at hok ⊢
  generalize x.result = r at h hok
  obtain ⟨m, t, e, i⟩ := x
  cases e with
  | clock =>
    cases r with
    | error failure => cases h
    | ok n =>
      cases h
      have hrun := hok rfl
      cases hrun
      rfl
  | _ => cases h

/-! ## Leases -/

def holder (t : Nat) (m : GitHubMoment) : Option Lease := lease (own t m.history)

/-- The lease has not expired. -/
def Active (l : Lease) (m : GitHubMoment) : Prop := m.state.now ≤ l.claimTime + REFRESH_LEASE_MS

/-- What the rows say about a lease that is held. -/
structure HeldAt (l : Lease) (m : GitHubMoment) : Prop where
  drawn : l.id < m.state.drawn
  version : ∀ row ∈ m.state.identities.rows, row.id = l.id → l.version ≤ row.credentialVersion
  marked : Active l m → ∀ row ∈ m.state.identities.rows, row.id = l.id →
    row.credentialVersion = l.version → row.credentialRefreshingAt = some l.claimTime

/-- At most one unexpired lease for each version of each account. -/
structure LeasesKept (m : GitHubMoment) : Prop where
  stored : IdentitiesStored m.state
  clocks : ∀ ev ∈ m.history, ∀ now, ev.stmt.clockRead ev.result = some now → now ≤ m.state.now
  held : ∀ t l, holder t m = some l → HeldAt l m
  alone : ∀ t t' l l', holder t m = some l → holder t' m = some l' → t ≠ t' → l.id = l'.id →
    l.version = l'.version → Active l m → ¬ Active l' m

theorem Active.earlier {x : GitHubStep} {l : Lease} (h : Active l x.post) : Active l x.pre :=
  Nat.le_trans (now_post x) h

theorem HeldAt.post {x : GitHubStep} {l : Lease} (h : HeldAt l x.pre)
    (hclaims : ∀ l' now, x.stmt.claims = some (l', now) → now ≤ x.pre.state.now)
    (hreleases : Active l x.pre → x.stmt.releases ≠ some l) : HeldAt l x.post := by
  constructor
  case drawn => exact Nat.lt_of_lt_of_le h.drawn (drawn_post x)
  case version =>
    intro row' hrow' hid
    rcases (identities_post x hrow').advances with ⟨row, hrow, hadvanced⟩ | ⟨hnew, -⟩
    · have hversion := h.version row hrow (hadvanced.id.symm.trans hid)
      exact Nat.le_trans hversion hadvanced.version
    · exact absurd (hnew.symm.trans hid) (Nat.ne_of_gt h.drawn)
  case marked =>
    intro hactive row' hrow' hid hversion
    have hmarked := h.marked hactive.earlier
    cases identities_post x hrow' with
    | kept hrow => exact hmarked row' hrow hid hversion
    | @renewed row hrow hsame hnext =>
      have hle := h.version row hrow (hsame.symm.trans hid)
      omega
    | @leased row l' now hrow hclaim hleasable heq =>
      -- The row is still marked, so the new claim comes behind the end of the lease.
      subst heq
      have hmark := hmarked row hrow hid hversion
      simp only [ExternalIdentity.leasable, hmark, Option.all_some, Bool.and_eq_true,
        decide_eq_true_eq] at hleasable
      have hend : x.post.state.now < now := Nat.lt_of_le_of_lt hactive hleasable.2
      have hstart := Nat.le_trans (hclaims l' now hclaim) (now_post x)
      exact absurd hend (Nat.not_lt.mpr hstart)
    | @released row l' hrow hrelease hheld heq =>
      subst heq
      have hmark := hmarked row hrow hid hversion
      simp only [ExternalIdentity.held, hmark, Bool.and_eq_true, decide_eq_true_eq,
        Option.some.injEq] at hheld
      have hsame : l' = l := by
        obtain ⟨id, version, claimTime⟩ := l
        obtain ⟨id', version', claimTime'⟩ := l'
        simp only [Lease.mk.injEq]
        exact ⟨hheld.1.1.symm.trans hid, hheld.1.2.symm.trans hversion, hheld.2.symm⟩
      exact absurd (hsame ▸ hrelease) (hreleases hactive.earlier)
    | linked hnew _ => exact absurd (hnew.symm.trans hid) (Nat.ne_of_gt h.drawn)

theorem HeldAt.claimed {x : GitHubStep} {l : Lease} {now : Time}
    (hw : IdentitiesStored x.pre.state) (h : x.stmt.claimed x.result = some (l, now)) :
    HeldAt l x.post := by
  obtain ⟨⟨row, hrow, hleasable⟩, hrows⟩ := claimed_post h
  have hid : row.id = l.id ∧ row.credentialVersion = l.version := by
    simp only [ExternalIdentity.leasable, Bool.and_eq_true, decide_eq_true_eq] at hleasable
    exact hleasable.1
  have hlast : ∀ row' ∈ x.post.state.identities.rows, row'.id = l.id →
      row' = row.leased l.claimTime := by
    intro row' hrow' hid'
    rw [hrows] at hrow'
    exact hw.unique.eq_of_updateMany hrow' (fun _ => rfl) hrow hleasable (hid'.trans hid.1.symm)
  constructor
  case drawn =>
    rw [← hid.1]
    exact Nat.lt_of_lt_of_le (hw.ids row hrow) (drawn_post x)
  case version =>
    intro row' hrow' hid'
    rw [hlast row' hrow' hid']
    exact Nat.le_of_eq hid.2.symm
  case marked =>
    intro _ row' hrow' hid' _
    rw [hlast row' hrow' hid']
    rfl

theorem holder_post {x : GitHubStep} {t : Nat} {l : Lease} (h : holder t x.post = some l) :
    holder t x.pre = some l ∧ (t = x.thread → x.stmt.releases = none) ∨
      t = x.thread ∧ ∃ now, x.stmt.claimed x.result = some (l, now) := by
  unfold holder at h ⊢
  rw [x.post_history, own_append] at h
  by_cases ht : x.thread = t
  · subst ht
    rw [Transition.event, own_self, lease_append] at h
    rcases leaseAfter_some h with ⟨hheld, hnone⟩ | hclaimed
    · exact .inl ⟨hheld, fun _ => hnone⟩
    · exact .inr ⟨rfl, hclaimed⟩
  · rw [Transition.event, own_of_ne ht, List.append_nil] at h
    exact .inl ⟨h, fun hsame => absurd hsame.symm ht⟩

theorem leases_post {x : GitHubStep} (hrule : LeaseRule x.stmt (own x.thread x.pre.history))
    (h : LeasesKept x.pre) : LeasesKept x.post := by
  have hclaims : ∀ l now, x.stmt.claims = some (l, now) → now ≤ x.pre.state.now := by
    intro l now hclaims
    obtain ⟨ev, hev, hread⟩ := (hrule.claims l now hclaims).2
    exact h.clocks ev (List.mem_filter.mp hev).1 now hread
  constructor
  case stored => exact stored_post x h.stored
  case clocks =>
    intro ev hev now hread
    rw [x.post_history] at hev
    rcases List.mem_append.mp hev with hev | hev
    · exact Nat.le_trans (h.clocks ev hev now hread) (now_post x)
    · obtain rfl := List.mem_singleton.mp hev
      exact Nat.le_of_eq (clock_post hread)
  case held =>
    intro t l hholder
    rcases holder_post hholder with ⟨hheld, hreleases⟩ | ⟨-, now, hclaimed⟩
    · refine (h.held t l hheld).post hclaims fun hactive hrelease => ?_
      by_cases ht : t = x.thread
      · rw [hreleases ht] at hrelease
        cases hrelease
      · have hother : holder x.thread x.pre = some l := hrule.releases l hrelease
        exact h.alone t x.thread l l hheld hother ht rfl rfl hactive hactive
    · exact .claimed h.stored hclaimed
  case alone =>
    -- A claim is won over a row without an unexpired lease.
    have hwon : ∀ t l l' now, holder t x.pre = some l → x.stmt.claimed x.result = some (l', now) →
        l.id = l'.id → l.version = l'.version → ¬ Active l x.pre := by
      intro t l l' now hheld hclaimed hid hversion hactive
      obtain ⟨⟨row, hrow, hleasable⟩, -⟩ := claimed_post hclaimed
      simp only [ExternalIdentity.leasable, Bool.and_eq_true, decide_eq_true_eq] at hleasable
      have hmark := (h.held t l hheld).marked hactive row hrow
        (hleasable.1.1.trans hid.symm) (hleasable.1.2.trans hversion.symm)
      rw [hmark, Option.all_some, decide_eq_true_eq] at hleasable
      have hnow := hclaims l' now (claims_of_claimed hclaimed)
      exact absurd (Nat.lt_of_le_of_lt hactive hleasable.2) (Nat.not_lt.mpr hnow)
    intro t t' l l' hl hl' hne hid hversion hactive hactive'
    rcases holder_post hl with ⟨hheld, -⟩ | ⟨rfl, now, hclaimed⟩
    · rcases holder_post hl' with ⟨hheld', -⟩ | ⟨rfl, now, hclaimed⟩
      · exact h.alone t t' l l' hheld hheld' hne hid hversion hactive.earlier hactive'.earlier
      · exact hwon t l l' now hheld hclaimed hid hversion hactive.earlier
    · rcases holder_post hl' with ⟨hheld', -⟩ | ⟨rfl, -⟩
      · exact hwon t' l' l now hheld' hclaimed hid.symm hversion.symm hactive'.earlier
      · exact hne rfl

/-! ## Runs -/

/-- The request with the refresh token, under a lease. -/
structure Presents (x : GitHubStep) (l : Lease) : Prop where
  sends : x.stmt.sends = true
  lease : holder x.thread x.pre = some l

/-- The user revokes the tokens of the row, connects again, or has them cleared. -/
structure Resets (x : GitHubStep) (id : Id) : Prop where
  commits : Commits x
  row : ∃ row ∈ x.pre.state.identities.rows, row.id = id ∧ x.stmt.resets row = true

structure VaultSafe (tr : List GitHubStep) (c : GitHubSystem) : Prop where
  versions : ∀ x ∈ tr, ∀ row ∈ x.pre.state.identities.rows,
    ∀ row' ∈ c.moment.state.identities.rows, row'.id = row.id → Advanced row row'
  outstanding : tr.Pairwise fun x y => ∀ l l', Presents x l → Presents y l' →
    x.thread ≠ y.thread → l.id = l'.id → l.version = l'.version →
      holder x.thread y.pre = some l → x.post.state.now + DEFAULT_TIMEOUT_MS < y.post.state.now
  /-- No other call sends one between a claim and its update. -/
  exclusive : tr.Pairwise fun y z => ∀ l l', Presents y l' → z.stmt.stores = some l →
    y.thread ≠ z.thread → l.id = l'.id → l.version = l'.version → holder z.thread y.pre ≠ some l
  fenced : tr.Pairwise fun x z => ∀ l, Resets x l.id → holder z.thread x.pre = some l →
    z.stmt.stores = some l → z.post.state.identities = z.pre.state.identities

/-- The holder of a lease uses it before it can expire. -/
structure Prompt (tr : List GitHubStep) : Prop where
  sends : ∀ x ∈ tr, ∀ l, Presents x l →
    x.post.state.now ≤ l.claimTime + (REFRESH_LEASE_MS - DEFAULT_TIMEOUT_MS)
  stores : ∀ x ∈ tr, ∀ l, x.stmt.stores = some l →
    x.post.state.now ≤ l.claimTime + REFRESH_LEASE_MS

variable {tr : List GitHubStep} {c : GitHubSystem}

theorem leaseRule_run (hrun : Run GitHubCalls (Config.start w) tr c) :
    ∀ x ∈ tr, LeaseRule x.stmt (own x.thread x.pre.history) :=
  (Run.meets (fun _ _ _ hp => gitHubCall_leaseKept hp [] rfl) hrun fun _ _ => trivial).2

theorem leasesKept_run (hw : IdentitiesStored w) (hrun : Run GitHubCalls (Config.start w) tr c) :
    ∀ x ∈ tr, LeasesKept x.pre := by
  refine hrun.preserves_pre LeasesKept
    (fun x => LeaseRule x.stmt (own x.thread x.pre.history)) (fun _ => leases_post)
    (leaseRule_run hrun) ⟨hw, ?_, ?_, ?_⟩
  · exact fun ev hev => absurd hev List.not_mem_nil
  · exact fun t l hheld => by cases hheld
  · exact fun t t' l l' hheld => by cases hheld

theorem now_run (hrun : Run GitHubCalls (Config.start w) tr c) :
    tr.Pairwise fun x y => x.post.state.now ≤ y.pre.state.now :=
  (hrun.pairwise (fun x m => x.post.state.now ≤ m.state.now) (fun _ => True)
    (fun _ _ => Nat.le_refl _) (fun _ y _ h => Nat.le_trans h (now_post y)) fun _ _ => trivial).1

theorem versions_run (hw : IdentitiesStored w) (hrun : Run GitHubCalls (Config.start w) tr c) :
    ∀ x ∈ tr, ∀ row ∈ x.pre.state.identities.rows, ∀ row' ∈ c.moment.state.identities.rows,
      row'.id = row.id → Advanced row row' := by
  have hkept := leasesKept_run hw hrun
  have hend := (hrun.pairwise (fun x m => x.pre.state.drawn ≤ m.state.drawn ∧
      ∀ row ∈ x.pre.state.identities.rows, row.id < x.pre.state.drawn ∧
        ∀ row' ∈ m.state.identities.rows, row'.id = row.id → Advanced row row')
    (fun x => IdentitiesStored x.pre.state) ?_ ?_ fun x hx => (hkept x hx).stored).2
  · exact fun x hx row hrow => ((hend x hx).2 row hrow).2
  · refine fun x hstored => ⟨drawn_post x, fun row hrow => ⟨hstored.ids row hrow, ?_⟩⟩
    intro row' hrow' hid
    rcases (identities_post x hrow').advances with ⟨row₀, hrow₀, hadvanced⟩ | ⟨hnew, -⟩
    · obtain rfl := hstored.unique.eq_of_key hrow₀ hrow (hadvanced.id.symm.trans hid)
      exact hadvanced
    · exact absurd (hid.symm.trans hnew) (Nat.ne_of_lt (hstored.ids row hrow))
  · rintro x y - ⟨hdrawn, hrows⟩
    refine ⟨Nat.le_trans hdrawn (drawn_post y), fun row hrow => ⟨(hrows row hrow).1, ?_⟩⟩
    intro row' hrow' hid
    rcases (identities_post y hrow').advances with ⟨row₀, hrow₀, hadvanced⟩ | ⟨hnew, -⟩
    · exact ((hrows row hrow).2 row₀ hrow₀ (hadvanced.id.symm.trans hid)).trans hadvanced
    · have hlt := Nat.lt_of_lt_of_le (hrows row hrow).1 hdrawn
      exact absurd (hid.symm.trans hnew) (Nat.ne_of_lt hlt)

theorem resets_post {x : GitHubStep} {id : Id} (hw : IdentitiesStored x.pre.state)
    (h : Resets x id) : ∀ row' ∈ x.post.state.identities.rows, row'.id = id →
      ∃ row ∈ x.pre.state.identities.rows, row.id = id ∧
        row.credentialVersion < row'.credentialVersion := by
  obtain ⟨⟨b, hrun⟩, row, hrow, rfl, hresets⟩ := h
  intro row' hrow' hid
  refine ⟨row, hrow, rfl, ?_⟩
  generalize x.post.state = w' at hrun hrow'
  obtain ⟨m, t, e, i⟩ := x
  cases e with
  | revokeTokens | storeExchange | clearVersion =>
    cases hrun
    rw [hw.unique.eq_of_updateMany hrow' (fun _ => rfl) hrow hresets hid]
    exact Nat.lt_succ_self _
  | unlink userId =>
    cases hrun
    obtain ⟨hold, hother⟩ := Table.mem_deleteMany.mp hrow'
    obtain rfl := hw.unique.eq_of_key hold hrow hid
    exact absurd (hother.symm.trans hresets) Bool.false_ne_true
  | _ => cases hresets

theorem stores_stale {x : GitHubStep} {l : Lease} (hstores : x.stmt.stores = some l)
    (hnone : ∀ row ∈ x.pre.state.identities.rows,
      row.held l.id l.version l.claimTime = false) :
    x.post.state.identities = x.pre.state.identities := by
  rcases post_run x with hsame | ⟨b, hrun⟩
  · rw [hsame]
    rfl
  generalize x.post.state = w' at hrun ⊢
  obtain ⟨m, t, e, i⟩ := x
  cases e with
  | storeRefreshed id version claimTime token =>
    cases hstores
    cases hrun
    exact Table.updateMany_of_none hnone
  | _ => cases hstores

theorem fenced_run (hw : IdentitiesStored w) (hrun : Run GitHubCalls (Config.start w) tr c) :
    tr.Pairwise fun x z => ∀ l, Resets x l.id → holder z.thread x.pre = some l →
      z.stmt.stores = some l → z.post.state.identities = z.pre.state.identities := by
  have hkept := leasesKept_run hw hrun
  have hpairs := (hrun.pairwise (fun x m => x.pre.state.drawn ≤ m.state.drawn ∧
      ∀ t l, holder t x.pre = some l → Resets x l.id → l.id < x.pre.state.drawn ∧
        ∀ row ∈ m.state.identities.rows, row.id = l.id → l.version < row.credentialVersion)
    (fun x => LeasesKept x.pre) ?_ ?_ hkept).1
  · refine hpairs.imp fun {x z} hpair l hresets hheld hstores => ?_
    have hnone : ∀ row ∈ z.pre.state.identities.rows,
        row.held l.id l.version l.claimTime = false := by
      intro row hrow
      by_cases hid : row.id = l.id
      · have hlt := (hpair.2 z.thread l hheld hresets).2 row hrow hid
        simp [ExternalIdentity.held, Nat.ne_of_gt hlt]
      · simp [ExternalIdentity.held, hid]
    exact stores_stale hstores hnone
  · refine fun x hleases => ⟨drawn_post x, fun t l hheld hresets => ?_⟩
    have hrows := hleases.held t l hheld
    refine ⟨hrows.drawn, fun row' hrow' hid => ?_⟩
    obtain ⟨row, hrow, hsame, hlt⟩ := resets_post hleases.stored hresets row' hrow' hid
    exact Nat.lt_of_le_of_lt (hrows.version row hrow hsame) hlt
  · rintro x y - ⟨hdrawn, hrows⟩
    refine ⟨Nat.le_trans hdrawn (drawn_post y), fun t l hheld hresets => ?_⟩
    obtain ⟨hid, hversion⟩ := hrows t l hheld hresets
    refine ⟨hid, fun row' hrow' hsame => ?_⟩
    rcases (identities_post y hrow').advances with ⟨row, hrow, hadvanced⟩ | ⟨hnew, -⟩
    · have hlt := hversion row hrow (hadvanced.id.symm.trans hsame)
      exact Nat.lt_of_lt_of_le hlt hadvanced.version
    · exact absurd (hsame.symm.trans hnew) (Nat.ne_of_lt (Nat.lt_of_lt_of_le hid hdrawn))

/-- In every run in which calls use a lease before it can expire, the vault is safe. -/
theorem vault_safe (hw : IdentitiesStored w) (hrun : Run GitHubCalls (Config.start w) tr c)
    (hprompt : Prompt tr) : VaultSafe tr c := by
  have hkept := leasesKept_run hw hrun
  have hactive : ∀ x ∈ tr, ∀ l, Presents x l → Active l x.pre := by
    intro x hx l hpresents
    refine Nat.le_trans (Nat.le_trans (now_post x) (hprompt.sends x hx l hpresents)) ?_
    exact Nat.add_le_add_left (Nat.sub_le _ _) _
  constructor
  case versions => exact versions_run hw hrun
  case outstanding =>
    refine List.pairwise_of_forall_mem_list fun x hx y hy l l' hfirst hsecond hne hid hversion hheld => ?_
    by_contra hearly
    have hend : y.post.state.now ≤ l.claimTime + REFRESH_LEASE_MS := by
      have hsends := hprompt.sends x hx l hfirst
      have hearly := Nat.not_lt.mp hearly
      refine Nat.le_trans hearly (Nat.le_trans (Nat.add_le_add_right hsends _) ?_)
      exact Nat.le_of_eq (Nat.add_assoc _ _ _)
    exact (hkept y hy).alone x.thread y.thread l l' hheld hsecond.lease hne hid hversion
      (Nat.le_trans (now_post y) hend) (hactive y hy l' hsecond)
  case exclusive =>
    refine (now_run hrun).imp_of_mem fun {y z} hy hz hnow => ?_
    intro l l' hpresents hstores hne hid hversion hheld
    have hend := hprompt.stores z hz l hstores
    have hstart : y.pre.state.now ≤ z.post.state.now :=
      Nat.le_trans (now_post y) (Nat.le_trans hnow (now_post z))
    exact (hkept y hy).alone z.thread y.thread l l' hheld hpresents.lease hne.symm hid hversion
      (Nat.le_trans hstart hend) (hactive y hy l' hpresents)
  case fenced => exact fenced_run hw hrun

end

/-! ## A claim over an expired lease -/

def expiredAccount : World where
  identities := ⟨[⟨0, 0, "7", some (.legacy "access"), some 0, some (.legacy "refresh"),
    some 3600000, 4, none⟩]⟩
  drawn := 1

theorem expiredAccount_stored : IdentitiesStored expiredAccount := by
  refine ⟨by decide, fun row hrow => ?_⟩
  obtain rfl := List.mem_singleton.mp hrow
  exact Nat.zero_lt_one

section

abbrev oneKey : Environment where
  keyring := ⟨⟨"current"⟩, []⟩
  emitted _ := ⟨none, none, none⟩

attribute [local instance] oneKey

def access : Call Unit := (accessTokenForUser 0).ignoreError

theorem access_calls {m : GitHubMoment} (n : Nat) :
    ∀ p ∈ List.replicate n access, GitHubCalls m p := by
  intro p hp
  rw [List.eq_of_mem_replicate hp]
  exact .accessTokenForUser 0

/-- The statements of a thread, each behind a pause. -/
def paused (t : Nat) (pauses : List Nat) : List (Nat × GitHubInput) :=
  pauses.map fun elapsed => (t, { elapsed, token := ⟨"next", none, none, none⟩ })

/-- The conditions on a step, as the scheduler can check them. -/
def promptStep (x : GitHubStep) : Bool :=
  (!x.stmt.sends || (holder x.thread x.pre).all fun l =>
    x.post.state.now ≤ l.claimTime + (REFRESH_LEASE_MS - DEFAULT_TIMEOUT_MS)) &&
  x.stmt.stores.all fun l => x.post.state.now ≤ l.claimTime + REFRESH_LEASE_MS

theorem prompt_of_bool {tr : List GitHubStep} (h : ∀ x ∈ tr, promptStep x = true) : Prompt tr := by
  constructor
  case sends =>
    intro x hx l hpresents
    have hstep := (Bool.and_eq_true _ _ ▸ h x hx).1
    rw [hpresents.sends, hpresents.lease] at hstep
    exact of_decide_eq_true hstep
  case stores =>
    intro x hx l hstores
    have hstep := (Bool.and_eq_true _ _ ▸ h x hx).2
    rw [hstores] at hstep
    exact of_decide_eq_true hstep

/-- A refresh whose request is sent at once. -/
theorem refreshed_once : ∃ (tr : List GitHubStep) (c : GitHubSystem),
    Run GitHubCalls (Config.start expiredAccount) tr c ∧ VaultSafe tr c ∧
      c.moment.state.identities.rows.map (·.credentialVersion) = [5] := by
  obtain ⟨tr, c, hrun, hcheck⟩ := run_of_plays (Config.start expiredAccount)
    (List.replicate 1 access) (paused 0 [0, 0, 0, 0, 0, 0, 5, 9000, 5])
    (fun tr c => tr.all promptStep &&
      c.moment.state.identities.rows.map (·.credentialVersion) = [5])
    (access_calls 1) (by decide)
  simp only [Bool.and_eq_true, List.all_eq_true, decide_eq_true_eq] at hcheck
  exact ⟨tr, c, hrun, vault_safe expiredAccount_stored hrun (prompt_of_bool hcheck.1), hcheck.2⟩

def presents (claimTime : Time) (x : GitHubStep) : Bool :=
  x.stmt.sends && holder x.thread x.pre = some ⟨0, 4, claimTime⟩

/-- A call pauses for twenty seconds between its claim and its request; ten seconds later another
one claims the version again, and both requests are outstanding. -/
theorem presented_twice : ¬ ∀ (w : World) (tr : List GitHubStep) (c : GitHubSystem),
    IdentitiesStored w → Run GitHubCalls (Config.start w) tr c → VaultSafe tr c := by
  intro h
  obtain ⟨tr, c, hrun, hcheck⟩ := run_of_plays (Config.start expiredAccount)
    (List.replicate 2 access)
    (paused 0 [0, 0, 0, 0, 0, 0, 20000] ++ paused 1 [10001, 0, 0, 0, 0, 0, 0])
    (fun tr _ => (tr[6]?).any fun x => (tr[13]?).any fun y =>
      presents 0 x && presents 30001 y && x.thread ≠ y.thread &&
        holder x.thread y.pre = some ⟨0, 4, 0⟩ &&
          y.post.state.now ≤ x.post.state.now + DEFAULT_TIMEOUT_MS)
    (access_calls 2) (by decide)
  obtain ⟨x, hx, hcheck⟩ := (Option.any_eq_true _ _).mp hcheck
  obtain ⟨y, hy, hcheck⟩ := (Option.any_eq_true _ _).mp hcheck
  simp only [presents, Bool.and_eq_true, decide_eq_true_eq] at hcheck
  obtain ⟨⟨⟨⟨hfirst, hsecond⟩, hne⟩, hheld⟩, hearly⟩ := hcheck
  have hlate := pairwise_getElem? (h _ tr c expiredAccount_stored hrun).outstanding (by decide)
    hx hy _ _ ⟨hfirst.1, hfirst.2⟩ ⟨hsecond.1, hsecond.2⟩ hne rfl rfl hheld
  exact absurd hlate (Nat.not_lt.mpr hearly)

end

end InitPad.GitHub
