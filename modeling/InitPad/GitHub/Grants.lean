import InitPad.GitHub.Calls

/-!
# InitPad.GitHub.Grants

Access rows over whole runs. A call reads the role and the linked account of its user, and the time,
before it waits for GitHub; its transaction checks the setup state again and nothing else. So an
access row is proven when none of the three changes in between.
-/

namespace InitPad.GitHub

open Interleave Store
open Prog (await)

variable {β : Type}

/-! ## Setup states -/

/-- The setup state is stored with a used row, or not at all. -/
def Spent (id : Id) (w : World) : Prop :=
  id < w.drawn ∧ ∀ row ∈ w.setups.rows, row.id = id → row.usedAt.isSome

theorem claim_rows {w : World} (hw : SetupsStored w) {id : Id} {now : Time}
    (hone : w.setups.count (GitHubInstallationSetup.claimable id now) = 1) :
    ∃ row ∈ w.setups.rows, row.id = id ∧ row.usedAt = none ∧ now < row.expiresAt ∧
      row.used now ∈ (w.claim id now).setups.rows ∧
      ∀ row' ∈ (w.claim id now).setups.rows, row'.id = id → row'.usedAt.isSome := by
  have hpos : 0 < w.setups.count (GitHubInstallationSetup.claimable id now) := by
    rw [hone]
    exact Nat.one_pos
  obtain ⟨row, hrow, hclaimable⟩ := (Table.count_pos_iff _ _).mp hpos
  have hmatch := hclaimable
  simp only [GitHubInstallationSetup.claimable, Bool.and_eq_true, decide_eq_true_eq,
    Option.isNone_iff_eq_none] at hmatch
  obtain ⟨⟨hid, hunused⟩, hlive⟩ := hmatch
  have hmem := Table.mem_of_updateMany (p := GitHubInstallationSetup.claimable id now)
    (d := GitHubInstallationSetup.used now) hrow
  rw [if_pos hclaimable] at hmem
  refine ⟨row, hrow, hid, hunused, hlive, hmem, fun row' hrow' hid' => ?_⟩
  obtain ⟨old, hold, rfl⟩ := Table.mem_updateMany.mp hrow'
  have holdid : old.id = row.id := by
    by_cases hp : GitHubInstallationSetup.claimable id now old = true
    · rw [if_pos hp] at hid'
      exact Eq.trans hid' hid.symm
    · rw [if_neg hp] at hid'
      exact Eq.trans hid' hid.symm
  rw [hw.unique.eq_of_key hold hrow holdid, if_pos hclaimable]
  rfl

section

variable [Environment]

theorem found_mem {e : Stmt β} {i : GitHubInput} {w w' : World} {b : β}
    {setup : GitHubInstallationSetup} (hrun : e.run i w = .ok (b, w'))
    (h : e.foundSetup (.ok b) = some setup) : setup ∈ w.setups.rows := by
  cases e with
  | findSetup hash =>
    cases hrun
    have hfind : w.setups.findFirst? (·.tokenHash = hash) = some setup := h
    exact List.mem_of_find?_eq_some hfind
  | findOpenSetup userId workspaceId direct now =>
    cases hrun
    have hfind : w.setups.rows.reverse.find?
      (GitHubInstallationSetup.isOpen userId workspaceId direct now) = some setup := h
    exact List.mem_reverse.mp (List.mem_of_find?_eq_some hfind)
  | _ => cases h

omit [Environment] in
theorem foundSetup_error (e : Stmt β) (x : Failure) : e.foundSetup (.error x) = none := by
  cases e <;> rfl

theorem keyed_run {e : Stmt β} {i : GitHubInput} {w w' : World} {b : β}
    (hrun : e.run i w = .ok (b, w')) : e.keyed (.ok b) := by
  cases e with
  | findOpenSetup userId workspaceId direct now =>
    cases hrun
    intro setup hsetup
    have hfind := Except.ok.inj hsetup
    have hopen := List.find?_some hfind
    simp only [GitHubInstallationSetup.isOpen, Bool.and_eq_true, decide_eq_true_eq] at hopen
    exact ⟨hopen.1.1.1.1, hopen.1.1.1.2⟩
  | _ => trivial

omit [Environment] in
theorem keyed_error (e : Stmt β) (x : Failure) : e.keyed (.error x) := by
  cases e with
  | findOpenSetup => exact fun _ h => by cases h
  | _ => trivial

structure SetupInvariant (m : GitHubMoment) : Prop where
  stored : SetupsStored m.state
  found : ∀ setup, SetupFound setup m.history → setup.id < m.state.drawn ∧
    ∀ row ∈ m.state.setups.rows, row.id = setup.id →
      row.userId = setup.userId ∧ row.workspaceId = setup.workspaceId

omit [Environment] in
theorem SetupsStored.tick {w : World} (hw : SetupsStored w) (n : Nat) : SetupsStored (w.tick n) :=
  ⟨hw.unique, hw.ids⟩

theorem setups_post (x : GitHubStep) :
    x.pre.state.setups.Descends SameSetup
      (fun row => row.id = x.pre.state.drawn ∧ x.pre.state.drawn < x.post.state.drawn)
      x.post.state.setups ∧ x.pre.state.drawn ≤ x.post.state.drawn := by
  rcases post_run x with hsame | ⟨b, hrun⟩
  · rw [hsame]
    exact ⟨Table.descends_refl .refl, Nat.le_refl _⟩
  · have hsetups := run_setups hrun
    exact hsetups

theorem setupInvariant_post {x : GitHubStep} (h : SetupInvariant x.pre) :
    SetupInvariant x.post := by
  obtain ⟨hrows, hdrawn⟩ := setups_post x
  constructor
  case stored =>
    rcases post_run x with hsame | ⟨b, hrun⟩
    · rw [hsame]
      exact h.stored.tick _
    · exact run_setupsStored hrun (h.stored.tick _)
  case found =>
    intro setup hfound
    -- Whatever was found, it was issued before this step.
    have hold : setup.id < x.pre.state.drawn ∧ ∀ row ∈ x.pre.state.setups.rows,
        row.id = setup.id → row.userId = setup.userId ∧ row.workspaceId = setup.workspaceId := by
      obtain ⟨ev, hev, hread⟩ := hfound
      rw [x.post_history] at hev
      rcases List.mem_append.mp hev with hev | hev
      · exact h.found setup ⟨ev, hev, hread⟩
      obtain rfl := List.mem_singleton.mp hev
      have hread : x.stmt.foundSetup x.result = some setup := hread
      cases hresult : x.result with
      | error failure =>
        rw [hresult, foundSetup_error] at hread
        cases hread
      | ok b =>
        rw [hresult] at hread
        have hmem : setup ∈ (x.pre.state.tick x.input.elapsed).setups.rows :=
          found_mem (run_of_ok hresult) hread
        refine ⟨h.stored.ids setup hmem, fun row hrow hid => ?_⟩
        obtain rfl := h.stored.unique.eq_of_key hrow hmem hid
        exact ⟨rfl, rfl⟩
    refine ⟨Nat.lt_of_lt_of_le hold.1 hdrawn, fun row' hrow' hid => ?_⟩
    rcases hrows row' hrow' with ⟨row, hrow, hsame⟩ | ⟨hnew, -⟩
    · rw [hsame.userId, hsame.workspaceId]
      exact hold.2 row hrow (hsame.id.symm.trans hid)
    · exact absurd (hid.symm.trans hnew) (Nat.ne_of_lt hold.1)

theorem spent_post {x : GitHubStep} {id : Id} (h : Spent id x.pre.state) :
    Spent id x.post.state := by
  obtain ⟨hrows, hdrawn⟩ := setups_post x
  refine ⟨Nat.lt_of_lt_of_le h.1 hdrawn, fun row' hrow' hid => ?_⟩
  rcases hrows row' hrow' with ⟨row, hrow, hsame⟩ | ⟨hnew, -⟩
  · exact hsame.used (h.2 row hrow (hsame.id.symm.trans hid))
  · exact absurd (hid.symm.trans hnew) (Nat.ne_of_lt h.1)

/-! ## Access rows -/

/-- The step stores a new access row. -/
def Creates (x : GitHubStep) (access : GitHubInstallationAccess) : Prop :=
  access ∈ x.post.state.accesses.rows ∧ key access ∉ x.pre.state.accesses.keys

structure GrantedBy (x : GitHubStep) (access : GitHubInstallationAccess)
    (setup : GitHubInstallationSetup) : Prop where
  stored : setup ∈ x.pre.state.setups.rows
  userId : setup.userId = access.authorizedById
  workspaceId : setup.workspaceId = access.workspaceId
  unused : setup.usedAt = none
  unexpired : x.post.state.now < setup.expiresAt
  consumed : ∃ row ∈ x.post.state.setups.rows, row.id = setup.id ∧ row.usedAt.isSome
  admin : workspaceAdmin
    (x.pre.state.members.find? (access.workspaceId, access.authorizedById)) = true
  account : ∃ identity verified,
    x.pre.state.identities.findFirst? (·.userId = access.authorizedById) = some identity ∧
      Proven identity.providerUserId verified (own x.thread x.pre.history) ∧
      ∃ installation ∈ x.post.state.installations.rows,
        installation.id = access.githubInstallationId ∧
          installation.installationId = verified.installationId

structure ProvenOwnersOnly (tr : List GitHubStep) : Prop where
  granted : ∀ x ∈ tr, ∀ access, Creates x access → ∃ setup, GrantedBy x access setup
  single : ∀ x ∈ tr, ∀ access access', Creates x access → Creates x access' → access = access'
  once : tr.Pairwise fun x y => ∀ access access' setup setup', Creates x access →
    Creates y access' → GrantedBy x access setup → GrantedBy y access' setup' →
      setup.id ≠ setup'.id

/-- The role and the linked account that the call has read are still the same, and the setup state
has not expired since it has read the time. -/
structure Unchanged (x : GitHubStep) (binding : Binding) : Prop where
  role : ∀ member, RoleFound (binding.workspaceId, binding.userId, member)
      (own x.thread x.pre.history) →
    x.pre.state.members.find? (binding.workspaceId, binding.userId) = member
  account : ∀ identity, IdentityFound (binding.userId, identity) (own x.thread x.pre.history) →
    ∃ current, x.pre.state.identities.findFirst? (·.userId = binding.userId) = some current ∧
      current.providerUserId = identity.providerUserId
  time : ∀ setup ∈ x.pre.state.setups.rows, setup.id = binding.setupId →
    binding.now < setup.expiresAt → x.post.state.now < setup.expiresAt

variable {w : World} {tr : List GitHubStep} {c : GitHubSystem}

def GitHubCalls (_ : GitHubMoment) (p : Call Unit) : Prop := GitHubCall p

theorem callRule_run (hrun : Run GitHubCalls (Config.start w) tr c) :
    ∀ x ∈ tr, CallRule x.stmt (own x.thread x.pre.history) := by
  have hentry : ∀ (m : GitHubMoment) (p : Call Unit) (t : Nat), GitHubCalls m p →
      Obeys (fun _ _ => True) t p [] := fun _ _ _ => obeys_gitHubCall
  refine (Run.meets hentry hrun ?_).2
  intro ev hev
  rw [hrun.history_eq] at hev
  obtain ⟨x, -, rfl⟩ := List.mem_map.mp hev
  have hkeyed : x.stmt.keyed x.result := by
    cases hresult : x.result with
    | error failure => exact keyed_error _ _
    | ok b => exact keyed_run (run_of_ok hresult)
  exact hkeyed

theorem setupInvariant_run (hw : SetupsStored w) (hrun : Run GitHubCalls (Config.start w) tr c) :
    ∀ x ∈ tr, SetupInvariant x.pre :=
  hrun.preserves_pre SetupInvariant (fun _ => True) (fun _ _ => setupInvariant_post)
    (fun _ _ => trivial) ⟨hw, fun _ hfound => by
      obtain ⟨ev, hev, -⟩ := hfound
      exact absurd hev List.not_mem_nil⟩

theorem creates_bound {x : GitHubStep} {access : GitHubInstallationAccess}
    (h : Creates x access) : ∃ binding, x.stmt.binds = some binding ∧
      Bound (x.pre.state.tick x.input.elapsed) x.post.state binding access := by
  rcases post_run x with hsame | ⟨b, hrun⟩
  · have hmem : access ∈ x.pre.state.accesses.rows := by
      have hmem := h.1
      rw [hsame] at hmem
      exact hmem
    exact absurd (List.mem_map_of_mem hmem) h.2
  · exact run_creates hrun h.1 h.2

theorem granted_of_unchanged {x : GitHubStep} {access : GitHubInstallationAccess}
    (hinv : SetupInvariant x.pre) (hrule : CallRule x.stmt (own x.thread x.pre.history))
    (hunchanged : ∀ binding, x.stmt.binds = some binding → Unchanged x binding)
    (h : Creates x access) : ∃ setup, GrantedBy x access setup := by
  obtain ⟨binding, hbinds, hbound⟩ := creates_bound h
  have hsame := hunchanged binding hbinds
  obtain ⟨⟨found, hfound, hfoundid, huser, hworkspace⟩, ⟨member, hrole, hadmin⟩,
    ⟨identity, hidentity, hproven⟩, -⟩ := hrule.binds binding hbinds
  obtain ⟨setup, hsetup, hid, hunused, hlive, hused, -⟩ :=
    claim_rows (hinv.stored.tick x.input.elapsed) hbound.claimed
  have hsetup : setup ∈ x.pre.state.setups.rows := hsetup
  obtain ⟨ev, hev, hread⟩ := hfound
  have howner := (hinv.found found ⟨ev, (List.mem_filter.mp hev).1, hread⟩).2 setup hsetup
    (hid.trans hfoundid.symm)
  obtain ⟨current, hcurrent, hlinked⟩ := hsame.account identity hidentity
  refine ⟨setup, hsetup, ?_, ?_, hunused, hsame.time setup hsetup hid hlive, ?_, ?_, ?_⟩
  · rw [hbound.authorizedById, howner.1, huser]
  · rw [hbound.workspaceId, howner.2, hworkspace]
  · exact ⟨setup.used binding.now, hbound.setups ▸ hused, rfl, rfl⟩
  · rw [hbound.workspaceId, hbound.authorizedById, hsame.role member hrole]
    exact hadmin
  · rw [hbound.authorizedById]
    exact ⟨current, binding.verified, hcurrent, hlinked.symm ▸ hproven, hbound.installation⟩

theorem spent_of_granted {x : GitHubStep} (hpost : SetupsStored x.post.state)
    {access : GitHubInstallationAccess} {setup : GitHubInstallationSetup}
    (h : GrantedBy x access setup) : Spent setup.id x.post.state := by
  obtain ⟨row, hrow, hid, hused⟩ := h.consumed
  refine ⟨hid ▸ hpost.ids row hrow, fun row' hrow' hid' => ?_⟩
  rw [hpost.unique.eq_of_key hrow' hrow (hid'.trans hid.symm)]
  exact hused

theorem spent_run (hrun : Run GitHubCalls (Config.start w) tr c) :
    tr.Pairwise fun x y => ∀ id, Spent id x.post.state → Spent id y.pre.state :=
  (hrun.pairwise (fun x m => ∀ id, Spent id x.post.state → Spent id m.state) (fun _ => True)
    (fun _ _ _ h => h) (fun _ _ _ hpre id h => spent_post (hpre id h)) fun _ _ => trivial).1

/-- In every run in which nothing changes between the reads of a setup and its transaction, access
rows are only created for proven owners, each for its own setup state. -/
theorem proven_owners_only (hw : SetupsStored w) (hrun : Run GitHubCalls (Config.start w) tr c)
    (hunchanged : ∀ x ∈ tr, ∀ binding, x.stmt.binds = some binding → Unchanged x binding) :
    ProvenOwnersOnly tr := by
  have hinv := setupInvariant_run hw hrun
  constructor
  case granted =>
    exact fun x hx access hcreates => granted_of_unchanged (hinv x hx) (callRule_run hrun x hx)
      (hunchanged x hx) hcreates
  case single =>
    intro x _ access access' hcreates hcreates'
    obtain ⟨binding, -, hbound⟩ := creates_bound hcreates
    exact (hbound.only access' hcreates'.1 hcreates'.2).symm
  case once =>
    refine (spent_run hrun).imp_of_mem fun {x _} hx _ hspent => ?_
    intro access access' setup setup' _ _ hgranted hgranted' hid
    have hbehind := spent_of_granted (setupInvariant_post (hinv x hx)).stored hgranted
    have hused := (hspent _ hbehind).2 setup' hgranted'.stored hid.symm
    rw [hgranted'.unused] at hused
    cases hused

end

/-! ## A member who is removed while GitHub answers -/

section

variable [Environment]

def unchanged (x : GitHubStep) : Bool :=
  x.stmt.binds.all fun binding =>
    ((own x.thread x.pre.history).all fun ev =>
      (ev.stmt.foundRole ev.result).all fun (workspaceId, userId, member) =>
        !(workspaceId = binding.workspaceId && userId = binding.userId) ||
          x.pre.state.members.find? (binding.workspaceId, binding.userId) = member) &&
    ((own x.thread x.pre.history).all fun ev =>
      (ev.stmt.foundIdentity ev.result).all fun (userId, identity) =>
        userId ≠ binding.userId ||
          (x.pre.state.identities.findFirst? (·.userId = binding.userId)).any
            (·.providerUserId = identity.providerUserId)) &&
    x.pre.state.setups.rows.all fun setup =>
      setup.id ≠ binding.setupId || !(binding.now < setup.expiresAt) ||
        x.post.state.now < setup.expiresAt

theorem unchanged_of_bool {x : GitHubStep} (h : unchanged x = true) :
    ∀ binding, x.stmt.binds = some binding → Unchanged x binding := by
  intro binding hbinds
  rw [unchanged, hbinds, Option.all_some, Bool.and_eq_true, Bool.and_eq_true] at h
  obtain ⟨⟨hroles, hidentities⟩, hsetups⟩ := h
  constructor
  case role =>
    rintro member ⟨ev, hev, hread⟩
    have hread : ev.stmt.foundRole ev.result =
        some (binding.workspaceId, binding.userId, member) := hread
    have hrole := List.all_eq_true.mp hroles ev hev
    rw [hread, Option.all_some] at hrole
    simpa using hrole
  case account =>
    rintro identity ⟨ev, hev, hread⟩
    have hread : ev.stmt.foundIdentity ev.result = some (binding.userId, identity) := hread
    have hidentity := List.all_eq_true.mp hidentities ev hev
    rw [hread, Option.all_some] at hidentity
    obtain ⟨current, hcurrent, hsame⟩ := (Option.any_eq_true _ _).mp (by simpa using hidentity)
    exact ⟨current, hcurrent, by simpa using hsame⟩
  case time =>
    intro setup hsetup hid hlive
    have htime := List.all_eq_true.mp hsetups setup hsetup
    simpa [hid, hlive] using htime

end

abbrev quietEnvironment : Environment where
  keyring := ⟨⟨"current"⟩, []⟩
  emitted _ := ⟨none, none, none⟩

def linkedAccount : ExternalIdentity where
  id := 2
  userId := 0
  providerUserId := "7"
  accessTokenEncrypted := none
  accessTokenExpiresAt := none
  refreshTokenEncrypted := none
  refreshTokenExpiresAt := none
  credentialVersion := 0
  credentialRefreshingAt := none

/-- An administrator of workspace 1 has started a setup. -/
def installing : World where
  setups := ⟨[⟨5, hashState ⟨5⟩, 0, 1, 600000, none, none⟩]⟩
  identities := ⟨[linkedAccount]⟩
  members := ⟨[⟨1, 0, .admin⟩]⟩
  drawn := 10

theorem installing_stored : SetupsStored installing where
  unique := by decide
  ids := by decide

def callbackInput : GitHubInput where
  verified := ⟨"42", "7", "ada", .user, "all", none⟩

section

attribute [local instance] quietEnvironment

def callback : Call Unit := (completeSetup (some ⟨5⟩) "42" none).ignoreError

def removal : Call Unit := await (.setRole 1 0 none)

theorem installing_calls {m : GitHubMoment} : ∀ p ∈ [callback, removal], GitHubCalls m p := by
  simp only [List.mem_cons, List.not_mem_nil, or_false, forall_eq_or_imp, forall_eq]
  exact ⟨.completeSetup _ _ _, .setRole _ _ _⟩

def ordered (threads : List Nat) : List (Nat × GitHubInput) :=
  threads.map fun t => (t, callbackInput)

/-- The callback binds before the member is removed. -/
theorem callback_proven : ∃ (tr : List GitHubStep) (c : GitHubSystem),
    Run GitHubCalls (Config.start installing) tr c ∧ ProvenOwnersOnly tr ∧
      c.moment.state.accesses.rows = [⟨10, 1, 0⟩] := by
  obtain ⟨tr, c, hrun, hcheck⟩ := run_of_plays (Config.start installing) [callback, removal]
    (ordered [0, 0, 0, 0, 0, 0, 0, 1])
    (fun tr c => tr.all unchanged && c.moment.state.accesses.rows = [⟨10, 1, 0⟩])
    installing_calls (by decide)
  simp only [Bool.and_eq_true, List.all_eq_true, decide_eq_true_eq] at hcheck
  exact ⟨tr, c, hrun, proven_owners_only installing_stored hrun
    fun x hx => unchanged_of_bool (hcheck.1 x hx), hcheck.2⟩

/-- The member is removed while the callback waits for GitHub. -/
def boundAfterRemoval (tr : List GitHubStep) : Bool :=
  match tr[7]? with
  | some x => x.pre.state.accesses.rows = [] && x.post.state.accesses.rows = [⟨10, 1, 0⟩] &&
    x.pre.state.members.rows = []
  | none => false

theorem access_after_removal : ¬ ∀ (w : World) (tr : List GitHubStep) (c : GitHubSystem),
    SetupsStored w → Run GitHubCalls (Config.start w) tr c → ProvenOwnersOnly tr := by
  intro h
  obtain ⟨tr, c, hrun, hcheck⟩ := run_of_plays (Config.start installing) [callback, removal]
    (ordered [0, 0, 0, 0, 0, 0, 1, 0]) (fun tr _ => boundAfterRemoval tr)
    installing_calls (by decide)
  unfold boundAfterRemoval at hcheck
  split at hcheck
  · rename_i x hx
    simp only [Bool.and_eq_true, decide_eq_true_eq] at hcheck
    obtain ⟨⟨hbefore, hafter⟩, hmembers⟩ := hcheck
    have hcreates : Creates x ⟨10, 1, 0⟩ := by
      refine ⟨hafter ▸ List.mem_singleton.mpr rfl, ?_⟩
      rw [Table.keys, hbefore]
      exact List.not_mem_nil
    obtain ⟨setup, hgranted⟩ :=
      (h installing tr c installing_stored hrun).granted x (List.mem_of_getElem? hx) _ hcreates
    have hadmin := hgranted.admin
    rw [Table.find?, hmembers] at hadmin
    cases hadmin
  · cases hcheck

end

end InitPad.GitHub
