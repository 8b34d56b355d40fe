import InitPad.GitHub.Grants

/-!
# InitPad.GitHub.Uninstall

Installation events over whole runs. Nothing but the table of applied deliveries orders the
webhooks: a removal is final, and an event is applied once, as long as the handlers of one
installation do not overlap, new deliveries arrive in GitHub's order and replays arrive while the
table knows them, and no setup is between GitHub's answer and its transaction.
-/

namespace InitPad.GitHub

open Interleave Store
open Prog (await)

variable {β : Type}

def Stmt.installs : Stmt β → Option (String × String)
  | .upsertInstallation installationId data => some (installationId, data.accountId)
  | .bindInstallation _ _ verified _ _ => some (verified.installationId, verified.accountId)
  | _ => none

def Stmt.uninstalls : Stmt β → Option (String × String)
  | .markDeleted installationId accountId _ _ => some (installationId, accountId)
  | _ => none

/-! ## Rows -/

def Removed (installationId : String) (w : World) : Prop :=
  ∀ row ∈ w.installations.rows, row.installationId = installationId → row.deletedAt.isSome

/-- Every installation is stored with its own account, or with none. -/
def AccountsKept (account : String → String) (w : World) : Prop :=
  ∀ row ∈ w.installations.rows, ∀ accountId, row.accountId = some accountId →
    accountId = account row.installationId

theorem upsertInstallation_rows {w : World} {installationId : String} {data : InstallationData}
    {row' : GitHubInstallation}
    (h : row' ∈ (w.upsertInstallation installationId data).installations.rows) :
    row' ∈ w.installations.rows ∨
      ∃ row : GitHubInstallation, row.installationId = installationId ∧ row' = row.synced data := by
  unfold World.upsertInstallation at h
  split at h
  · obtain ⟨row, hrow, rfl⟩ := Table.mem_updateMany.mp h
    split
    · rename_i hid
      exact .inr ⟨row, of_decide_eq_true hid, rfl⟩
    · exact .inl hrow
  · rcases Table.mem_insert.mp h with hold | rfl
    · exact .inl hold
    · exact .inr ⟨GitHubInstallation.fresh w.drawn installationId, rfl, rfl⟩

theorem removed_of_uninstall {account : String → String} {w : World}
    {installationId accountId login : String} {now : Time} (hw : AccountsKept account w)
    (haccount : accountId = account installationId) :
    Removed installationId { w with
      installations := w.installations.updateMany
        (GitHubInstallation.removable installationId accountId)
        (.uninstalled accountId login now) } := by
  intro row' hrow' hid
  obtain ⟨row, hrow, rfl⟩ := Table.mem_updateMany.mp hrow'
  have hrowid : row.installationId = installationId := by
    split at hid
    · exact hid
    · exact hid
  have hremovable : GitHubInstallation.removable installationId accountId row = true := by
    cases hstored : row.accountId with
    | none => simp [GitHubInstallation.removable, hrowid, hstored]
    | some stored =>
      have hsame := hw row hrow stored hstored
      rw [hrowid, ← haccount] at hsame
      simp [GitHubInstallation.removable, hrowid, hstored, hsame]
  rw [if_pos hremovable]
  rfl

theorem reported_of_uninstalls {e : Stmt β} {installationId accountId : String}
    (h : e.uninstalls = some (installationId, accountId)) :
    e.reported = some (installationId, accountId, true) := by
  cases e with
  | markDeleted =>
    cases h
    rfl
  | _ => cases h

theorem installs_cases {e : Stmt β} {installationId accountId : String}
    (h : e.installs = some (installationId, accountId)) :
    e.reported = some (installationId, accountId, false) ∨ ∃ binding, e.binds = some binding ∧
      binding.verified.installationId = installationId ∧
        binding.verified.accountId = accountId := by
  cases e with
  | upsertInstallation =>
    cases h
    exact .inl rfl
  | bindInstallation =>
    cases h
    exact .inr ⟨_, rfl, rfl, rfl⟩
  | _ => cases h

inductive RowEffect (e : Stmt β) (w : World) (row' : GitHubInstallation) : Prop
  | kept : row' ∈ w.installations.rows → RowEffect e w row'
  | installed {installationId : String} {row : GitHubInstallation} {data : InstallationData} :
      e.installs = some (installationId, data.accountId) → row.installationId = installationId →
      row' = row.synced data → RowEffect e w row'
  | uninstalled {installationId accountId login : String} {row : GitHubInstallation} {now : Time} :
      e.uninstalls = some (installationId, accountId) → row ∈ w.installations.rows →
      row.installationId = installationId → row' = row.uninstalled accountId login now →
      RowEffect e w row'
  | renamed {login : String} {row : GitHubInstallation} : row ∈ w.installations.rows →
      row' = row.renamed login → RowEffect e w row'

section

variable [Environment]

theorem run_rows {e : Stmt β} {i : GitHubInput} {w w' : World} {b : β}
    (h : e.run i w = .ok (b, w')) {row' : GitHubInstallation}
    (hrow' : row' ∈ w'.installations.rows) : RowEffect e w row' := by
  cases e with
  | recordDelivery deliveryId event receivedAt =>
    cases h
    unfold World.recordDelivery at hrow'
    split at hrow' <;> exact .kept hrow'
  | markDeleted installationId accountId accountLogin now =>
    cases h
    obtain ⟨row, hrow, rfl⟩ := Table.mem_updateMany.mp hrow'
    split
    · rename_i hremovable
      simp only [GitHubInstallation.removable, Bool.and_eq_true, decide_eq_true_eq] at hremovable
      exact .uninstalled rfl hrow hremovable.1 rfl
    · exact .kept hrow
  | upsertInstallation installationId data =>
    cases h
    rcases upsertInstallation_rows hrow' with hold | ⟨row, hid, rfl⟩
    · exact .kept hold
    · exact .installed rfl hid rfl
  | renameAccount accountId login =>
    cases h
    obtain ⟨row, hrow, rfl⟩ := Table.mem_updateMany.mp hrow'
    split
    · exact .renamed hrow rfl
    · exact .kept hrow
  | bindInstallation setupId now verified userId workspaceId =>
    rcases bindInstallation_ok h with rfl | ⟨-, hbind⟩
    · exact .kept hrow'
    obtain ⟨installation, -, rfl⟩ := bindVerifiedInstallation_ok hbind
    rw [upsertAccess_installations] at hrow'
    rcases upsertInstallation_rows hrow' with hold | ⟨row, hid, rfl⟩
    · exact .kept hold
    · exact .installed rfl hid rfl
  | setRole workspaceId userId role =>
    cases h
    cases role with
    | none => exact .kept hrow'
    | some role => exact .kept hrow'
  | link userId providerUserId =>
    cases h
    unfold World.link at hrow'
    split at hrow' <;> exact .kept hrow'
  | _ =>
    cases h
    exact .kept hrow'

theorem rows_post (x : GitHubStep) {row' : GitHubInstallation}
    (hrow' : row' ∈ x.post.state.installations.rows) : RowEffect x.stmt x.pre.state row' := by
  rcases post_run x with hsame | ⟨b, hrun⟩
  · rw [hsame] at hrow'
    exact .kept hrow'
  · cases run_rows hrun hrow' with
    | kept hrow => exact .kept hrow
    | installed hinstalls hid heq => exact .installed hinstalls hid heq
    | uninstalled huninstalls hrow hid heq => exact .uninstalled huninstalls hrow hid heq
    | renamed hrow heq => exact .renamed hrow heq

theorem removed_post {x : GitHubStep} {installationId : String}
    (hnone : ∀ accountId, x.stmt.installs ≠ some (installationId, accountId))
    (h : Removed installationId x.pre.state) : Removed installationId x.post.state := by
  intro row' hrow' hid
  cases rows_post x hrow' with
  | kept hrow => exact h row' hrow hid
  | @installed _ row data hinstalls hrowid heq =>
    have hsame : row'.installationId = row.installationId := by rw [heq]; rfl
    rw [← hrowid, ← hsame, hid] at hinstalls
    exact absurd hinstalls (hnone _)
  | uninstalled _ hrow _ heq =>
    rw [heq]
    rfl
  | @renamed login row hrow heq =>
    subst heq
    have hsome : row.deletedAt.isSome := h row hrow hid
    exact hsome

theorem accountsKept_post {account : String → String} {x : GitHubStep}
    (hinstalls : ∀ installationId accountId, x.stmt.installs = some (installationId, accountId) →
      accountId = account installationId)
    (huninstalls : ∀ installationId accountId,
      x.stmt.uninstalls = some (installationId, accountId) → accountId = account installationId)
    (h : AccountsKept account x.pre.state) : AccountsKept account x.post.state := by
  intro row' hrow' accountId haccount
  cases rows_post x hrow' with
  | kept hrow => exact h row' hrow accountId haccount
  | installed hsome hid heq =>
    subst heq
    cases haccount
    rw [← hid] at hsome
    exact hinstalls _ _ hsome
  | uninstalled hsome _ hid heq =>
    subst heq
    cases haccount
    rw [← hid] at hsome
    exact huninstalls _ _ hsome
  | renamed hrow heq =>
    subst heq
    exact h _ hrow accountId haccount

/-! ## Handlers -/

structure Handles (x : GitHubStep) (event : Nat) : Prop where
  commits : Commits x
  consulted : Consulted event (own x.thread x.pre.history)
  said : x.stmt.reported = report event
  some : x.stmt.reported.isSome

/-- The installation that the event is about. -/
def concerns (event : Nat) : Option String := (report event).map (·.1)

structure UninstallFinal (tr : List GitHubStep) (c : GitHubSystem) : Prop where
  final : ∀ x ∈ tr, ∀ installationId accountId,
    x.stmt.uninstalls = some (installationId, accountId) → Commits x →
      Removed installationId c.moment.state
  once : tr.Pairwise fun x y => ∀ event, Handles x event → ¬ Handles y event

/-- What GitHub promises: an installation belongs to one account, its removal is its last event,
and GitHub does not show it behind that event. -/
structure GitHubContract (account : String → String) (tr : List GitHubStep) : Prop where
  accounts : ∀ event installationId accountId removed,
    report event = some (installationId, accountId, removed) → accountId = account installationId
  deletedLast : ∀ event last installationId accountId accountId' removed,
    report last = some (installationId, accountId, true) →
      report event = some (installationId, accountId', removed) → event ≤ last
  answers : ∀ x ∈ tr, ∀ verified ∈ x.stmt.shown x.result,
    verified.accountId = account verified.installationId
  gone : tr.Pairwise fun x y => ∀ installationId accountId,
    x.stmt.uninstalls = some (installationId, accountId) →
      ∀ verified ∈ y.stmt.shown y.result, verified.installationId ≠ installationId

/-- The handlers of one installation follow each other, in GitHub's order. -/
structure InOrder (tr : List GitHubStep) : Prop where
  ordered : tr.Pairwise fun x z => ∀ earlier event, Handles x earlier →
    z.stmt.consults z.result = some event → concerns earlier = concerns event → earlier < event
  alone : tr.Pairwise fun x y => ∀ earlier event, Handles x earlier → Consulted event
    (own y.thread x.pre.history) → y.stmt.reported.map (·.1) ≠ concerns earlier
  /-- No setup is between GitHub's answer and its transaction when the removal is handled. -/
  settled : tr.Pairwise fun x y => ∀ accountId binding,
    x.stmt.uninstalls = some (binding.verified.installationId, accountId) →
      y.stmt.binds = some binding → ¬ Shown binding.verified (own y.thread x.pre.history)

variable {account : String → String} {w : World} {tr : List GitHubStep} {c : GitHubSystem}

theorem shown_run (hrun : Run GitHubCalls (Config.start w) tr c) {x : GitHubStep} (hx : x ∈ tr)
    {verified : VerifiedGitHubInstallation} (h : Shown verified (own x.thread x.pre.history)) :
    ∃ z ∈ tr, verified ∈ z.stmt.shown z.result := by
  obtain ⟨ev, hev, hshown⟩ := h
  rcases hrun.mem_history hx (List.mem_filter.mp hev).1 with hnil | ⟨z, hz, rfl⟩
  · exact absurd hnil List.not_mem_nil
  · exact ⟨z, hz, hshown⟩

theorem accounts_run (hcontract : GitHubContract account tr) (hw : AccountsKept account w)
    (hrun : Run GitHubCalls (Config.start w) tr c) :
    ∀ x ∈ tr, AccountsKept account x.pre.state := by
  have hrule := callRule_run hrun
  have hreports : ∀ x ∈ tr, ∀ installationId accountId removed,
      x.stmt.reported = some (installationId, accountId, removed) →
        accountId = account installationId := by
    intro x hx installationId accountId removed hsaid
    obtain ⟨event, -, hreport⟩ := (hrule x hx).reports _ hsaid
    exact hcontract.accounts event _ _ _ hreport
  refine hrun.preserves_pre (fun m => AccountsKept account m.state) (fun x => x ∈ tr) ?_
    (fun _ hx => hx) hw
  intro x hx hpre
  refine accountsKept_post (fun installationId accountId hinstalls => ?_) ?_ hpre
  · rcases installs_cases hinstalls with hsaid | ⟨binding, hbinds, hid, haccount⟩
    · exact hreports x hx _ _ _ hsaid
    · obtain ⟨z, hz, hshown⟩ := shown_run hrun hx ((hrule x hx).binds binding hbinds).shown
      rw [← haccount, ← hid]
      exact hcontract.answers z hz _ hshown
  · exact fun installationId accountId huninstalls =>
      hreports x hx _ _ _ (reported_of_uninstalls huninstalls)

theorem removed_uninstall {x : GitHubStep} {installationId accountId : String}
    (hw : AccountsKept account x.pre.state) (haccount : accountId = account installationId)
    (huninstalls : x.stmt.uninstalls = some (installationId, accountId)) (hcommits : Commits x) :
    Removed installationId x.post.state := by
  obtain ⟨b, hrun⟩ := hcommits
  generalize x.post.state = w' at hrun ⊢
  obtain ⟨m, t, e, i⟩ := x
  cases e with
  | markDeleted =>
    cases huninstalls
    cases hrun
    exact removed_of_uninstall hw haccount
  | _ => cases huninstalls

theorem installs_after (hcontract : GitHubContract account tr)
    (hrun : Run GitHubCalls (Config.start w) tr c) (horder : InOrder tr) :
    tr.Pairwise fun x y => ∀ installationId accountId accountId',
      x.stmt.uninstalls = some (installationId, accountId) → Commits x →
        y.stmt.installs ≠ some (installationId, accountId') := by
  have hrule := callRule_run hrun
  have hpairs := horder.alone.and horder.settled
  refine hpairs.imp_of_mem fun {x y} hx hy hpair => ?_
  intro installationId accountId accountId' huninstalls hcommits hinstalls
  obtain ⟨halone, hsettled⟩ := hpair
  have hsaid := reported_of_uninstalls huninstalls
  obtain ⟨last, hconsulted, hlast⟩ := (hrule x hx).reports _ hsaid
  have hhandles : Handles x last :=
    ⟨hcommits, hconsulted, hsaid.trans hlast.symm, by rw [hsaid]; rfl⟩
  rcases installs_cases hinstalls with hsaid' | ⟨binding, hbinds, rfl, -⟩
  · -- Another event: its handler has consulted the table behind the removal.
    obtain ⟨event, ⟨ev, hev, hconsults⟩, hreport⟩ := (hrule y hy).reports _ hsaid'
    have hsame : concerns last = concerns event := by simp [concerns, hlast, hreport]
    obtain ⟨hmem, hthread⟩ := List.mem_filter.mp hev
    have hnew : ev ∉ x.pre.history := by
      intro hold
      refine halone last event hhandles ⟨ev, List.mem_filter.mpr ⟨hold, hthread⟩, hconsults⟩ ?_
      simp [hsaid', concerns, hlast]
    rcases hrun.mem_after horder.ordered hx hy hmem hnew with rfl | ⟨z, -, rfl, hlater⟩
    · obtain ⟨m, t, e, i⟩ := x
      cases e with
      | markDeleted => cases hconsults
      | _ => cases huninstalls
    · have hlt := hlater last event hhandles hconsults hsame
      have hle := hcontract.deletedLast event last _ _ _ _ hlast hreport
      omega
  · -- A setup: GitHub has shown the installation behind the removal.
    obtain ⟨ev, hev, hshown⟩ := ((hrule y hy).binds binding hbinds).shown
    obtain ⟨hmem, hthread⟩ := List.mem_filter.mp hev
    have hnew : ev ∉ x.pre.history := fun hold =>
      hsettled accountId binding huninstalls hbinds
        ⟨ev, List.mem_filter.mpr ⟨hold, hthread⟩, hshown⟩
    rcases hrun.mem_after hcontract.gone hx hy hmem hnew with rfl | ⟨z, -, rfl, hlater⟩
    · obtain ⟨m, t, e, i⟩ := x
      cases e with
      | markDeleted => cases hshown
      | _ => cases huninstalls
    · exact hlater _ _ huninstalls _ hshown rfl

/-- In every run in which the handlers of an installation follow each other in GitHub's order, and
no setup is under way at its removal, removals are final and events are applied once. -/
theorem uninstall_final (hcontract : GitHubContract account tr) (hw : AccountsKept account w)
    (hrun : Run GitHubCalls (Config.start w) tr c) (horder : InOrder tr) : UninstallFinal tr c := by
  have hrule := callRule_run hrun
  constructor
  case final =>
    intro x hx installationId accountId huninstalls hcommits
    obtain ⟨tr₁, tr₂, rfl⟩ := List.append_of_mem hx
    have hafter := (List.pairwise_append.mp (installs_after hcontract hrun horder)).2.1
    have hafter := (List.pairwise_cons.mp hafter).1
    obtain ⟨c₁, -, h₂⟩ := hrun.split rfl
    obtain ⟨-, c₂, hpost, h₂⟩ := h₂.uncons
    refine h₂.preserves (fun m => Removed installationId m.state)
      (fun y => ∀ accountId', y.stmt.installs ≠ some (installationId, accountId'))
      (fun _ => removed_post)
      (fun y hy accountId' => hafter y hy _ _ accountId' huninstalls hcommits) ?_
    have hsaid := reported_of_uninstalls huninstalls
    obtain ⟨event, -, hreport⟩ := (hrule x hx).reports _ hsaid
    have haccount := hcontract.accounts event _ _ _ hreport
    rw [hpost]
    exact removed_uninstall (accounts_run hcontract hw hrun x hx) haccount huninstalls hcommits
  case once =>
    refine horder.alone.imp_of_mem fun {x y} hx hy halone event hhandles hagain => ?_
    obtain ⟨ev, hev, hconsults⟩ := hagain.consulted
    obtain ⟨hmem, hthread⟩ := List.mem_filter.mp hev
    have hnew : ev ∉ x.pre.history := by
      intro hold
      refine halone event event hhandles ⟨ev, List.mem_filter.mpr ⟨hold, hthread⟩, hconsults⟩ ?_
      rw [hagain.said]
      rfl
    rcases hrun.mem_after horder.ordered hx hy hmem hnew with rfl | ⟨z, -, rfl, hlater⟩
    · obtain ⟨m, t, e, i⟩ := x
      have hsome := hhandles.some
      cases e with
      | countDelivery => cases hsome
      | _ => cases hconsults
    · exact absurd (hlater event event hhandles hconsults rfl) (Nat.lt_irrefl event)

end

/-! ## A removal that overtakes -/

def emittedInstallation : EventInstallation where
  id := some "42"
  account := some ⟨some "7", some "ada", some .user⟩
  repositorySelection := none
  suspendedAt := none

/-- GitHub has emitted the installation of an account and its removal. -/
abbrev twoEvents : Environment where
  keyring := ⟨⟨"current"⟩, []⟩
  emitted
    | 0 => ⟨some .created, some emittedInstallation, none⟩
    | 1 => ⟨some .deleted, some emittedInstallation, none⟩
    | _ => ⟨none, none, none⟩

section

attribute [local instance] twoEvents

def delivered (event : Nat) : Call Unit :=
  handle ⟨true, some (if event = 0 then "first" else "second"), .installation event⟩

theorem delivered_calls {m : GitHubMoment} (events : List Nat) :
    ∀ p ∈ events.map delivered, GitHubCalls m p := by
  intro p hp
  obtain ⟨event, -, rfl⟩ := List.mem_map.mp hp
  exact .webhook _

def unshown (x : GitHubStep) : Bool := (x.stmt.shown x.result).isEmpty

theorem twoEvents_contract {tr : List GitHubStep} (h : ∀ x ∈ tr, unshown x = true) :
    GitHubContract (fun _ => "7") tr := by
  have hnone : ∀ x ∈ tr, x.stmt.shown x.result = [] := fun x hx =>
    List.isEmpty_iff.mp (h x hx)
  have hreport : ∀ event installationId accountId removed,
      report event = some (installationId, accountId, removed) →
        accountId = "7" ∧ (event = 0 ∧ removed = false ∨ event = 1) := by
    intro event installationId accountId removed hsome
    match event with
    | 0 =>
      cases hsome
      exact ⟨rfl, .inl ⟨rfl, rfl⟩⟩
    | 1 =>
      cases hsome
      exact ⟨rfl, .inr rfl⟩
    | event + 2 => cases hsome
  constructor
  case accounts => exact fun event _ _ _ hsome => (hreport event _ _ _ hsome).1
  case deletedLast =>
    intro event last _ _ _ _ hlast hsome
    rcases (hreport last _ _ _ hlast).2 with ⟨-, hfalse⟩ | rfl
    · cases hfalse
    · rcases (hreport event _ _ _ hsome).2 with ⟨rfl, -⟩ | rfl
      · exact Nat.zero_le 1
      · exact Nat.le_refl 1
  case answers =>
    intro x hx verified hshown
    rw [hnone x hx] at hshown
    cases hshown
  case gone =>
    refine List.pairwise_of_forall_mem_list fun x _ y hy _ _ _ verified hshown => ?_
    rw [hnone y hy] at hshown
    cases hshown

/-- The conditions on two steps of webhooks, as the scheduler can check them. -/
def inOrder (x y : GitHubStep) : Bool :=
  x.stmt.reported.isNone ||
    ((y.stmt.consults y.result).all fun event => (own x.thread x.pre.history).all fun ev =>
      (ev.stmt.consults ev.result).all fun earlier => earlier < event) &&
    (y.stmt.reported.isNone || (own y.thread x.pre.history).all fun ev =>
      (ev.stmt.consults ev.result).isNone)

theorem inOrder_of_bool {tr : List GitHubStep} (h : tr.Pairwise fun x y => inOrder x y = true)
    (hbinds : ∀ x ∈ tr, x.stmt.binds = none) : InOrder tr := by
  constructor
  case ordered =>
    refine h.imp fun {x z} hpair earlier event hhandles hconsults _ => ?_
    obtain ⟨ev, hev, hearlier⟩ := hhandles.consulted
    have hearlier : ev.stmt.consults ev.result = some earlier := hearlier
    rw [inOrder, Option.isNone_eq_false_iff.mpr hhandles.some, hconsults] at hpair
    simp only [Bool.false_or, Option.all_some, Bool.and_eq_true, List.all_eq_true] at hpair
    have hlt := hpair.1 ev hev
    rw [hearlier] at hlt
    simpa using hlt
  case alone =>
    refine h.imp fun {x y} hpair earlier event hhandles hconsulted hsame => ?_
    obtain ⟨ev, hev, hconsults⟩ := hconsulted
    have hconsults : ev.stmt.consults ev.result = some event := hconsults
    have hsome : y.stmt.reported.isSome := by
      cases hy : y.stmt.reported with
      | some said => rfl
      | none =>
        have hhandled := hhandles.some
        rw [hhandles.said] at hhandled
        rw [hy, concerns] at hsame
        cases hreport : report earlier with
        | none => rw [hreport] at hhandled; cases hhandled
        | some said => rw [hreport] at hsame; cases hsame
    rw [inOrder, Option.isNone_eq_false_iff.mpr hhandles.some,
      Option.isNone_eq_false_iff.mpr hsome] at hpair
    simp only [Bool.false_or, Bool.and_eq_true, List.all_eq_true] at hpair
    have hnone := hpair.2 ev hev
    rw [hconsults] at hnone
    cases hnone
  case settled =>
    refine List.pairwise_of_forall_mem_list fun x _ y hy accountId binding _ hsome => ?_
    rw [hbinds y hy] at hsome
    cases hsome

def turns (schedule : List (Nat × Nat)) : List (Nat × GitHubInput) :=
  schedule.flatMap fun (t, n) => List.replicate n (t, {})

/-- The installation, its removal and a replay of the installation, one after the other. -/
theorem replay_ignored : ∃ (tr : List GitHubStep) (c : GitHubSystem),
    Run GitHubCalls (Config.start {}) tr c ∧ UninstallFinal tr c ∧
      c.moment.state.installations.rows.map (·.deletedAt) = [some 0] := by
  obtain ⟨tr, c, hrun, hcheck⟩ := run_of_plays (Config.start {})
    ([0, 1, 0].map delivered) (turns [(0, 6), (1, 7), (2, 1)])
    (fun tr c => tr.all unshown && tr.all (fun x => x.stmt.binds.isNone) &&
      tr.Pairwise (fun x y => inOrder x y = true) &&
        c.moment.state.installations.rows.map (·.deletedAt) = [some 0])
    (delivered_calls _) (by decide)
  simp only [Bool.and_eq_true, List.all_eq_true, decide_eq_true_eq,
    Option.isNone_iff_eq_none] at hcheck
  obtain ⟨⟨⟨hunshown, hbinds⟩, hpairs⟩, hrows⟩ := hcheck
  exact ⟨tr, c, hrun, uninstall_final (twoEvents_contract hunshown)
    (fun _ hrow => absurd hrow List.not_mem_nil) hrun (inOrder_of_bool hpairs hbinds), hrows⟩

def installed : World where
  installations := ⟨[⟨0, "42", some "7", "ada", .user, "selected", none, none, none⟩]⟩
  drawn := 1

theorem installed_accounts : AccountsKept (fun _ => "7") installed := by
  intro row hrow accountId haccount
  obtain rfl := List.mem_singleton.mp hrow
  cases haccount
  rfl

theorem commits_of_reliable {x : GitHubStep} {installationId accountId : String}
    (huninstalls : x.stmt.uninstalls = some (installationId, accountId))
    (hfault : x.stmt.fault x.input = none) : Commits x := by
  obtain ⟨m, t, e, i⟩ := x
  cases e with
  | markDeleted =>
    have hfault : i.fault = none := hfault
    refine ⟨(), ?_⟩
    simp only [Transition.post, Moment.next_state, exec, Stmt.fault, hfault, execute_of_none]
    rfl
  | _ => cases huninstalls

def removes (x : GitHubStep) : Bool :=
  x.stmt.uninstalls = some ("42", "7") && (x.stmt.fault x.input).isNone

/-- The removal is handled while the handler of the installation is between the table and its own
write. -/
theorem removal_undone : ¬ ∀ (account : String → String) (w : World) (tr : List GitHubStep)
    (c : GitHubSystem), GitHubContract account tr → AccountsKept account w →
      Run GitHubCalls (Config.start w) tr c → UninstallFinal tr c := by
  intro h
  obtain ⟨tr, c, hrun, hcheck⟩ := run_of_plays (Config.start installed)
    ([0, 1].map delivered) (turns [(0, 2), (1, 7), (0, 1)])
    (fun tr c => tr.all unshown && (tr[5]?).any removes &&
      c.moment.state.installations.rows.map (fun row => (row.installationId, row.deletedAt))
        = [("42", none)])
    (delivered_calls _) (by decide)
  simp only [Bool.and_eq_true, List.all_eq_true, decide_eq_true_eq] at hcheck
  obtain ⟨⟨hunshown, hremoves⟩, hrows⟩ := hcheck
  obtain ⟨x, hx, hremoves⟩ := (Option.any_eq_true _ _).mp hremoves
  simp only [removes, Bool.and_eq_true, decide_eq_true_eq, Option.isNone_iff_eq_none] at hremoves
  have hfinal := (h _ installed tr c (twoEvents_contract hunshown) installed_accounts hrun).final x
    (List.mem_of_getElem? hx) _ _ hremoves.1 (commits_of_reliable hremoves.1 hremoves.2)
  have hmem : ("42", none) ∈ c.moment.state.installations.rows.map
      fun row => (row.installationId, row.deletedAt) := hrows ▸ List.mem_singleton.mpr rfl
  obtain ⟨row, hrow, hpair⟩ := List.mem_map.mp hmem
  have hdeleted := hfinal row hrow (congrArg Prod.fst hpair)
  have hnone : row.deletedAt = none := congrArg Prod.snd hpair
  rw [hnone] at hdeleted
  cases hdeleted

end

end InitPad.GitHub
