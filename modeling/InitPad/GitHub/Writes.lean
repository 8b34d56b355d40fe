import InitPad.GitHub.Service
import InitPad.Interleave.Trace
import InitPad.Store.Descent

/-!
# InitPad.GitHub.Writes

What one statement does to each table. Later facts are derived from these inversions and not from
the statements.
-/

namespace InitPad.GitHub

open Interleave Store

variable {β : Type}

abbrev GitHubMoment := Moment Stmt GitHubInput World Failure
abbrev GitHubStep := Transition Stmt GitHubInput World Failure
abbrev GitHubSystem := Config Stmt GitHubInput World Failure
abbrev GitHubEvent := Event Stmt GitHubInput Failure
abbrev History := List GitHubEvent

/-- What a setup asks its transaction for. -/
structure Binding where
  setupId : Id
  now : Time
  verified : VerifiedGitHubInstallation
  userId : Id
  workspaceId : Id
  deriving DecidableEq

def Stmt.binds : Stmt β → Option Binding
  | .bindInstallation setupId now verified userId workspaceId =>
    some ⟨setupId, now, verified, userId, workspaceId⟩
  | _ => none

/-- What the statement writes about an installation: its id, its account, and whether it is
removed. -/
def Stmt.reported : Stmt β → Option (String × String × Bool)
  | .markDeleted installationId accountId _ _ => some (installationId, accountId, true)
  | .upsertInstallation installationId data => some (installationId, data.accountId, false)
  | _ => none

/-! ## Setup states -/

structure SameSetup (row row' : GitHubInstallationSetup) : Prop where
  id : row'.id = row.id
  userId : row'.userId = row.userId
  workspaceId : row'.workspaceId = row.workspaceId
  used : row.usedAt.isSome → row'.usedAt.isSome

theorem SameSetup.refl (row : GitHubInstallationSetup) : SameSetup row row :=
  ⟨rfl, rfl, rfl, fun h => h⟩

structure SetupsStored (w : World) : Prop where
  unique : w.setups.Unique
  ids : ∀ row ∈ w.setups.rows, row.id < w.drawn

variable {e : Stmt β} {i : GitHubInput} {w w' : World} {b : β}

def World.claim (w : World) (setupId : Id) (now : Time) : World := { w with
  setups := w.setups.updateMany (GitHubInstallationSetup.claimable setupId now) (.used now) }

theorem bindInstallation_ok {setupId : Id} {now : Time} {verified : VerifiedGitHubInstallation}
    {userId workspaceId : Id} {claimed : Bool}
    (h : w.bindInstallation setupId now verified userId workspaceId = .ok (claimed, w')) :
    w' = w ∨ w.setups.count (GitHubInstallationSetup.claimable setupId now) = 1 ∧
      (w.claim setupId now).bindVerifiedInstallation verified userId workspaceId = .ok w' := by
  unfold World.bindInstallation at h
  split at h
  · rename_i hone
    cases hbind : (w.claim setupId now).bindVerifiedInstallation verified userId workspaceId with
    | error x =>
      have hnone : ((w.claim setupId now).bindVerifiedInstallation verified userId workspaceId).map
        (fun w => (true, w)) = .ok (claimed, w') := h
      rw [hbind] at hnone
      cases hnone
    | ok w₁ =>
      have hsome : ((w.claim setupId now).bindVerifiedInstallation verified userId workspaceId).map
        (fun w => (true, w)) = .ok (claimed, w') := h
      rw [hbind] at hsome
      cases hsome
      exact .inr ⟨hone, rfl⟩
  · cases h
    exact .inl rfl

theorem bindVerifiedInstallation_ok {verified : VerifiedGitHubInstallation}
    {userId workspaceId : Id}
    (h : w.bindVerifiedInstallation verified userId workspaceId = .ok w') :
    ∃ installation, (w.upsertInstallation verified.installationId verified.data).findInstallation
        verified.installationId = some installation ∧
      w' = (w.upsertInstallation verified.installationId verified.data).upsertAccess
        installation.id workspaceId userId := by
  unfold World.bindVerifiedInstallation at h
  split at h
  · cases h
  · dsimp only at h
    split at h
    · rename_i installation hfind
      cases h
      exact ⟨installation, hfind, rfl⟩
    · cases h

@[simp] theorem upsertInstallation_setups (installationId : String) (data : InstallationData) :
    (w.upsertInstallation installationId data).setups = w.setups := by
  unfold World.upsertInstallation
  split <;> rfl

@[simp] theorem upsertInstallation_accesses (installationId : String) (data : InstallationData) :
    (w.upsertInstallation installationId data).accesses = w.accesses := by
  unfold World.upsertInstallation
  split <;> rfl

@[simp] theorem upsertInstallation_identities (installationId : String) (data : InstallationData) :
    (w.upsertInstallation installationId data).identities = w.identities := by
  unfold World.upsertInstallation
  split <;> rfl

@[simp] theorem upsertInstallation_now (installationId : String) (data : InstallationData) :
    (w.upsertInstallation installationId data).now = w.now := by
  unfold World.upsertInstallation
  split <;> rfl

theorem upsertInstallation_drawn (installationId : String) (data : InstallationData) :
    w.drawn ≤ (w.upsertInstallation installationId data).drawn := by
  unfold World.upsertInstallation
  split
  · exact Nat.le_refl _
  · exact Nat.le_succ _

@[simp] theorem upsertAccess_installations (githubInstallationId workspaceId userId : Id) :
    (w.upsertAccess githubInstallationId workspaceId userId).installations = w.installations := by
  unfold World.upsertAccess
  split <;> rfl

@[simp] theorem upsertAccess_setups (githubInstallationId workspaceId userId : Id) :
    (w.upsertAccess githubInstallationId workspaceId userId).setups = w.setups := by
  unfold World.upsertAccess
  split <;> rfl

@[simp] theorem upsertAccess_identities (githubInstallationId workspaceId userId : Id) :
    (w.upsertAccess githubInstallationId workspaceId userId).identities = w.identities := by
  unfold World.upsertAccess
  split <;> rfl

@[simp] theorem upsertAccess_now (githubInstallationId workspaceId userId : Id) :
    (w.upsertAccess githubInstallationId workspaceId userId).now = w.now := by
  unfold World.upsertAccess
  split <;> rfl

@[simp] theorem upsertAccess_drawn (githubInstallationId workspaceId userId : Id) :
    (w.upsertAccess githubInstallationId workspaceId userId).drawn = w.drawn := by
  unfold World.upsertAccess
  split <;> rfl

theorem upsertAccess_new {githubInstallationId workspaceId userId : Id}
    {access : GitHubInstallationAccess}
    (hmem : access ∈ (w.upsertAccess githubInstallationId workspaceId userId).accesses.rows)
    (hnew : key access ∉ w.accesses.keys) : access = ⟨githubInstallationId, workspaceId, userId⟩ := by
  unfold World.upsertAccess at hmem
  split at hmem
  · have hkeys := Table.keys_updateMany w.accesses (fun row : GitHubInstallationAccess =>
        row.githubInstallationId = githubInstallationId && row.workspaceId = workspaceId)
      (d := fun row => { row with authorizedById := userId }) fun _ => rfl
    exact absurd (hkeys ▸ List.mem_map_of_mem hmem) hnew
  · rcases Table.mem_insert.mp hmem with hold | rfl
    · exact absurd (List.mem_map_of_mem hold) hnew
    · rfl

/-- What becomes of the tables when a setup is bound and `access` is a new row. -/
structure Bound (w w' : World) (binding : Binding) (access : GitHubInstallationAccess) : Prop where
  claimed : w.setups.count (GitHubInstallationSetup.claimable binding.setupId binding.now) = 1
  setups : w'.setups = (w.claim binding.setupId binding.now).setups
  installation : ∃ installation ∈ w'.installations.rows,
    installation.id = access.githubInstallationId ∧
      installation.installationId = binding.verified.installationId
  workspaceId : access.workspaceId = binding.workspaceId
  authorizedById : access.authorizedById = binding.userId
  only : ∀ access' ∈ w'.accesses.rows, key access' ∉ w.accesses.keys → access' = access

section

variable [Environment]

theorem run_setups (h : e.run i w = .ok (b, w')) :
    w.setups.Descends SameSetup (fun row => row.id = w.drawn ∧ w.drawn < w'.drawn)
      w'.setups ∧ w.drawn ≤ w'.drawn := by
  have hrefl : w.setups.Descends SameSetup (fun row => row.id = w.drawn ∧ w.drawn < w'.drawn)
      w.setups := Table.descends_refl .refl
  cases e with
  | recordDelivery deliveryId event receivedAt =>
    cases h
    unfold World.recordDelivery
    split <;> exact ⟨Table.descends_refl .refl, Nat.le_refl _⟩
  | upsertInstallation installationId data =>
    cases h
    rw [upsertInstallation_setups]
    exact ⟨hrefl, upsertInstallation_drawn _ _⟩
  | pruneSetups now =>
    cases h
    exact ⟨Table.descends_deleteMany .refl _, Nat.le_refl _⟩
  | createSetup userId workspaceId expiresAt =>
    cases h
    exact ⟨(Table.descends_refl .refl).insert ⟨rfl, Nat.lt_succ_self _⟩, Nat.le_succ _⟩
  | markRequested hash now =>
    cases h
    exact ⟨Table.descends_updateMany .refl fun row _ _ => ⟨rfl, rfl, rfl, fun h => h⟩, Nat.le_refl _⟩
  | bindInstallation setupId now verified userId workspaceId =>
    rcases bindInstallation_ok h with rfl | ⟨-, hbind⟩
    · exact ⟨hrefl, Nat.le_refl _⟩
    obtain ⟨installation, -, rfl⟩ := bindVerifiedInstallation_ok hbind
    simp only [upsertAccess_setups, upsertInstallation_setups, upsertAccess_drawn]
    refine ⟨Table.descends_updateMany .refl fun row _ _ => ⟨rfl, rfl, rfl, fun _ => rfl⟩, ?_⟩
    exact upsertInstallation_drawn (w := w.claim setupId now) _ _
  | storeExchange | storeRefreshed =>
    cases h
    exact ⟨hrefl, Nat.le_add_right _ 2⟩
  | setRole workspaceId userId role =>
    cases h
    cases role with
    | none => exact ⟨hrefl, Nat.le_refl _⟩
    | some role => exact ⟨hrefl, Nat.le_refl _⟩
  | link userId providerUserId =>
    cases h
    unfold World.link
    split
    · exact ⟨Table.descends_refl .refl, Nat.le_refl _⟩
    · exact ⟨Table.descends_refl .refl, Nat.le_succ _⟩
  | _ =>
    cases h
    exact ⟨hrefl, Nat.le_refl _⟩

theorem run_setupsStored (h : e.run i w = .ok (b, w')) (hw : SetupsStored w) : SetupsStored w' := by
  obtain ⟨hrows, hdrawn⟩ := run_setups h
  constructor
  case ids =>
    refine hrows.forall (P := fun row => row.id < w'.drawn) (fun row hrow => ?_) ?_ ?_
    · exact Nat.lt_of_lt_of_le (hw.ids row hrow) hdrawn
    · intro row row' hlt hsame
      rw [hsame.id]
      exact hlt
    · rintro row ⟨hid, hlt⟩
      rw [hid]
      exact hlt
  case unique =>
    cases e with
    | recordDelivery deliveryId event receivedAt =>
      cases h
      unfold World.recordDelivery
      split <;> exact hw.unique
    | upsertInstallation installationId data =>
      cases h
      rw [upsertInstallation_setups]
      exact hw.unique
    | pruneSetups now =>
      cases h
      exact hw.unique.deleteMany _
    | createSetup userId workspaceId expiresAt =>
      cases h
      refine hw.unique.insert fun hmem => ?_
      obtain ⟨row, hrow, hid⟩ := List.mem_map.mp hmem
      exact absurd hid (Nat.ne_of_lt (hw.ids row hrow))
    | markRequested hash now =>
      cases h
      exact hw.unique.updateMany _ fun _ => rfl
    | bindInstallation setupId now verified userId workspaceId =>
      rcases bindInstallation_ok h with rfl | ⟨-, hbind⟩
      · exact hw.unique
      obtain ⟨installation, -, rfl⟩ := bindVerifiedInstallation_ok hbind
      simp only [upsertAccess_setups, upsertInstallation_setups]
      exact hw.unique.updateMany _ fun _ => rfl
    | setRole workspaceId userId role =>
      cases h
      cases role with
      | none => exact hw.unique
      | some role => exact hw.unique
    | link userId providerUserId =>
      cases h
      unfold World.link
      split <;> exact hw.unique
    | _ =>
      cases h
      exact hw.unique

theorem run_creates (h : e.run i w = .ok (b, w')) {access : GitHubInstallationAccess}
    (hmem : access ∈ w'.accesses.rows) (hnew : key access ∉ w.accesses.keys) :
    ∃ binding, e.binds = some binding ∧ Bound w w' binding access := by
  have hold : access ∉ w.accesses.rows := fun hold => hnew (List.mem_map_of_mem hold)
  cases e with
  | recordDelivery deliveryId event receivedAt =>
    cases h
    unfold World.recordDelivery at hmem
    split at hmem <;> exact absurd hmem hold
  | upsertInstallation installationId data =>
    cases h
    rw [upsertInstallation_accesses] at hmem
    exact absurd hmem hold
  | bindInstallation setupId now verified userId workspaceId =>
    rcases bindInstallation_ok h with rfl | ⟨hclaimed, hbind⟩
    · exact absurd hmem hold
    obtain ⟨installation, hfind, rfl⟩ := bindVerifiedInstallation_ok hbind
    have honly : ∀ access' : GitHubInstallationAccess,
        access' ∈ (((w.claim setupId now).upsertInstallation verified.installationId
          verified.data).upsertAccess installation.id workspaceId userId).accesses.rows →
        key access' ∉ w.accesses.keys → access' = ⟨installation.id, workspaceId, userId⟩ := by
      intro access' hmem hnew
      refine upsertAccess_new hmem ?_
      rw [upsertInstallation_accesses]
      exact hnew
    obtain rfl := honly access hmem hnew
    refine ⟨_, rfl, hclaimed, by simp, ⟨installation, ?_, rfl, ?_⟩, rfl, rfl, honly⟩
    · rw [upsertAccess_installations]
      exact List.mem_of_find?_eq_some hfind
    · have hid := List.find?_some (p := fun row : GitHubInstallation =>
        row.installationId = verified.installationId) hfind
      exact of_decide_eq_true hid
  | setRole workspaceId userId role =>
    cases h
    cases role with
    | none => exact absurd hmem hold
    | some role => exact absurd hmem hold
  | link userId providerUserId =>
    cases h
    unfold World.link at hmem
    split at hmem <;> exact absurd hmem hold
  | _ =>
    cases h
    exact absurd hmem hold

/-- The statement is carried out, whatever its caller is told. -/
def Commits (x : GitHubStep) : Prop :=
  ∃ b, x.stmt.run x.input (x.pre.state.tick x.input.elapsed) = .ok (b, x.post.state)

theorem post_run (x : GitHubStep) : x.post.state = x.pre.state.tick x.input.elapsed ∨
    ∃ b, x.stmt.run x.input (x.pre.state.tick x.input.elapsed) = .ok (b, x.post.state) :=
  execute_state (x.stmt.fault x.input) _ _

theorem run_of_ok {x : GitHubStep} {b : x.β} (h : x.result = .ok b) :
    x.stmt.run x.input (x.pre.state.tick x.input.elapsed) = .ok (b, x.post.state) :=
  execute_ok h

end

end InitPad.GitHub
