import InitPad.Interleave.Trace
import InitPad.Rotation.Service

/-!
# InitPad.Rotation.Writes

What one statement does to the values of a column. A value is settled when it is empty or opens
under the current key; besides the sweep and a delivery that has failed, every writer leaves the
values as they are or settled.
-/

namespace InitPad.Rotation

open Interleave Store Secrets

variable {α β : Type}

abbrev RotationMoment := Moment Stmt Input World Failure
abbrev RotationStep := Transition Stmt Input World Failure
abbrev RotationSystem := Config Stmt Input World Failure
abbrev RotationEvent := Event Stmt Input Failure
abbrev History := List RotationEvent

/-- The compare-and-set of a sweep. -/
structure Rewrite where
  column : Column
  id : Id
  previous : StoredSecret
  next : StoredSecret
  deriving DecidableEq

def Stmt.rewrites : Stmt β → Option Rewrite
  | .writeColumn column id previous next => some ⟨column, id, previous, next⟩
  | _ => none

/-- The message that a failed delivery gives back, its worker and the payload that it writes. -/
def Stmt.returns : Stmt β → Option (Id × Id × StoredSecret)
  | .markFailed id worker _ _ payload => some (id, worker, payload)
  | _ => none

/-! ## Values of a table -/

section

variable {v : StoredValue} {f : α → StoredValue} {t : Table α} {p : α → Bool} {d : α → α}

theorem mem_map_updateMany (h : v ∈ (t.updateMany p d).rows.map f) :
    (∃ row ∈ t.rows, p row = false ∧ v = f row) ∨ ∃ row ∈ t.rows, p row = true ∧ v = f (d row) := by
  obtain ⟨row', hrow', rfl⟩ := List.mem_map.mp h
  obtain ⟨row, hrow, rfl⟩ := Table.mem_updateMany.mp hrow'
  split
  · rename_i hp
    exact .inr ⟨row, hrow, hp, rfl⟩
  · rename_i hp
    exact .inl ⟨row, hrow, Bool.not_eq_true _ ▸ hp, rfl⟩

theorem mem_map_insert {r : α} (h : v ∈ (t.insert r).rows.map f) : v ∈ t.rows.map f ∨ v = f r := by
  obtain ⟨row, hrow, rfl⟩ := List.mem_map.mp h
  rcases Table.mem_insert.mp hrow with hrow | rfl
  · exact .inl (List.mem_map_of_mem hrow)
  · exact .inr rfl

theorem mem_map_deleteMany (h : v ∈ (t.deleteMany p).rows.map f) : v ∈ t.rows.map f := by
  obtain ⟨row, hrow, rfl⟩ := List.mem_map.mp h
  exact List.mem_map_of_mem (Table.mem_deleteMany.mp hrow).1

end

theorem mem_configValues {w : World} {v : StoredValue} : v ∈ w.values .configValue ↔
    ∃ row : AppConfigVar, (row ∈ w.appConfigVars.rows ∧ row.isSecret = true) ∧
      ⟨row.id, some row.value⟩ = v := by
  simp [World.values, List.mem_map, List.mem_filter]

theorem writeColumn_values {w : World} {column written : Column} {id : Id}
    {previous next : StoredSecret} {v : StoredValue}
    (hv : v ∈ (w.writeColumn written id previous next).values column) :
    v ∈ w.values column ∧ (column = written → v.id = id → v.value ≠ some previous) ∨
      v.value = some next := by
  cases written with
  | userAccessToken =>
    cases column with
    | userAccessToken =>
      rcases mem_map_updateMany hv with ⟨row, hrow, hother, rfl⟩ | ⟨row, -, -, rfl⟩
      · refine .inl ⟨List.mem_map_of_mem hrow, fun _ hid => ?_⟩
        have hid : row.id = id := hid
        simpa [hid] using hother
      · exact .inr rfl
    | _ => exact .inl ⟨hv, nofun⟩
  | identityAccessToken =>
    cases column with
    | identityAccessToken =>
      rcases mem_map_updateMany hv with ⟨row, hrow, hother, rfl⟩ | ⟨row, -, -, rfl⟩
      · refine .inl ⟨List.mem_map_of_mem hrow, fun _ hid => ?_⟩
        have hid : row.id = id := hid
        simpa [hid] using hother
      · exact .inr rfl
    | identityRefreshToken =>
      refine .inl ⟨?_, nofun⟩
      rcases mem_map_updateMany hv with ⟨row, hrow, -, rfl⟩ | ⟨row, hrow, -, rfl⟩
      · exact List.mem_map_of_mem hrow
      · exact List.mem_map.mpr ⟨row, hrow, rfl⟩
    | _ => exact .inl ⟨hv, nofun⟩
  | identityRefreshToken =>
    cases column with
    | identityRefreshToken =>
      rcases mem_map_updateMany hv with ⟨row, hrow, hother, rfl⟩ | ⟨row, -, -, rfl⟩
      · refine .inl ⟨List.mem_map_of_mem hrow, fun _ hid => ?_⟩
        have hid : row.id = id := hid
        simpa [hid] using hother
      · exact .inr rfl
    | identityAccessToken =>
      refine .inl ⟨?_, nofun⟩
      rcases mem_map_updateMany hv with ⟨row, hrow, -, rfl⟩ | ⟨row, hrow, -, rfl⟩
      · exact List.mem_map_of_mem hrow
      · exact List.mem_map.mpr ⟨row, hrow, rfl⟩
    | _ => exact .inl ⟨hv, nofun⟩
  | emailPayload =>
    cases column with
    | emailPayload =>
      rcases mem_map_updateMany hv with ⟨row, hrow, hother, rfl⟩ | ⟨row, -, -, rfl⟩
      · refine .inl ⟨List.mem_map_of_mem hrow, fun _ hid => ?_⟩
        have hid : row.id = id := hid
        simpa [hid] using hother
      · exact .inr rfl
    | _ => exact .inl ⟨hv, nofun⟩
  | targetSecret =>
    cases column with
    | targetSecret =>
      rcases mem_map_updateMany hv with ⟨row, hrow, hother, rfl⟩ | ⟨row, -, -, rfl⟩
      · refine .inl ⟨List.mem_map_of_mem hrow, fun _ hid => ?_⟩
        have hid : row.id = id := hid
        simpa [hid] using hother
      · exact .inr rfl
    | _ => exact .inl ⟨hv, nofun⟩
  | configValue =>
    cases column with
    | configValue =>
      obtain ⟨row', ⟨hrow', hsecret⟩, rfl⟩ := mem_configValues.1 hv
      obtain ⟨row, hrow, rfl⟩ := Table.mem_updateMany.mp hrow'
      split at hsecret
      · rename_i hsame
        rw [if_pos hsame]
        exact .inr rfl
      · rename_i hother
        rw [if_neg hother]
        refine .inl ⟨mem_configValues.2 ⟨row, ⟨hrow, hsecret⟩, rfl⟩, fun _ hid => ?_⟩
        have hid : row.id = id := hid
        simpa [hid, hsecret] using hother
    | _ => exact .inl ⟨hv, nofun⟩

/-! ## Settled values -/

section

variable [Keys]

/-- No value, an empty one, or one that opens under the current key. -/
def Settled (value : Option StoredSecret) : Prop :=
  ∀ stored, value = some stored →
    stored = .legacy "" ∨ ∃ iv, stored = encryptSecret keyring iv stored.plaintext

theorem settled_none : Settled none := nofun

theorem settled_encrypted (iv : Nat) (plaintext : String) :
    Settled (some (encryptSecret keyring iv plaintext)) := by
  intro stored hstored
  cases hstored
  exact .inr ⟨iv, rfl⟩

theorem settled_map (iv : Nat) (plaintext : Option String) :
    Settled (plaintext.map (encryptSecret keyring iv)) := by
  cases plaintext with
  | none => exact settled_none
  | some plaintext => exact settled_encrypted iv plaintext

theorem settled_empty : Settled (some (.legacy "")) := by
  intro stored hstored
  cases hstored
  exact .inl rfl

theorem settled_token (iv : Nat) (token : Option String) :
    Settled (some (storedToken iv token)) := by
  cases token with
  | none => exact settled_empty
  | some token => exact settled_encrypted iv token

/-- Where a value comes from. -/
inductive ValueEffect (e : Stmt β) (w : World) (column : Column) (v : StoredValue) : Prop
  | kept : v ∈ w.values column → ValueEffect e w column v
  | settled : Settled v.value → ValueEffect e w column v
  | rewritten {r : Rewrite} : e.rewrites = some r → v.value = some r.next → ValueEffect e w column v
  | returned {id worker : Id} {payload : StoredSecret} {row : EmailOutbox} :
      e.returns = some (id, worker, payload) → column = .emailPayload →
      row ∈ w.emailOutbox.rows → row.delivers id worker = true →
      v = ⟨row.id, some payload⟩ → ValueEffect e w column v

variable {e : Stmt β} {w w' : World} {b : β} {column : Column} {v : StoredValue}

theorem upsertVar_values {environmentId : Id} {name value : String} {isSecret : Bool}
    (hv : v ∈ (w.upsertVar environmentId name value isSecret).values column) :
    ValueEffect (.upsertVar environmentId name value isSecret) w column v := by
  have hsettled : isSecret = true → Settled (some (storedVar w.drawn value isSecret)) := by
    rintro rfl
    exact settled_encrypted _ _
  dsimp only [World.upsertVar] at hv
  split at hv
  · cases column with
    | configValue =>
      obtain ⟨row', ⟨hrow', hsecret⟩, rfl⟩ := mem_configValues.1 hv
      obtain ⟨row, hrow, rfl⟩ := Table.mem_updateMany.mp hrow'
      split at hsecret
      · rename_i hsame
        rw [if_pos hsame]
        exact .settled (hsettled hsecret)
      · rename_i hother
        rw [if_neg hother]
        exact .kept (mem_configValues.mpr ⟨row, ⟨hrow, hsecret⟩, rfl⟩)
    | _ => exact .kept hv
  · cases column with
    | configValue =>
      obtain ⟨row, ⟨hrow, hsecret⟩, rfl⟩ := mem_configValues.1 hv
      rcases Table.mem_insert.mp hrow with hold | rfl
      · exact .kept (mem_configValues.mpr ⟨row, ⟨hold, hsecret⟩, rfl⟩)
      · exact .settled (hsettled hsecret)
    | _ => exact .kept hv

theorem run_values (h : e.run w = .ok (b, w')) (hv : v ∈ w'.values column) :
    ValueEffect e w column v := by
  cases e with
  | writeColumn written id previous next =>
    cases h
    rcases writeColumn_values hv with ⟨hold, -⟩ | hnext
    · exact .kept hold
    · exact .rewritten rfl hnext
  | claimMessage id now worker =>
    cases h
    cases column with
    | emailPayload =>
      rcases mem_map_updateMany hv with ⟨row, hrow, -, rfl⟩ | ⟨row, hrow, -, rfl⟩
      · exact .kept (List.mem_map_of_mem hrow)
      · exact .kept (List.mem_map.mpr ⟨row, hrow, rfl⟩)
    | _ => exact .kept hv
  | markSent id worker =>
    cases h
    cases column with
    | emailPayload =>
      rcases mem_map_updateMany hv with ⟨row, hrow, -, rfl⟩ | ⟨row, hrow, -, rfl⟩
      · exact .kept (List.mem_map_of_mem hrow)
      · exact .settled settled_empty
    | _ => exact .kept hv
  | markFailed id worker status availableAt payload =>
    cases h
    cases column with
    | emailPayload =>
      rcases mem_map_updateMany hv with ⟨row, hrow, -, rfl⟩ | ⟨row, hrow, hdelivers, rfl⟩
      · exact .kept (List.mem_map_of_mem hrow)
      · exact .returned rfl rfl hrow hdelivers rfl
    | _ => exact .kept hv
  | enqueueAuthMail payload =>
    cases h
    cases column with
    | emailPayload =>
      rcases mem_map_insert hv with hold | rfl
      · exact .kept hold
      · exact .settled (settled_encrypted _ _)
    | _ => exact .kept hv
  | deleteMessages ids =>
    cases h
    cases column with
    | emailPayload => exact .kept (mem_map_deleteMany hv)
    | _ => exact .kept hv
  | createUser accessToken =>
    cases h
    cases column with
    | userAccessToken =>
      rcases mem_map_insert hv with hold | rfl
      · exact .kept hold
      · exact .settled (settled_token _ _)
    | _ => exact .kept hv
  | setAccessToken userId accessToken =>
    cases h
    cases column with
    | userAccessToken =>
      rcases mem_map_updateMany hv with ⟨row, hrow, -, rfl⟩ | ⟨row, hrow, -, rfl⟩
      · exact .kept (List.mem_map_of_mem hrow)
      · exact .settled (settled_token _ _)
    | _ => exact .kept hv
  | link =>
    cases h
    cases column with
    | identityAccessToken | identityRefreshToken =>
      rcases mem_map_insert hv with hold | rfl
      · exact .kept hold
      · exact .settled settled_none
    | _ => exact .kept hv
  | storeTokens id accessToken refreshToken =>
    cases h
    cases column with
    | identityAccessToken =>
      rcases mem_map_updateMany hv with ⟨row, hrow, -, rfl⟩ | ⟨row, hrow, -, rfl⟩
      · exact .kept (List.mem_map_of_mem hrow)
      · exact .settled (settled_encrypted _ _)
    | identityRefreshToken =>
      rcases mem_map_updateMany hv with ⟨row, hrow, -, rfl⟩ | ⟨row, hrow, -, rfl⟩
      · exact .kept (List.mem_map_of_mem hrow)
      · exact .settled (settled_map _ _)
    | _ => exact .kept hv
  | clearTokens id =>
    cases h
    cases column with
    | identityAccessToken | identityRefreshToken =>
      rcases mem_map_updateMany hv with ⟨row, hrow, -, rfl⟩ | ⟨row, hrow, -, rfl⟩
      · exact .kept (List.mem_map_of_mem hrow)
      · exact .settled settled_none
    | _ => exact .kept hv
  | unlink id =>
    cases h
    cases column with
    | identityAccessToken | identityRefreshToken => exact .kept (mem_map_deleteMany hv)
    | _ => exact .kept hv
  | createTarget secret =>
    cases h
    cases column with
    | targetSecret =>
      rcases mem_map_insert hv with hold | rfl
      · exact .kept hold
      · exact .settled (settled_map _ _)
    | _ => exact .kept hv
  | setTargetSecret id secret =>
    cases h
    cases column with
    | targetSecret =>
      rcases mem_map_updateMany hv with ⟨row, hrow, -, rfl⟩ | ⟨row, hrow, -, rfl⟩
      · exact .kept (List.mem_map_of_mem hrow)
      · exact .settled (settled_map _ _)
    | _ => exact .kept hv
  | deleteTarget id =>
    cases h
    cases column with
    | targetSecret => exact .kept (mem_map_deleteMany hv)
    | _ => exact .kept hv
  | upsertVar environmentId key value isSecret =>
    cases h
    exact upsertVar_values hv
  | deleteVar environmentId key =>
    cases h
    cases column with
    | configValue =>
      obtain ⟨row, hrow, rfl⟩ := mem_configValues.1 hv
      exact .kept (mem_configValues.mpr ⟨row, ⟨(Table.mem_deleteMany.mp hrow.1).1, hrow.2⟩, rfl⟩)
    | _ => exact .kept hv
  | _ =>
    cases h
    exact .kept hv

/-! ## Ids -/

/-- The rows of every table have different ids. -/
structure Stored (w : World) : Prop where
  users : w.users.Issued w.drawn
  externalIdentities : w.externalIdentities.Issued w.drawn
  emailOutbox : w.emailOutbox.Issued w.drawn
  targets : w.targets.Issued w.drawn
  appConfigVars : w.appConfigVars.Issued w.drawn

omit [Keys] in
theorem Stored.draw (h : Stored w) : Stored w.draw where
  users := h.users.mono (Nat.le_succ _)
  externalIdentities := h.externalIdentities.mono (Nat.le_succ _)
  emailOutbox := h.emailOutbox.mono (Nat.le_succ _)
  targets := h.targets.mono (Nat.le_succ _)
  appConfigVars := h.appConfigVars.mono (Nat.le_succ _)

theorem run_stored (h : e.run w = .ok (b, w')) (hw : Stored w) : Stored w' := by
  have hdraw := hw.draw
  cases e with
  | writeColumn column id previous next =>
    cases h
    cases column with
    | userAccessToken => exact { hw with users := hw.users.updateMany _ fun _ => rfl }
    | identityAccessToken | identityRefreshToken =>
      exact { hw with externalIdentities := hw.externalIdentities.updateMany _ fun _ => rfl }
    | emailPayload => exact { hw with emailOutbox := hw.emailOutbox.updateMany _ fun _ => rfl }
    | targetSecret => exact { hw with targets := hw.targets.updateMany _ fun _ => rfl }
    | configValue => exact { hw with appConfigVars := hw.appConfigVars.updateMany _ fun _ => rfl }
  | randomIv =>
    cases h
    exact hdraw
  | claimMessage | markSent | markFailed =>
    cases h
    exact { hw with emailOutbox := hw.emailOutbox.updateMany _ fun _ => rfl }
  | enqueueAuthMail payload =>
    cases h
    exact { hdraw with emailOutbox := hw.emailOutbox.insert rfl }
  | deleteMessages ids =>
    cases h
    exact { hw with emailOutbox := hw.emailOutbox.deleteMany _ }
  | createUser accessToken =>
    cases h
    exact { hdraw with users := hw.users.insert rfl }
  | setAccessToken userId accessToken =>
    cases h
    exact { hdraw with users := hdraw.users.updateMany _ fun _ => rfl }
  | link =>
    cases h
    exact { hdraw with externalIdentities := hw.externalIdentities.insert rfl }
  | storeTokens id accessToken refreshToken =>
    cases h
    have hdraw := hdraw.draw
    exact { hdraw with
      externalIdentities := hdraw.externalIdentities.updateMany _ fun _ => rfl }
  | clearTokens id =>
    cases h
    exact { hw with externalIdentities := hw.externalIdentities.updateMany _ fun _ => rfl }
  | unlink id =>
    cases h
    exact { hw with externalIdentities := hw.externalIdentities.deleteMany _ }
  | createTarget secret =>
    cases h
    exact { hdraw with targets := hw.targets.insert rfl }
  | setTargetSecret id secret =>
    cases h
    exact { hdraw with targets := hdraw.targets.updateMany _ fun _ => rfl }
  | deleteTarget id =>
    cases h
    exact { hw with targets := hw.targets.deleteMany _ }
  | upsertVar environmentId key value isSecret =>
    cases h
    dsimp only [World.upsertVar]
    split
    · exact { hdraw with appConfigVars := hdraw.appConfigVars.updateMany _ fun _ => rfl }
    · exact { hdraw with appConfigVars := hw.appConfigVars.insert rfl }
  | deleteVar environmentId key =>
    cases h
    exact { hw with appConfigVars := hw.appConfigVars.deleteMany _ }
  | _ =>
    cases h
    exact hw

omit [Keys] in
theorem Stored.values (hw : Stored w) (column : Column) :
    ((w.values column).map StoredValue.id).Nodup := by
  have hids : ∀ {α : Type} [Keyed α Nat] {t : Table α} {f : α → StoredValue},
      t.Unique → (∀ r, (f r).id = key r) → ((t.rows.map f).map StoredValue.id).Nodup := by
    intro α _ t f hunique hf
    have hkeys : (t.rows.map f).map StoredValue.id = t.keys := by
      rw [List.map_map]
      exact List.map_congr_left fun r _ => hf r
    rw [hkeys]
    exact hunique
  cases column with
  | userAccessToken => exact hids hw.users.unique fun _ => rfl
  | identityAccessToken | identityRefreshToken =>
    exact hids hw.externalIdentities.unique fun _ => rfl
  | emailPayload => exact hids hw.emailOutbox.unique fun _ => rfl
  | targetSecret => exact hids hw.targets.unique fun _ => rfl
  | configValue =>
    have hsub : ((w.values .configValue).map StoredValue.id).Sublist w.appConfigVars.keys := by
      simp only [World.values, List.map_map]
      exact List.Sublist.map _ List.filter_sublist
    exact hsub.nodup hw.appConfigVars.unique

end

end InitPad.Rotation
