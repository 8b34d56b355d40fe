import InitPad.Admin.Flips
import InitPad.Store.Descent
import InitPad.Store.Totals

/-!
# InitPad.Admin.Writes

What one statement does to the rows of the users and to the states of Gitea. Rows keep their name
and their role; only the transaction of `setActive` moves the flag.
-/

namespace InitPad.Admin

open Interleave Store
open Accounts (UserRow NewUser PlatformRole ApiInput Installation settings Settings)

variable {β : Type}

/-! ## Rows -/

/-- The columns of an account that never change. -/
structure SameAccount (row row' : UserRow) : Prop where
  id : row'.id = row.id
  username : row'.username = row.username
  platformRole : row'.platformRole = row.platformRole

theorem SameAccount.refl (row : UserRow) : SameAccount row row := ⟨rfl, rfl, rfl⟩

theorem SameAccount.trans {row row' row'' : UserRow} (h : SameAccount row row')
    (h' : SameAccount row' row'') : SameAccount row row'' :=
  ⟨h'.id.trans h.id, h'.username.trans h.username, h'.platformRole.trans h.platformRole⟩

/-- What becomes of a row under a statement. -/
structure Turns (e : Stmt β) (row row' : UserRow) : Prop extends SameAccount row row' where
  kept : (∀ active, e.updates ≠ some (row.id, active)) → row'.active = row.active
  set : ∀ active, e.updates = some (row.id, active) → row'.active = active

structure NewAccount (w w' : Accounts.World) (row' : UserRow) : Prop where
  id : row'.id = w.drawn
  drawn : w.drawn < w'.drawn
  active : row'.active = true
  username : ∀ row ∈ w.users.rows, row.username ≠ row'.username

structure UsersEffect (e : Stmt β) (w w' : Accounts.World) : Prop where
  descends : w.users.Descends (Turns e) (NewAccount w w') w'.users
  survives : w.users.Survives (Turns e) w'.users
  issued : w.users.Issued w.drawn → w'.users.Issued w'.drawn
  drawn : w.drawn ≤ w'.drawn

theorem turns_refl {e : Stmt β} (he : e.updates = none) (row : UserRow) : Turns e row row := by
  refine ⟨.refl row, fun _ => rfl, fun active hactive => ?_⟩
  rw [he] at hactive
  cases hactive

theorem turns_change {e : Stmt β} (he : e.updates = none) {change : UserRow → UserRow}
    (hsame : ∀ row, SameAccount row (change row)) (hactive : ∀ row, (change row).active = row.active)
    (row : UserRow) : Turns e row (change row) := by
  refine ⟨hsame row, fun _ => hactive row, fun active hset => ?_⟩
  rw [he] at hset
  cases hset

theorem usersEffect_same {e : Stmt β} (he : e.updates = none) {w w' : Accounts.World}
    (husers : w'.users = w.users) (hdrawn : w.drawn ≤ w'.drawn) : UsersEffect e w w' := by
  constructor
  case descends =>
    rw [husers]
    exact Table.descends_refl (turns_refl he)
  case survives =>
    rw [husers]
    exact Table.survives_refl (turns_refl he)
  case issued =>
    intro hissued
    rw [husers]
    exact hissued.mono hdrawn
  case drawn => exact hdrawn

theorem usersEffect_change {e : Stmt β} (he : e.updates = none) (w : Accounts.World)
    (p : UserRow → Bool) {change : UserRow → UserRow} (hsame : ∀ row, SameAccount row (change row))
    (hactive : ∀ row, (change row).active = row.active) :
    UsersEffect e w { w with users := w.users.updateMany p change } where
  descends := Table.descends_updateMany (turns_refl he) fun row _ _ =>
    turns_change he hsame hactive row
  survives := Table.survives_updateMany (turns_refl he) fun row _ _ =>
    turns_change he hsame hactive row
  issued h := h.updateMany p fun row => (hsame row).id
  drawn := Nat.le_refl _

theorem rewrites_same {e : Accounts.Stmt β} {p : UserRow → Bool} {change : UserRow → UserRow}
    (h : e.rewrites = some (p, change)) (row : UserRow) :
    SameAccount row (change row) ∧ (change row).active = row.active := by
  cases e with
  | replacePassword | verifyEmail | clearAccessToken | signOutEverywhere =>
    cases h
    exact ⟨⟨rfl, rfl, rfl⟩, rfl⟩
  | _ => cases h

theorem createUser_effect {e : Stmt β} (he : e.updates = none) {data : NewUser} {row : UserRow}
    {w w' : Accounts.World} (h : w.createUser data = .ok (row, w')) : UsersEffect e w w' := by
  unfold Accounts.World.createUser at h
  split at h
  · cases h
  · rename_i hnew
    cases h
    have hnames : ∀ row ∈ w.users.rows, row.username ≠ data.username := by
      intro row hrow hname
      refine hnew (List.any_eq_true.mpr ⟨row, hrow, ?_⟩)
      simp [Accounts.World.taken, hname]
    constructor
    case descends =>
      exact (Table.descends_refl (turns_refl he)).insert ⟨rfl, Nat.lt_succ_self _, rfl, hnames⟩
    case survives => exact (Table.survives_refl (turns_refl he)).insert _
    case issued => exact fun hissued => hissued.insert rfl
    case drawn => exact Nat.le_succ _

theorem account_effect {e : Accounts.Stmt β} {settings : Settings} {i : ApiInput}
    {w w' : Accounts.World} {b : β} (h : e.run settings i w = .ok (b, w')) :
    UsersEffect (.account e) w w' := by
  cases hcreated : e.created with
  | some data =>
    cases e with
    | createUser data => exact createUser_effect rfl h
    | _ => cases hcreated
  | none =>
    cases Accounts.run_effect h with
    | createdUser hdata => rw [hdata] at hcreated; cases hcreated
    | rewroteUsers hrewrites =>
      exact usersEffect_change rfl w _ (fun row => (rewrites_same hrewrites row).1)
        fun row => (rewrites_same hrewrites row).2
    | quiet n => exact usersEffect_same rfl rfl (Nat.le_add_right _ _)
    | issuedLink | openedSession | granted => exact usersEffect_same rfl rfl (Nat.le_succ _)
    | claimedLink | prunedSessions | signed | endedSessions | prunedGrants | claimedCode =>
      exact usersEffect_same rfl rfl (Nat.le_refl _)

/-! ## Statements of `AdminService` -/

theorem updateUser_ok {w w' : World} {id : Id} {change : UserRow → UserRow} {row : UserRow}
    (h : w.updateUser id change = .ok (row, w')) :
    ∃ old, w.accounts.users.find? id = some old ∧ row = change old ∧ w' = { w with
      accounts := { w.accounts with users := w.accounts.users.updateMany (·.id = id) change } } := by
  unfold World.updateUser Accounts.World.updateUser at h
  cases hfind : w.accounts.users.find? id with
  | none => rw [hfind] at h; cases h
  | some old =>
    rw [hfind] at h
    cases h
    exact ⟨old, rfl, rfl, rfl⟩

theorem updateUser_unit {w w' : World} {id : Id} {change : UserRow → UserRow} {b : Unit}
    (h : ((w.updateUser id change).map fun r => ((), r.2)) = .ok (b, w')) :
    w' = { w with
      accounts := { w.accounts with users := w.accounts.users.updateMany (·.id = id) change } } := by
  cases hupdate : w.updateUser id change with
  | error x => rw [hupdate] at h; cases h
  | ok r =>
    rw [hupdate] at h
    cases h
    obtain ⟨-, -, -, heq⟩ := updateUser_ok hupdate
    exact heq

theorem withActive_same (active : Bool) (row : UserRow) :
    SameAccount row (withActive active row) ∧ (withActive active row).active = active := by
  cases active <;> exact ⟨⟨rfl, rfl, rfl⟩, rfl⟩

theorem run_users {e : Stmt β} {settings : Settings} {i : ApiInput} {w w' : World} {b : β}
    (h : e.run settings i w = .ok (b, w')) : UsersEffect e w.accounts w'.accounts := by
  cases e with
  | account e =>
    simp only [Stmt.run] at h
    cases hrun : e.run settings i w.accounts with
    | error x => rw [hrun] at h; cases h
    | ok r =>
      rw [hrun] at h
      cases h
      exact account_effect hrun
  | countOtherAdmins | setUserActive =>
    cases h
    exact usersEffect_same rfl rfl (Nat.le_refl _)
  | updateActive targetId active actingUserId =>
    obtain ⟨old, -, -, rfl⟩ := updateUser_ok h
    have hturn : ∀ row : UserRow,
        Turns (.updateActive targetId active actingUserId)
          row (if row.id = targetId then withActive active row else row) := by
      intro row
      by_cases hid : row.id = targetId
      · rw [if_pos hid]
        refine ⟨(withActive_same active row).1, fun hother => ?_, fun active' hset => ?_⟩
        · exact absurd (by rw [hid]; rfl) (hother active)
        · cases hset
          exact (withActive_same active row).2
      · rw [if_neg hid]
        refine ⟨.refl row, fun _ => rfl, fun active' hset => ?_⟩
        cases hset
        exact absurd rfl hid
    constructor
    case descends =>
      intro row' hrow'
      obtain ⟨row, hrow, rfl⟩ := Table.mem_updateMany.mp hrow'
      refine .inl ⟨row, hrow, ?_⟩
      simp only [decide_eq_true_eq]
      exact hturn row
    case survives =>
      intro row hrow
      refine ⟨_, Table.mem_updateMany.mpr ⟨row, hrow, rfl⟩, ?_⟩
      simp only [decide_eq_true_eq]
      exact hturn row
    case issued =>
      exact fun hissued => hissued.updateMany _ fun row => (withActive_same active row).1.id
    case drawn => exact Nat.le_refl _
  | resetPassword | setAccessToken =>
    rw [updateUser_unit h]
    exact usersEffect_change rfl w.accounts _ (fun _ => ⟨rfl, rfl, rfl⟩) fun _ => rfl

theorem run_gitea {e : Stmt β} {settings : Settings} {i : ApiInput} {w w' : World} {b : β}
    (h : e.run settings i w = .ok (b, w')) :
    w'.gitea = (e.flips.map fun state => state :: w.gitea).getD w.gitea := by
  cases e with
  | account e =>
    simp only [Stmt.run] at h
    cases hrun : e.run settings i w.accounts with
    | error x => rw [hrun] at h; cases h
    | ok r =>
      rw [hrun] at h
      cases h
      rfl
  | countOtherAdmins | setUserActive =>
    cases h
    rfl
  | updateActive targetId active actingUserId =>
    obtain ⟨old, -, -, rfl⟩ := updateUser_ok h
    rfl
  | resetPassword | setAccessToken =>
    rw [updateUser_unit h]
    rfl

/-! ## Administrators -/

def activeAdmin (row : UserRow) : Bool := row.platformRole = .admin && row.active

theorem otherAdmin_eq (id : Id) (row : UserRow) :
    otherAdmin id row = (activeAdmin row && decide (row.id ≠ id)) := rfl

/-- Some administrator is deactivated. -/
def World.lowers (w w' : World) : Bool :=
  w'.accounts.users.count activeAdmin < w.accounts.users.count activeAdmin

theorem count_change {t : Table UserRow} (p : UserRow → Bool) {change : UserRow → UserRow}
    (hsame : ∀ row, SameAccount row (change row))
    (hactive : ∀ row, (change row).active = row.active) (id : Id) :
    (t.updateMany p change).count (otherAdmin id) = t.count (otherAdmin id) :=
  Table.count_updateMany_congr t fun row _ => by
    simp only [otherAdmin, (hsame row).platformRole, (hsame row).id, hactive row]

theorem run_others {e : Stmt β} {settings : Settings} {i : ApiInput} {w w' : World} {b : β}
    (h : e.run settings i w = .ok (b, w')) (hunique : w.accounts.users.Unique) (id : Id) :
    w.accounts.users.count (otherAdmin id) ≤
      w'.accounts.users.count (otherAdmin id) + if w.lowers w' = true then 1 else 0 := by
  have hle : ∀ {n n' k : Nat}, n = n' → n ≤ n' + k := by omega
  cases e with
  | account e =>
    simp only [Stmt.run] at h
    cases hrun : e.run settings i w.accounts with
    | error x => rw [hrun] at h; cases h
    | ok r =>
      rw [hrun] at h
      cases h
      obtain ⟨b, accounts'⟩ := r
      dsimp only
      have heffect := Accounts.run_effect hrun
      cases heffect with
      | createdUser =>
        rw [Table.count_insert]
        omega
      | rewroteUsers hrewrites =>
        exact hle (count_change _ (fun row => (rewrites_same hrewrites row).1)
          (fun row => (rewrites_same hrewrites row).2) id).symm
      | _ => exact hle rfl
  | countOtherAdmins | setUserActive =>
    cases h
    exact hle rfl
  | updateActive targetId active actingUserId =>
    obtain ⟨old, hfind, -, rfl⟩ := updateUser_ok h
    have hkey : ∀ row : UserRow, key (withActive active row) = key row :=
      fun row => (withActive_same active row).1.id
    have hothers := hunique.count_updateMany hfind hkey (otherAdmin id)
    have hadmins := hunique.count_updateMany hfind hkey activeAdmin
    cases active with
    | true =>
      have hup : otherAdmin id old = true → otherAdmin id (withActive true old) = true := by
        intro hadmin
        simp only [otherAdmin, Bool.and_eq_true] at hadmin ⊢
        exact ⟨⟨hadmin.1.1, rfl⟩, hadmin.2⟩
      have hmono : (if otherAdmin id old = true then 1 else 0) ≤
          if otherAdmin id (withActive true old) = true then 1 else 0 := by
        by_cases hadmin : otherAdmin id old = true
        · rw [if_pos hadmin, if_pos (hup hadmin)]
        · rw [if_neg hadmin]
          exact Nat.zero_le _
      have htable : (w.accounts.users.updateMany (fun a => a.id = targetId) (withActive true)).count
          (otherAdmin id) = (w.accounts.users.updateMany (fun a => key a = targetId)
            (withActive true)).count (otherAdmin id) := rfl
      dsimp only
      omega
    | false =>
      have hdown : otherAdmin id (withActive false old) = false ∧
          activeAdmin (withActive false old) = false := by
        simp [otherAdmin, activeAdmin, withActive]
      rw [hdown.1] at hothers
      rw [hdown.2] at hadmins
      by_cases hadmin : otherAdmin id old = true
      · have hactive : activeAdmin old = true := by
          rw [otherAdmin_eq, Bool.and_eq_true] at hadmin
          exact hadmin.1
        rw [hadmin] at hothers
        rw [hactive] at hadmins
        have hlower : (w.accounts.users.updateMany (fun a => a.id = targetId)
            (withActive false)).count activeAdmin < w.accounts.users.count activeAdmin := by
          have htable : (w.accounts.users.updateMany (fun a => a.id = targetId)
            (withActive false)).count activeAdmin = (w.accounts.users.updateMany
              (fun a => key a = targetId) (withActive false)).count activeAdmin := rfl
          simp only [if_true, Bool.false_eq_true, if_false] at hadmins
          omega
        rw [if_pos (show w.lowers _ = true from decide_eq_true hlower)]
        simp only [if_true, Bool.false_eq_true, if_false] at hothers
        exact Nat.le_of_eq hothers.symm
      · rw [if_neg hadmin] at hothers
        exact hle hothers.symm
  | resetPassword targetId passwordHash actingUserId =>
    have hsame : ∀ row, SameAccount row (withTemporaryPassword passwordHash row) :=
      fun _ => ⟨rfl, rfl, rfl⟩
    rw [updateUser_unit h]
    exact hle (count_change _ hsame (fun _ => rfl) id).symm
  | setAccessToken userId accessToken =>
    have hsame : ∀ row, SameAccount row (withAccessToken accessToken row) :=
      fun _ => ⟨rfl, rfl, rfl⟩
    rw [updateUser_unit h]
    exact hle (count_change _ hsame (fun _ => rfl) id).symm

end InitPad.Admin
