import InitPad.Admin.Service

/-!
# InitPad.Admin.Flips

What a call has read and set before it updates the row of an account, read off its own events.
`FlipRule` says which statements need it; every call keeps the rule, and ends without an account
that is set in Gitea alone, unless its update was not answered.
-/

namespace InitPad.Admin

open Interleave Store
open Accounts (UserRow PlatformRole ApiInput Installation)
open Prog (await refuseIf)

variable {α β : Type}

abbrev AdminMoment := Moment Stmt ApiInput World Accounts.Failure
abbrev AdminStep := Transition Stmt ApiInput World Accounts.Failure
abbrev AdminSystem := Config Stmt ApiInput World Accounts.Failure
abbrev AdminEvent := Event Stmt ApiInput Accounts.Failure
abbrev History := List AdminEvent

/-! ## What statements do -/

def Stmt.finds : Stmt β → Except Accounts.Failure β → Option (Id × UserRow)
  | .account (.findUser id), r => r.toOption.join.map fun row => (id, row)
  | _, _ => none

/-- The target of the statement, with the number of the other active administrators. -/
def Stmt.counts : Stmt β → Except Accounts.Failure β → Option (Id × Nat)
  | .countOtherAdmins targetId, r => r.toOption.map fun n => (targetId, n)
  | _, _ => none

def Stmt.flips : Stmt β → Option (String × Bool)
  | .setUserActive username active => some (username, active)
  | _ => none

def Stmt.updates : Stmt β → Option (Id × Bool)
  | .updateActive targetId active _ => some (targetId, active)
  | _ => none

abbrev Finds := Recorded (E := Stmt) (ι := ApiInput) (ε := Accounts.Failure)
  fun ev => ev.stmt.finds ev.result

abbrev Counts := Recorded (E := Stmt) (ι := ApiInput) (ε := Accounts.Failure)
  fun ev => ev.stmt.counts ev.result

/-- The account that a call has set in Gitea and not in the database. -/
def Stmt.flipAfter : Stmt β → Except Accounts.Failure β → Option (String × Bool) →
    Option (String × Bool)
  | .setUserActive username active, r, flip => if r.isOk then some (username, active) else flip
  | .updateActive _ _ _, r, flip => if r.isOk then none else flip
  | _, _, flip => flip

def flip (h : History) : Option (String × Bool) :=
  h.foldl (fun held ev => ev.stmt.flipAfter ev.result held) none

theorem flip_append (h : History) (ev : AdminEvent) :
    flip (h ++ [ev]) = ev.stmt.flipAfter ev.result (flip h) := by
  simp [flip, List.foldl_append]

def Genuine (ev : AdminEvent) : Prop :=
  ∀ id row, ev.stmt.finds ev.result = some (id, row) → row.id = id

structure FlipRule (e : Stmt β) (h : History) : Prop where
  flips : ∀ username active, e.flips = some (username, active) →
    flip h = none ∧ ∃ id row, Finds (id, row) h ∧ row.username = username
  updates : ∀ id active, e.updates = some (id, active) → ∃ row, Finds (id, row) h ∧ row.id = id ∧
    flip h = some (row.username, active) ∧
      (active = false → row.platformRole = .admin → ∃ n, Counts (id, n) h ∧ 0 < n)

/-- An update of a row that was not answered. -/
def Unanswered (h : History) : Prop :=
  ∃ ev ∈ h, ev.stmt.updates.isSome = true ∧ ev.result.isOk = false

/-- Statements that set no account. -/
structure Unflipping (e : Stmt β) : Prop where
  flips : e.flips = none
  updates : e.updates = none

theorem Unflipping.rule {e : Stmt β} {h : History} (he : Unflipping e) : FlipRule e h where
  flips username active hflips := by
    rw [he.flips] at hflips
    cases hflips
  updates id active hupdates := by
    rw [he.updates] at hupdates
    cases hupdates

theorem Unflipping.after {e : Stmt β} (he : Unflipping e) (r : Except Accounts.Failure β)
    (held : Option (String × Bool)) : e.flipAfter r held = held := by
  cases e with
  | setUserActive username active => cases he.flips
  | updateActive targetId active actingUserId => cases he.updates
  | _ => rfl

theorem unflipping_account (e : Accounts.Stmt β) : Unflipping (.account e) := ⟨rfl, rfl⟩

/-! ## Calls -/

variable {t : Nat} {h : History}

abbrev Flips (Q : Except Accounts.Failure α → History → Prop) (t : Nat) (p : Call α)
    (h : History) : Prop :=
  p.Meets Genuine FlipRule Q t h

theorem flips_unflipping {p : Call α} (hp : p.Only fun e => Unflipping e) :
    Flips (fun _ h' => flip h' = flip h ∧ h ⊆ h') t p h := by
  refine .of_only (B := fun h' => flip h' = flip h ∧ h ⊆ h') ?_ hp ⟨rfl, List.Subset.refl h⟩
  rintro γ e h' he ⟨hsame, hsub⟩
  refine ⟨he.rule, fun i r _ => ⟨?_, List.Subset.trans hsub (List.subset_append_left _ _)⟩⟩
  rw [flip_append, he.after, hsame]

theorem flips_account (p : Accounts.ApiCall α) :
    Flips (fun _ h' => flip h' = flip h ∧ h ⊆ h') t (p.translate .account) h :=
  flips_unflipping (Prog.only_translate unflipping_account p)

/-- Nothing is set in Gitea alone. -/
def Level (h : History) : Prop := flip h = none ∨ Unanswered h

theorem flipActive_flips {actingUserId targetId : Id} {target : UserRow} {active : Bool}
    (hfound : Finds (targetId, target) h) (hid : target.id = targetId) (hnone : flip h = none)
    (hcounted : active = false → target.platformRole = .admin →
      ∃ n, Counts (targetId, n) h ∧ 0 < n) :
    Flips (fun _ => Level) t (flipActive actingUserId targetId target active) h := by
  have hrevoked : Flips (fun _ h' => flip h' = flip h ∧ h ⊆ h') t
      (if active then pure () else revokeGitCredential targetId) h := by
    split
    · exact ⟨rfl, List.Subset.refl h⟩
    · exact flips_account _
  refine hrevoked.bind (fun _ h₁ hkept => ?_) fun _ h₁ hkept => .inl (hkept.1.trans hnone)
  obtain ⟨hsame, hsub⟩ := hkept
  have hflips : FlipRule (.setUserActive target.username active) h₁ := by
    refine ⟨fun username active' hset => ?_, nofun⟩
    cases hset
    exact ⟨hsame.trans hnone, targetId, target, hfound.mono hsub, rfl⟩
  refine .await_bind hflips (fun i b _ => ?_) fun i x _ => .inl ?_
  · have hset : flip (h₁ ++ [(⟨t, .setUserActive target.username active, i, .ok b⟩ :
        AdminEvent)]) = some (target.username, active) := flip_append _ _
    have hall := List.Subset.trans hsub (List.subset_append_left h₁
      [(⟨t, .setUserActive target.username active, i, .ok b⟩ : AdminEvent)])
    have hupdates : FlipRule (.updateActive targetId active actingUserId)
        (h₁ ++ [(⟨t, .setUserActive target.username active, i, .ok b⟩ : AdminEvent)]) := by
      refine ⟨nofun, fun id active' hupdate => ?_⟩
      cases hupdate
      refine ⟨target, hfound.mono hall, hid, hset, fun hoff hadmin => ?_⟩
      obtain ⟨n, hcount, hpos⟩ := hcounted hoff hadmin
      exact ⟨n, hcount.mono hall, hpos⟩
    refine .await_bind hupdates (fun j row _ => .inl ?_) fun j x _ => .inr ?_
    · exact flip_append _ _
    · exact ⟨_, List.mem_append_right _ (.head _), rfl, rfl⟩
  · rw [flip_append, hsame, hnone]
    rfl

theorem assertOtherAdmin_flips (targetId : Id) (target : UserRow) (active : Bool) :
    Flips (fun r h' => flip h' = flip h ∧ h ⊆ h' ∧ (r = .ok () → active = false →
      target.platformRole = .admin → ∃ n, Counts (targetId, n) h' ∧ 0 < n)) t
      (assertOtherAdmin targetId target active) h := by
  unfold assertOtherAdmin
  split
  · refine .await_bind (Unflipping.rule ⟨rfl, rfl⟩) (fun i n _ => ?_) fun i x _ => ?_
    · have hsame : flip (h ++ [(⟨t, .countOtherAdmins targetId, i, .ok n⟩ : AdminEvent)]) =
          flip h := flip_append _ _
      refine ⟨hsame, List.subset_append_left _ _, fun hok _ _ => ⟨n, recorded_last rfl, ?_⟩⟩
      by_contra hzero
      have hnone : n = 0 := Nat.eq_zero_of_not_pos hzero
      rw [hnone] at hok
      cases hok
    · exact ⟨flip_append _ _, List.subset_append_left _ _, fun hok => by cases hok⟩
  · rename_i hskip
    refine ⟨rfl, List.Subset.refl h, fun _ hoff hadmin => ?_⟩
    simp [hoff, hadmin] at hskip

theorem setActive_flips (actingUserId targetId : Id) (active : Bool) (hnone : flip h = none) :
    Flips (fun _ => Level) t (setActive actingUserId targetId active) h := by
  refine Prog.Meets.bind (Q := fun _ h' => h' = h) rfl (fun _ h₀ hsame => ?_)
    fun _ h₀ hsame => .inl (hsame ▸ hnone)
  subst hsame
  refine .await_bind (unflipping_account _).rule (fun i target hgenuine => ?_)
    fun i x _ => .inl ((flip_append _ _).trans hnone)
  have hnone₁ : flip (h₀ ++ [(⟨t, .account (.findUser targetId), i, .ok target⟩ : AdminEvent)]) =
      none := (flip_append _ _).trans hnone
  cases target with
  | none => exact .inl hnone₁
  | some target =>
    dsimp only
    split
    · exact .inl hnone₁
    · have hid : target.id = targetId := hgenuine targetId target rfl
      have hfound : Finds (targetId, target)
          (h₀ ++ [⟨t, .account (.findUser targetId), i, .ok (some target)⟩]) := recorded_last rfl
      refine (assertOtherAdmin_flips targetId target active).bind (fun b h₁ hkept => ?_)
        fun _ h₁ hkept => .inl (hkept.1.trans hnone₁)
      obtain ⟨hsame, hsub, hcounted⟩ := hkept
      exact flipActive_flips (hfound.mono hsub) hid (hsame.trans hnone₁) (hcounted rfl)

theorem adminCall_flips {p : Call Unit} (hp : AdminCall p) : Flips (fun _ => Level) t p [] := by
  have hquiet : ∀ {q : Call Unit}, q.Only (fun e => Unflipping e) → Flips (fun _ => Level) t q [] :=
    fun hq => (flips_unflipping hq).mono fun _ _ hkept => .inl hkept.1
  cases hp with
  | setActive actingUserId targetId active =>
    exact (setActive_flips actingUserId targetId active rfl).andThen fun _ _ hlevel => hlevel
  | resetPassword actingUserId targetId temporaryPassword =>
    refine hquiet (.ignoreError (.bind (.await ⟨rfl, rfl⟩) fun target => ?_))
    cases target with
    | none => exact .ret _
    | some target =>
      refine .bind (Prog.only_translate unflipping_account _) fun _ => ?_
      exact .bind (.await ⟨rfl, rfl⟩) fun _ => .await ⟨rfl, rfl⟩
  | setAccessToken userId accessToken => exact hquiet (.await ⟨rfl, rfl⟩)
  | account p => exact hquiet (Prog.only_translate unflipping_account p)

end InitPad.Admin
