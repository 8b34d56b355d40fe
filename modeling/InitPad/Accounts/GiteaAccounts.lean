import InitPad.Accounts.World
import InitPad.Interleave.Contract

/-!
# InitPad.Accounts.GiteaAccounts

`provisionManagedUser` with the accounts of Gitea: each managed user has an account there, which is
created before the row. What fails behind the account is compensated by its removal, by name.

A statement can fail before its effect; or it has its effect and the answer is lost. Removals
succeed. Gitea and the database keep a log of what is not otherwise seen: the accounts that calls
have removed, and the calls whose answer was lost.

* `Agrees`: the accounts and the rows of the calls belong together, and no call has removed an
  account that it had not created.
* `accounts_agree_iff`: when all calls have returned, this is so unless an effect's answer was lost.
-/

namespace InitPad.Accounts.Provisioning

open Interleave
open Prog (await refuseIf)

/-- An account of Gitea; names are in lower case. -/
structure GiteaAccount where
  id : Nat
  login : String
  /-- The call that has created the account. -/
  createdBy : Option Nat
  deriving DecidableEq

/-- The columns that are unique. -/
structure StoredUser where
  giteaId : Option Nat
  username : String
  email : Option String
  deriving DecidableEq

structure Directory where
  accounts : List GiteaAccount
  users : List StoredUser
  /-- Of workspaces. -/
  slugs : List String
  nextGiteaId : Nat
  nextCall : Nat := 0
  removed : List (Nat × GiteaAccount) := []
  lost : List Nat := []

namespace Directory

variable (w : Directory)

def nameTaken (login : String) : Bool := w.accounts.any (·.login == login)

def userExists (username email : String) : Bool :=
  w.users.any fun u => u.username == username || u.email == some email

def slugOf (login : String) : String := "personal-" ++ login

def conflicts (row : StoredUser) : Bool :=
  w.users.any (fun u => u.username == row.username || (row.giteaId.isSome && u.giteaId == row.giteaId) ||
    (row.email.isSome && u.email == row.email)) || w.slugs.contains (slugOf row.username)

def createAccount (call : Nat) (login : String) : Directory :=
  { w with
    accounts := ⟨w.nextGiteaId, login, some call⟩ :: w.accounts
    nextGiteaId := w.nextGiteaId + 1 }

def storeUser (row : StoredUser) : Directory :=
  { w with
    users := row :: w.users
    slugs := slugOf row.username :: w.slugs }

def removeAccount (call : Nat) (login : String) : Directory :=
  { w with
    accounts := w.accounts.filter (·.login != login)
    removed := (w.accounts.filter (·.login == login)).map (call, ·) ++ w.removed }

end Directory

/-! ## Statements -/

inductive Stmt : Type → Type 1 where
  /-- The call arrives; it is given a number. -/
  | receive : Stmt Nat
  | findUser (username email : String) : Stmt Bool
  /-- `createUser` at Gitea: the id and the login. -/
  | createUser (call : Nat) (username : String) : Stmt (Nat × String)
  | createCloneToken (username : String) : Stmt Unit
  | randomizeUserPassword (username : String) : Stmt Unit
  /-- The user with the personal workspace. -/
  | storeUser (call : Nat) (row : StoredUser) : Stmt Unit
  | deleteUser (call : Nat) (login : String) : Stmt Unit

structure NetworkInput where
  fault : Option (Fault String) := none

/-- The call whose effect is not to be lost. -/
def Stmt.writer {β : Type} : Stmt β → Option Nat
  | .createUser call _ => some call
  | .storeUser call _ => some call
  | _ => none

/-- Requests that do not fail. -/
def Stmt.isReliable {β : Type} : Stmt β → Bool
  | .receive => true
  | .deleteUser _ _ => true
  | _ => false

def Stmt.run {β : Type} (e : Stmt β) (w : Directory) : Except String (β × Directory) :=
  match e with
  | .receive => .ok (w.nextCall, { w with nextCall := w.nextCall + 1 })
  | .findUser username email => .ok (w.userExists username email, w)
  | .createUser call username =>
    if w.nameTaken username then .error "Username or e-mail is already taken"
    else .ok ((w.nextGiteaId, username), w.createAccount call username)
  | .createCloneToken _ => .ok ((), w)
  | .randomizeUserPassword _ => .ok ((), w)
  | .storeUser _ row =>
    if w.conflicts row then .error "Unique constraint failed" else .ok ((), w.storeUser row)
  | .deleteUser call login => .ok ((), w.removeAccount call login)

/-- The effect without the answer. -/
def Stmt.unanswered {β : Type} (e : Stmt β) (w : Directory) : Directory :=
  match e.run w with
  | .ok (_, w') => { w' with lost := e.writer.toList ++ w'.lost }
  | .error _ => w

instance : Semantics Stmt NetworkInput Directory String where
  exec e i w :=
    if e.isReliable then commit (e.run w) w
    else
      match i.fault with
      | none => commit (e.run w) w
      | some fault => (.error fault.failure, if fault.carriedOut then e.unanswered w else w)

abbrev AccountCall (α : Type) : Type 1 := Prog Stmt String α
abbrev AccountMoment := Moment Stmt NetworkInput Directory String
abbrev AccountStep := Transition Stmt NetworkInput Directory String
abbrev AccountSystem := Config Stmt NetworkInput Directory String
abbrev AccountEvent := Interleave.Event Stmt NetworkInput String

/-- `username` and `email` are normalized. -/
def provisionManagedUser (username email : String) : AccountCall Unit := do
  let call ← await .receive
  refuseIf (isReservedUsername username) RESERVED_USERNAME_MESSAGE
  let existing ← await (.findUser username email)
  refuseIf existing "Username or e-mail is already taken"
  let (giteaId, login) ← await (.createUser call username)
  tryCatch (do
      await (.createCloneToken username)
      await (.randomizeUserPassword username)
      await (.storeUser call ⟨some giteaId, login, some email⟩))
    fun x => do
      await (.deleteUser call login)
      throw x

def Entry (_ : AccountMoment) (p : AccountCall Unit) : Prop :=
  ∃ username email, p = provisionManagedUser username email

/-- The account belongs to exactly one row. -/
def Directory.Owned (w : Directory) (id : Nat) : Prop :=
  ∃ u ∈ w.users, u.giteaId = some id ∧ ∀ v ∈ w.users, v.giteaId = some id → v = u

structure Agrees (w : Directory) : Prop where
  created : ∀ a ∈ w.accounts, a.createdBy.isSome → w.Owned a.id
  stored : ∀ u ∈ w.users, ∀ id, u.giteaId = some id → ∃ a ∈ w.accounts, a.id = id
  removed : ∀ r ∈ w.removed, r.2.createdBy = some r.1

/-- The answer of an effect is lost. -/
def Stmt.Loses {β : Type} (e : Stmt β) (i : NetworkInput) (w : Directory) : Prop :=
  e.writer.isSome ∧ (∃ fault, i.fault = some fault ∧ fault.carriedOut = true) ∧ ∃ r, e.run w = .ok r

def Lost (x : AccountStep) : Prop := x.stmt.Loses x.input x.pre.state

structure Consistent (w : Directory) : Prop where
  login_unique : ∀ a ∈ w.accounts, ∀ b ∈ w.accounts, a.login = b.login → a = b
  id_unique : ∀ a ∈ w.accounts, ∀ b ∈ w.accounts, a.id = b.id → a = b
  id_lt : ∀ a ∈ w.accounts, a.id < w.nextGiteaId
  user_unique : ∀ u ∈ w.users, ∀ v ∈ w.users, u.giteaId.isSome → u.giteaId = v.giteaId → u = v
  user_lt : ∀ u ∈ w.users, ∀ id, u.giteaId = some id → id < w.nextGiteaId
  created_lt : ∀ a ∈ w.accounts, ∀ k, a.createdBy = some k → k < w.nextCall
  lost_lt : ∀ k ∈ w.lost, k < w.nextCall
  stored : w.lost = [] → ∀ u ∈ w.users, ∀ id, u.giteaId = some id → ∃ a ∈ w.accounts, a.id = id
  removed : ∀ r ∈ w.removed, r.2.createdBy = some r.1

structure Installed where
  directory : Directory
  consistent : Consistent directory
  noCall : directory.nextCall = 0

/-- An account that a lost answer has left without a row, or a row without its account. -/
def Directory.Torn (w : Directory) : Prop :=
  (∃ a ∈ w.accounts, (∃ k ∈ w.lost, a.createdBy = some k) ∧ ∀ u ∈ w.users, u.giteaId ≠ some a.id) ∨
    ∃ u ∈ w.users, ∃ id, u.giteaId = some id ∧ ∀ a ∈ w.accounts, a.id ≠ id

theorem Directory.Torn.not_agrees {w : Directory} (h : w.Torn) : ¬ Agrees w := by
  rintro ⟨hcreated, hstored, -⟩
  rcases h with ⟨a, ha, ⟨k, -, hk⟩, hnone⟩ | ⟨u, hu, id, hid, hgone⟩
  · obtain ⟨u, hu, hid, -⟩ := hcreated a ha (by rw [hk]; rfl)
    exact hnone u hu hid
  · obtain ⟨a, ha, rfl⟩ := hstored u hu id hid
    exact hgone a ha rfl

/-! ## Steps -/

section Steps

variable {w : Directory} {k id : Nat} {login : String}

theorem exec_of_reliable {β : Type} {e : Stmt β} (he : e.isReliable = true) (i : NetworkInput)
    (w : Directory) : exec e i w = commit (e.run w) w := if_pos he

theorem exec_cases {β : Type} {e : Stmt β} (he : e.isReliable = false) (i : NetworkInput)
    (w : Directory) : (∃ x, exec e i w = (.error x, w)) ∨ ∃ b w', e.run w = .ok (b, w') ∧
      (exec e i w = (.ok b, w') ∨
        ∃ x, exec e i w = (.error x, { w' with lost := e.writer.toList ++ w'.lost })) := by
  simp only [exec, he, Bool.false_eq_true, if_false]
  cases hrun : e.run w with
  | error x =>
    refine .inl ?_
    cases i.fault with
    | none => exact ⟨x, rfl⟩
    | some fault => exact ⟨fault.failure, by simp [Stmt.unanswered, hrun]⟩
  | ok r =>
    cases i.fault with
    | none => exact .inr ⟨r.1, r.2, rfl, .inl rfl⟩
    | some fault =>
      cases hcarried : fault.carriedOut with
      | false => exact .inl ⟨fault.failure, by simp [hcarried]⟩
      | true =>
        exact .inr ⟨r.1, r.2, rfl, .inr ⟨fault.failure, by simp [hcarried, Stmt.unanswered, hrun]⟩⟩

theorem exec_createUser (k : Nat) (login : String) (i : NetworkInput) (w : Directory) :
    (∃ x, exec (Stmt.createUser k login) i w = (.error x, w)) ∨
      w.nameTaken login = false ∧
        (exec (Stmt.createUser k login) i w =
            (.ok (w.nextGiteaId, login), w.createAccount k login) ∨
          ∃ x, exec (Stmt.createUser k login) i w =
            (.error x, { w.createAccount k login with lost := k :: w.lost })) := by
  refine (exec_cases (e := Stmt.createUser k login) rfl i w).imp_right ?_
  rintro ⟨b, w', hrun, hresult⟩
  cases htaken : w.nameTaken login with
  | true => simp [Stmt.run, htaken] at hrun
  | false =>
    simp only [Stmt.run, htaken, Bool.false_eq_true, if_false, Except.ok.injEq, Prod.mk.injEq]
      at hrun
    obtain ⟨rfl, rfl⟩ := hrun
    exact ⟨rfl, hresult⟩

theorem exec_storeUser (k : Nat) (row : StoredUser) (i : NetworkInput) (w : Directory) :
    (∃ x, exec (Stmt.storeUser k row) i w = (.error x, w)) ∨
      w.conflicts row = false ∧
        (exec (Stmt.storeUser k row) i w = (.ok (), w.storeUser row) ∨
          ∃ x, exec (Stmt.storeUser k row) i w =
            (.error x, { w.storeUser row with lost := k :: w.lost })) := by
  refine (exec_cases (e := Stmt.storeUser k row) rfl i w).imp_right ?_
  rintro ⟨b, w', hrun, hresult⟩
  cases hconflicts : w.conflicts row with
  | true => simp [Stmt.run, hconflicts] at hrun
  | false =>
    simp only [Stmt.run, hconflicts, Bool.false_eq_true, if_false, Except.ok.injEq,
      Prod.mk.injEq] at hrun
    obtain ⟨-, rfl⟩ := hrun
    exact ⟨rfl, hresult⟩

/-- A statement that changes nothing. -/
def Stmt.isQuiet {β : Type} : Stmt β → Bool
  | .findUser _ _ => true
  | .createCloneToken _ => true
  | .randomizeUserPassword _ => true
  | _ => false

theorem exec_of_quiet {β : Type} {e : Stmt β} (he : e.isQuiet = true) (i : NetworkInput)
    (w : Directory) : (exec e i w).2 = w := by
  have hrun : e.isReliable = false ∧ (∃ b, e.run w = .ok (b, w)) ∧ e.writer = none := by
    cases e with
    | findUser username email => exact ⟨rfl, ⟨_, rfl⟩, rfl⟩
    | createCloneToken username => exact ⟨rfl, ⟨_, rfl⟩, rfl⟩
    | randomizeUserPassword username => exact ⟨rfl, ⟨_, rfl⟩, rfl⟩
    | _ => cases he
  obtain ⟨hunreliable, ⟨b, hrun⟩, hwriter⟩ := hrun
  rcases exec_cases hunreliable i w with ⟨x, hexec⟩ | ⟨b', w', hrun', hexec | ⟨x, hexec⟩⟩
  · rw [hexec]
  · rw [hrun] at hrun'
    cases hrun'
    rw [hexec]
  · rw [hrun] at hrun'
    cases hrun'
    rw [hexec, hwriter]
    rfl

/-! ## The account of one call -/

/-- The call has no account. -/
structure Idle (k : Nat) (w : Directory) : Prop where
  answered : k ∉ w.lost
  none : ∀ a ∈ w.accounts, a.createdBy ≠ some k

/-- The account is the only one of the call. -/
structure Has (k id : Nat) (login : String) (w : Directory) : Prop where
  account : ⟨id, login, some k⟩ ∈ w.accounts
  only : ∀ a ∈ w.accounts, a.createdBy = some k → a.id = id

/-- The call has an account and no row. -/
structure Fresh (k id : Nat) (login : String) (w : Directory) : Prop extends Has k id login w where
  answered : k ∉ w.lost
  rowless : ∀ u ∈ w.users, u.giteaId ≠ some id

/-- The account is to be removed: it has no row, unless the answer of its row was lost. -/
structure Doomed (k id : Nat) (login : String) (w : Directory) : Prop extends Has k id login w where
  lost_iff : k ∈ w.lost ↔ ∃ u ∈ w.users, u.giteaId = some id

/-- What the call leaves behind. -/
structure Settled (k : Nat) (w : Directory) : Prop where
  torn : k ∈ w.lost → w.Torn
  owned : k ∉ w.lost → ∀ a ∈ w.accounts, a.createdBy = some k → ∃ u ∈ w.users, u.giteaId = some a.id

theorem Fresh.doomed (h : Fresh k id login w) : Doomed k id login w where
  toHas := h.toHas
  lost_iff := by
    refine iff_of_false h.answered ?_
    rintro ⟨u, hu, hid⟩
    exact h.rowless u hu hid

theorem Idle.settled (h : Idle k w) : Settled k w where
  torn := fun hlost => absurd hlost h.answered
  owned := fun _ a ha hk => absurd hk (h.none a ha)

/-- What other calls leave as it is. -/
structure Same (k : Nat) (w w' : Directory) : Prop where
  accounts : ∀ a : GiteaAccount, a.createdBy = some k → (a ∈ w'.accounts ↔ a ∈ w.accounts)
  users : ∀ a ∈ w.accounts, a.createdBy = some k → ∀ u : StoredUser, u.giteaId = some a.id →
    (u ∈ w'.users ↔ u ∈ w.users)
  lost : k ∈ w'.lost ↔ k ∈ w.lost

section Same

variable {w' w'' : Directory}

theorem Same.refl (k : Nat) (w : Directory) : Same k w w :=
  ⟨fun _ _ => Iff.rfl, fun _ _ _ _ _ => Iff.rfl, Iff.rfl⟩

theorem Same.trans (h : Same k w w') (h' : Same k w' w'') : Same k w w'' where
  accounts := fun a ha => (h'.accounts a ha).trans (h.accounts a ha)
  users := fun a ha hk u hu =>
    (h'.users a ((h.accounts a hk).2 ha) hk u hu).trans (h.users a ha hk u hu)
  lost := h'.lost.trans h.lost

theorem Idle.same (h : Idle k w) (hs : Same k w w') : Idle k w' where
  answered := fun hlost => h.answered (hs.lost.1 hlost)
  none := fun a ha hk => h.none a ((hs.accounts a hk).1 ha) hk

theorem Has.same (h : Has k id login w) (hs : Same k w w') : Has k id login w' where
  account := (hs.accounts _ rfl).2 h.account
  only := fun a ha hk => h.only a ((hs.accounts a hk).1 ha) hk

theorem Fresh.same (h : Fresh k id login w) (hs : Same k w w') : Fresh k id login w' where
  toHas := h.toHas.same hs
  answered := fun hlost => h.answered (hs.lost.1 hlost)
  rowless := fun u hu hid => h.rowless u ((hs.users _ h.account rfl u hid).1 hu) hid

theorem Doomed.same (h : Doomed k id login w) (hs : Same k w w') : Doomed k id login w' where
  toHas := h.toHas.same hs
  lost_iff := by
    rw [hs.lost, h.lost_iff]
    refine exists_congr fun u => and_congr_left fun hid => ?_
    exact (hs.users _ h.account rfl u hid).symm

theorem Settled.same (h : Settled k w) (hs : Same k w w') (htorn : w.Torn → w'.Torn) :
    Settled k w' where
  torn := fun hlost => htorn (h.torn (hs.lost.1 hlost))
  owned := fun hlost a ha hk => by
    have hpre := (hs.accounts a hk).1 ha
    obtain ⟨u, hu, hid⟩ := h.owned (fun hl => hlost (hs.lost.2 hl)) a hpre hk
    exact ⟨u, (hs.users a hpre hk u hid).2 hu, hid⟩

end Same

/-! ## What statements do -/

/-- What a statement of the call `k` keeps. -/
structure Keeps (k : Nat) (w w' : Directory) : Prop where
  consistent : Consistent w'
  same : ∀ k', k' ≠ k → Same k' w w'
  torn : w.Torn → w'.Torn

theorem Keeps.refl (h : Consistent w) : Keeps k w w := ⟨h, fun _ _ => .refl _ _, id⟩

theorem Keeps.lose {w' : Directory} (h : Keeps k w w') (hk : k < w'.nextCall) :
    Keeps k w { w' with lost := k :: w'.lost } where
  consistent :=
    { h.consistent with
      lost_lt := fun k' hk' => by
        rcases List.mem_cons.mp hk' with rfl | hk'
        · exact hk
        · exact h.consistent.lost_lt k' hk'
      stored := fun hnil => by cases hnil }
  same := fun k' hne =>
    { h.same k' hne with
      lost := by
        rw [← (h.same k' hne).lost]
        exact ⟨fun hl => (List.mem_cons.mp hl).resolve_left hne, List.mem_cons_of_mem _⟩ }
  torn := fun htorn => by
    refine (h.torn htorn).imp_left ?_
    rintro ⟨a, ha, ⟨k', hk', hcreated⟩, hnone⟩
    exact ⟨a, ha, ⟨k', List.mem_cons_of_mem _ hk', hcreated⟩, hnone⟩

theorem login_ne_of_free (hfree : w.nameTaken login = false) {a : GiteaAccount}
    (ha : a ∈ w.accounts) : a.login ≠ login := fun heq => by
  have hnone := List.any_eq_false.mp hfree a ha
  exact hnone (beq_iff_eq.mpr heq)

theorem keeps_createAccount (h : Consistent w) (hk : k < w.nextCall)
    (hfree : w.nameTaken login = false) : Keeps k w (w.createAccount k login) where
  consistent :=
    { h with
      login_unique := by
        intro a ha b hb heq
        rcases List.mem_cons.mp ha with rfl | ha
        · rcases List.mem_cons.mp hb with rfl | hb
          · rfl
          · exact absurd heq.symm (login_ne_of_free hfree hb)
        · rcases List.mem_cons.mp hb with rfl | hb
          · exact absurd heq (login_ne_of_free hfree ha)
          · exact h.login_unique a ha b hb heq
      id_unique := by
        intro a ha b hb heq
        rcases List.mem_cons.mp ha with rfl | ha
        · rcases List.mem_cons.mp hb with rfl | hb
          · rfl
          · exact absurd heq.symm (Nat.ne_of_lt (h.id_lt b hb))
        · rcases List.mem_cons.mp hb with rfl | hb
          · exact absurd heq (Nat.ne_of_lt (h.id_lt a ha))
          · exact h.id_unique a ha b hb heq
      id_lt := by
        intro a ha
        rcases List.mem_cons.mp ha with rfl | ha
        · exact Nat.lt_succ_self _
        · exact Nat.lt_succ_of_lt (h.id_lt a ha)
      user_lt := fun u hu id hid => Nat.lt_succ_of_lt (h.user_lt u hu id hid)
      created_lt := by
        intro a ha k' hk'
        rcases List.mem_cons.mp ha with rfl | ha
        · cases hk'
          exact hk
        · exact h.created_lt a ha k' hk'
      stored := fun hnil u hu id hid => by
        obtain ⟨a, ha, heq⟩ := h.stored hnil u hu id hid
        exact ⟨a, List.mem_cons_of_mem _ ha, heq⟩ }
  same := fun k' hne =>
    { accounts := fun a ha => by
        refine ⟨fun hmem => (List.mem_cons.mp hmem).resolve_left ?_, List.mem_cons_of_mem _⟩
        rintro rfl
        exact hne (Option.some.inj ha).symm
      users := fun _ _ _ _ _ => Iff.rfl
      lost := Iff.rfl }
  torn := fun htorn => by
    rcases htorn with ⟨a, ha, hlost, hnone⟩ | ⟨u, hu, id, hid, hgone⟩
    · exact .inl ⟨a, List.mem_cons_of_mem _ ha, hlost, hnone⟩
    · refine .inr ⟨u, hu, id, hid, fun a ha => ?_⟩
      rcases List.mem_cons.mp ha with rfl | ha
      · exact (Nat.ne_of_lt (h.user_lt u hu id hid)).symm
      · exact hgone a ha

theorem fresh_createAccount (h : Consistent w) (hidle : Idle k w) :
    Fresh k w.nextGiteaId login (w.createAccount k login) where
  account := List.mem_cons_self
  only := by
    intro a ha hk
    rcases List.mem_cons.mp ha with rfl | ha
    · rfl
    · exact absurd hk (hidle.none a ha)
  answered := hidle.answered
  rowless := fun u hu hid => Nat.lt_irrefl _ (h.user_lt u hu _ hid)

theorem settled_lost_createAccount (h : Consistent w) :
    Settled k { w.createAccount k login with lost := k :: w.lost } where
  torn := fun _ => .inl ⟨⟨w.nextGiteaId, login, some k⟩, List.mem_cons_self,
    ⟨k, List.mem_cons_self, rfl⟩, fun u hu hid => Nat.lt_irrefl _ (h.user_lt u hu _ hid)⟩
  owned := fun hlost => absurd List.mem_cons_self hlost

theorem eq_account (h : Consistent w) (hhas : Has k id login w) {a : GiteaAccount}
    (ha : a ∈ w.accounts) (hid : a.id = id) : a = ⟨id, login, some k⟩ :=
  h.id_unique a ha _ hhas.account hid

theorem keeps_storeUser (h : Consistent w) (hfresh : Fresh k id login w) {row : StoredUser}
    (hrow : row.giteaId = some id) : Keeps k w (w.storeUser row) where
  consistent :=
    { h with
      user_unique := by
        intro u hu v hv hsome heq
        rcases List.mem_cons.mp hu with hnew | hold
        · rcases List.mem_cons.mp hv with hnew' | hold'
          · rw [hnew, hnew']
          · rw [← hnew] at hrow
            exact absurd (heq.symm.trans hrow) (hfresh.rowless v hold')
        · rcases List.mem_cons.mp hv with hnew' | hold'
          · rw [← hnew'] at hrow
            exact absurd (heq.trans hrow) (hfresh.rowless u hold)
          · exact h.user_unique u hold v hold' hsome heq
      user_lt := by
        intro u hu id' hid'
        rcases List.mem_cons.mp hu with rfl | hu
        · rw [hrow] at hid'
          cases hid'
          exact h.id_lt _ hfresh.account
        · exact h.user_lt u hu id' hid'
      stored := by
        intro hnil u hu id' hid'
        rcases List.mem_cons.mp hu with rfl | hu
        · rw [hrow] at hid'
          cases hid'
          exact ⟨_, hfresh.account, rfl⟩
        · exact h.stored hnil u hu id' hid' }
  same := fun k' hne =>
    { accounts := fun _ _ => Iff.rfl
      users := fun a ha hk' u hu => by
        refine ⟨fun hmem => (List.mem_cons.mp hmem).resolve_left ?_, List.mem_cons_of_mem _⟩
        rintro rfl
        rw [hrow] at hu
        rw [eq_account h hfresh.toHas ha (Option.some.inj hu).symm] at hk'
        exact hne (Option.some.inj hk').symm
      lost := Iff.rfl }
  torn := fun htorn => by
    rcases htorn with ⟨a, ha, ⟨k', hlost, hcreated⟩, hnone⟩ | ⟨u, hu, id', hid', hgone⟩
    · refine .inl ⟨a, ha, ⟨k', hlost, hcreated⟩, fun u hu hid' => ?_⟩
      rcases List.mem_cons.mp hu with rfl | hu
      · rw [hrow] at hid'
        rw [eq_account h hfresh.toHas ha (Option.some.inj hid').symm] at hcreated
        exact hfresh.answered (Option.some.inj hcreated ▸ hlost)
      · exact hnone u hu hid'
    · exact .inr ⟨u, List.mem_cons_of_mem _ hu, id', hid', hgone⟩

theorem settled_storeUser (hfresh : Fresh k id login w) {row : StoredUser}
    (hrow : row.giteaId = some id) : Settled k (w.storeUser row) where
  torn := fun hlost => absurd hlost hfresh.answered
  owned := fun _ a ha hk => ⟨row, List.mem_cons_self, by rw [hrow, hfresh.only a ha hk]⟩

theorem doomed_lost_storeUser (hfresh : Fresh k id login w) {row : StoredUser}
    (hrow : row.giteaId = some id) :
    Doomed k id login { w.storeUser row with lost := k :: w.lost } where
  account := hfresh.account
  only := hfresh.only
  lost_iff := iff_of_true List.mem_cons_self ⟨row, List.mem_cons_self, hrow⟩

theorem mem_removeAccount {a : GiteaAccount} : a ∈ (w.removeAccount k login).accounts ↔
    a ∈ w.accounts ∧ a.login ≠ login := by
  simp [Directory.removeAccount]

theorem eq_of_login (h : Consistent w) (hhas : Has k id login w) {a : GiteaAccount}
    (ha : a ∈ w.accounts) (hlogin : a.login = login) : a = ⟨id, login, some k⟩ :=
  h.login_unique a ha _ hhas.account hlogin

theorem keeps_removeAccount (h : Consistent w) (hdoomed : Doomed k id login w) :
    Keeps k w (w.removeAccount k login) where
  consistent :=
    { h with
      login_unique := fun a ha b hb =>
        h.login_unique a (mem_removeAccount.1 ha).1 b (mem_removeAccount.1 hb).1
      id_unique := fun a ha b hb =>
        h.id_unique a (mem_removeAccount.1 ha).1 b (mem_removeAccount.1 hb).1
      id_lt := fun a ha => h.id_lt a (mem_removeAccount.1 ha).1
      created_lt := fun a ha => h.created_lt a (mem_removeAccount.1 ha).1
      stored := by
        intro hnil u hu id' hid'
        obtain ⟨a, ha, rfl⟩ := h.stored hnil u hu id' hid'
        refine ⟨a, mem_removeAccount.2 ⟨ha, fun hlogin => ?_⟩, rfl⟩
        rw [eq_of_login h hdoomed.toHas ha hlogin] at hid'
        have hlost : k ∈ w.lost := hdoomed.lost_iff.2 ⟨u, hu, hid'⟩
        rw [show w.lost = [] from hnil] at hlost
        cases hlost
      removed := by
        intro r hr
        rcases List.mem_append.mp hr with hr | hr
        · obtain ⟨a, ha, rfl⟩ := List.mem_map.mp hr
          obtain ⟨ha, hlogin⟩ := List.mem_filter.mp ha
          rw [eq_of_login h hdoomed.toHas ha (beq_iff_eq.mp hlogin)]
        · exact h.removed r hr }
  same := fun k' hne =>
    { accounts := fun a hk' => by
        refine mem_removeAccount.trans (and_iff_left_of_imp fun ha hlogin => ?_)
        rw [eq_of_login h hdoomed.toHas ha hlogin] at hk'
        exact hne (Option.some.inj hk').symm
      users := fun _ _ _ _ _ => Iff.rfl
      lost := Iff.rfl }
  torn := fun htorn => by
    rcases htorn with ⟨a, ha, ⟨k', hlost, hcreated⟩, hnone⟩ | ⟨u, hu, id', hid', hgone⟩
    · refine .inl ⟨a, mem_removeAccount.2 ⟨ha, fun hlogin => ?_⟩, ⟨k', hlost, hcreated⟩, hnone⟩
      have heq := eq_of_login h hdoomed.toHas ha hlogin
      rw [heq] at hcreated hnone
      obtain ⟨u, hu, hid⟩ := hdoomed.lost_iff.1 (Option.some.inj hcreated ▸ hlost)
      exact hnone u hu hid
    · exact .inr ⟨u, hu, id', hid', fun a ha => hgone a (mem_removeAccount.1 ha).1⟩

theorem settled_removeAccount (h : Consistent w) (hdoomed : Doomed k id login w) :
    Settled k (w.removeAccount k login) where
  torn := fun hlost => by
    obtain ⟨u, hu, hid⟩ := hdoomed.lost_iff.1 hlost
    refine .inr ⟨u, hu, id, hid, fun a ha heq => ?_⟩
    obtain ⟨ha, hlogin⟩ := mem_removeAccount.1 ha
    rw [eq_account h hdoomed.toHas ha heq] at hlogin
    exact hlogin rfl
  owned := fun _ a ha hk => by
    obtain ⟨ha, hlogin⟩ := mem_removeAccount.1 ha
    rw [eq_account h hdoomed.toHas ha (hdoomed.only a ha hk)] at hlogin
    exact absurd rfl hlogin

end Steps

/-! ## Calls that interleave -/

def receivedBy : AccountEvent → Option Nat
  | ⟨_, .receive, _, .ok k⟩ => some k
  | _ => none

/-- Thread `t` executes the call `k`. -/
def Mine (t : Nat) (m : AccountMoment) (k : Nat) : Prop :=
  ∃ ev ∈ m.history, ev.thread = t ∧ receivedBy ev = some k

def Stmt.arrives {β : Type} : Stmt β → Bool
  | .receive => true
  | _ => false

/-- A statement acts for its own call, whose account is in the state that the statement expects. -/
def Stmt.Proper {β : Type} (e : Stmt β) (t : Nat) (m : AccountMoment) : Prop :=
  match e with
  | .createUser k _ => Mine t m k ∧ Idle k m.state
  | .storeUser k row => Mine t m k ∧ ∃ id login, row.giteaId = some id ∧ Fresh k id login m.state
  | .deleteUser k login => Mine t m k ∧ ∃ id, Doomed k id login m.state
  | _ => True

section Moments

variable {m m' m'' : AccountMoment} {t t' k : Nat} {β : Type} {e : Stmt β} {i : NetworkInput}

theorem mine_next (he : e.arrives = false) : Mine t (m.next t' e i) k ↔ Mine t m k := by
  have hnone : ∀ r, receivedBy ⟨t', e, i, r⟩ = none := by
    intro r
    cases e with
    | receive => cases he
    | _ => rfl
  simp only [Mine, Moment.next_history, List.mem_append, List.mem_singleton, or_and_right,
    exists_or, exists_eq_left, hnone]
  simp

theorem mine_receive : Mine t (m.next t' .receive i) k ↔
    Mine t m k ∨ t' = t ∧ m.state.nextCall = k := by
  have hanswer : receivedBy ⟨t', .receive, i, (exec Stmt.receive i m.state).1⟩ =
      some m.state.nextCall := by
    rw [exec_of_reliable rfl]
    rfl
  simp only [Mine, Moment.next_history, List.mem_append, List.mem_singleton, or_and_right,
    exists_or, exists_eq_left, hanswer, Option.some.injEq]

theorem state_receive (m : AccountMoment) (t : Nat) (i : NetworkInput) :
    (m.next t .receive i).state = { m.state with nextCall := m.state.nextCall + 1 } := by
  rw [Moment.next_state, exec_of_reliable rfl]
  rfl

/-- Every call has one thread. -/
structure Ordered (m : AccountMoment) : Prop where
  consistent : Consistent m.state
  received_lt : ∀ t k, Mine t m k → k < m.state.nextCall
  received : ∀ k, k < m.state.nextCall → ∃ t, Mine t m k
  one : ∀ t t' k, Mine t m k → Mine t' m k → t = t'

/-- What a statement of thread `t` keeps. -/
structure Moves (t : Nat) (m : AccountMoment) (w : Directory) : Prop where
  consistent : Consistent w
  torn : m.state.Torn → w.Torn
  same : ∀ k, ¬ Mine t m k → Same k m.state w
  next : w.nextCall = m.state.nextCall

theorem Keeps.moves {w : Directory} (h : Keeps k m.state w) (hk : Mine t m k)
    (hnext : w.nextCall = m.state.nextCall) : Moves t m w where
  consistent := h.consistent
  torn := h.torn
  same := fun k' hk' => h.same k' fun heq => hk' (heq ▸ hk)
  next := hnext

theorem moves_refl (h : Ordered m) (t : Nat) : Moves t m m.state :=
  ⟨h.consistent, id, fun k _ => .refl k _, rfl⟩

theorem moves_next (h : Ordered m) (hproper : e.Proper t m) (he : e.arrives = false) :
    Moves t m (m.next t e i).state := by
  rw [Moment.next_state]
  cases e with
  | receive => cases he
  | createUser k login =>
    have hk := h.received_lt t k hproper.1
    rcases exec_createUser k login i m.state with ⟨x, hexec⟩ | ⟨hfree, hexec | ⟨x, hexec⟩⟩
    · rw [hexec]
      exact moves_refl h t
    · rw [hexec]
      exact (keeps_createAccount h.consistent hk hfree).moves hproper.1 rfl
    · rw [hexec]
      exact ((keeps_createAccount h.consistent hk hfree).lose hk).moves hproper.1 rfl
  | storeUser k row =>
    have hk := h.received_lt t k hproper.1
    obtain ⟨hmine, id, login, hrow, hfresh⟩ := hproper
    rcases exec_storeUser k row i m.state with ⟨x, hexec⟩ | ⟨-, hexec | ⟨x, hexec⟩⟩
    · rw [hexec]
      exact moves_refl h t
    · rw [hexec]
      exact (keeps_storeUser h.consistent hfresh hrow).moves hmine rfl
    · rw [hexec]
      exact ((keeps_storeUser h.consistent hfresh hrow).lose hk).moves hmine rfl
  | deleteUser k login =>
    obtain ⟨hmine, id, hdoomed⟩ := hproper
    rw [exec_of_reliable rfl]
    exact (keeps_removeAccount h.consistent hdoomed).moves hmine rfl
  | findUser username email =>
    rw [exec_of_quiet rfl]
    exact moves_refl h t
  | createCloneToken username =>
    rw [exec_of_quiet rfl]
    exact moves_refl h t
  | randomizeUserPassword username =>
    rw [exec_of_quiet rfl]
    exact moves_refl h t

theorem Consistent.receive {w : Directory} (h : Consistent w) :
    Consistent { w with nextCall := w.nextCall + 1 } :=
  { h with
    created_lt := fun a ha k hk => Nat.lt_succ_of_lt (h.created_lt a ha k hk)
    lost_lt := fun k hk => Nat.lt_succ_of_lt (h.lost_lt k hk) }

theorem ordered_next (h : Ordered m) (hproper : e.Proper t m) : Ordered (m.next t e i) := by
  cases he : e.arrives with
  | false =>
    have hmoves := moves_next (i := i) h hproper he
    refine ⟨hmoves.consistent, fun t' k hk => ?_, fun k hk => ?_, fun t₁ t₂ k h₁ h₂ => ?_⟩
    · rw [hmoves.next]
      exact h.received_lt t' k ((mine_next he).1 hk)
    · rw [hmoves.next] at hk
      obtain ⟨t', ht'⟩ := h.received k hk
      exact ⟨t', (mine_next he).2 ht'⟩
    · exact h.one t₁ t₂ k ((mine_next he).1 h₁) ((mine_next he).1 h₂)
  | true =>
    cases e with
    | receive =>
      refine ⟨?_, fun t' k hk => ?_, fun k hk => ?_, fun t₁ t₂ k h₁ h₂ => ?_⟩
      · rw [state_receive]
        exact h.consistent.receive
      · rw [state_receive]
        rcases mine_receive.1 hk with hold | ⟨-, rfl⟩
        · exact Nat.lt_succ_of_lt (h.received_lt t' k hold)
        · exact Nat.lt_succ_self _
      · rw [state_receive] at hk
        rcases Nat.lt_succ_iff_lt_or_eq.1 hk with hold | rfl
        · obtain ⟨t', ht'⟩ := h.received k hold
          exact ⟨t', mine_receive.2 (.inl ht')⟩
        · exact ⟨t, mine_receive.2 (.inr ⟨rfl, rfl⟩)⟩
      · rcases mine_receive.1 h₁ with h₁ | ⟨rfl, rfl⟩
        · rcases mine_receive.1 h₂ with h₂ | ⟨rfl, rfl⟩
          · exact h.one t₁ t₂ k h₁ h₂
          · exact absurd (h.received_lt _ _ h₁) (Nat.lt_irrefl _)
        · rcases mine_receive.1 h₂ with h₂ | ⟨rfl, -⟩
          · exact absurd (h.received_lt _ _ h₂) (Nat.lt_irrefl _)
          · rfl
    | _ => cases he

/-- What the calls of other threads leave to those of thread `t`. -/
structure Spares (t : Nat) (m m' : AccountMoment) : Prop where
  mine : ∀ k, Mine t m' k ↔ Mine t m k
  same : ∀ k, Mine t m k → Same k m.state m'.state
  torn : m.state.Torn → m'.state.Torn

theorem Spares.refl (t : Nat) (m : AccountMoment) : Spares t m m :=
  ⟨fun _ => Iff.rfl, fun _ _ => .refl _ _, id⟩

theorem Spares.trans (h : Spares t m m') (h' : Spares t m' m'') : Spares t m m'' where
  mine := fun k => (h'.mine k).trans (h.mine k)
  same := fun k hk => (h.same k hk).trans (h'.same k ((h.mine k).2 hk))
  torn := fun htorn => h'.torn (h.torn htorn)

theorem spares_next (h : Ordered m) (hproper : e.Proper t m) (ht : t ≠ t') :
    Spares t' m (m.next t e i) := by
  cases he : e.arrives with
  | false =>
    have hmoves := moves_next (i := i) h hproper he
    exact ⟨fun k => mine_next he, fun k hk => hmoves.same k fun hk' => ht (h.one _ _ k hk' hk),
      hmoves.torn⟩
  | true =>
    cases e with
    | receive =>
      refine ⟨fun k => ?_, fun k _ => ?_, fun htorn => ?_⟩
      · rw [mine_receive]
        exact or_iff_left fun hnew => ht hnew.1
      · rw [state_receive]
        exact ⟨fun _ _ => Iff.rfl, fun _ _ _ _ _ => Iff.rfl, Iff.rfl⟩
      · rw [state_receive]
        exact htorn
    | _ => cases he

def contract : Contract Stmt NetworkInput Directory String where
  ok _ := True
  inv := Ordered
  rely := Spares
  guar x := x.stmt.Proper x.thread x.pre
  rely_refl := Spares.refl
  rely_trans _ _ _ _ := Spares.trans
  inv_post _ h _ hproper := ordered_next h hproper
  rely_of_guar _ _ h _ hproper ht := spares_next h hproper ht

/-! ## One call -/

/-- Thread `t` executes the call `k` and no other one. -/
def Owns (t k : Nat) (m : AccountMoment) : Prop := ∀ k', Mine t m k' ↔ k' = k

/-- What the thread leaves behind. -/
def Left (t : Nat) (m : AccountMoment) : Prop := ∀ k, Mine t m k → Settled k m.state

theorem Owns.mine (h : Owns t k m) : Mine t m k := (h k).2 rfl

theorem Owns.spared (h : Owns t k m) (hr : Spares t m m') : Owns t k m' :=
  fun k' => (hr.mine k').trans (h k')

theorem Owns.next {s : Nat} (h : Owns t k m) (he : e.arrives = false) : Owns t k (m.next s e i) :=
  fun k' => (mine_next he).trans (h k')

theorem Owns.same (h : Owns t k m) (hr : Spares t m m') : Same k m.state m'.state :=
  hr.same k h.mine

theorem Owns.left (h : Owns t k m) (hs : Settled k m.state) : Left t m :=
  fun k' hk' => (h k').1 hk' ▸ hs

theorem safe_settled {r : Except String Unit} (h : Owns t k m) (hs : Settled k m.state) :
    Safe contract t (fun _ m => Left t m) (.ret r) m :=
  fun _ hr _ => (h.spared hr).left (hs.same (h.same hr) hr.torn)

theorem safe_refuseIf {α : Type} {Q : Except String α → AccountMoment → Prop} {condition : Bool}
    {x : String} {f : Unit → AccountCall α} (hok : Safe contract t Q (f ()) m)
    (herr : Safe contract t Q (.ret (.error x)) m) :
    Safe contract t Q (refuseIf condition x >>= f) m := by
  cases condition with
  | false => exact hok
  | true => exact herr

theorem next_of_quiet (he : e.isQuiet = true) : (m.next t e i).state = m.state :=
  exec_of_quiet he i m.state

variable {id : Nat} {login : String}

/-- How the part behind the account ends. -/
def Stored (t k id : Nat) (login : String) (r : Except String Unit) (m : AccountMoment) : Prop :=
  Owns t k m ∧ match r with
    | .ok () => Settled k m.state
    | .error _ => Doomed k id login m.state

theorem Stored.spared {r : Except String Unit} (h : Stored t k id login r m) (hr : Spares t m m') :
    Stored t k id login r m' := by
  refine ⟨h.1.spared hr, ?_⟩
  cases r with
  | ok => exact h.2.same (h.1.same hr) hr.torn
  | error x => exact h.2.same (h.1.same hr)

theorem safe_stored {r : Except String Unit} (h : Stored t k id login r m) :
    Safe contract t (Stored t k id login) (.ret r) m := fun _ hr _ => h.spared hr

theorem safe_storeUser (h : Owns t k m) (hfresh : Fresh k id login m.state) (username email : String) :
    Safe contract t (Stored t k id login) (do
      await (.createCloneToken username)
      await (.randomizeUserPassword username)
      await (.storeUser k ⟨some id, login, some email⟩) : AccountCall Unit) m := by
  refine .await_bind fun m₁ i₁ hr₁ _ _ => ⟨trivial, ?_⟩
  have howns₁ := (h.spared hr₁).next (s := t) (e := .createCloneToken username) (i := i₁) rfl
  have hfresh₁ : Fresh k id login (m₁.next t (.createCloneToken username) i₁).state := by
    rw [next_of_quiet rfl]
    exact hfresh.same (h.same hr₁)
  refine .onValue (fun _ _ => ?_) fun x _ => safe_stored ⟨howns₁, hfresh₁.doomed⟩
  refine .await_bind fun m₂ i₂ hr₂ _ _ => ⟨trivial, ?_⟩
  have howns₂ := (howns₁.spared hr₂).next (s := t) (e := .randomizeUserPassword username)
    (i := i₂) rfl
  have hfresh₂ : Fresh k id login (m₂.next t (.randomizeUserPassword username) i₂).state := by
    rw [next_of_quiet rfl]
    exact hfresh₁.same (howns₁.same hr₂)
  refine .onValue (fun _ _ => ?_) fun x _ => safe_stored ⟨howns₂, hfresh₂.doomed⟩
  refine .await fun m₃ i₃ hr₃ _ _ => ?_
  have howns₃ := howns₂.spared hr₃
  have hfresh₃ := hfresh₂.same (howns₂.same hr₃)
  refine ⟨⟨howns₃.mine, id, login, rfl, hfresh₃⟩, fun m₄ hr₄ _ => ?_⟩
  refine Stored.spared ⟨howns₃.next rfl, ?_⟩ hr₄
  rw [Moment.next_state]
  rcases exec_storeUser k ⟨some id, login, some email⟩ i₃ m₃.state with
    ⟨x, hexec⟩ | ⟨-, hexec | ⟨x, hexec⟩⟩
  · rw [hexec]
    exact hfresh₃.doomed
  · rw [hexec]
    exact settled_storeUser hfresh₃ rfl
  · rw [hexec]
    exact doomed_lost_storeUser hfresh₃ rfl

theorem safe_deleteUser (h : Owns t k m) (hdoomed : Doomed k id login m.state) (x : String) :
    Safe contract t (fun _ m => Left t m) (do
      await (.deleteUser k login)
      throw x : AccountCall Unit) m := by
  refine .await_bind fun m₁ i₁ hr₁ hi₁ _ => ?_
  have howns := h.spared hr₁
  have hdoomed₁ := hdoomed.same (h.same hr₁)
  refine ⟨⟨howns.mine, id, hdoomed₁⟩, ?_⟩
  have hsettled : Settled k (m₁.next t (.deleteUser k login) i₁).state := by
    rw [Moment.next_state, exec_of_reliable rfl]
    exact settled_removeAccount hi₁.consistent hdoomed₁
  exact .onValue (fun _ _ => safe_settled (howns.next rfl) hsettled)
    fun _ _ => safe_settled (howns.next rfl) hsettled

theorem safe_createUser (h : Owns t k m) (hidle : Idle k m.state) (username email : String) :
    Safe contract t (fun _ m => Left t m) (do
      let (giteaId, login) ← await (.createUser k username)
      tryCatch (do
          await (.createCloneToken username)
          await (.randomizeUserPassword username)
          await (.storeUser k ⟨some giteaId, login, some email⟩))
        fun x => do
          await (.deleteUser k login)
          throw x : AccountCall Unit) m := by
  refine .await_bind fun m₁ i₁ hr₁ hi₁ _ => ?_
  have howns := h.spared hr₁
  have hidle₁ := hidle.same (h.same hr₁)
  refine ⟨⟨howns.mine, hidle₁⟩, ?_⟩
  have hnext := howns.next (s := t) (e := .createUser k username) (i := i₁) rfl
  have hordered := ordered_next (i := i₁) hi₁ (e := .createUser k username) ⟨howns.mine, hidle₁⟩
  rcases exec_createUser k username i₁ m₁.state with ⟨x, hexec⟩ | ⟨-, hexec | ⟨x, hexec⟩⟩
  · have hstate : (m₁.next t (.createUser k username) i₁).state = m₁.state := by
      rw [Moment.next_state, hexec]
    rw [hexec]
    exact safe_settled hnext (hstate ▸ hidle₁.settled)
  · have hstate : (m₁.next t (.createUser k username) i₁).state =
        m₁.state.createAccount k username := by
      rw [Moment.next_state, hexec]
    have hfresh : Fresh k m₁.state.nextGiteaId username (m₁.state.createAccount k username) :=
      fresh_createAccount hi₁.consistent hidle₁
    rw [← hstate] at hfresh
    rw [hexec]
    refine .andThen hordered (safe_storeUser hnext hfresh username email) fun r m₂ _ hstored => ?_
    cases r with
    | ok => exact safe_settled hstored.1 hstored.2
    | error x => exact safe_deleteUser hstored.1 hstored.2 x
  · have hstate : (m₁.next t (.createUser k username) i₁).state =
        { m₁.state.createAccount k username with lost := k :: m₁.state.lost } := by
      rw [Moment.next_state, hexec]
    rw [hexec]
    exact safe_settled hnext (hstate ▸ settled_lost_createAccount hi₁.consistent)

theorem safe_provisionManagedUser (hnone : ∀ k, ¬ Mine t m k) (username email : String) :
    Safe contract t (fun _ m => Left t m) (provisionManagedUser username email) m := by
  refine .await_bind fun m₁ i₁ hr₁ hi₁ _ => ⟨trivial, ?_⟩
  have howns : Owns t m₁.state.nextCall (m₁.next t .receive i₁) := fun k' => by
    have hnone₁ : ¬ Mine t m₁ k' := fun hmine => hnone k' ((hr₁.mine k').1 hmine)
    rw [mine_receive, or_iff_right hnone₁, and_iff_right rfl]
    exact eq_comm
  have hidle : Idle m₁.state.nextCall (m₁.next t .receive i₁).state := by
    rw [state_receive]
    refine ⟨fun hlost => ?_, fun a ha hk => ?_⟩
    · exact Nat.lt_irrefl _ (hi₁.consistent.lost_lt _ hlost)
    · exact Nat.lt_irrefl _ (hi₁.consistent.created_lt a ha _ hk)
  have hanswer : (exec Stmt.receive i₁ m₁.state).1 = .ok m₁.state.nextCall := by
    rw [exec_of_reliable rfl]
    rfl
  rw [hanswer]
  refine safe_refuseIf ?_ (safe_settled howns hidle.settled)
  refine .await_bind fun m₂ i₂ hr₂ _ _ => ⟨trivial, ?_⟩
  have howns₂ := (howns.spared hr₂).next (s := t) (e := .findUser username email) (i := i₂) rfl
  have hidle₂ : Idle m₁.state.nextCall (m₂.next t (.findUser username email) i₂).state := by
    rw [next_of_quiet rfl]
    exact hidle.same (howns.same hr₂)
  refine .onValue (fun existing _ => ?_) fun x _ => safe_settled howns₂ hidle₂.settled
  exact safe_refuseIf (safe_createUser howns₂ hidle₂ username email)
    (safe_settled howns₂ hidle₂.settled)

end Moments

/-! ## Runs -/

theorem lost_run {β : Type} {e : Stmt β} {w w' : Directory} {b : β} (h : e.run w = .ok (b, w')) :
    w'.lost = w.lost := by
  cases e with
  | createUser call username =>
    dsimp only [Stmt.run] at h
    split at h
    · cases h
    · cases h
      rfl
  | storeUser call row =>
    dsimp only [Stmt.run] at h
    split at h
    · cases h
    · cases h
      rfl
  | _ =>
    cases h
    rfl

theorem lost_exec {β : Type} (e : Stmt β) (i : NetworkInput) (w : Directory) :
    (exec e i w).2.lost = [] ↔ w.lost = [] ∧ ¬ e.Loses i w := by
  have hcommit : (commit (e.run w) w).2.lost = w.lost := by
    cases hrun : e.run w with
    | error x => rfl
    | ok r => exact lost_run hrun
  cases he : e.isReliable with
  | true =>
    rw [exec_of_reliable he, hcommit]
    refine (and_iff_left ?_).symm
    rintro ⟨hwriter, -⟩
    cases e with
    | createUser call username => cases he
    | storeUser call row => cases he
    | _ => cases hwriter
  | false =>
    simp only [exec, he, Bool.false_eq_true, if_false]
    cases hfault : i.fault with
    | none =>
      dsimp only
      rw [hcommit]
      refine (and_iff_left ?_).symm
      rintro ⟨-, ⟨fault, hsome, -⟩, -⟩
      rw [hfault] at hsome
      cases hsome
    | some fault =>
      dsimp only
      cases hcarried : fault.carriedOut with
      | false =>
        refine (and_iff_left ?_).symm
        rintro ⟨-, ⟨fault', hsome, hcarried'⟩, -⟩
        rw [hfault] at hsome
        cases hsome
        rw [hcarried] at hcarried'
        cases hcarried'
      | true =>
        rw [if_pos rfl]
        cases hrun : e.run w with
        | error x =>
          simp only [Stmt.unanswered, hrun]
          refine (and_iff_left ?_).symm
          rintro ⟨-, -, r, hr⟩
          rw [hrun] at hr
          cases hr
        | ok r =>
          have hloses : e.Loses i w ↔ e.writer.isSome = true :=
            and_iff_left ⟨⟨fault, hfault, hcarried⟩, r, hrun⟩
          simp only [Stmt.unanswered, hrun, lost_run hrun, List.append_eq_nil_iff, hloses]
          cases e.writer <;> simp

theorem lost_iff {w : Directory} {tr : List AccountStep} {c : AccountSystem}
    (h : Run Entry (Config.start w) tr c) (hw : w.lost = []) :
    c.moment.state.lost = [] ↔ ∀ x ∈ tr, ¬ Lost x := by
  induction h with
  | refl => exact iff_of_true hw fun x hx => by cases hx
  | spawn _ _ ih => exact ih
  | @step tr m ts t β e k i _ _ ih =>
    rw [Moment.next_state, lost_exec, ih]
    simp only [List.mem_append, List.mem_singleton, or_imp, forall_and, forall_eq]
    rfl

theorem Installed.lost (w : Installed) : w.directory.lost = [] := by
  refine List.eq_nil_iff_forall_not_mem.mpr fun k hk => ?_
  have hlt := w.consistent.lost_lt k hk
  rw [w.noCall] at hlt
  exact Nat.not_lt_zero _ hlt

theorem Installed.ordered (w : Installed) : Ordered ⟨w.directory, []⟩ where
  consistent := w.consistent
  received_lt := by
    rintro t k ⟨ev, hev, -⟩
    cases hev
  received := fun k hk => by
    rw [show (⟨w.directory, []⟩ : AccountMoment).state.nextCall = 0 from w.noCall] at hk
    cases hk
  one := by
    rintro t t' k ⟨ev, hev, -⟩
    cases hev

section Runs

variable {w : Installed} {tr : List AccountStep} {c : AccountSystem}

theorem settled_of_returned (h : Run Entry (Config.start w.directory) tr c)
    (hdone : ∀ p ∈ c.threads, p.returned = true) :
    Ordered c.moment ∧ ∀ k, k < c.moment.state.nextCall → Settled k c.moment.state := by
  have hsound : Run.Sound contract Left c :=
    (h.safe contract (fun m p t _ ht hentry => by
        obtain ⟨username, email, rfl⟩ := hentry
        refine safe_provisionManagedUser (fun k hk => ?_) username email
        obtain ⟨ev, hev, hthread, -⟩ := hk
        exact ht ev hev hthread)
      (Run.sound_start contract _ w.ordered) fun _ _ => trivial).1
  have hordered : Ordered c.moment := hsound.1
  refine ⟨hordered, fun k hk => ?_⟩
  obtain ⟨t, ht⟩ := hordered.received k hk
  obtain ⟨ev, hev, rfl, -⟩ := id ht
  have hlen := hsound.2.1 ev hev
  exact hsound.post_of_returned (List.getElem?_eq_getElem hlen)
    (hdone _ (List.getElem_mem hlen)) k ht

/-- When all calls have returned, accounts and rows agree exactly if no effect's answer was lost. -/
theorem accounts_agree_iff (h : Run Entry (Config.start w.directory) tr c)
    (hdone : ∀ p ∈ c.threads, p.returned = true) :
    Agrees c.moment.state ↔ ∀ x ∈ tr, ¬ Lost x := by
  obtain ⟨hordered, hsettled⟩ := settled_of_returned h hdone
  rw [← lost_iff h w.lost]
  constructor
  · intro hagrees
    refine List.eq_nil_iff_forall_not_mem.mpr fun k hk => ?_
    exact ((hsettled k (hordered.consistent.lost_lt k hk)).torn hk).not_agrees hagrees
  · intro hnil
    refine ⟨fun a ha hcreated => ?_, hordered.consistent.stored hnil, hordered.consistent.removed⟩
    obtain ⟨k, hk⟩ := Option.isSome_iff_exists.mp hcreated
    have hanswered : k ∉ c.moment.state.lost := by
      rw [hnil]
      exact List.not_mem_nil
    obtain ⟨u, hu, hid⟩ :=
      (hsettled k (hordered.consistent.created_lt a ha k hk)).owned hanswered a ha hk
    refine ⟨u, hu, hid, fun v hv hid' => ?_⟩
    exact hordered.consistent.user_unique v hv u hu (by rw [hid']; rfl) (hid'.trans hid.symm)

end Runs

/-! ## Two calls for one name, and a lost answer -/

def newInstallation : Installed where
  directory :=
    { accounts := [⟨0, "initpad", none⟩], users := [], slugs := [], nextGiteaId := 1 }
  consistent :=
    { login_unique := by decide
      id_unique := by decide
      id_lt := by decide
      user_unique := fun u hu => by cases hu
      user_lt := fun u hu => by cases hu
      created_lt := by
        intro a ha k hk
        rw [List.mem_singleton.mp ha] at hk
        cases hk
      lost_lt := fun k hk => by cases hk
      stored := fun _ u hu => by cases hu
      removed := fun r hr => by cases hr }
  noCall := rfl

def registrations : List (AccountCall Unit) :=
  [provisionManagedUser "ana" "ana@example", provisionManagedUser "ana" "ana@other.example"]

/-- Both calls have looked for the name before it is taken. -/
def bothAtOnce : List (Nat × NetworkInput) :=
  [(0, {}), (0, {}), (1, {}), (1, {}), (0, {}), (1, {}), (0, {}), (0, {}), (0, {})]

theorem entry_registrations (m : AccountMoment) : ∀ p ∈ registrations, Entry m p := by
  intro p hp
  rcases List.mem_cons.mp hp with rfl | hp
  · exact ⟨_, _, rfl⟩
  · exact ⟨_, _, List.mem_singleton.mp hp⟩

theorem accounts_agree_both : ∃ (tr : List AccountStep) (c : AccountSystem),
    Run Entry (Config.start newInstallation.directory) tr c ∧
      c.moment.state.users.map (·.email) = [some "ana@example"] ∧ Agrees c.moment.state := by
  obtain ⟨tr, c, hrun, hcheck⟩ := run_of_plays (Config.start newInstallation.directory)
    registrations bothAtOnce
    (fun tr c => c.threads.all (·.returned) && tr.all (·.input.fault.isNone) &&
      c.moment.state.users.map (·.email) == [some "ana@example"])
    (entry_registrations _) (by decide)
  simp only [Bool.and_eq_true, List.all_eq_true, beq_iff_eq] at hcheck
  obtain ⟨⟨hdone, hfaultless⟩, hstored⟩ := hcheck
  refine ⟨tr, c, hrun, hstored, (accounts_agree_iff hrun hdone).2 fun x hx hlost => ?_⟩
  obtain ⟨-, ⟨fault, hfault, -⟩, -⟩ := hlost
  have hnone := hfaultless x hx
  rw [hfault] at hnone
  cases hnone

def lostAnswer : NetworkInput := { fault := some ⟨"socket hang up", true⟩ }

/-- Gitea has created the account, and the call does not know. -/
theorem account_left_behind : ¬ ∀ (w : Installed) (tr : List AccountStep) (c : AccountSystem),
    Run Entry (Config.start w.directory) tr c → (∀ p ∈ c.threads, p.returned = true) →
      Agrees c.moment.state := by
  intro h
  have hentry : ∀ p ∈ [provisionManagedUser "ana" "ana@example"],
      Entry (Config.start newInstallation.directory).moment p := by
    intro p hp
    exact ⟨_, _, List.mem_singleton.mp hp⟩
  obtain ⟨tr, c, hrun, hcheck⟩ := run_of_plays (Config.start newInstallation.directory)
    [provisionManagedUser "ana" "ana@example"] [(0, {}), (0, {}), (0, lostAnswer)]
    (fun _ c => c.threads.all (·.returned) && c.moment.state.users.isEmpty &&
      c.moment.state.accounts.any (·.createdBy.isSome)) hentry (by decide)
  simp only [Bool.and_eq_true, List.all_eq_true, List.any_eq_true, List.isEmpty_iff] at hcheck
  obtain ⟨⟨hdone, hempty⟩, a, ha, hcreated⟩ := hcheck
  obtain ⟨u, hu, -⟩ := (h newInstallation tr c hrun hdone).created a ha hcreated
  rw [hempty] at hu
  cases hu

end InitPad.Accounts.Provisioning
