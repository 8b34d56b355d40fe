import InitPad.Accounts.Writes
import InitPad.Interleave.Trace

/-!
# InitPad.Accounts.Registration

Self-registration on an installation that is closed: only the first account may register, with the
setup token. The registration lock orders the calls of one API process; several processes share
the table of users alone. A call counts the users before it provisions the account, and `Current`
is the condition under which its counts still hold when the row is inserted.
-/

namespace InitPad.Accounts

open Interleave Store
open Prog (await refuseIf lift)

variable {β : Type}

/-! ## What a call has counted -/

def Stmt.received : Stmt β → Option RegisterDto
  | .registrationLock dto => some dto
  | _ => none

def Stmt.counted : Stmt β → Except Failure β → Option Nat
  | .countUsers, .ok n => some n
  | _, _ => none

/-- The call that a process is executing, with the numbers of users that it has counted. -/
structure Call where
  dto : RegisterDto
  counts : List Nat
  deriving DecidableEq

def Call.after (call : Option Call) (ev : Event Stmt ApiInput Failure) : Option Call :=
  match ev.stmt.received with
  | some dto => some ⟨dto, []⟩
  | none => call.map fun call => { call with
      counts := call.counts ++ (ev.stmt.counted ev.result).toList }

def lastCall (h : History) : Option Call := h.foldl Call.after none

theorem lastCall_append (h : History) (ev : Event Stmt ApiInput Failure) :
    lastCall (h ++ [ev]) = Call.after (lastCall h) ev := by
  simp [lastCall]

/-- Statements that begin no call and count nothing. -/
def Within (e : Stmt β) : Prop := e.received = none ∧ ∀ r, e.counted r = none

theorem lastCall_within {e : Stmt β} (he : Within e) (h : History) (t : Nat) (i : ApiInput)
    (r : Except Failure β) : lastCall (h ++ [⟨t, e, i, r⟩]) = lastCall h := by
  rw [lastCall_append]
  simp [Call.after, he.1, he.2]

section

variable [Installation]

def process (calls : List (RegisterDto × SessionClient)) : ApiCall Unit :=
  .forEach (fun call => (register call.1 call.2).ignoreError) calls

def Processes (_ : AccountMoment) (p : ApiCall Unit) : Prop := ∃ calls, p = process calls

/-- What the call has counted is the number of users when it inserts its row. -/
def Current (x : AccountStep) : Prop :=
  x.stmt.created.isSome → ∀ call, lastCall (own x.thread x.pre.history) = some call →
    ∀ n ∈ call.counts, x.pre.state.users.rows.length = n

def Creates (x : AccountStep) : Prop :=
  x.pre.state.users.rows.length < x.post.state.users.rows.length

def PresentsToken (x : AccountStep) : Prop :=
  ∃ call, lastCall (own x.thread x.pre.history) = some call ∧
    trim (call.dto.bootstrapToken.getD "") = settings.bootstrapToken

structure FirstUserOnly (tr : List AccountStep) (c : AccountSystem) : Prop where
  one : c.moment.state.users.rows.length ≤ 1
  token : settings.bootstrapToken ≠ "" → ∀ x ∈ tr, Creates x → PresentsToken x
  admin : c.moment.state.users.count (·.platformRole = .admin) ≤ 1

/-! ## One call -/

/-- The call has counted no users at first, and as the first one it has presented the token. -/
def Ready (h : History) : Prop :=
  ∃ dto n, lastCall h = some ⟨dto, [0, n]⟩ ∧
    (n = 0 → bootstrapTokenEnforced → assertBootstrapToken dto.bootstrapToken = .ok ())

def Counted (e : Stmt β) (h : History) : Prop := e.created.isSome → Ready h

variable {t : Nat} {h : History} {α : Type}

theorem meets_ready {p : ApiCall α} (hp : p.Only fun e => Within e) (hready : Ready h) :
    p.Meets (fun _ => True) Counted (fun _ _ => True) t h := by
  refine .mono (fun _ _ _ => trivial) (.of_only (B := Ready) ?_ hp hready)
  intro γ e h he hready
  refine ⟨fun _ => hready, fun i r _ => ?_⟩
  obtain ⟨dto, n, hcall, htoken⟩ := hready
  exact ⟨dto, n, (lastCall_within he h t i r).trans hcall, htoken⟩

omit [Installation] in
theorem within_aside (what : String) :
    (await (.aside what) : ApiCall Unit).Only fun e => Within e := .await ⟨rfl, fun _ => rfl⟩

omit [Installation] in
theorem within_issue (user : UserRow) (client : SessionClient) :
    (issue user client).Only fun e => Within e := by
  refine .bind (.await ⟨rfl, fun _ => rfl⟩) fun now => ?_
  refine .bind (.await ⟨rfl, fun _ => rfl⟩) fun _ => ?_
  refine .bind (.await ⟨rfl, fun _ => rfl⟩) fun sid => ?_
  exact .bind (.await ⟨rfl, fun _ => rfl⟩) fun _ => .ret _

omit [Installation] in
theorem within_storeManagedUser (input : ManagedUserInput) (username email : String)
    (giteaUser : GiteaUser) :
    (storeManagedUser input username email giteaUser).Only fun e => Within e := by
  refine .bind (.await ⟨rfl, fun _ => rfl⟩) fun accessToken => ?_
  refine .bind (within_aside _) fun _ => ?_
  refine .bind (.await ⟨rfl, fun _ => rfl⟩) fun passwordHash => ?_
  exact .await ⟨rfl, fun _ => rfl⟩

theorem within_provisionManagedUser (input : ManagedUserInput) :
    (provisionManagedUser input).Only fun e => Within e := by
  refine .bind (.ret _) fun _ => ?_
  refine .bind (.await ⟨rfl, fun _ => rfl⟩) fun existing => ?_
  refine .bind (.ret _) fun _ => ?_
  refine .bind (.await ⟨rfl, fun _ => rfl⟩) fun giteaUser => ?_
  refine .tryCatch (within_storeManagedUser ..) fun e => ?_
  exact .bind (.ignoreError (within_aside _)) fun _ => .ret _

theorem meets_registerCounted (dto : RegisterDto) (client : SessionClient) (n : Nat)
    (hcall : lastCall h = some ⟨dto, [0, n]⟩) :
    (registerCounted dto client n).Meets (fun _ => True) Counted (fun _ _ => True) t h := by
  unfold registerCounted
  generalize hr : (if n = 0 ∧ bootstrapTokenEnforced then assertBootstrapToken dto.bootstrapToken
    else .ok ()) = r
  cases r with
  | error x => exact trivial
  | ok u =>
    have hready : Ready h := by
      refine ⟨dto, n, hcall, fun hn henforced => ?_⟩
      rw [if_pos ⟨hn, henforced⟩] at hr
      exact hr
    refine meets_ready (.bind (.ret _) fun _ => ?_) hready
    refine .bind (within_provisionManagedUser _) fun user => ?_
    exact .bind (within_aside _) fun _ => .bind (within_issue user client) fun _ => .ret _

theorem meets_register (hclosed : settings.registrationMode ≠ .open) (dto : RegisterDto)
    (client : SessionClient) : (register dto client).Meets (fun _ => True) Counted (fun _ _ => True) t h := by
  have hnone : ∀ {γ : Type} {e : Stmt γ} {h : History}, e.created = none → Counted e h :=
    fun hnone hsome => by rw [hnone] at hsome; cases hsome
  refine .await_bind (hnone rfl) (fun i _ _ => ?_) fun _ _ _ => trivial
  have hcall : lastCall (h ++ [(⟨t, .registrationLock dto, i, .ok ()⟩ :
      Event Stmt ApiInput Failure)]) = some ⟨dto, []⟩ := by
    rw [lastCall_append]
    rfl
  generalize h ++ [(⟨t, .registrationLock dto, i, .ok ()⟩ : Event Stmt ApiInput Failure)] = h₁
    at hcall
  unfold registerUnlocked registrationAvailable
  by_cases hsaas : settings.edition = .saas
  · rw [if_pos hsaas]
    exact trivial
  rw [if_neg hsaas, if_neg hclosed]
  refine ⟨hnone rfl, fun i r _ => ?_⟩
  cases r with
  | error x => exact trivial
  | ok first =>
    cases first with
    | succ k => exact trivial
    | zero =>
      refine ⟨hnone rfl, fun j r _ => ?_⟩
      cases r with
      | error x => exact trivial
      | ok n =>
        refine meets_registerCounted dto client n ?_
        rw [lastCall_append, lastCall_append, hcall]
        rfl

theorem meets_process (hclosed : settings.registrationMode ≠ .open)
    (calls : List (RegisterDto × SessionClient)) :
    (process calls).Meets (fun _ => True) Counted (fun _ _ => True) t h := by
  refine .forEach (B := fun _ => True) (fun call h _ => ?_) calls h trivial
  exact (meets_register hclosed call.1 call.2).andThen fun _ _ _ => trivial

/-! ## Runs -/

theorem length_post (x : AccountStep) :
    x.post.state.users.rows.length = x.pre.state.users.rows.length ∨
      x.stmt.created.isSome ∧
        x.post.state.users.rows.length = x.pre.state.users.rows.length + 1 := by
  have heffect := post_effect x
  generalize x.post.state = w' at heffect ⊢
  cases heffect with
  | createdUser hcreated =>
    exact .inr ⟨by rw [hcreated]; rfl, by simp [Table.insert, World.tick]⟩
  | rewroteUsers => exact .inl (by simp [Table.updateMany, World.tick])
  | _ => exact .inl rfl

variable {w : World} {tr : List AccountStep} {c : AccountSystem}

/-- In every run in which the counts of a call still hold when it inserts its row, the first user
alone is created, with the setup token. -/
theorem first_user_only (hclosed : settings.registrationMode ≠ .open)
    (hempty : w.users.rows = []) (hrun : Run Processes (Config.start w) tr c)
    (hcurrent : ∀ x ∈ tr, Current x) : FirstUserOnly tr c := by
  have hmeets : ∀ x ∈ tr, Counted x.stmt (own x.thread x.pre.history) := by
    have hentry : ∀ (m : AccountMoment) (p : ApiCall Unit) (t : Nat), Processes m p →
        p.Meets (fun _ => True) Counted (fun _ _ => True) t [] := by
      rintro m p t ⟨calls, rfl⟩
      exact meets_process hclosed calls
    exact (Run.meets hentry hrun fun _ _ => trivial).2
  have hready : ∀ x ∈ tr, x.stmt.created.isSome →
      x.pre.state.users.rows.length = 0 ∧ ∃ dto n,
        lastCall (own x.thread x.pre.history) = some ⟨dto, [0, n]⟩ ∧ n = 0 ∧
          (bootstrapTokenEnforced → assertBootstrapToken dto.bootstrapToken = .ok ()) := by
    intro x hx hcreated
    obtain ⟨dto, n, hcall, htoken⟩ := hmeets x hx hcreated
    have hcounts := hcurrent x hx hcreated _ hcall
    have hzero := hcounts 0 (by simp)
    have hn := hcounts n (by simp)
    have hn : n = 0 := hn.symm.trans hzero
    exact ⟨hzero, dto, n, hcall, hn, htoken hn⟩
  have hone : c.moment.state.users.rows.length ≤ 1 := by
    refine Run.preserves (fun m => m.state.users.rows.length ≤ 1)
      (fun x => x.stmt.created.isSome → x.pre.state.users.rows.length = 0) ?_ hrun
      (fun x hx hcreated => (hready x hx hcreated).1) (by simp [Config.start, hempty])
    intro x hzero hpre
    rcases length_post x with hsame | ⟨hcreated, hnext⟩
    · omega
    · have := hzero hcreated
      omega
  constructor
  case one => exact hone
  case admin => exact Nat.le_trans List.countP_le_length hone
  case token =>
    intro hconfigured x hx hcreates
    rcases length_post x with hsame | ⟨hcreated, -⟩
    · unfold Creates at hcreates
      omega
    obtain ⟨-, dto, n, hcall, -, htoken⟩ := hready x hx hcreated
    have henforced : bootstrapTokenEnforced = true := by simp [bootstrapTokenEnforced, hconfigured]
    have hok := htoken henforced
    refine ⟨_, hcall, ?_⟩
    unfold assertBootstrapToken at hok
    rw [if_neg hconfigured] at hok
    split at hok
    · cases hok
    · rename_i hequal
      simpa using (congrArg Sha256.text (not_not.mp hequal)).symm

end

/-! ## Two processes -/

def firstCall : RegisterDto := ⟨"ada", "ada@example.org", "correct horse", some " setup "⟩

def secondCall : RegisterDto := ⟨"bob", "bob@example.org", "battery staple", none⟩

def answered (t n : Nat) (giteaUser : GiteaUser) : List (Nat × ApiInput) :=
  List.replicate n (t, { giteaUser })

def current (x : AccountStep) : Bool :=
  x.stmt.created.isNone || (lastCall (own x.thread x.pre.history)).all fun call =>
    call.counts.all fun n => x.pre.state.users.rows.length = n

section

attribute [local instance] closedInstallation

theorem current_of_bool {x : AccountStep} (h : current x = true) : Current x := by
  intro hcreated call hcall n hn
  simp only [current, hcall, Option.all_some, Bool.or_eq_true, Option.isNone_iff_eq_none] at h
  rcases h with hnone | hcounts
  · rw [hnone] at hcreated
    cases hcreated
  · simpa using List.all_eq_true.mp hcounts n hn

theorem processes_map {m : AccountMoment} (bodies : List (List (RegisterDto × SessionClient))) :
    ∀ p ∈ bodies.map process, Processes m p := by
  intro p hp
  obtain ⟨calls, -, rfl⟩ := List.mem_map.mp hp
  exact ⟨calls, rfl⟩

/-- One process: the second call finds registration closed. -/
theorem first_user_alone : ∃ (tr : List AccountStep) (c : AccountSystem),
    Run Processes (Config.start {}) tr c ∧ FirstUserOnly tr c ∧
      c.moment.state.users.rows.map (·.username) = ["ada"] := by
  obtain ⟨tr, c, hrun, hcheck⟩ := run_of_plays (Config.start {})
    ([[(firstCall, {}), (secondCall, {})]].map process) (answered 0 16 ⟨1, "ada"⟩)
    (fun tr c => tr.all current && c.moment.state.users.rows.map (·.username) = ["ada"])
    (processes_map _) (by decide)
  simp only [Bool.and_eq_true, List.all_eq_true, decide_eq_true_eq] at hcheck
  exact ⟨tr, c, hrun, first_user_only (by decide) rfl hrun
    fun x hx => current_of_bool (hcheck.1 x hx), hcheck.2⟩

/-- Another process creates the first account between the two counts of a call without a token. -/
theorem second_user_without_token : ¬ ∀ (tr : List AccountStep) (c : AccountSystem),
    Run Processes (Config.start {}) tr c → FirstUserOnly tr c := by
  intro h
  obtain ⟨tr, c, hrun, hcheck⟩ := run_of_plays (Config.start {})
    ([[(firstCall, {})], [(secondCall, {})]].map process)
    (answered 1 2 ⟨2, "bob"⟩ ++ answered 0 10 ⟨1, "ada"⟩ ++ answered 1 8 ⟨2, "bob"⟩)
    (fun _ c => c.moment.state.users.rows.length = 2)
    (processes_map _) (by decide)
  have hone := (h tr c hrun).one
  rw [of_decide_eq_true hcheck] at hone
  omega

end

end InitPad.Accounts
