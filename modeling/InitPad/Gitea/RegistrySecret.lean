import InitPad.Gitea.Tokens
import InitPad.Interleave.Trace

/-!
# InitPad.Gitea.RegistrySecret

The registry password that the CI of a repository reads is its valid registry token. A rotation
creates the token inside the queue of the account and stores it in the repository afterwards, so
another rotation can replace the token in between. `Fresh` excludes that: the password is written
while the token that is written is still the valid one.

Each call runs up a debt when it touches the registry token and pays it when it stores the password;
a call that succeeds has paid. Without debts the stored password is valid.
-/

namespace InitPad.Gitea

open Interleave

abbrev GiteaMoment := Moment Stmt (Option ScmFault) Server ScmError
abbrev GiteaTransition := Transition Stmt (Option ScmFault) Server ScmError
abbrev GiteaEvent := Event Stmt (Option ScmFault) ScmError

/-- The calls on `repository`. Repositories of the account are different when their ids are. -/
inductive RepositoryCall (repository : ScmRepositoryRef) : Calling Unit → Prop where
  | rotate : RepositoryCall repository (rotateRegistryCredential repository)
  | configure (config : GiteaConfig) (ciDeployToken : String) :
      RepositoryCall repository (configureRepoSecrets config repository ciDeployToken)
  | revoke {repositories : List ScmRepositoryRef} : repository ∈ repositories →
      (∀ other ∈ repositories, other.repositoryId = repository.repositoryId →
        other = repository) →
      RepositoryCall repository (revokeAccountCredentials repository.owner repositories)

def Calls (repository : ScmRepositoryRef) (_ : GiteaMoment) (p : Calling Unit) : Prop :=
  RepositoryCall repository p

variable {repository : ScmRepositoryRef} {g : Server}

def passwordKey (repository : ScmRepositoryRef) : SecretKey :=
  ⟨repository.owner, repository.name, "INITPAD_REGISTRY_PASSWORD"⟩

def Server.registryToken? (g : Server) (repository : ScmRepositoryRef) : Option AccessToken :=
  repository.repositoryId.bind fun repositoryId =>
    g.token? repository.owner (registryName repositoryId)

/-- The repository holds its valid registry token. -/
def Current (repository : ScmRepositoryRef) (g : Server) : Prop :=
  ∃ token, g.registryToken? repository = some token ∧
    g.secrets (passwordKey repository) = some (.token token.sha1)

structure Hosts (repository : ScmRepositoryRef) (g : Server) : Prop where
  account : (g.password repository.owner).isSome
  repo : (repository.owner, repository.name) ∈ g.repositories

def Stmt.write? {β : Type} : Stmt β → Option (SecretKey × SecretValue)
  | .setRepoSecret key value => some (key, value)
  | _ => none

def Fresh (repository : ScmRepositoryRef) (x : GiteaTransition) : Prop :=
  ∀ value, x.stmt.write? = some (passwordKey repository, value) →
    ∃ token, x.pre.state.registryToken? repository = some token ∧ value = .token token.sha1

/-! ## What a statement does -/

theorem exec_cases {β : Type} (e : Stmt β) (i : Option ScmFault) (g : Server) :
    exec e i g = e.run g ∨ ∃ x, isScmNotFound x = false ∧
      (exec e i g = (.error x, g) ∨ exec e i g = (.error x, (e.run g).2)) := by
  simp only [exec]
  split
  · rename_i code hcode _ _
    have hfound : isScmNotFound (e.refusal code) = false := by
      simp [isScmNotFound, Stmt.refusal, hcode.2]
    split
    · exact .inr ⟨_, hfound, .inr rfl⟩
    · exact .inr ⟨_, hfound, .inl rfl⟩
  · split
    · exact .inr ⟨.transport _, rfl, .inr rfl⟩
    · exact .inr ⟨.transport _, rfl, .inl rfl⟩
  · split
    · exact .inr ⟨.other _, rfl, .inr rfl⟩
    · exact .inl rfl
  · exact .inl rfl

theorem exec_state {β : Type} (e : Stmt β) (i : Option ScmFault) (g : Server) :
    (exec e i g).2 = g ∨ (exec e i g).2 = (e.run g).2 := by
  rcases exec_cases e i g with h | ⟨x, -, h | h⟩
  · exact .inr (by rw [h])
  · exact .inl (by rw [h])
  · exact .inr (by rw [h])

theorem exec_ok {β : Type} {e : Stmt β} {i : Option ScmFault} {b : β}
    (h : (exec e i g).1 = .ok b) : exec e i g = e.run g := by
  rcases exec_cases e i g with hrun | ⟨x, -, hlost | hlost⟩
  · exact hrun
  · rw [hlost] at h
    cases h
  · rw [hlost] at h
    cases h

/-- The statement is about the account or the repository. -/
def Stmt.concerns (repository : ScmRepositoryRef) {β : Type} : Stmt β → Bool
  | .setLocalPassword username .. => username = repository.owner
  | .setRepoSecret key _ => (key.owner, key.repo) = (repository.owner, repository.name)
  | _ => true

theorem run_found {β : Type} {e : Stmt β} {x : ScmError} (hhosts : Hosts repository g)
    (hconcerns : e.concerns repository = true) (hx : (e.run g).1 = .error x) :
    isScmNotFound x = false := by
  have haccount : ∃ password, g.password repository.owner = some password :=
    Option.isSome_iff_exists.mp hhosts.account
  obtain ⟨password, hpassword⟩ := haccount
  cases e with
  | enterAccount username =>
    simp only [Stmt.run] at hx
    split at hx
    · cases hx
      rfl
    · cases hx
  | leaveAccount => cases hx
  | randomBytes => cases hx
  | setLocalPassword username =>
    simp only [Stmt.concerns, decide_eq_true_eq] at hconcerns
    subst hconcerns
    simp only [Stmt.run, hpassword] at hx
    split at hx
    · cases hx
      rfl
    · cases hx
  | tokenPage =>
    simp only [Stmt.run] at hx
    split at hx
    · cases hx
      rfl
    · cases hx
  | createToken =>
    simp only [Stmt.run] at hx
    split at hx
    · cases hx
      rfl
    split at hx
    · cases hx
      rfl
    · cases hx
  | deleteToken =>
    simp only [Stmt.run] at hx
    split at hx
    · cases hx
      rfl
    · cases hx
  | setRepoSecret key =>
    simp only [Stmt.concerns, decide_eq_true_eq] at hconcerns
    simp only [Stmt.run, hconcerns, if_pos hhosts.repo] at hx
    cases hx

theorem exec_found {β : Type} {e : Stmt β} {i : Option ScmFault} {x : ScmError}
    (hhosts : Hosts repository g) (hconcerns : e.concerns repository = true)
    (hx : (exec e i g).1 = .error x) : isScmNotFound x = false := by
  rcases exec_cases e i g with hrun | ⟨x', hfound, hlost | hlost⟩
  · rw [hrun] at hx
    exact run_found hhosts hconcerns hx
  · rw [hlost] at hx
    cases hx
    exact hfound
  · rw [hlost] at hx
    cases hx
    exact hfound

theorem hosts_run {β : Type} (e : Stmt β) (h : Hosts repository g) :
    Hosts repository (e.run g).2 := by
  have haccount := h.account
  cases e with
  | setLocalPassword username password =>
    simp only [Stmt.run]
    split
    · exact h
    split
    · exact h
    refine ⟨?_, h.repo⟩
    by_cases hu : repository.owner = username
    · simp [hu]
    · simpa [Function.update_of_ne hu] using haccount
  | leaveAccount => exact ⟨haccount, h.repo⟩
  | randomBytes => exact ⟨haccount, h.repo⟩
  | _ =>
    simp only [Stmt.run]
    repeat' split
    all_goals exact ⟨haccount, h.repo⟩

theorem hosts_exec {β : Type} (e : Stmt β) (i : Option ScmFault) (h : Hosts repository g) :
    Hosts repository (exec e i g).2 := by
  rcases exec_state e i g with hstate | hstate
  · rw [hstate]
    exact h
  · rw [hstate]
    exact hosts_run e h

def Stmt.touches (repository : ScmRepositoryRef) {β : Type} : Stmt β → Bool
  | .createToken authorization name _ => authorization.username = repository.owner &&
      repository.repositoryId.map registryName = some name
  | .deleteToken authorization (.byName name) => authorization.username = repository.owner &&
      repository.repositoryId.map registryName = some name
  | .deleteToken authorization (.byId _) => authorization.username = repository.owner
  | _ => false

theorem token_created {u n : String} {token : AccessToken}
    (h : ¬ (token.username = u ∧ token.name = n)) :
    Server.token? { g with tokens := g.tokens ++ [token], nextToken := g.nextToken + 1 } u n =
      g.token? u n := by
  have hnot : (token.username = u && token.name = n : Bool) = false := by
    simpa using h
  simp [Server.token?, List.find?_append, hnot]

theorem token_deleted {u n : String} {gone : AccessToken → Bool}
    (h : ∀ token, gone token = true → ¬ (token.username = u ∧ token.name = n)) :
    Server.token? { g with tokens := g.tokens.filter fun token => !gone token } u n =
      g.token? u n := by
  simp only [Server.token?, List.find?_filter]
  congr 1
  funext token
  cases hgone : gone token with
  | false => simp
  | true =>
    have hnot := h token hgone
    simp only [Bool.not_true, Bool.false_eq]
    simpa using hnot

theorem registryToken_run {β : Type} (e : Stmt β) (h : e.touches repository = false) :
    (e.run g).2.registryToken? repository = g.registryToken? repository := by
  unfold Server.registryToken?
  cases hid : repository.repositoryId with
  | none => rfl
  | some repositoryId =>
    simp only [Option.bind_some]
    cases e with
    | createToken authorization name =>
      simp only [Stmt.touches, hid, Option.map_some, Option.some.injEq, Bool.and_eq_false_iff,
        decide_eq_false_iff_not] at h
      simp only [Stmt.run]
      split
      · rfl
      split
      · rfl
      refine token_created fun hsame => ?_
      rcases h with h | h
      · exact h hsame.1
      · exact h hsame.2.symm
    | deleteToken authorization key =>
      simp only [Stmt.run]
      split
      · rfl
      refine token_deleted fun token hgone hsame => ?_
      simp only [Bool.and_eq_true, decide_eq_true_eq] at hgone
      have howner : authorization.username = repository.owner := hgone.1.symm.trans hsame.1
      cases key with
      | byId id =>
        simp only [Stmt.touches, decide_eq_false_iff_not] at h
        exact h howner
      | byName name =>
        simp only [Stmt.touches, hid, howner, Option.map_some, Option.some.injEq, decide_true,
          Bool.true_and, decide_eq_false_iff_not] at h
        have hname : token.name = name := by simpa [TokenKey.selects] using hgone.2
        exact h (hsame.2.symm.trans hname)
    | leaveAccount => rfl
    | randomBytes => rfl
    | _ =>
      simp only [Stmt.run]
      repeat' split
      all_goals rfl

theorem secrets_run {β : Type} (e : Stmt β) (key : SecretKey) :
    (e.run g).2.secrets key = g.secrets key ∨
      ∃ value, e.write? = some (key, value) ∧ (e.run g).2.secrets key = some value := by
  cases e with
  | setRepoSecret key' value =>
    simp only [Stmt.run]
    split
    · by_cases hkey : key = key'
      · subst hkey
        exact .inr ⟨value, rfl, Function.update_self ..⟩
      · exact .inl (Function.update_of_ne hkey _ _)
    · exact .inl rfl
  | leaveAccount => exact .inl rfl
  | randomBytes => exact .inl rfl
  | _ =>
    simp only [Stmt.run]
    repeat' split
    all_goals exact .inl rfl

theorem touches_of_write {β : Type} {e : Stmt β} {w : SecretKey × SecretValue}
    (h : e.write? = some w) : e.touches repository = false := by
  cases e with
  | setRepoSecret => rfl
  | _ => cases h

theorem current_written {x : GiteaTransition} {value : SecretValue} (hfresh : Fresh repository x)
    (hwrite : x.stmt.write? = some (passwordKey repository, value))
    (hstored : (x.stmt.run x.pre.state).2.secrets (passwordKey repository) = some value) :
    Current repository (x.stmt.run x.pre.state).2 := by
  obtain ⟨token, htoken, rfl⟩ := hfresh value hwrite
  refine ⟨token, ?_, hstored⟩
  rw [registryToken_run x.stmt (touches_of_write hwrite)]
  exact htoken

theorem current_run {x : GiteaTransition} (hfresh : Fresh repository x)
    (htouches : x.stmt.touches repository = false) (h : Current repository x.pre.state) :
    Current repository (x.stmt.run x.pre.state).2 := by
  rcases secrets_run (g := x.pre.state) x.stmt (passwordKey repository) with
    hsame | ⟨value, hwrite, hstored⟩
  · obtain ⟨token, htoken, hsecret⟩ := h
    refine ⟨token, ?_, hsame.trans hsecret⟩
    rw [registryToken_run _ htouches]
    exact htoken
  · exact current_written hfresh hwrite hstored

theorem current_exec {x : GiteaTransition} (hfresh : Fresh repository x)
    (htouches : x.stmt.touches repository = false) (h : Current repository x.pre.state) :
    Current repository x.post.state := by
  rcases exec_state x.stmt x.input x.pre.state with hstate | hstate
  · rw [Transition.post, Moment.next_state, hstate]
    exact h
  · rw [Transition.post, Moment.next_state, hstate]
    exact current_run hfresh htouches h

/-! ## Debts -/

inductive Debt where
  | untouched | owed | paid
  deriving DecidableEq

def pays (repository : ScmRepositoryRef) (ev : GiteaEvent) : Bool :=
  match ev.stmt.write?, ev.result with
  | some (key, _), .ok _ => key = passwordKey repository
  | _, _ => false

def Debt.next (repository : ScmRepositoryRef) (d : Debt) (ev : GiteaEvent) : Debt :=
  if ev.stmt.touches repository then .owed
  else if pays repository ev then .paid
  else d

def debt (repository : ScmRepositoryRef) (h : List GiteaEvent) : Debt :=
  h.foldl (Debt.next repository) .untouched

@[simp] theorem debt_snoc (h : List GiteaEvent) (ev : GiteaEvent) :
    debt repository (h ++ [ev]) = (debt repository h).next repository ev := by
  simp [debt]

theorem paid_next {ev : GiteaEvent} (h : ev.stmt.touches repository = false) :
    Debt.paid.next repository ev = .paid := by
  simp [Debt.next, h]

/-- Without debts the password is valid, unless no call has done anything to it. -/
structure Balanced (repository : ScmRepositoryRef) (g : Server) (m : GiteaMoment) : Prop where
  hosts : Hosts repository m.state
  found : ∀ ev ∈ m.history, ev.stmt.concerns repository = true → ∀ x, ev.result = .error x →
    isScmNotFound x = false
  current : (∀ t, debt repository (own t m.history) ≠ .owed) → Current repository m.state ∨
    (¬ Current repository g ∧ ∀ t, debt repository (own t m.history) = .untouched)

theorem current_paid {x : GiteaTransition} {value : SecretValue} {r : x.β}
    (hfresh : Fresh repository x)
    (hwrite : x.stmt.write? = some (passwordKey repository, value)) (hr : x.result = .ok r) :
    Current repository x.post.state := by
  obtain ⟨pre, thread, stmt, input⟩ := x
  rw [Transition.post, Moment.next_state]
  rw [exec_ok hr]
  refine current_written hfresh hwrite ?_
  rw [Transition.result, exec_ok hr] at hr
  cases stmt with
  | setRepoSecret key value' =>
    cases hwrite
    simp only [Stmt.run] at hr ⊢
    split at hr
    · rw [if_pos ‹_›]
      exact Function.update_self ..
    · cases hr
  | _ => cases hwrite

theorem balanced_post {x : GiteaTransition} (hfresh : Fresh repository x)
    (h : Balanced repository g x.pre) : Balanced repository g x.post := by
  have hhistory : x.post.history = x.pre.history ++ [⟨x.thread, x.stmt, x.input, x.result⟩] := rfl
  have hself : debt repository (own x.thread x.post.history) =
      (debt repository (own x.thread x.pre.history)).next repository
        ⟨x.thread, x.stmt, x.input, x.result⟩ := by
    rw [hhistory, own_append, own_self, debt_snoc]
  have hother : ∀ t, x.thread ≠ t → own t x.post.history = own t x.pre.history := by
    intro t ht
    rw [hhistory, own_append, own_of_ne ht, List.append_nil]
  refine ⟨hosts_exec _ _ h.hosts, fun ev hev hconcerns y hy => ?_, fun hfree => ?_⟩
  · rw [hhistory] at hev
    rcases List.mem_append.mp hev with hev | hev
    · exact h.found ev hev hconcerns y hy
    · obtain rfl := List.mem_singleton.mp hev
      exact exec_found h.hosts hconcerns hy
  have hnext := hself
  unfold Debt.next at hnext
  cases htouches : x.stmt.touches repository with
  | true =>
    rw [if_pos htouches] at hnext
    exact absurd hnext (hfree x.thread)
  | false =>
    rw [if_neg (by simp [htouches])] at hnext
    by_cases hpays : pays repository ⟨x.thread, x.stmt, x.input, x.result⟩
    · unfold pays at hpays
      split at hpays
      · rename_i key value r hwrite hr
        simp only [decide_eq_true_eq] at hpays
        subst hpays
        exact .inl (current_paid hfresh hwrite hr)
      · cases hpays
    · rw [if_neg hpays] at hnext
      have hsame : ∀ t, debt repository (own t x.post.history) =
          debt repository (own t x.pre.history) := by
        intro t
        by_cases ht : x.thread = t
        · subst ht
          exact hnext
        · rw [hother t ht]
      simp only [hsame] at hfree ⊢
      rcases h.current hfree with hcurrent | huntouched
      · exact .inl (current_exec hfresh htouches hcurrent)
      · exact .inr huntouched

/-! ## What a call leaves -/

/-- Requests about the account or the repository are not answered with 404. -/
def Answered (repository : ScmRepositoryRef) (ev : GiteaEvent) : Prop :=
  ev.stmt.concerns repository = true → ∀ x, ev.result = .error x → isScmNotFound x = false

abbrev Concerned (repository : ScmRepositoryRef) {α : Type} (p : Calling α) : Prop :=
  p.Only fun e => e.concerns repository = true

abbrev ThrowsFound {α : Type} (p : Calling α) : Prop := p.Throws fun x => isScmNotFound x = false

/-- The program leaves the registry token of the repository alone. -/
abbrev Apart (repository : ScmRepositoryRef) {α : Type} (p : Calling α) : Prop :=
  p.Only fun e => e.touches repository = false

abbrev LeavesCall (repository : ScmRepositoryRef) {α : Type}
    (Q : Except ScmError α → List GiteaEvent → Prop) (t : Nat) (p : Calling α)
    (h : List GiteaEvent) : Prop :=
  Prog.Leaves (Answered repository) Q t p h

section

variable {α : Type} {t : Nat} {h : List GiteaEvent}

theorem only_withTokenAuthority {S : ∀ {γ : Type}, Stmt γ → Prop} {username : String}
    {run : Authorization → Calling α} (henter : S (.enterAccount username))
    (hleave : S (.leaveAccount username)) (hbytes : S .randomBytes)
    (hset : ∀ password operation message, S (.setLocalPassword username password operation message))
    (hrun : ∀ password, (run ⟨username, password⟩).Only S) :
    (withTokenAuthority username run).Only S := by
  have hreplace : (replaceLocalPassword username).ignoreError.Only S :=
    .ignoreError (.bind (.await hbytes) fun _ => .await (hset ..))
  have hbody : ∀ password, ((run ⟨username, password⟩).ensure
      (replaceLocalPassword username).ignoreError).Only S :=
    fun password => .ensure (hrun password) hreplace
  exact .bind (.await henter) fun _ => .ensure
    (.bind (.await hbytes) fun password => .bind (.await (hset ..)) fun _ => hbody password)
    (.await hleave)

theorem throwsFound_withTokenAuthority {username : String} {run : Authorization → Calling α}
    (hrun : ∀ authorization, ThrowsFound (run authorization)) :
    ThrowsFound (withTokenAuthority username run) := by
  have hbody : ∀ authorization, ThrowsFound ((run authorization).ensure
      (replaceLocalPassword username).ignoreError) :=
    fun authorization => .ensure (hrun authorization) .ignoreError
  exact .bind (.await _) fun _ => .ensure
    (.bind (.await _) fun password => .bind (.await _) fun _ => hbody _) (.await _)

theorem only_collectTokenPages {S : ∀ {γ : Type}, Stmt γ → Prop} {authorization : Authorization}
    (hpage : ∀ page, S (.tokenPage authorization page)) (remaining page : Nat)
    (result : List AccessToken) : (collectTokenPages authorization remaining page result).Only S := by
  induction remaining generalizing page result with
  | zero => exact .ret _
  | succ remaining ih =>
    refine .bind (.await (hpage page)) fun items => ?_
    split
    · exact .ret _
    · exact ih _ _

theorem throwsFound_collectTokenPages (authorization : Authorization) (remaining page : Nat)
    (result : List AccessToken) :
    ThrowsFound (collectTokenPages authorization remaining page result) := by
  induction remaining generalizing page result with
  | zero => exact .throw rfl
  | succ remaining ih =>
    refine .bind (.await _) fun items => ?_
    split
    · exact .pure _
    · exact ih _ _

theorem throwsFound_forEach {body : α → Calling Unit} (hbody : ∀ a, ThrowsFound (body a))
    (as : List α) : ThrowsFound (Prog.forEach body as) := by
  induction as with
  | nil => exact .pure ()
  | cons a as ih => exact .bind (hbody a) fun _ => ih

theorem concerned_revokeAllTokens :
    Concerned repository (revokeAllTokens repository.owner) := by
  refine only_withTokenAuthority rfl rfl rfl (fun _ _ _ => by simp [Stmt.concerns]) fun _ => ?_
  exact .bind (only_collectTokenPages (fun _ => rfl) _ _ _) fun _ =>
    .forEach (fun _ => .await rfl) _

theorem throwsFound_revokeAllTokens (username : String) :
    ThrowsFound (revokeAllTokens username) :=
  throwsFound_withTokenAuthority fun authorization =>
    .bind (throwsFound_collectTokenPages authorization _ _ _) fun _ =>
      throwsFound_forEach (fun _ => .await _) _

theorem assertProvider_returns (repository : ScmRepositoryRef) :
    ∃ r, assertProvider repository = .ret r ∧ ∀ x, r = .error x → isScmNotFound x = false := by
  unfold assertProvider
  split
  · exact ⟨_, rfl, fun x hx => by cases hx; rfl⟩
  · exact ⟨_, rfl, fun x hx => by cases hx⟩

theorem registryTokenName_found {x : ScmError} (hx : registryTokenName repository = .error x) :
    isScmNotFound x = false := by
  unfold registryTokenName at hx
  split at hx
  · cases hx
    rfl
  · cases hx

theorem only_assertProvider {S : ∀ {γ : Type}, Stmt γ → Prop} (repository : ScmRepositoryRef) :
    (assertProvider repository).Only S := by
  obtain ⟨r, hr, _⟩ := assertProvider_returns repository
  rw [hr]
  exact .ret r

theorem only_rotateRegistryCredential {S : ∀ {γ : Type}, Stmt γ → Prop}
    (repository : ScmRepositoryRef) (henter : S (.enterAccount repository.owner))
    (hleave : S (.leaveAccount repository.owner)) (hbytes : S .randomBytes)
    (hset : ∀ password operation message,
      S (.setLocalPassword repository.owner password operation message))
    (hdelete : ∀ password repositoryId, repository.repositoryId = some repositoryId →
      S (.deleteToken ⟨repository.owner, password⟩ (.byName (registryName repositoryId))))
    (hcreate : ∀ password repositoryId, repository.repositoryId = some repositoryId →
      S (.createToken ⟨repository.owner, password⟩ (registryName repositoryId)
        REGISTRY_TOKEN_SCOPES))
    (hsecret : ∀ key value, S (.setRepoSecret ⟨repository.owner, repository.name, key⟩ value)) :
    (rotateRegistryCredential repository).Only S := by
  refine .bind (only_assertProvider _) fun _ => ?_
  unfold registryTokenName
  split
  · exact trivial
  · rename_i repositoryId hid
    have htoken : (withTokenAuthority repository.owner fun authorization =>
        replaceToken authorization (registryName repositoryId) REGISTRY_TOKEN_SCOPES).Only S := by
      refine only_withTokenAuthority henter hleave hbytes hset fun password => ?_
      exact .bind (.await (hdelete _ _ hid)) fun _ => .await (hcreate _ _ hid)
    have hstore : ∀ token : Nat, (do
        setRepoSecret repository "INITPAD_REGISTRY_USER" (.text repository.owner)
        setRepoSecret repository "INITPAD_REGISTRY_PASSWORD" (.token token)).Only S :=
      fun token => .bind (.await (hsecret ..)) fun _ => .await (hsecret ..)
    have hrotate := htoken.bind hstore
    exact hrotate

theorem concerned_rotateRegistryCredential :
    Concerned repository (rotateRegistryCredential repository) :=
  only_rotateRegistryCredential repository rfl rfl rfl (fun _ _ _ => by simp [Stmt.concerns])
    (fun _ _ _ => rfl) (fun _ _ _ => rfl) fun _ _ => by simp [Stmt.concerns]

theorem throwsFound_rotateRegistryCredential (repository : ScmRepositoryRef) :
    ThrowsFound (rotateRegistryCredential repository) := by
  obtain ⟨r, hr, hfound⟩ := assertProvider_returns repository
  have hassert : ThrowsFound (assertProvider repository) := by
    rw [hr]
    exact hfound
  have hname : ThrowsFound (Prog.ret (registryTokenName repository) : Calling String) :=
    fun x hx => registryTokenName_found hx
  refine hassert.bind fun _ => hname.bind fun name => Prog.Throws.bind ?_ fun token => ?_
  · exact throwsFound_withTokenAuthority fun authorization => .bind (.await _) fun _ => .await _
  · exact .bind (.await _) fun _ => .await _

theorem registryName_injective {u v : String} (h : registryName u = registryName v) : u = v :=
  (String.append_right_inj _).mp h

theorem apart_rotateRegistryCredential {other : ScmRepositoryRef}
    (hother : other.repositoryId ≠ repository.repositoryId) :
    Apart repository (rotateRegistryCredential other) := by
  have hname : ∀ repositoryId, other.repositoryId = some repositoryId →
      repository.repositoryId.map registryName ≠ some (registryName repositoryId) := by
    intro repositoryId hid hsame
    obtain ⟨repositoryId', hid', hsame⟩ := Option.map_eq_some_iff.mp hsame
    rw [hid, hid', registryName_injective hsame] at hother
    exact hother rfl
  refine only_rotateRegistryCredential other rfl rfl rfl (fun _ _ _ => rfl) ?_ ?_ fun _ _ => rfl
  · intro _ repositoryId hid
    simp [Stmt.touches, hname repositoryId hid]
  · intro _ repositoryId hid
    simp [Stmt.touches, hname repositoryId hid]

theorem leaves_rotateRegistryCredential : LeavesCall repository
    (fun r h => r = .ok () → debt repository h = .paid) t (rotateRegistryCredential repository) h := by
  have hany : ∀ {γ : Type} (p : Calling γ) (h : List GiteaEvent),
      LeavesCall repository (fun _ _ => True) t p h := fun _ _ => .of_forall fun _ _ => trivial
  refine (hany _ _).bind (fun _ h₁ _ => ?_) fun x _ _ hx => by cases hx
  refine (hany (.ret (registryTokenName repository)) h₁).bind (fun name h₂ _ => ?_)
    fun x _ _ hx => by cases hx
  refine (hany _ _).bind (fun token h₃ _ => ?_) fun x _ _ hx => by cases hx
  refine (hany _ _).bind (fun _ h₄ _ => ?_) fun x _ _ hx => by cases hx
  intro i r _ hr
  subst hr
  rw [debt_snoc]
  exact if_pos (decide_eq_true rfl)

theorem leaves_found {p : Calling Unit} {Q : List GiteaEvent → Prop} (hthrows : ThrowsFound p)
    (hconcerned : Concerned repository p)
    (hp : LeavesCall repository (fun r h => r = .ok () → Q h) t p h) :
    LeavesCall repository (fun r h => ∀ known, r = .ok known → known = true ∧ Q h) t (found p) h := by
  have hended := hp.and (hthrows.leaves hconcerned)
  refine Prog.Leaves.tryCatch (Q := fun r h => (∀ known, r = .ok known → known = true ∧ Q h) ∧
    ∀ x, r = .error x → isScmNotFound x = false) ?_ (fun a h' hQ => hQ.1) fun x h' hQ => ?_
  · refine hended.bind (fun _ h' hQ => ?_) fun x h' hQ => ?_
    · refine ⟨fun known hknown => ?_, fun x hx => by cases hx⟩
      cases hknown
      exact ⟨rfl, hQ.1 rfl⟩
    · refine ⟨(fun _ hx => by cases hx), fun y hy => ?_⟩
      cases hy
      exact hQ.2 x rfl
  · rw [hQ.2 x rfl]
    exact fun _ hx => by cases hx

theorem paid_of_apart {α : Type} {p : Calling α} (hp : Apart repository p)
    (hpaid : debt repository h = .paid) :
    LeavesCall repository (fun _ h => debt repository h = .paid) t p h := by
  refine Prog.Leaves.of_only (B := fun h => debt repository h = .paid) ?_ hp hpaid
  intro γ e i r h' htouches _ hpaid'
  rw [debt_snoc, hpaid']
  exact paid_next htouches

theorem leaves_rotateIfPresent : LeavesCall repository
    (fun r h => r = .ok () → debt repository h = .paid) t (rotateIfPresent repository) h := by
  refine (leaves_found (throwsFound_rotateRegistryCredential repository)
    concerned_rotateRegistryCredential leaves_rotateRegistryCredential).bind
      (fun known h' hQ => ?_) fun x _ _ hx => by cases hx
  intro _
  exact (hQ known rfl).2

theorem apart_rotateIfPresent {other : ScmRepositoryRef}
    (hother : other.repositoryId ≠ repository.repositoryId) :
    Apart repository (rotateIfPresent other) := by
  refine Prog.Only.bind (Prog.Only.tryCatch ?_ fun error => ?_) fun _ => .ret _
  · exact .bind (apart_rotateRegistryCredential hother) fun _ => .ret _
  · split
    · exact .ret _
    · exact .ret _

theorem leaves_rotations {repositories : List ScmRepositoryRef}
    (hother : ∀ other ∈ repositories, other.repositoryId = repository.repositoryId →
      other = repository)
    (hpaid : repository ∈ repositories ∨ debt repository h = .paid) :
    LeavesCall repository (fun r h => r = .ok () → debt repository h = .paid) t
      (Prog.forEach rotateIfPresent repositories) h := by
  induction repositories generalizing h with
  | nil =>
    rcases hpaid with hmem | hpaid
    · cases hmem
    · exact fun _ => hpaid
  | cons first rest ih =>
    have hrest : ∀ other ∈ rest, other.repositoryId = repository.repositoryId →
        other = repository := fun other hmem => hother other (List.mem_cons_of_mem _ hmem)
    by_cases hid : first.repositoryId = repository.repositoryId
    · obtain rfl := hother first List.mem_cons_self hid
      exact leaves_rotateIfPresent.bind (fun _ h' hQ => ih hrest (.inr (hQ rfl)))
        fun x _ _ hx => by cases hx
    · rcases hpaid with hmem | hpaid
      · have hmem' : repository ∈ rest := by
          rcases List.mem_cons.mp hmem with rfl | hmem
          · exact absurd rfl hid
          · exact hmem
        have hany : LeavesCall repository (fun _ _ => True) t (rotateIfPresent first) h :=
          .of_forall fun _ _ => trivial
        exact hany.bind (fun _ h' _ => ih hrest (.inl hmem')) fun x _ _ hx => by cases hx
      · exact (paid_of_apart (apart_rotateIfPresent hid) hpaid).bind
          (fun _ h' hQ => ih hrest (.inr hQ)) fun x _ _ hx => by cases hx

theorem leaves_call {p : Calling Unit} (hp : RepositoryCall repository p) : LeavesCall repository
    (fun r h => r = .ok () → debt repository h = .paid) t p h := by
  have hany : ∀ {γ : Type} (p : Calling γ) (h : List GiteaEvent),
      LeavesCall repository (fun _ _ => True) t p h := fun _ _ => .of_forall fun _ _ => trivial
  cases hp with
  | rotate => exact leaves_rotateRegistryCredential
  | configure config ciDeployToken =>
    refine (hany _ _).bind (fun _ h₁ _ => ?_) fun x _ _ hx => by cases hx
    refine (hany _ _).bind (fun _ h₂ _ => ?_) fun x _ _ hx => by cases hx
    refine (hany _ _).bind (fun _ h₃ _ => ?_) fun x _ _ hx => by cases hx
    exact leaves_rotateRegistryCredential
  | @revoke repositories hmem hother =>
    refine (leaves_found (Q := fun _ => True) (throwsFound_revokeAllTokens _)
      concerned_revokeAllTokens (.of_forall fun _ _ _ => trivial)).bind (fun known h₁ hQ => ?_)
        fun x _ _ hx => by cases hx
    rw [(hQ known rfl).1]
    exact leaves_rotations hother (.inl hmem)

end

/-! ## The stored password -/

theorem balanced_start (hhosts : Hosts repository g) : Balanced repository g ⟨g, []⟩ := by
  refine ⟨hhosts, fun ev hev => absurd hev List.not_mem_nil, fun _ => ?_⟩
  by_cases hcurrent : Current repository g
  · exact .inl hcurrent
  · exact .inr ⟨hcurrent, fun _ => rfl⟩

/-- When all calls have succeeded, the repository holds its valid registry token, if every write of
the password wrote the token that was valid at that moment. -/
theorem stored_secret_valid {c' : Config Stmt (Option ScmFault) Server ScmError}
    {tr : List GiteaTransition} (hhosts : Hosts repository g)
    (h : Run (Calls repository) (.start g) tr c')
    (hfresh : ∀ x ∈ tr, Fresh repository x)
    (hcalls : c'.threads ≠ [] ∨ Current repository g)
    (hdone : ∀ p ∈ c'.threads, p = .ret (.ok ())) : Current repository c'.moment.state := by
  have hbalanced : Balanced repository g c'.moment :=
    Run.preserves (Balanced repository g) (Fresh repository)
      (fun _ hfresh hpre => balanced_post hfresh hpre) h hfresh (balanced_start hhosts)
  obtain ⟨hthreads, hleaves⟩ := Run.leaves (P := Answered repository)
    (Q := fun r h => r = .ok () → debt repository h = .paid)
    (fun _ p t hp => leaves_call hp) h hbalanced.found
  have hpaid : ∀ t, t < c'.threads.length → debt repository (own t c'.moment.history) = .paid := by
    intro t ht
    have hget : c'.threads[t]? = some (.ret (.ok ())) := by
      rw [List.getElem?_eq_getElem ht, hdone _ (List.getElem_mem ht)]
    exact hleaves t _ hget rfl
  have hfree : ∀ t, debt repository (own t c'.moment.history) ≠ .owed := by
    intro t
    by_cases ht : t < c'.threads.length
    · rw [hpaid t ht]
      decide
    · have hnone : own t c'.moment.history = [] := by
        refine List.filter_eq_nil_iff.mpr fun ev hev => ?_
        have hlt := hthreads ev hev
        simp only [decide_eq_true_eq]
        omega
      rw [hnone]
      simp [debt]
  rcases hbalanced.current hfree with hcurrent | ⟨hnot, huntouched⟩
  · exact hcurrent
  · rcases hcalls with hcalls | hcurrent
    · have hfirst := hpaid 0 (List.length_pos_iff.mpr hcalls)
      rw [huntouched 0] at hfirst
      cases hfirst
    · exact absurd hcurrent hnot

def registryRepository : ScmRepositoryRef := ⟨.gitea, some "7", "ada", "shop", "ada/shop"⟩

def emptyGitea : Server where
  configured := true
  password username := if username = "ada" then some 0 else none
  repositories := [("ada", "shop")]
  tokens := []
  secrets _ := none
  nextToken := 1
  nextPassword := 1
  busy := []

def succeeded : Calling Unit → Bool
  | .ret (.ok ()) => true
  | _ => false

theorem eq_of_succeeded {p : Calling Unit} (h : succeeded p = true) : p = .ret (.ok ()) := by
  unfold succeeded at h
  split at h
  · rfl
  · cases h

def isFresh (repository : ScmRepositoryRef) (x : GiteaTransition) : Bool :=
  match x.stmt.write? with
  | none => true
  | some (key, value) => key ≠ passwordKey repository ||
    (x.pre.state.registryToken? repository).any fun token => value = .token token.sha1

theorem fresh_of_isFresh {x : GiteaTransition} (h : isFresh repository x = true) :
    Fresh repository x := by
  intro value hwrite
  rw [isFresh, hwrite] at h
  simp only [ne_eq, not_true_eq_false, decide_false, Bool.false_or, Option.any_eq_true,
    decide_eq_true_eq] at h
  exact h

/-- The password is the token `sha1`, which is valid. -/
def holds (repository : ScmRepositoryRef) (sha1 : Nat) (g : Server) : Bool :=
  g.secrets (passwordKey repository) = some (.token sha1)

theorem call_of_mem : ∀ p ∈ [rotateRegistryCredential registryRepository,
    rotateRegistryCredential registryRepository],
    Calls registryRepository (Config.start emptyGitea).moment p := by
  intro p hp
  simp only [List.mem_cons, List.not_mem_nil, or_false, or_self] at hp
  subst hp
  exact RepositoryCall.rotate

theorem emptyGitea_hosts : Hosts registryRepository emptyGitea :=
  ⟨by decide, by decide⟩

/-- One rotation after the other. -/
theorem stored_secret_valid_in_turn : ∃ (tr : List GiteaTransition)
    (c' : Config Stmt (Option ScmFault) Server ScmError),
    Run (Calls registryRepository) (.start emptyGitea) tr c' ∧
      c'.threads.length = 2 ∧ Current registryRepository c'.moment.state := by
  obtain ⟨tr, c', hrun, hcheck⟩ := run_of_plays (Config.start emptyGitea) _
    (List.replicate 10 (0, none) ++ List.replicate 10 (1, none))
    (fun tr c' => tr.all (isFresh registryRepository) && c'.threads.all succeeded &&
      c'.threads.length = 2) call_of_mem (by decide)
  simp only [Bool.and_eq_true, List.all_eq_true, decide_eq_true_eq] at hcheck
  obtain ⟨⟨hfresh, hdone⟩, hlength⟩ := hcheck
  have hcalls : c'.threads ≠ [] := by
    intro hnil
    rw [hnil] at hlength
    cases hlength
  exact ⟨tr, c', hrun, hlength, stored_secret_valid emptyGitea_hosts hrun
    (fun x hx => fresh_of_isFresh (hfresh x hx)) (.inl hcalls)
    fun p hp => eq_of_succeeded (hdone p hp)⟩

/-- The first rotation leaves the queue with token 1; the second replaces it by token 2 and stores
that; then the first stores token 1, which is no longer valid. -/
theorem revoked_secret_stored : ¬ ∀ (repository : ScmRepositoryRef) (g : Server)
    (tr : List GiteaTransition) (c' : Config Stmt (Option ScmFault) Server ScmError),
    Hosts repository g → Run (Calls repository) (.start g) tr c' →
    c'.threads ≠ [] → (∀ p ∈ c'.threads, p = .ret (.ok ())) →
    Current repository c'.moment.state := by
  intro hall
  obtain ⟨tr, c', hrun, hcheck⟩ := run_of_plays (Config.start emptyGitea) _
    (List.replicate 8 (0, none) ++ List.replicate 10 (1, none) ++ List.replicate 2 (0, none))
    (fun _ c' => c'.threads.all succeeded && c'.threads.length = 2 &&
      holds registryRepository 1 c'.moment.state &&
      (c'.moment.state.registryToken? registryRepository).all (·.sha1 = 2))
    call_of_mem (by decide)
  simp only [Bool.and_eq_true, List.all_eq_true, decide_eq_true_eq, holds] at hcheck
  obtain ⟨⟨⟨hdone, hlength⟩, hstored⟩, hvalid⟩ := hcheck
  have hcalls : c'.threads ≠ [] := by
    intro hnil
    rw [hnil] at hlength
    cases hlength
  obtain ⟨token, htoken, hsecret⟩ := hall registryRepository emptyGitea tr c' emptyGitea_hosts hrun
    hcalls fun p hp => eq_of_succeeded (hdone p hp)
  rw [htoken] at hvalid
  simp only [Option.all_some, decide_eq_true_eq] at hvalid
  rw [hsecret, hvalid] at hstored
  cases hstored

end InitPad.Gitea
