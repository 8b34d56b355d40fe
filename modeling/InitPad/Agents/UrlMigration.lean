import InitPad.Deployment.Types
import InitPad.Interleave.Crash

/-!
# InitPad.Agents.UrlMigration

`migrateControlPlaneUrl`: an Agent checks its credential at a new URL of the control plane, and then
stores the URL. The check is a heartbeat that can rotate the credential. It stores what it gets in a
copy of the config, which is removed in the end.

A statement that fails may have been carried out; a response can be lost. The process can stop
between any two statements.

* `Kept`: the config holds a credential that the control plane accepts.
* `credential_kept_iff`: wherever the migration is stopped, `Kept` holds unless the control plane
  has taken a heartbeat with a credential that is new to the config, and the config was not saved.
-/

namespace InitPad.UrlMigration

open Interleave
open Prog (await refuseIf)

/-- Different credentials have different numbers; what is stored of one at the API is its hash. -/
structure Credential where
  random : Nat
  deriving DecidableEq

structure AgentConfig where
  controlPlaneUrl : String
  targetId : Nat
  credential : Credential
  credentialGeneration : Nat
  previousCredential : Option Credential := none
  previousCredentialGeneration : Option Nat := none
  deriving DecidableEq

def AgentConfig.stable (config : AgentConfig) : AgentConfig :=
  { config with previousCredential := none, previousCredentialGeneration := none }

structure CredentialRotation where
  credential : Credential
  credentialGeneration : Nat
  deriving DecidableEq

structure HeartbeatResponse where
  targetId : Nat
  credentialGeneration : Nat
  credentialConfirmed : Bool
  credentialRotation : Option CredentialRotation := none

structure PendingCredential where
  credential : Credential
  generation : Nat
  issuedAt : Time
  deriving DecidableEq

structure AgentRow where
  targetId : Nat
  credential : Credential
  generation : Nat
  activeSince : Option Time
  rotates : Bool
  pending : Option PendingCredential := none
  /-- The next random bytes of `generateToken`. -/
  nextToken : Nat

namespace AgentRow

variable (row : AgentRow)

def credentialRotateAfter : Nat := 30 * 24 * 60 * 60000

def pendingReissueAfter : Nat := 24 * 60 * 60000

def accepts (credential : Credential) : Bool :=
  row.credential == credential || row.pending.any (·.credential == credential)

/-- The active credential is old enough, and no rotation has been issued lately. -/
def mayRotate (now : Time) : Bool :=
  row.rotates && row.activeSince.any (fun since => decide (since + credentialRotateAfter ≤ now)) &&
    row.pending.all fun p => decide (p.issuedAt + pendingReissueAfter ≤ now)

/-- `AgentsService.heartbeat` -/
def heartbeat (now : Time) (credential : Credential) : Option HeartbeatResponse × AgentRow :=
  match row.pending.filter (·.credential == credential) with
  | some p =>
    (some ⟨row.targetId, p.generation, true, none⟩,
      { row with
        credential := credential
        generation := p.generation
        activeSince := some now
        pending := none })
  | none =>
    if row.credential != credential then (none, row)
    else if row.mayRotate now then
      (some ⟨row.targetId, row.generation, true, some ⟨⟨row.nextToken⟩, row.generation + 1⟩⟩,
        { row with
          pending := some ⟨⟨row.nextToken⟩, row.generation + 1, now⟩
          nextToken := row.nextToken + 1 })
    else (some ⟨row.targetId, row.generation, true, none⟩, row)

end AgentRow

inductive ConfigPath where
  | config | candidate
  deriving DecidableEq

structure MigrationWorld where
  now : Time
  row : AgentRow
  config : AgentConfig
  candidate : Option AgentConfig := none

inductive MigrationError where
  /-- `ControlPlaneError` with the status 401 -/
  | unauthorized
  | failed (message : String)
  deriving DecidableEq

inductive MigrationStmt : Type → Type 1 where
  | loadConfig : MigrationStmt AgentConfig
  | saveConfig (path : ConfigPath) (config : AgentConfig) : MigrationStmt Unit
  | inspectDocker : MigrationStmt Unit
  | heartbeat (config : AgentConfig) : MigrationStmt HeartbeatResponse
  | removeCandidate : MigrationStmt Unit

structure MigrationFault where
  error : MigrationError
  carriedOut : Bool
  deriving DecidableEq

structure MigrationInput where
  elapsed : Nat := 0
  fault : Option MigrationFault := none

def MigrationInput.carriedOut (i : MigrationInput) : Bool := i.fault.all (·.carriedOut)

def MigrationStmt.run {β : Type} (e : MigrationStmt β) (w : MigrationWorld) :
    Except MigrationError β × MigrationWorld :=
  match e with
  | .loadConfig => (.ok w.config, w)
  | .saveConfig .config config => (.ok (), { w with config := config })
  | .saveConfig .candidate config => (.ok (), { w with candidate := some config })
  | .inspectDocker => (.ok (), w)
  | .heartbeat config =>
    let (response, row) := w.row.heartbeat w.now config.credential
    (response.elim (.error .unauthorized) .ok, { w with row := row })
  | .removeCandidate => (.ok (), { w with candidate := none })

instance : Semantics MigrationStmt MigrationInput MigrationWorld MigrationError where
  exec e i w :=
    let w := { w with now := w.now + i.elapsed }
    match i.fault with
    | some fault => (.error fault.error, if fault.carriedOut then (e.run w).2 else w)
    | none => e.run w

abbrev MigrationCall (α : Type) : Type 1 := Prog MigrationStmt MigrationError α
abbrev MigrationMoment := Moment MigrationStmt MigrationInput MigrationWorld MigrationError
abbrev MigrationEvent := Interleave.Event MigrationStmt MigrationInput MigrationError

/-! ## The Agent -/

def failIf (condition : Bool) (message : String) : MigrationCall Unit :=
  refuseIf condition (.failed message)

def assertHeartbeatIdentity (config : AgentConfig) (response : HeartbeatResponse) :
    MigrationCall Unit := do
  failIf (response.targetId != config.targetId)
    "Control plane returned a different target identity"
  failIf (response.credentialGeneration != config.credentialGeneration)
    "Control plane returned a different credential generation"

def AgentConfig.rotated (config : AgentConfig) (rotation : CredentialRotation) : AgentConfig :=
  { config with
    previousCredential := some config.credential
    previousCredentialGeneration := some config.credentialGeneration
    credential := rotation.credential
    credentialGeneration := rotation.credentialGeneration }

/-- The new credential is stored, confirmed, and stored without the old one. -/
def takeRotation (path : ConfigPath) (config : AgentConfig) (rotation : CredentialRotation) :
    MigrationCall AgentConfig := do
  failIf (rotation.credentialGeneration != config.credentialGeneration + 1)
    "Control plane returned an invalid credential rotation"
  let pending := config.rotated rotation
  await (.saveConfig path pending)
  let confirmation ← await (.heartbeat pending)
  assertHeartbeatIdentity pending confirmation
  failIf (!confirmation.credentialConfirmed)
    "Control plane did not confirm the rotated Agent credential"
  await (.saveConfig path pending.stable)
  return pending.stable

/-- The config as it is changed. -/
def reconcileCredentialRotation (path : ConfigPath) (config : AgentConfig)
    (response : HeartbeatResponse) : MigrationCall AgentConfig := do
  assertHeartbeatIdentity config response
  match response.credentialRotation with
  | some rotation => takeRotation path config rotation
  | none =>
    if response.credentialConfirmed && config.previousCredential.isSome then do
      await (.saveConfig path config.stable)
      return config.stable
    else return config

def beat (path : ConfigPath) (config : AgentConfig) :
    MigrationCall (AgentConfig × HeartbeatResponse) :=
  tryCatch (do
      let response ← await (.heartbeat config)
      return (config, response)) fun x =>
    match x, config.previousCredential, config.previousCredentialGeneration with
    | .unauthorized, some credential, some generation => do
      let fallback := { config.stable with
        credential := credential, credentialGeneration := generation }
      let response ← await (.heartbeat fallback)
      await (.saveConfig path fallback)
      return (fallback, response)
    | x, _, _ => throw x

def heartbeatOnce (path : ConfigPath) (config : AgentConfig) : MigrationCall AgentConfig := do
  await .inspectDocker
  let (config, response) ← beat path config
  reconcileCredentialRotation path config response

/-- `nextUrl` is the normalized URL, if it is a legal one. -/
def migrateControlPlaneUrl (nextUrl : Option String) : MigrationCall Unit := do
  let current ← await .loadConfig
  match nextUrl with
  | none => throw (.failed "Control-plane URL must be an absolute HTTP(S) URL")
  | some nextUrl =>
    if current.controlPlaneUrl = nextUrl then pure ()
    else
      let verified : MigrationCall Unit := do
        let candidate := { current with controlPlaneUrl := nextUrl }
        await (.saveConfig .candidate candidate)
        let candidate ← heartbeatOnce .candidate candidate
        await (.saveConfig .config candidate)
      verified.ensure (await .removeCandidate)

def AgentConfig.holds (config : AgentConfig) (credential : Credential) : Prop :=
  credential = config.credential ∨ some credential = config.previousCredential

/-- The stored config holds a credential that the control plane accepts. -/
def Kept (w : MigrationWorld) : Prop :=
  ∃ credential, w.config.holds credential ∧ w.row.accepts credential = true

def MigrationStmt.presented {β : Type} : MigrationStmt β → Option Credential
  | .heartbeat config => some config.credential
  | _ => none

def MigrationStmt.stores {β : Type} : MigrationStmt β → Bool
  | .saveConfig .config _ => true
  | _ => false

/-- The control plane has taken a heartbeat with a credential that the config did not hold. -/
def Confirmed (config : AgentConfig) (h : List MigrationEvent) : Prop :=
  ∃ ev ∈ h, ev.input.carriedOut = true ∧ ∃ c, ev.stmt.presented = some c ∧ ¬ config.holds c

def Saved (h : List MigrationEvent) : Prop :=
  ∃ ev ∈ h, ev.input.carriedOut = true ∧ ev.stmt.stores = true

/-- An Agent that the control plane knows. Random bytes that have not been drawn are in no
credential. -/
structure Enrolled where
  world : MigrationWorld
  kept : Kept world
  drawn : ∀ c, world.config.holds c → c.random < world.row.nextToken

/-! ## Phases -/

/-- Nothing of the config is stale. -/
structure Intact (config : AgentConfig) (m : MigrationMoment) : Prop where
  config_eq : m.state.config = config
  kept : Kept m.state
  drawn : ∀ c, config.holds c → c.random < m.state.row.nextToken
  unconfirmed : ¬ Confirmed config m.history
  unsaved : ¬ Saved m.history

/-- The control plane accepts the new credential only, and the config does not hold it. -/
structure Handed (config : AgentConfig) (m : MigrationMoment) : Prop where
  config_eq : m.state.config = config
  fresh : ¬ config.holds m.state.row.credential
  pending : m.state.row.pending = none
  confirmed : Confirmed config m.history
  unsaved : ¬ Saved m.history

structure Stored (m : MigrationMoment) : Prop where
  kept : Kept m.state
  saved : Saved m.history

def Phase (config : AgentConfig) (m : MigrationMoment) : Prop :=
  Intact config m ∨ Handed config m ∨ Stored m

section Phases

variable {config : AgentConfig} {m : MigrationMoment} {β : Type} {e : MigrationStmt β}
  {i : MigrationInput}

/-- The world when the statement is executed. -/
def MigrationWorld.later (w : MigrationWorld) (i : MigrationInput) : MigrationWorld :=
  { w with now := w.now + i.elapsed }

theorem exec_state (e : MigrationStmt β) (i : MigrationInput) (w : MigrationWorld) :
    (exec e i w).2 = if i.carriedOut then (e.run (w.later i)).2 else w.later i := by
  unfold MigrationInput.carriedOut
  simp only [exec, MigrationWorld.later]
  cases i.fault with
  | none => rfl
  | some fault => rfl

theorem exec_ok {w : MigrationWorld} {b : β} (h : (exec e i w).1 = .ok b) :
    i.carriedOut = true ∧ (e.run (w.later i)).1 = .ok b := by
  unfold MigrationInput.carriedOut
  simp only [exec, MigrationWorld.later] at h ⊢
  cases hfault : i.fault with
  | none =>
    rw [hfault] at h
    exact ⟨rfl, h⟩
  | some fault =>
    rw [hfault] at h
    cases h

theorem Handed.not_kept (h : Handed config m) : ¬ Kept m.state := by
  rintro ⟨c, hc, haccepts⟩
  rw [AgentRow.accepts, h.pending, Option.any_none, Bool.or_false] at haccepts
  refine h.fresh ?_
  rw [beq_iff_eq.mp haccepts, ← h.config_eq]
  exact hc

theorem Phase.kept_iff (h : Phase config m) :
    Kept m.state ↔ (Confirmed config m.history → Saved m.history) := by
  rcases h with h | h | h
  · exact iff_of_true h.kept fun hconfirmed => absurd hconfirmed h.unconfirmed
  · exact iff_of_false h.not_kept fun hsaved => h.unsaved (hsaved h.confirmed)
  · exact iff_of_true h.kept fun _ => h.saved

theorem confirmed_next (m : MigrationMoment) (e : MigrationStmt β) (i : MigrationInput) :
    Confirmed config (m.next 0 e i).history ↔ Confirmed config m.history ∨
      i.carriedOut = true ∧ ∃ c, e.presented = some c ∧ ¬ config.holds c := by
  unfold Confirmed
  simp only [Moment.next_history, List.mem_append, List.mem_singleton, or_and_right, exists_or,
    exists_eq_left]

theorem saved_next (m : MigrationMoment) (e : MigrationStmt β) (i : MigrationInput) :
    Saved (m.next 0 e i).history ↔ Saved m.history ∨ i.carriedOut = true ∧ e.stores = true := by
  unfold Saved
  simp only [Moment.next_history, List.mem_append, List.mem_singleton, or_and_right, exists_or,
    exists_eq_left]

/-- The statement neither talks to the control plane nor saves the config. -/
def MigrationStmt.neutral (e : MigrationStmt β) : Prop := e.presented = none ∧ e.stores = false

/-- What the phases speak of is the same. -/
structure Unchanged (m m' : MigrationMoment) : Prop where
  row : m'.state.row = m.state.row
  config : m'.state.config = m.state.config
  confirmed : ∀ config, Confirmed config m'.history ↔ Confirmed config m.history
  saved : Saved m'.history ↔ Saved m.history

theorem unchanged_neutral (he : e.neutral) (m : MigrationMoment) (i : MigrationInput) :
    Unchanged m (m.next 0 e i) := by
  have hrun : (e.run (m.state.later i)).2.row = m.state.row ∧
      (e.run (m.state.later i)).2.config = m.state.config := by
    cases e with
    | saveConfig path config =>
      cases path with
      | config => cases he.2
      | candidate => exact ⟨rfl, rfl⟩
    | heartbeat config => exact absurd he.1 (Option.some_ne_none _)
    | _ => exact ⟨rfl, rfl⟩
  refine ⟨?_, ?_, fun config => ?_, ?_⟩
  · rw [Moment.next_state, exec_state]
    split
    · exact hrun.1
    · rfl
  · rw [Moment.next_state, exec_state]
    split
    · exact hrun.2
    · rfl
  · rw [confirmed_next, he.1]
    simp
  · rw [saved_next, he.2]
    simp

theorem unchanged_lost (hi : i.carriedOut = false) (e : MigrationStmt β) (m : MigrationMoment) :
    Unchanged m (m.next 0 e i) := by
  refine ⟨?_, ?_, fun config => ?_, ?_⟩
  · rw [Moment.next_state, exec_state, hi]
    rfl
  · rw [Moment.next_state, exec_state, hi]
    rfl
  · rw [confirmed_next, hi]
    simp
  · rw [saved_next, hi]
    simp

theorem kept_congr {w w' : MigrationWorld} (hrow : w'.row = w.row) (hconfig : w'.config = w.config) :
    Kept w' ↔ Kept w := by
  unfold Kept
  rw [hrow, hconfig]

section Unchanged

variable {m' : MigrationMoment}

theorem Intact.unchanged (h : Intact config m) (hm : Unchanged m m') : Intact config m' where
  config_eq := hm.config.trans h.config_eq
  kept := (kept_congr hm.row hm.config).2 h.kept
  drawn := hm.row ▸ h.drawn
  unconfirmed := fun hc => h.unconfirmed ((hm.confirmed config).1 hc)
  unsaved := fun hs => h.unsaved (hm.saved.1 hs)

theorem Handed.unchanged (h : Handed config m) (hm : Unchanged m m') : Handed config m' where
  config_eq := hm.config.trans h.config_eq
  fresh := hm.row ▸ h.fresh
  pending := hm.row ▸ h.pending
  confirmed := (hm.confirmed config).2 h.confirmed
  unsaved := fun hs => h.unsaved (hm.saved.1 hs)

theorem Stored.unchanged (h : Stored m) (hm : Unchanged m m') : Stored m' where
  kept := (kept_congr hm.row hm.config).2 h.kept
  saved := hm.saved.2 h.saved

theorem Phase.unchanged (h : Phase config m) (hm : Unchanged m m') : Phase config m' := by
  rcases h with h | h | h
  · exact .inl (h.unchanged hm)
  · exact .inr (.inl (h.unchanged hm))
  · exact .inr (.inr (h.unchanged hm))

end Unchanged

theorem heartbeat_cases (row : AgentRow) (now : Time) (c : Credential) :
    (∃ p, row.pending = some p ∧ p.credential = c ∧
      row.heartbeat now c = (some ⟨row.targetId, p.generation, true, none⟩,
        { row with credential := c, generation := p.generation, activeSince := some now, pending := none })) ∨
    (row.credential = c ∧ ∃ p, p.credential.random = row.nextToken ∧
      row.heartbeat now c = (some ⟨row.targetId, row.generation, true,
          some ⟨p.credential, row.generation + 1⟩⟩,
        { row with pending := some p, nextToken := row.nextToken + 1 })) ∨
    (row.credential = c ∧
      row.heartbeat now c = (some ⟨row.targetId, row.generation, true, none⟩, row)) ∨
    row.accepts c = false ∧ row.heartbeat now c = (none, row) := by
  unfold AgentRow.heartbeat
  cases hpending : row.pending.filter (·.credential == c) with
  | some p =>
    obtain ⟨hp, hc⟩ := Option.filter_eq_some_iff.mp hpending
    exact .inl ⟨p, hp, beq_iff_eq.mp hc, rfl⟩
  | none =>
    refine .inr ?_
    by_cases hactive : row.credential = c
    · dsimp only
      rw [if_neg (by simp [hactive])]
      by_cases hrotates : row.mayRotate now = true
      · rw [if_pos hrotates]
        exact .inl ⟨hactive, ⟨⟨row.nextToken⟩, row.generation + 1, now⟩, rfl, rfl⟩
      · rw [if_neg hrotates]
        exact .inr (.inl ⟨hactive, rfl⟩)
    · refine .inr (.inr ⟨?_, ?_⟩)
      · rw [AgentRow.accepts, beq_eq_false_iff_ne.mpr hactive, Bool.false_or]
        cases hsome : row.pending with
        | none => rfl
        | some p =>
          rw [hsome, Option.filter_eq_none_iff] at hpending
          exact Bool.eq_false_iff.mpr (hpending p rfl)
      · dsimp only
        rw [if_pos (by simpa using hactive)]

theorem next_heartbeat (m : MigrationMoment) (sent : AgentConfig) (i : MigrationInput) :
    (m.next 0 (.heartbeat sent) i).state.config = m.state.config ∧
      (m.next 0 (.heartbeat sent) i).state.row =
        if i.carriedOut then
          (m.state.row.heartbeat (m.state.now + i.elapsed) sent.credential).2
        else m.state.row := by
  rw [Moment.next_state, exec_state]
  constructor
  · split <;> rfl
  · split <;> rfl

theorem heartbeat_ok {sent : AgentConfig} {response : HeartbeatResponse}
    (h : (exec (MigrationStmt.heartbeat sent) i m.state).1 = .ok response) : i.carriedOut = true ∧
      (m.state.row.heartbeat (m.state.now + i.elapsed) sent.credential).1 = some response := by
  obtain ⟨hcarried, hrun⟩ := exec_ok h
  refine ⟨hcarried, ?_⟩
  simp only [MigrationStmt.run, MigrationWorld.later] at hrun
  cases hresponse : (m.state.row.heartbeat (m.state.now + i.elapsed) sent.credential).1 with
  | none =>
    rw [hresponse] at hrun
    cases hrun
  | some response' =>
    rw [hresponse] at hrun
    cases hrun
    rfl

theorem kept_of_active {w : MigrationWorld} (h : w.config.holds w.row.credential) : Kept w := by
  refine ⟨_, h, ?_⟩
  rw [AgentRow.accepts, beq_self_eq_true, Bool.true_or]

/-- A heartbeat with a credential that the config holds. If it is answered, the credential is the
active one, and a rotation is pending and new. -/
theorem Intact.heartbeat {sent : AgentConfig} (h : Intact config m)
    (hsent : config.holds sent.credential) :
    Intact config (m.next 0 (.heartbeat sent) i) ∧
      ∀ response, (exec (MigrationStmt.heartbeat sent) i m.state).1 = .ok response →
        (m.next 0 (.heartbeat sent) i).state.row.credential = sent.credential ∧
          ∀ rotation, response.credentialRotation = some rotation →
            ¬ config.holds rotation.credential ∧
              ∃ p, (m.next 0 (.heartbeat sent) i).state.row.pending = some p ∧
                p.credential = rotation.credential := by
  obtain ⟨hconfig, hrow⟩ := next_heartbeat m sent i
  have hunconfirmed : ¬ Confirmed config (m.next 0 (.heartbeat sent) i).history := by
    rw [confirmed_next]
    rintro (hbefore | ⟨-, c, hc, hnew⟩)
    · exact h.unconfirmed hbefore
    · exact hnew (Option.some.inj hc ▸ hsent)
  have hunsaved : ¬ Saved (m.next 0 (.heartbeat sent) i).history := by
    rw [saved_next]
    rintro (hbefore | ⟨-, hfalse⟩)
    · exact h.unsaved hbefore
    · cases hfalse
  have hheld : (m.next 0 (.heartbeat sent) i).state.row.credential = sent.credential →
      Kept (m.next 0 (.heartbeat sent) i).state := fun hactive =>
    kept_of_active (by rw [hconfig, h.config_eq, hactive]; exact hsent)
  cases hcarried : i.carriedOut with
  | false =>
    refine ⟨h.unchanged (unchanged_lost hcarried _ m), fun response hresponse => ?_⟩
    rw [(heartbeat_ok hresponse).1] at hcarried
    cases hcarried
  | true =>
    rw [hcarried, if_pos rfl] at hrow
    have hanswer : ∀ response, (exec (MigrationStmt.heartbeat sent) i m.state).1 = .ok response →
        (m.state.row.heartbeat (m.state.now + i.elapsed) sent.credential).1 = some response :=
      fun response hresponse => (heartbeat_ok hresponse).2
    rcases heartbeat_cases m.state.row (m.state.now + i.elapsed) sent.credential with
      ⟨p, hp, hc, heq⟩ | ⟨hactive, p, hp, heq⟩ | ⟨hactive, heq⟩ | ⟨hrefused, heq⟩ <;>
      rw [heq] at hrow hanswer
    · refine ⟨⟨hconfig.trans h.config_eq, hheld (by rw [hrow]), ?_, hunconfirmed, hunsaved⟩,
        fun response hresponse => ⟨by rw [hrow], fun rotation hrotation => ?_⟩⟩
      · rw [hrow]
        exact h.drawn
      · cases hanswer response hresponse
        cases hrotation
    · refine ⟨⟨hconfig.trans h.config_eq, hheld (by rw [hrow]; exact hactive), ?_, hunconfirmed,
        hunsaved⟩, fun response hresponse => ⟨by rw [hrow]; exact hactive, fun rotation hrotation => ?_⟩⟩
      · rw [hrow]
        exact fun c hc => Nat.lt_succ_of_lt (h.drawn c hc)
      · cases hanswer response hresponse
        cases hrotation
        refine ⟨fun hheld => ?_, p, by rw [hrow], rfl⟩
        exact absurd (h.drawn _ hheld) (by rw [hp]; exact Nat.lt_irrefl _)
    · refine ⟨⟨hconfig.trans h.config_eq, hheld (by rw [hrow]; exact hactive), hrow ▸ h.drawn,
        hunconfirmed, hunsaved⟩, fun response hresponse => ⟨by rw [hrow]; exact hactive,
        fun rotation hrotation => ?_⟩⟩
      cases hanswer response hresponse
      cases hrotation
    · refine ⟨⟨hconfig.trans h.config_eq, (kept_congr hrow hconfig).2 h.kept, hrow ▸ h.drawn,
        hunconfirmed, hunsaved⟩, fun response hresponse => ?_⟩
      cases hanswer response hresponse

theorem Intact.confirm {p : PendingCredential} (h : Intact config m) (sent : AgentConfig)
    (hpending : m.state.row.pending = some p) (hsent : p.credential = sent.credential)
    (hfresh : ¬ config.holds sent.credential) :
    (Intact config (m.next 0 (.heartbeat sent) i) ∨ Handed config (m.next 0 (.heartbeat sent) i)) ∧
      ∀ response, (exec (MigrationStmt.heartbeat sent) i m.state).1 = .ok response →
        (m.next 0 (.heartbeat sent) i).state.row.credential = sent.credential := by
  obtain ⟨hconfig, hrow⟩ := next_heartbeat m sent i
  have hunsaved : ¬ Saved (m.next 0 (.heartbeat sent) i).history := by
    rw [saved_next]
    rintro (hbefore | ⟨-, hfalse⟩)
    · exact h.unsaved hbefore
    · cases hfalse
  cases hcarried : i.carriedOut with
  | false =>
    refine ⟨.inl (h.unchanged (unchanged_lost hcarried _ m)), fun response hresponse => ?_⟩
    rw [(heartbeat_ok hresponse).1] at hcarried
    cases hcarried
  | true =>
    have hactivated : (m.state.row.heartbeat (m.state.now + i.elapsed) sent.credential).2 =
        { m.state.row with
          credential := sent.credential
          generation := p.generation
          activeSince := some (m.state.now + i.elapsed)
          pending := none } := by
      have hmatch : m.state.row.pending.filter (·.credential == sent.credential) = some p := by
        rw [hpending, Option.filter_some, hsent, beq_self_eq_true, if_pos rfl]
      unfold AgentRow.heartbeat
      rw [hmatch]
    rw [hcarried, if_pos rfl, hactivated] at hrow
    refine ⟨.inr ⟨hconfig.trans h.config_eq, by rw [hrow]; exact hfresh, by rw [hrow], ?_, hunsaved⟩,
      fun response _ => by rw [hrow]⟩
    rw [confirmed_next]
    exact .inr ⟨hcarried, sent.credential, rfl, hfresh⟩

theorem save_config {saved : AgentConfig} (h : Intact config m ∨ Handed config m)
    (hactive : m.state.row.credential = saved.credential) :
    Phase config (m.next 0 (.saveConfig .config saved) i) := by
  cases hcarried : i.carriedOut with
  | false =>
    have hsame := unchanged_lost hcarried (MigrationStmt.saveConfig .config saved) m
    exact h.elim (fun h => .inl (h.unchanged hsame)) fun h => .inr (.inl (h.unchanged hsame))
  | true =>
    refine .inr (.inr ⟨?_, ?_⟩)
    · rw [Moment.next_state, exec_state, hcarried, if_pos rfl]
      exact kept_of_active (.inl hactive)
    · rw [saved_next]
      exact .inr ⟨hcarried, rfl⟩

end Phases

/-! ## The migration, step by step -/

section Calls

variable {config : AgentConfig} {m : MigrationMoment}

abbrev Passes {α : Type} (config : AgentConfig)
    (Q : Except MigrationError α → MigrationMoment → Prop) (p : MigrationCall α)
    (m : MigrationMoment) : Prop :=
  p.Through anyStep (Phase config) Q m

/-- The config has not been saved yet. -/
def Live (config : AgentConfig) (m : MigrationMoment) : Prop := Intact config m ∨ Handed config m

theorem Live.phase (h : Live config m) : Phase config m := h.elim .inl fun h => .inr (.inl h)

theorem Live.unchanged {m' : MigrationMoment} (h : Live config m) (hm : Unchanged m m') :
    Live config m' :=
  h.elim (fun h => .inl (h.unchanged hm)) fun h => .inr (h.unchanged hm)

/-- The active credential is that of the config that the call goes on with. -/
def Verified (config : AgentConfig) (r : Except MigrationError AgentConfig) (m : MigrationMoment) :
    Prop :=
  Live config m ∧ ∀ next, r = .ok next → m.state.row.credential = next.credential

theorem passes_failIf (hm : Phase config m) (condition : Bool) (message : String) :
    Passes config (fun _ m' => m = m') (failIf condition message) m := .ret hm rfl

theorem passes_identity (hm : Phase config m) (sent : AgentConfig) (response : HeartbeatResponse) :
    Passes config (fun _ m' => m = m') (assertHeartbeatIdentity sent response) m :=
  .bind (passes_failIf hm _ _) (fun _ _ _ heq => heq ▸ passes_failIf hm _ _) fun _ _ _ heq => heq

theorem Verified.error {x : MigrationError} (h : Live config m) :
    Verified config (.error x) m := ⟨h, fun next hnext => by cases hnext⟩

theorem passes_saveCopy {copy : AgentConfig} (h : Live config m)
    (hactive : m.state.row.credential = copy.credential) :
    Passes config (Verified config)
      (do await (.saveConfig .candidate copy); return copy : MigrationCall AgentConfig) m := by
  have hsame : ∀ i, Unchanged m (m.next 0 (.saveConfig .candidate copy) i) :=
    unchanged_neutral ⟨rfl, rfl⟩ m
  refine .await_bind h.phase (fun i _ _ _ => ?_) fun i x _ _ => ?_
  · refine .ret (h.unchanged (hsame i)).phase ⟨h.unchanged (hsame i), fun next hnext => ?_⟩
    cases hnext
    rw [(hsame i).row]
    exact hactive
  · exact ⟨(h.unchanged (hsame i)).phase, .error (h.unchanged (hsame i))⟩

theorem passes_takeRotation {sent : AgentConfig} {rotation : CredentialRotation}
    {p : PendingCredential} (h : Intact config m) (hfresh : ¬ config.holds rotation.credential)
    (hpending : m.state.row.pending = some p) (hp : p.credential = rotation.credential) :
    Passes config (Verified config) (takeRotation .candidate sent rotation) m := by
  have hlive : Live config m := .inl h
  unfold takeRotation
  refine .bind (passes_failIf hlive.phase _ _) ?_ ?_
  · rintro _ _ _ rfl
    have hsame : ∀ i, Unchanged m (m.next 0 (.saveConfig .candidate (sent.rotated rotation)) i) :=
      unchanged_neutral ⟨rfl, rfl⟩ m
    refine .await_bind hlive.phase (fun i _ _ _ => ?_) fun i x _ _ => ?_
    · have hsaved := h.unchanged (hsame i)
      refine .await_bind (.inl hsaved) (fun j confirmation _ hanswer => ?_) fun j x _ _ => ?_
      · obtain ⟨hconfirmed, hactive⟩ := hsaved.confirm (i := j) (sent.rotated rotation)
          ((hsame i).row ▸ hpending) hp hfresh
        have hactive := hactive confirmation hanswer
        have hphase : Phase config _ := Live.phase hconfirmed
        refine .bind (passes_identity hphase _ _) ?_ ?_
        · rintro _ _ _ rfl
          refine .bind (passes_failIf hphase _ _) ?_ ?_
          · rintro _ _ _ rfl
            exact passes_saveCopy hconfirmed hactive
          · rintro x _ _ rfl
            exact .error hconfirmed
        · rintro x _ _ rfl
          exact .error hconfirmed
      · have hconfirmed := (hsaved.confirm (i := j) (sent.rotated rotation)
          ((hsame i).row ▸ hpending) hp hfresh).1
        exact ⟨Live.phase hconfirmed, .error hconfirmed⟩
    · exact ⟨(hlive.unchanged (hsame i)).phase, .error (hlive.unchanged (hsame i))⟩
  · rintro x _ _ rfl
    exact .error hlive

theorem passes_reconcile {sent : AgentConfig} {response : HeartbeatResponse} (h : Intact config m)
    (hactive : m.state.row.credential = sent.credential)
    (hrotation : ∀ rotation, response.credentialRotation = some rotation →
      ¬ config.holds rotation.credential ∧
        ∃ p, m.state.row.pending = some p ∧ p.credential = rotation.credential) :
    Passes config (Verified config) (reconcileCredentialRotation .candidate sent response) m := by
  have hlive : Live config m := .inl h
  unfold reconcileCredentialRotation
  refine .bind (passes_identity hlive.phase _ _) ?_ ?_
  · rintro _ _ _ rfl
    cases hresponse : response.credentialRotation with
    | some rotation =>
      obtain ⟨hfresh, p, hpending, hp⟩ := hrotation rotation hresponse
      exact passes_takeRotation h hfresh hpending hp
    | none =>
      dsimp only
      split
      · exact passes_saveCopy hlive hactive
      · exact .ret hlive.phase ⟨hlive, fun next hnext => by cases hnext; exact hactive⟩
  · rintro x _ _ rfl
    exact .error hlive

/-- The config is unused so far. If a heartbeat was answered, its credential is the active one, and
a rotation in the answer is pending and new. -/
def Beaten (config : AgentConfig) (r : Except MigrationError (AgentConfig × HeartbeatResponse))
    (m : MigrationMoment) : Prop :=
  Intact config m ∧ ∀ next response, r = .ok (next, response) →
    m.state.row.credential = next.credential ∧
      ∀ rotation, response.credentialRotation = some rotation →
        ¬ config.holds rotation.credential ∧
          ∃ p, m.state.row.pending = some p ∧ p.credential = rotation.credential

theorem Beaten.error {x : MigrationError} (h : Intact config m) : Beaten config (.error x) m :=
  ⟨h, fun _ _ heq => by cases heq⟩

theorem passes_fallback {fallback : AgentConfig} (h : Intact config m)
    (hheld : config.holds fallback.credential) :
    Passes config (Beaten config) (do
      let response ← await (.heartbeat fallback)
      await (.saveConfig .candidate fallback)
      return (fallback, response) : MigrationCall (AgentConfig × HeartbeatResponse)) m := by
  refine .await_bind (.inl h) (fun i response _ hanswer => ?_) fun i x _ _ => ?_
  · obtain ⟨hintact, hfacts⟩ := h.heartbeat (i := i) hheld
    have hfacts := hfacts response hanswer
    have hsame : ∀ j, Unchanged (m.next 0 (.heartbeat fallback) i)
        ((m.next 0 (.heartbeat fallback) i).next 0 (.saveConfig .candidate fallback) j) :=
      unchanged_neutral ⟨rfl, rfl⟩ _
    refine .await_bind (.inl hintact) (fun j _ _ _ => ?_) fun j x _ _ => ?_
    · refine .ret (.inl (hintact.unchanged (hsame j))) ⟨hintact.unchanged (hsame j), ?_⟩
      rintro next response' heq
      cases heq
      rw [(hsame j).row]
      exact hfacts
    · exact ⟨.inl (hintact.unchanged (hsame j)), .error (hintact.unchanged (hsame j))⟩
  · have hintact := (h.heartbeat (i := i) hheld).1
    exact ⟨.inl hintact, .error hintact⟩

theorem passes_beat {sent : AgentConfig} (h : Intact config m)
    (hheld : ∀ c, sent.holds c → config.holds c) :
    Passes config (Beaten config) (beat .candidate sent) m := by
  refine .tryCatch (Q := Beaten config) ?_ (fun _ _ _ hbeaten => hbeaten) fun x m' _ hbeaten => ?_
  · refine .await_bind (.inl h) (fun i response _ hanswer => ?_) fun i x _ _ => ?_
    · obtain ⟨hintact, hfacts⟩ := h.heartbeat (i := i) (hheld _ (.inl rfl))
      refine .ret (.inl hintact) ⟨hintact, fun next response' heq => ?_⟩
      cases heq
      exact hfacts response hanswer
    · have hintact := (h.heartbeat (i := i) (hheld _ (.inl rfl))).1
      exact ⟨.inl hintact, .error hintact⟩
  · have hrefused : Passes config (Beaten config) (throw x) m' :=
      .ret (.inl hbeaten.1) (.error hbeaten.1)
    split
    · rename_i hprevious _
      exact passes_fallback hbeaten.1 (hheld _ (.inr hprevious.symm))
    · exact hrefused

theorem passes_heartbeatOnce {sent : AgentConfig} (h : Intact config m)
    (hheld : ∀ c, sent.holds c → config.holds c) :
    Passes config (Verified config) (heartbeatOnce .candidate sent) m := by
  have hsame : ∀ i, Unchanged m (m.next 0 .inspectDocker i) := unchanged_neutral ⟨rfl, rfl⟩ m
  refine .await_bind (.inl h) (fun i _ _ _ => ?_) fun i x _ _ => ?_
  · refine .bind (passes_beat (h.unchanged (hsame i)) hheld) ?_ ?_
    · rintro ⟨next, response⟩ m' - ⟨hintact, hfacts⟩
      obtain ⟨hactive, hrotation⟩ := hfacts next response rfl
      exact passes_reconcile hintact hactive hrotation
    · rintro x m' - hbeaten
      exact .error (.inl hbeaten.1)
  · exact ⟨.inl (h.unchanged (hsame i)), .error (.inl (h.unchanged (hsame i)))⟩

theorem Intact.load {i : MigrationInput} {current : AgentConfig} (h : Intact config m)
    (hanswer : (exec MigrationStmt.loadConfig i m.state).1 = .ok current) : current = config := by
  obtain ⟨-, hrun⟩ := exec_ok hanswer
  cases hrun
  exact h.config_eq

theorem passes_verified (h : Intact config m) (nextUrl : String) :
    Passes config (fun _ _ => True) (do
      let candidate := { config with controlPlaneUrl := nextUrl }
      await (.saveConfig .candidate candidate)
      let candidate ← heartbeatOnce .candidate candidate
      await (.saveConfig .config candidate) : MigrationCall Unit) m := by
  have hsame : ∀ i, Unchanged m (m.next 0 (.saveConfig .candidate
      { config with controlPlaneUrl := nextUrl }) i) := unchanged_neutral ⟨rfl, rfl⟩ m
  refine .await_bind (.inl h) (fun i _ _ _ => ?_) fun i x _ _ =>
    ⟨.inl (h.unchanged (hsame i)), trivial⟩
  refine .bind (passes_heartbeatOnce (h.unchanged (hsame i)) fun c hc => hc) ?_ ?_
  · rintro candidate m' hphase ⟨hlive, hactive⟩
    exact .await hphase fun j _ => ⟨save_config hlive (hactive candidate rfl), trivial⟩
  · intro _ _ _ _
    trivial

theorem passes_migrate (h : Intact config m) (nextUrl : Option String) :
    Passes config (fun _ _ => True) (migrateControlPlaneUrl nextUrl) m := by
  have hsame : ∀ i, Unchanged m (m.next 0 .loadConfig i) := unchanged_neutral ⟨rfl, rfl⟩ m
  refine .await_bind (.inl h) (fun i current _ hanswer => ?_) fun i x _ _ =>
    ⟨.inl (h.unchanged (hsame i)), trivial⟩
  have hloaded := h.unchanged (hsame i)
  obtain rfl := h.load hanswer
  cases nextUrl with
  | none => exact .ret (.inl hloaded) trivial
  | some nextUrl =>
    dsimp only
    split
    · exact .ret (.inl hloaded) trivial
    · refine .ensure (Q := fun _ _ => True) (passes_verified hloaded nextUrl) fun r m' hphase _ => ?_
      exact .await hphase fun j _ =>
        ⟨hphase.unchanged (unchanged_neutral ⟨rfl, rfl⟩ m' j), trivial⟩

end Calls

/-- Wherever the migration is stopped or ends: the config holds a credential that the control plane
accepts, unless the control plane has taken a heartbeat with a new one and the config has not been
saved. -/
theorem credential_kept_iff (w : Enrolled) (nextUrl : Option String) (m' : MigrationMoment)
    (h : (migrateControlPlaneUrl nextUrl).Stops anyStep ⟨w.world, []⟩ m') :
    Kept m'.state ↔ (Confirmed w.world.config m'.history → Saved m'.history) := by
  have hintact : Intact w.world.config ⟨w.world, []⟩ := by
    refine ⟨rfl, w.kept, w.drawn, ?_, ?_⟩
    · rintro ⟨ev, hev, -⟩
      cases hev
    · rintro ⟨ev, hev, -⟩
      cases hev
  exact ((passes_migrate hintact nextUrl).stops h).kept_iff

/-- The credential of the Agent has been in use for thirty days. -/
def dueWorld : MigrationWorld where
  now := AgentRow.credentialRotateAfter
  row :=
    { targetId := 1, credential := ⟨0⟩, generation := 1, activeSince := some 0, rotates := true,
      nextToken := 1 }
  config :=
    { controlPlaneUrl := "https://old.example", targetId := 1, credential := ⟨0⟩,
      credentialGeneration := 1 }

def due : Enrolled where
  world := dueWorld
  kept := ⟨⟨0⟩, .inl rfl, rfl⟩
  drawn := by
    rintro c (rfl | hc)
    · exact Nat.zero_lt_one
    · cases hc

/-- The process stops after the heartbeat that confirms the new credential. -/
def stopped : MigrationMoment :=
  (migrateControlPlaneUrl (some "https://new.example")).advance (List.replicate 6 {}) ⟨dueWorld, []⟩

theorem stops_stopped :
    (migrateControlPlaneUrl (some "https://new.example")).Stops anyStep ⟨dueWorld, []⟩ stopped :=
  Prog.stops_advance _ _ _

theorem stopped_row : stopped.state.row.credential = ⟨1⟩ ∧ stopped.state.row.pending = none := by
  decide

theorem stopped_config : stopped.state.config = dueWorld.config := by decide

theorem not_kept_stopped : ¬ Kept stopped.state := by
  rintro ⟨c, hc, haccepts⟩
  rw [AgentRow.accepts, stopped_row.1, stopped_row.2, Option.any_none, Bool.or_false] at haccepts
  rw [stopped_config, ← beq_iff_eq.1 haccepts] at hc
  rcases hc with hc | hc <;> cases hc

theorem credential_kept_iff_stopped :
    Kept stopped.state ↔ (Confirmed dueWorld.config stopped.history → Saved stopped.history) :=
  credential_kept_iff due (some "https://new.example") stopped stops_stopped

/-- The config holds the old credential alone, and the control plane accepts the new one alone. -/
theorem migration_loses_credential :
    ¬ ∀ (w : Enrolled) (nextUrl : Option String) (m' : MigrationMoment),
      (migrateControlPlaneUrl nextUrl).Stops anyStep ⟨w.world, []⟩ m' → Kept m'.state := fun h =>
  not_kept_stopped (h due _ _ stops_stopped)

end InitPad.UrlMigration
