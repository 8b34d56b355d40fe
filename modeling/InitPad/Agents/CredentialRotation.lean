import InitPad.Agents.UrlMigration

/-!
# InitPad.Agents.CredentialRotation

The processes of an Agent: `once` and `run`, which heartbeats until it is aborted. A process reads
its config when it starts and keeps it in memory; the rotation of a credential changes the memory
and the file, one after the other.

A statement that fails may have been carried out, a response can be lost, and a process can stop
between any two statements. The next process starts from the file.

* `stored_holds_active`: wherever the processes are stopped, the file holds the active credential.
* `once_settles`: from there one heartbeat without a fault gets through, and the file then holds
  the active credential alone.
* `run_error_of_fault`: no process is rejected on its own account.
-/

namespace InitPad.CredentialRotation

open Interleave
open UrlMigration (Credential AgentConfig AgentRow HeartbeatResponse PendingCredential)
open Prog (await refuseIf)

/-! ## Statements -/

/-- The file and the memory of the process that runs. -/
structure AgentWorld where
  now : Time
  row : AgentRow
  stored : AgentConfig
  config : AgentConfig

inductive AgentError where
  /-- `ControlPlaneError` -/
  | controlPlane (status : Nat)
  | failed (message : String)
  deriving DecidableEq

def AgentError.unauthorized : AgentError := .controlPlane 401

/-- The loops give up on these. -/
def AgentError.rejected : AgentError → Bool
  | .controlPlane status => decide (400 ≤ status ∧ status < 500)
  | .failed _ => false

inductive AgentStmt : Type → Type 1 where
  | loadConfig : AgentStmt AgentConfig
  | saveConfig (config : AgentConfig) : AgentStmt Unit
  | inspectDocker : AgentStmt Unit
  | heartbeat (config : AgentConfig) : AgentStmt HeartbeatResponse
  | current : AgentStmt AgentConfig
  | replaceConfig (next : AgentConfig) : AgentStmt Unit
  | aborted : AgentStmt Bool
  | delay (seconds : Nat) : AgentStmt Unit

/-- The statement leaves the process. -/
def AgentStmt.leaves {β : Type} : AgentStmt β → Bool
  | .loadConfig | .saveConfig _ | .inspectDocker | .heartbeat _ => true
  | .current | .replaceConfig _ | .aborted | .delay _ => false

/-- A 401 is an answer of the control plane, and no fault. -/
structure AgentFault where
  error : AgentError
  carriedOut : Bool
  genuine : error ≠ .unauthorized

structure AgentInput where
  elapsed : Nat := 0
  aborted : Bool := false
  fault : Option AgentFault := none

/-- The world when the statement is executed. -/
def AgentWorld.later (w : AgentWorld) (i : AgentInput) : AgentWorld :=
  { w with now := w.now + i.elapsed }

def AgentStmt.run {β : Type} (e : AgentStmt β) (i : AgentInput) (w : AgentWorld) :
    Except AgentError β × AgentWorld :=
  match e with
  | .loadConfig => (.ok w.stored, w)
  | .saveConfig config => (.ok (), { w with stored := config })
  | .inspectDocker => (.ok (), w)
  | .heartbeat config =>
    let (response, row) := w.row.heartbeat w.now config.credential
    (response.elim (.error .unauthorized) .ok, { w with row := row })
  | .current => (.ok w.config, w)
  | .replaceConfig next => (.ok (), { w with config := next })
  | .aborted => (.ok i.aborted, w)
  | .delay seconds => (.ok (), { w with now := w.now + seconds * 1000 })

instance : Semantics AgentStmt AgentInput AgentWorld AgentError where
  exec e i w :=
    match i.fault.filter fun _ => e.leaves with
    | some fault =>
      (.error fault.error, if fault.carriedOut then (e.run i (w.later i)).2 else w.later i)
    | none => e.run i (w.later i)

abbrev AgentCall (α : Type) : Type 1 := Prog AgentStmt AgentError α
abbrev AgentMoment := Moment AgentStmt AgentInput AgentWorld AgentError
abbrev AgentEvent := Interleave.Event AgentStmt AgentInput AgentError

/-! ## The processes -/

def failIf (condition : Bool) (message : String) : AgentCall Unit :=
  refuseIf condition (.failed message)

/-- `persist` and `replaceConfig` -/
def storeConfig (next : AgentConfig) : AgentCall Unit := do
  await (.saveConfig next)
  await (.replaceConfig next)

def assertHeartbeatIdentity (config : AgentConfig) (response : HeartbeatResponse) :
    AgentCall Unit := do
  failIf (response.targetId != config.targetId)
    "Control plane returned a different target identity"
  failIf (response.credentialGeneration != config.credentialGeneration)
    "Control plane returned a different credential generation"

def takeRotation (config : AgentConfig) (rotation : UrlMigration.CredentialRotation) :
    AgentCall HeartbeatResponse := do
  failIf (rotation.credentialGeneration != config.credentialGeneration + 1)
    "Control plane returned an invalid credential rotation"
  let pending := config.rotated rotation
  storeConfig pending
  let confirmation ← await (.heartbeat pending)
  assertHeartbeatIdentity pending confirmation
  failIf (!confirmation.credentialConfirmed)
    "Control plane did not confirm the rotated Agent credential"
  storeConfig pending.stable
  return confirmation

def reconcileCredentialRotation (response : HeartbeatResponse) : AgentCall HeartbeatResponse := do
  let config ← await .current
  assertHeartbeatIdentity config response
  match response.credentialRotation with
  | some rotation => takeRotation config rotation
  | none =>
    if response.credentialConfirmed && config.previousCredential.isSome then do
      storeConfig config.stable
      return response
    else return response

def recoverPrevious (config : AgentConfig) (x : AgentError) : AgentCall HeartbeatResponse :=
  match config.previousCredential, config.previousCredentialGeneration with
  | some credential, some generation =>
    if x = .unauthorized then do
      let fallback := { config.stable with
        credential := credential, credentialGeneration := generation }
      let response ← await (.heartbeat fallback)
      storeConfig fallback
      return response
    else throw x
  | _, _ => throw x

def heartbeatOnce : AgentCall HeartbeatResponse := do
  await .inspectDocker
  let config ← await .current
  let response ← tryCatch (await (.heartbeat config)) (recoverPrevious config)
  reconcileCredentialRotation response

def heartbeatIntervalSeconds : Nat := 30

def heartbeatRound (retrySeconds : Nat) : AgentCall Nat :=
  tryCatch (do
      let _ ← heartbeatOnce
      await (.delay (min 300 (max 10 heartbeatIntervalSeconds)))
      return 2) fun x =>
    if x.rejected then throw x
    else do
      await (.delay retrySeconds)
      return min 60 (retrySeconds * 2)

/-- The first rounds of the loop. -/
def runHeartbeatLoop : Nat → Nat → AgentCall Unit
  | 0, _ => pure ()
  | rounds + 1, retrySeconds => do
    let aborted ← await .aborted
    if aborted then pure ()
    else do
      let retrySeconds ← heartbeatRound retrySeconds
      runHeartbeatLoop rounds retrySeconds

/-- A process begins with the stored config. -/
def start : AgentCall Unit := do
  let config ← await .loadConfig
  await (.replaceConfig config)

def run (rounds : Nat) : AgentCall Unit := do
  start
  runHeartbeatLoop rounds 2

def once : AgentCall Unit := do
  start
  let _ ← heartbeatOnce

inductive AgentProcess : AgentCall Unit → Prop where
  | run (rounds : Nat) : AgentProcess (run rounds)
  | once : AgentProcess once

structure Enrolled where
  world : AgentWorld
  targetId : world.stored.targetId = world.row.targetId
  credential : world.stored.credential = world.row.credential
  generation : world.stored.credentialGeneration = world.row.generation
  previous : world.stored.previousCredential = none
  config : world.config = world.stored
  pending : world.row.pending = none
  drawn : world.row.credential.random < world.row.nextToken

/-- Attempts of an Agent, one process after another, each stopped anywhere. -/
abbrev Lives (m m' : AgentMoment) : Prop := Prog.Restarts anyStep (fun _ p => AgentProcess p) m m'

/-! ## What the configs hold -/

structure Usable (row : AgentRow) (config : AgentConfig) : Prop where
  targetId : config.targetId = row.targetId
  current : config.credential = row.credential → config.credentialGeneration = row.generation
  previous : config.credential ≠ row.credential → config.previousCredential = some row.credential ∧
    config.previousCredentialGeneration = some row.generation
  pending : ∀ p, row.pending = some p → config.previousCredential ≠ some p.credential ∧
    (config.credential = p.credential → config.credentialGeneration = p.generation)
  drawn : ∀ c, config.holds c → c.random < row.nextToken

/-- Both configs can be used. What the memory can activate is in the file. -/
structure Sound (row : AgentRow) (stored config : AgentConfig) : Prop where
  file : Usable row stored
  memory : Usable row config
  fresh : ∀ p, row.pending = some p →
    p.credential ≠ row.credential ∧ p.credential.random < row.nextToken
  ahead : ∀ p, row.pending = some p → config.credential = p.credential →
    stored.credential = p.credential

/-- An answer to the credential of the config, which is the active one now. -/
structure Accepted (row : AgentRow) (config : AgentConfig) (response : HeartbeatResponse) : Prop where
  credential : config.credential = row.credential
  generation : config.credentialGeneration = row.generation
  targetId : response.targetId = config.targetId
  credentialGeneration : response.credentialGeneration = config.credentialGeneration
  confirmed : response.credentialConfirmed = true
  rotation : ∀ r, response.credentialRotation = some r →
    r.credentialGeneration = config.credentialGeneration + 1 ∧
      ∃ p, row.pending = some p ∧ p.credential = r.credential ∧ p.generation = r.credentialGeneration

section Rows

variable {row : AgentRow} {stored config sent : AgentConfig} {now : Time} {c : Credential}

theorem Usable.holds (h : Usable row config) : config.holds row.credential := by
  by_cases hc : config.credential = row.credential
  · exact .inl hc.symm
  · exact .inr (h.previous hc).1.symm

theorem Enrolled.sound (w : Enrolled) : Sound w.world.row w.world.stored w.world.config := by
  have husable : Usable w.world.row w.world.stored := by
    refine ⟨w.targetId, fun _ => w.generation, fun hne => absurd w.credential hne, ?_, ?_⟩
    · intro p hp
      rw [w.pending] at hp
      cases hp
    · rintro c (rfl | hc)
      · exact w.credential ▸ w.drawn
      · rw [w.previous] at hc
        cases hc
  refine ⟨husable, w.config ▸ husable, ?_, ?_⟩
  · intro p hp
    rw [w.pending] at hp
    cases hp
  · intro p hp
    rw [w.pending] at hp
    cases hp

theorem heartbeat_pending {p : PendingCredential} (h : (row.heartbeat now c).2.pending = some p) :
    row.pending = some p ∨ p.generation = row.generation + 1 := by
  unfold AgentRow.heartbeat at h
  split at h
  · cases h
  · split at h
    · exact .inl h
    · split at h
      · cases h
        exact .inr rfl
      · exact .inl h

theorem Usable.activated {p : PendingCredential} (h : Usable row config)
    (hp : row.pending = some p) (hc : config.credential = p.credential) :
    Usable
      { row with
        credential := p.credential
        generation := p.generation
        activeSince := some now
        pending := none } config where
  targetId := h.targetId
  current := fun _ => (h.pending p hp).2 hc
  previous := fun hne => absurd hc hne
  pending := fun _ hnone => by cases hnone
  drawn := h.drawn

theorem Usable.issued {p : PendingCredential} (h : Usable row config)
    (hp : p.credential.random = row.nextToken) :
    Usable { row with pending := some p, nextToken := row.nextToken + 1 } config where
  targetId := h.targetId
  current := h.current
  previous := h.previous
  pending := by
    have hnew : ∀ c, config.holds c → c ≠ p.credential := fun c hheld heq =>
      absurd (h.drawn c hheld) (by rw [heq, hp]; exact Nat.lt_irrefl _)
    rintro q hq
    cases hq
    exact ⟨fun hprevious => hnew _ (.inr hprevious.symm) rfl, fun heq => absurd heq (hnew _ (.inl rfl))⟩
  drawn := fun c hheld => Nat.lt_succ_of_lt (h.drawn c hheld)

theorem Usable.heartbeat (h : Usable row config)
    (hsent : ∀ p, row.pending = some p → p.credential = c → config.credential = c) :
    Usable (row.heartbeat now c).2 config := by
  rcases UrlMigration.heartbeat_cases row now c with
    ⟨p, hp, rfl, heq⟩ | ⟨-, p, hp, heq⟩ | ⟨-, heq⟩ | ⟨-, heq⟩ <;> rw [heq]
  · exact h.activated hp (hsent p hp rfl)
  · exact h.issued hp
  · exact h
  · exact h

theorem Sound.heartbeat (h : Sound row stored config)
    (hsent : ∀ p, row.pending = some p → p.credential = c → config.credential = c) :
    Sound (row.heartbeat now c).2 stored config := by
  refine ⟨h.file.heartbeat fun p hp hc => ?_, h.memory.heartbeat hsent, ?_, ?_⟩
  · rw [← hc]
    exact h.ahead p hp ((hsent p hp hc).trans hc.symm)
  · rcases UrlMigration.heartbeat_cases row now c with
      ⟨p, hp, rfl, heq⟩ | ⟨-, p, hp, heq⟩ | ⟨-, heq⟩ | ⟨-, heq⟩ <;> rw [heq]
    · rintro q ⟨⟩
    · rintro q ⟨⟩
      refine ⟨fun hactive => ?_, by rw [hp]; exact Nat.lt_succ_self _⟩
      have hdrawn := h.file.drawn _ (hactive ▸ h.file.holds)
      exact absurd hdrawn (by rw [hp]; exact Nat.lt_irrefl _)
    · exact h.fresh
    · exact h.fresh
  · rcases UrlMigration.heartbeat_cases row now c with
      ⟨p, hp, rfl, heq⟩ | ⟨-, p, hp, heq⟩ | ⟨-, heq⟩ | ⟨-, heq⟩ <;> rw [heq]
    · rintro q ⟨⟩
    · rintro q ⟨⟩ hpresented
      have hdrawn := h.memory.drawn _ (.inl rfl)
      exact absurd hdrawn (by rw [hpresented, hp]; exact Nat.lt_irrefl _)
    · exact h.ahead
    · exact h.ahead

theorem Usable.accepted {response : HeartbeatResponse} (h : Usable row sent)
    (hfresh : ∀ p, row.pending = some p → p.credential.random < row.nextToken)
    (hresponse : (row.heartbeat now sent.credential).1 = some response) :
    Accepted (row.heartbeat now sent.credential).2 sent response := by
  have hissued := @heartbeat_pending row now sent.credential
  rcases UrlMigration.heartbeat_cases row now sent.credential with
    ⟨p, hp, hc, heq⟩ | ⟨hc, p, hp, heq⟩ | ⟨hc, heq⟩ | ⟨-, heq⟩ <;>
    rw [heq] at hresponse hissued ⊢ <;> cases hresponse
  · refine ⟨rfl, (h.pending p hp).2 hc.symm, h.targetId.symm, ((h.pending p hp).2 hc.symm).symm, rfl, ?_⟩
    rintro r ⟨⟩
  · have hgeneration : p.generation = row.generation + 1 := by
      rcases hissued rfl with hbefore | hnow
      · exact absurd (hfresh p hbefore) (by rw [hp]; exact Nat.lt_irrefl _)
      · exact hnow
    refine ⟨hc.symm, h.current hc.symm, h.targetId.symm, (h.current hc.symm).symm, rfl, ?_⟩
    rintro r ⟨⟩
    exact ⟨by rw [h.current hc.symm], p, rfl, rfl, hgeneration⟩
  · refine ⟨hc.symm, h.current hc.symm, h.targetId.symm, (h.current hc.symm).symm, rfl, ?_⟩
    rintro r ⟨⟩

theorem heartbeat_refused (h : (row.heartbeat now c).1 = none) :
    row.accepts c = false ∧ (row.heartbeat now c).2 = row := by
  rcases UrlMigration.heartbeat_cases row now c with
    ⟨p, hp, hc, heq⟩ | ⟨hc, p, hp, heq⟩ | ⟨hc, heq⟩ | ⟨hrefused, heq⟩ <;> rw [heq] at h ⊢
  · cases h
  · cases h
  · cases h
  · exact ⟨hrefused, rfl⟩

theorem heartbeat_dead {dead : Credential} (now : Time) (c : Credential) (h : row.accepts dead = false)
    (hdrawn : dead.random < row.nextToken) : (row.heartbeat now c).2.accepts dead = false := by
  unfold AgentRow.accepts at h
  obtain ⟨hactive, hpending⟩ := Bool.or_eq_false_iff.mp h
  rcases UrlMigration.heartbeat_cases row now c with
    ⟨p, hp, rfl, heq⟩ | ⟨-, p, hp, heq⟩ | ⟨-, heq⟩ | ⟨-, heq⟩ <;> rw [heq, AgentRow.accepts]
  · rw [hp] at hpending
    exact Bool.or_eq_false_iff.mpr ⟨hpending, rfl⟩
  · refine Bool.or_eq_false_iff.mpr ⟨hactive, beq_eq_false_iff_ne.mpr fun heq => ?_⟩
    rw [← heq, hp] at hdrawn
    exact Nat.lt_irrefl _ hdrawn
  · exact h
  · exact h

theorem accepts_active (row : AgentRow) : row.accepts row.credential = true := by
  rw [AgentRow.accepts, beq_self_eq_true, Bool.true_or]

theorem accepts_pending {p : PendingCredential} (h : row.pending = some p) :
    row.accepts p.credential = true := by
  rw [AgentRow.accepts, h, Option.any_some, beq_self_eq_true, Bool.or_true]

theorem heartbeat_answers (now : Time) (h : row.accepts c = true) :
    ∃ response, (row.heartbeat now c).1 = some response := by
  cases hresponse : (row.heartbeat now c).1 with
  | some response => exact ⟨response, rfl⟩
  | none =>
    rw [(heartbeat_refused hresponse).1] at h
    cases h

theorem Usable.stable (h : Usable row config) (hactive : config.credential = row.credential) :
    Usable row config.stable where
  targetId := h.targetId
  current := h.current
  previous := fun hne => absurd hactive hne
  pending := by
    refine fun p hp => ⟨?_, (h.pending p hp).2⟩
    rintro ⟨⟩
  drawn := by
    rintro c (rfl | hc)
    · exact h.drawn _ (.inl rfl)
    · cases hc

theorem Sound.save {next : AgentConfig} (h : Sound row stored config) (hnext : Usable row next)
    (hahead : ∀ p, row.pending = some p → config.credential = p.credential →
      next.credential = p.credential) : Sound row next config :=
  ⟨hnext, h.memory, h.fresh, hahead⟩

theorem Sound.both {next : AgentConfig} (h : Sound row stored config) (hnext : Usable row next) :
    Sound row next next :=
  ⟨hnext, hnext, h.fresh, fun _ _ heq => heq⟩

theorem Usable.rotated {response : HeartbeatResponse} {rotation : UrlMigration.CredentialRotation}
    (h : Usable row config) (hfresh : ∀ p, row.pending = some p →
      p.credential ≠ row.credential ∧ p.credential.random < row.nextToken)
    (haccepted : Accepted row config response)
    (hrotation : response.credentialRotation = some rotation) :
    Usable row (config.rotated rotation) := by
  obtain ⟨-, p, hp, hcredential, hgeneration⟩ := haccepted.rotation rotation hrotation
  obtain ⟨hne, hdrawn⟩ := hfresh p hp
  have hactive := haccepted.credential
  refine ⟨h.targetId, fun heq => absurd (hcredential.trans heq) hne, fun _ => ⟨?_, ?_⟩, ?_, ?_⟩
  · exact congrArg some hactive
  · exact congrArg some haccepted.generation
  · rintro q hq
    cases hp.symm.trans hq
    refine ⟨fun heq => hne ?_, fun _ => hgeneration.symm⟩
    exact (Option.some.inj heq).symm.trans hactive
  · rintro c (rfl | hc)
    · exact lt_of_eq_of_lt (congrArg Credential.random hcredential.symm) hdrawn
    · cases hc
      exact h.drawn _ (.inl rfl)

end Rows

/-! ## Symbolic execution -/

def Blamed (x : AgentError) (h : List AgentEvent) : Prop :=
  ∃ ev ∈ h, ∃ fault, ev.input.fault = some fault ∧ fault.error = x

def Flawless (h : List AgentEvent) : Prop := ∀ ev ∈ h, ev.input.fault = none

def Holds (m : AgentMoment) : Prop := Sound m.state.row m.state.stored m.state.config

/-- The memory is the file, as long as no statement has failed. -/
def Synced (m : AgentMoment) : Prop := Flawless m.history → m.state.stored = m.state.config

/-- A value satisfies `Q`, an error is that of a fault. -/
def Yields {α : Type} (Q : α → AgentMoment → Prop) (r : Except AgentError α) (m : AgentMoment) :
    Prop :=
  (∀ a, r = .ok a → Q a m) ∧ ∀ x, r = .error x → Blamed x m.history

abbrev Passes {α : Type} (Q : α → AgentMoment → Prop) (p : AgentCall α) (m : AgentMoment) : Prop :=
  p.Through anyStep Holds (Yields Q) m

section Rules

variable {α β : Type} {m : AgentMoment} {Q : α → AgentMoment → Prop} {R : β → AgentMoment → Prop}

theorem exec_cases (e : AgentStmt β) (i : AgentInput) (w : AgentWorld) :
    exec e i w = e.run i (w.later i) ∨
      ∃ fault, i.fault = some fault ∧ (exec e i w).1 = .error fault.error ∧
        ((exec e i w).2 = w.later i ∨ (exec e i w).2 = (e.run i (w.later i)).2) := by
  simp only [exec]
  cases hfault : i.fault.filter fun _ => e.leaves with
  | none => exact .inl rfl
  | some fault =>
    refine .inr ⟨fault, (Option.filter_eq_some_iff.mp hfault).1, rfl, ?_⟩
    dsimp only
    split
    · exact .inr rfl
    · exact .inl rfl

theorem flawless_next {e : AgentStmt β} {i : AgentInput} (h : Flawless (m.next 0 e i).history) :
    Flawless m.history :=
  fun ev hev => h ev (List.mem_append_left _ hev)

theorem blamed_next {e : AgentStmt β} {i : AgentInput} {fault : AgentFault}
    (h : i.fault = some fault) : Blamed fault.error (m.next 0 e i).history :=
  ⟨_, List.mem_append_right _ (List.mem_singleton_self _), fault, h, rfl⟩

theorem yields_value {a : α} (h : Q a m) : Yields Q (.ok a) m := by
  constructor
  · rintro _ ⟨⟩
    exact h
  · rintro _ ⟨⟩

theorem yields_error {x : AgentError} (h : Blamed x m.history) : Yields Q (.error x) m := by
  constructor
  · rintro _ ⟨⟩
  · rintro _ ⟨⟩
    exact h

theorem passes_return {a : α} (hm : Holds m) (h : Q a m) : Passes Q (pure a) m :=
  .ret hm (yields_value h)

theorem passes_bind {p : AgentCall α} {f : α → AgentCall β} (hp : Passes Q p m)
    (hf : ∀ a m', Holds m' → Q a m' → Passes R (f a) m') : Passes R (p >>= f) m :=
  .bind hp (fun a m' hm' hQ => hf a m' hm' (hQ.1 a rfl)) fun x _ _ hQ => yields_error (hQ.2 x rfl)

theorem through_await {e : AgentStmt β} {f : Except AgentError β → AgentCall α}
    {Q : Except AgentError α → AgentMoment → Prop} (hm : Holds m)
    (hrun : ∀ i, Holds ⟨(e.run i (m.state.later i)).2, m.history⟩)
    (hanswer : ∀ i m', m'.state = (e.run i (m.state.later i)).2 →
      (Flawless m'.history → Flawless m.history) → Holds m' →
        (f (e.run i (m.state.later i)).1).Through anyStep Holds Q m')
    (hfault : ∀ x m', Blamed x m'.history → Holds m' →
      (f (.error x)).Through anyStep Holds Q m') :
    (Prog.call e f).Through anyStep Holds Q m := by
  refine ⟨hm, fun i _ => ?_⟩
  rcases exec_cases e i m.state with hexec | ⟨fault, hi, hresult, hstate⟩
  · have hstate : (m.next 0 e i).state = (e.run i (m.state.later i)).2 := by
      rw [Moment.next_state, hexec]
    rw [hexec]
    exact hanswer i _ hstate flawless_next (by rw [Holds, hstate]; exact hrun i)
  · rw [hresult]
    refine hfault fault.error _ (blamed_next hi) ?_
    rw [Holds, Moment.next_state]
    rcases hstate with hlost | hcarried
    · rw [hlost]
      exact hm
    · rw [hcarried]
      exact hrun i

theorem passes_await {e : AgentStmt β} {f : β → AgentCall α} (hm : Holds m)
    (hrun : ∀ i, Holds ⟨(e.run i (m.state.later i)).2, m.history⟩)
    (hanswer : ∀ i, ∃ b, (e.run i (m.state.later i)).1 = .ok b ∧
      ∀ m', m'.state = (e.run i (m.state.later i)).2 →
        (Flawless m'.history → Flawless m.history) → Holds m' → Passes Q (f b) m') :
    Passes Q (await e >>= f) m := by
  refine through_await hm hrun (fun i m' hstate hflawless hm' => ?_) fun x m' hx hm' =>
    .ret hm' (yields_error hx)
  obtain ⟨b, hb, hf⟩ := hanswer i
  rw [hb]
  exact hf m' hstate hflawless hm'

theorem passes_failIf {condition : Bool} {message : String} {f : Unit → AgentCall α}
    (h : condition = false) (hf : Passes Q (f ()) m) : Passes Q (failIf condition message >>= f) m := by
  subst h
  exact hf

end Rules

/-! ## The processes, step by step -/

section Calls

variable {α : Type} {m : AgentMoment} {Q : α → AgentMoment → Prop} {config next : AgentConfig}
  {response : HeartbeatResponse}

theorem passes_storeConfig (hm : Holds m)
    (hfile : Sound m.state.row next m.state.config) (hmemory : Sound m.state.row next next) :
    Passes (fun _ m' => m'.state.row = m.state.row ∧ m'.state.stored = next ∧
      m'.state.config = next) (storeConfig next) m := by
  refine passes_await hm (fun _ => hfile) fun i => ⟨(), rfl, fun m₁ hm₁ _ hholds => ?_⟩
  have hrow : m₁.state.row = m.state.row := by rw [hm₁]; rfl
  have hstored : m₁.state.stored = next := by rw [hm₁]; rfl
  have hreplaced : Sound m₁.state.row m₁.state.stored next := by
    rw [hrow, hstored]
    exact hmemory
  refine through_await hholds (fun _ => hreplaced) (fun j m' hm' _ hholds' => ?_) fun x m' hx hm' =>
    .ret hm' (yields_error hx)
  refine .ret hholds' (yields_value ⟨?_, ?_, ?_⟩)
  · rw [hm']
    exact hrow
  · rw [hm']
    exact hstored
  · rw [hm']
    rfl

def Answered (response : HeartbeatResponse) (m : AgentMoment) : Prop :=
  Synced m ∧ Accepted m.state.row m.state.config response

structure Alone (row : AgentRow) (config : AgentConfig) : Prop where
  credential : config.credential = row.credential
  generation : config.credentialGeneration = row.generation
  previous : config.previousCredential = none

theorem recoverPrevious_of_ne {x : AgentError} (hx : x ≠ .unauthorized) (config : AgentConfig) :
    recoverPrevious config x = throw x := by
  unfold recoverPrevious
  split
  · exact if_neg hx
  · rfl

theorem Blamed.ne_unauthorized {x : AgentError} {h : List AgentEvent} (hx : Blamed x h) :
    x ≠ .unauthorized := by
  obtain ⟨_, _, fault, _, rfl⟩ := hx
  exact fault.genuine

theorem passes_recover (hm : Holds m) (hconfig : m.state.config = config)
    (hdead : m.state.row.accepts config.credential = false) :
    Passes Answered (recoverPrevious config .unauthorized) m := by
  subst hconfig
  have hne : m.state.config.credential ≠ m.state.row.credential := by
    intro heq
    rw [heq, accepts_active] at hdead
    cases hdead
  obtain ⟨hprevious, hgeneration⟩ := hm.memory.previous hne
  unfold recoverPrevious
  rw [hprevious, hgeneration]
  dsimp only
  rw [if_pos rfl]
  generalize hfallback : ({ m.state.config.stable with
    credential := m.state.row.credential
    credentialGeneration := m.state.row.generation } : AgentConfig) = fallback
  have hcredential : fallback.credential = m.state.row.credential := by rw [← hfallback]
  have hnever : ∀ {P : Prop} p, m.state.row.pending = some p →
      p.credential = fallback.credential → P := fun p hp heq =>
    absurd (heq.trans hcredential) (hm.fresh p hp).1
  have husable : Usable m.state.row fallback := by
    subst hfallback
    refine ⟨hm.memory.targetId, fun _ => rfl, fun h => absurd rfl h, fun p hp => ⟨?_, ?_⟩, ?_⟩
    · rintro ⟨⟩
    · exact fun heq => hnever p hp heq.symm
    · rintro c (rfl | hc)
      · exact hm.memory.drawn _ hm.memory.holds
      · cases hc
  refine passes_await hm (fun _ => hm.heartbeat hnever) fun i => ?_
  obtain ⟨response, hresponse⟩ := heartbeat_answers (m.state.later i).now
    (hcredential ▸ accepts_active m.state.row)
  refine ⟨response, ?_, fun m₁ hm₁ _ hholds => ?_⟩
  · change Option.elim (m.state.row.heartbeat _ fallback.credential).1 _ _ = _
    rw [hresponse]
    rfl
  · have hrow : m₁.state.row =
        (m.state.row.heartbeat (m.state.later i).now fallback.credential).2 := by rw [hm₁]; rfl
    have hmemory : m₁.state.config = m.state.config := by rw [hm₁]; rfl
    have hnext : Usable m₁.state.row fallback := by
      rw [hrow]
      exact husable.heartbeat hnever
    have haccepted : Accepted m₁.state.row fallback response := by
      rw [hrow]
      exact husable.accepted (fun p hp => (hm.fresh p hp).2) hresponse
    have hahead : ∀ p, m₁.state.row.pending = some p → m₁.state.config.credential = p.credential →
        fallback.credential = p.credential := by
      intro p hp heq
      have hstill := heartbeat_dead (m.state.later i).now fallback.credential hdead
        (hm.memory.drawn _ (.inl rfl))
      rw [← hrow, ← hmemory, heq, accepts_pending hp] at hstill
      cases hstill
    refine passes_bind (passes_storeConfig hholds (hholds.save hnext hahead) (hholds.both hnext)) ?_
    rintro _ m₂ hholds₂ ⟨hrow₂, hstored, hconfig⟩
    refine passes_return hholds₂ ⟨fun _ => hstored.trans hconfig.symm, ?_⟩
    rw [hrow₂, hconfig]
    exact haccepted

theorem passes_beat (hm : Holds m) (hsync : Synced m) (hconfig : m.state.config = config) :
    Passes Answered (tryCatch (await (.heartbeat config)) (recoverPrevious config)) m := by
  subst hconfig
  refine through_await hm (fun _ => hm.heartbeat fun _ _ _ => rfl) (fun i m₁ hm₁ hflawless hholds => ?_)
    fun x m₁ hx hholds => ?_
  · have hrow : m₁.state.row = (m.state.row.heartbeat (m.state.later i).now
        m.state.config.credential).2 := by rw [hm₁]; rfl
    have hmemory : m₁.state.config = m.state.config := by rw [hm₁]; rfl
    have hstored : m₁.state.stored = m.state.stored := by rw [hm₁]; rfl
    have hanswer : ((AgentStmt.heartbeat m.state.config).run i (m.state.later i)).1 =
        (m.state.row.heartbeat (m.state.later i).now m.state.config.credential).1.elim
          (.error .unauthorized) .ok := rfl
    rw [hanswer]
    cases hresponse : (m.state.row.heartbeat (m.state.later i).now m.state.config.credential).1 with
    | some response =>
      refine .ret hholds (yields_value ⟨fun h => ?_, ?_⟩)
      · rw [hstored, hmemory]
        exact hsync (hflawless h)
      · rw [hrow, hmemory]
        exact hm.memory.accepted (fun p hp => (hm.fresh p hp).2) hresponse
    | none =>
      obtain ⟨hdead, hsame⟩ := heartbeat_refused hresponse
      exact passes_recover hholds hmemory (by rw [hrow, hsame]; exact hdead)
  · change Passes _ (recoverPrevious _ x) _
    rw [recoverPrevious_of_ne hx.ne_unauthorized]
    exact .ret hholds (yields_error hx)

theorem passes_identity {f : Unit → AgentCall α} (htarget : response.targetId = config.targetId)
    (hgeneration : response.credentialGeneration = config.credentialGeneration)
    (hf : Passes Q (f ()) m) : Passes Q (assertHeartbeatIdentity config response >>= f) m := by
  unfold assertHeartbeatIdentity
  rw [htarget, hgeneration, bne_self_eq_false, bne_self_eq_false]
  exact hf

/-- One heartbeat got through. -/
def Settled (m : AgentMoment) : Prop := Synced m ∧ Alone m.state.row m.state.config

theorem passes_stable (hm : Holds m) (hconfig : m.state.config = config)
    (haccepted : Accepted m.state.row config response) :
    Passes (fun _ => Settled) (do
      storeConfig config.stable
      return response : AgentCall HeartbeatResponse) m := by
  subst hconfig
  have hstable := hm.memory.stable haccepted.credential
  refine passes_bind
    (passes_storeConfig hm (hm.save hstable fun _ _ heq => heq) (hm.both hstable)) ?_
  rintro _ m₁ hholds ⟨hrow, hstored, hconfig⟩
  refine passes_return hholds ⟨fun _ => hstored.trans hconfig.symm, ?_⟩
  rw [hrow, hconfig]
  exact ⟨haccepted.credential, haccepted.generation, rfl⟩

theorem passes_takeRotation {rotation : UrlMigration.CredentialRotation} (hm : Holds m)
    (hconfig : m.state.config = config) (haccepted : Accepted m.state.row config response)
    (hrotation : response.credentialRotation = some rotation) :
    Passes (fun _ => Settled) (takeRotation config rotation) m := by
  subst hconfig
  obtain ⟨hnext, p, hp, -, -⟩ := haccepted.rotation rotation hrotation
  have hrotated := hm.memory.rotated hm.fresh haccepted hrotation
  have hahead : ∀ q, m.state.row.pending = some q → m.state.config.credential = q.credential →
      (m.state.config.rotated rotation).credential = q.credential := fun q hq heq =>
    absurd (heq.symm.trans haccepted.credential) (hm.fresh q hq).1
  have haccepts : m.state.row.accepts (m.state.config.rotated rotation).credential = true := by
    obtain ⟨-, q, hq, hcredential, -⟩ := haccepted.rotation rotation hrotation
    rw [show (m.state.config.rotated rotation).credential = q.credential from hcredential.symm]
    exact accepts_pending hq
  refine passes_failIf (by rw [hnext, bne_self_eq_false]) ?_
  refine passes_bind
    (passes_storeConfig hm (hm.save hrotated hahead) (hm.both hrotated)) ?_
  rintro _ m₁ hholds ⟨hrow, -, hmemory⟩
  rw [← hrow] at hrotated haccepts
  generalize m.state.config.rotated rotation = pending at hmemory hrotated haccepts
  subst hmemory
  refine passes_await hholds (fun _ => hholds.heartbeat fun _ _ _ => rfl) fun i => ?_
  obtain ⟨confirmation, hconfirmation⟩ :=
    heartbeat_answers (m₁.state.later i).now haccepts
  refine ⟨confirmation, ?_, fun m₂ hm₂ _ hholds₂ => ?_⟩
  · change Option.elim (m₁.state.row.heartbeat _ m₁.state.config.credential).1 _ _ = _
    rw [hconfirmation]
    rfl
  · have hmemory : m₂.state.config = m₁.state.config := by rw [hm₂]; rfl
    have hconfirmed : Accepted m₂.state.row m₁.state.config confirmation := by
      rw [hm₂]
      exact hrotated.accepted (fun p hp => (hholds.fresh p hp).2) hconfirmation
    refine passes_identity hconfirmed.targetId hconfirmed.credentialGeneration ?_
    refine passes_failIf (by rw [hconfirmed.confirmed]; rfl) ?_
    exact passes_stable hholds₂ hmemory hconfirmed

theorem passes_reconcile (hm : Holds m) (h : Answered response m) :
    Passes (fun _ => Settled) (reconcileCredentialRotation response) m := by
  obtain ⟨hsync, haccepted⟩ := h
  refine passes_await hm (fun _ => hm) fun i => ⟨m.state.config, rfl, ?_⟩
  intro m₁ hm₁ hflawless hholds
  have hmemory : m₁.state.config = m.state.config := by rw [hm₁]; rfl
  have hstored : m₁.state.stored = m.state.stored := by rw [hm₁]; rfl
  have haccepted' : Accepted m₁.state.row m.state.config response := by
    rw [hm₁]
    exact haccepted
  refine passes_identity haccepted.targetId haccepted.credentialGeneration ?_
  cases hrotation : response.credentialRotation with
  | some rotation => exact passes_takeRotation hholds hmemory haccepted' hrotation
  | none =>
    dsimp only
    rw [haccepted.confirmed, Bool.true_and]
    split
    · exact passes_stable hholds hmemory haccepted'
    · rename_i hprevious
      refine passes_return hholds ⟨fun hflawless' => ?_, ?_⟩
      · rw [hmemory, hstored]
        exact hsync (hflawless hflawless')
      · rw [hmemory]
        exact ⟨haccepted'.credential, haccepted'.generation, by simpa using hprevious⟩

theorem passes_heartbeatOnce (hm : Holds m) (hsync : Synced m) :
    Passes (fun _ => Settled) heartbeatOnce m := by
  refine passes_await hm (fun _ => hm) fun i => ⟨(), rfl, fun m₁ hm₁ hflawless₁ hholds₁ => ?_⟩
  refine passes_await hholds₁ (fun _ => hholds₁) fun j =>
    ⟨m₁.state.config, rfl, fun m₂ hm₂ hflawless₂ hholds₂ => ?_⟩
  have hsync₁ : Synced m₁ := fun h => by
    rw [hm₁]
    exact hsync (hflawless₁ h)
  have hsync₂ : Synced m₂ := fun h => by
    rw [hm₂]
    exact hsync₁ (hflawless₂ h)
  have hmemory : m₂.state.config = m₁.state.config := by rw [hm₂]; rfl
  exact passes_bind (passes_beat hholds₂ hsync₂ hmemory) fun response m₃ hholds₃ =>
    passes_reconcile hholds₃

theorem passes_start (hm : Holds m) :
    Passes (fun _ m' => m'.state.stored = m'.state.config) start m := by
  refine passes_await hm (fun _ => hm) fun i => ⟨m.state.stored, rfl, fun m₁ hm₁ _ hholds => ?_⟩
  have hstored : m₁.state.stored = m.state.stored := by rw [hm₁]; rfl
  have hreplaced : Sound m₁.state.row m₁.state.stored m.state.stored := by
    rw [← hstored]
    exact hholds.both hholds.file
  refine through_await hholds (fun _ => hreplaced) (fun j m' hm' _ hholds' => ?_)
    fun x m' hx hm' => .ret hm' (yields_error hx)
  refine .ret hholds' (yields_value ?_)
  rw [hm']
  exact hstored

theorem Blamed.synced {x : AgentError} (h : Blamed x m.history) : Synced m := by
  obtain ⟨ev, hev, fault, hfault, -⟩ := h
  intro hflawless
  rw [hflawless ev hev] at hfault
  cases hfault

theorem passes_delay {β : Type} {b : β} (hm : Holds m) (hsync : Synced m) (seconds : Nat) :
    Passes (fun _ => Synced) (do await (.delay seconds); return b : AgentCall β) m := by
  refine passes_await hm (fun _ => hm) fun i => ⟨(), rfl, fun m₁ hm₁ hflawless hholds => ?_⟩
  refine passes_return hholds fun h => ?_
  rw [hm₁]
  exact hsync (hflawless h)

theorem passes_heartbeatRound (hm : Holds m) (hsync : Synced m) (retrySeconds : Nat) :
    Passes (fun _ => Synced) (heartbeatRound retrySeconds) m := by
  refine .tryCatch (Q := Yields fun _ => Synced) ?_ (fun _ _ _ h => h) fun x m₁ hholds h => ?_
  · exact passes_bind (passes_heartbeatOnce hm hsync) fun _ m₁ hholds hsettled =>
      passes_delay hholds hsettled.1 _
  · have hblamed := h.2 x rfl
    split
    · exact .ret hholds (yields_error hblamed)
    · exact passes_delay hholds hblamed.synced _

theorem passes_runHeartbeatLoop (rounds : Nat) :
    ∀ (retrySeconds : Nat) {m : AgentMoment}, Holds m → Synced m →
      Passes (fun _ => Synced) (runHeartbeatLoop rounds retrySeconds) m := by
  induction rounds with
  | zero => exact fun _ _ hm hsync => passes_return hm hsync
  | succ rounds ih =>
    intro retrySeconds m hm hsync
    refine passes_await hm (fun _ => hm) fun i =>
      ⟨i.aborted, rfl, fun m₁ hm₁ hflawless hholds => ?_⟩
    have hsync₁ : Synced m₁ := fun h => by
      rw [hm₁]
      exact hsync (hflawless h)
    split
    · exact passes_return hholds hsync₁
    · exact passes_bind (passes_heartbeatRound hholds hsync₁ retrySeconds)
        fun retrySeconds _ hholds' hsync' => ih retrySeconds hholds' hsync'

theorem passes_run (hm : Holds m) (rounds : Nat) : Passes (fun _ => Synced) (run rounds) m :=
  passes_bind (passes_start hm) fun _ _ hholds hstored =>
    passes_runHeartbeatLoop rounds 2 hholds fun _ => hstored

theorem passes_once (hm : Holds m) : Passes (fun _ => Settled) once m := by
  refine passes_bind (passes_start hm) fun _ m₁ hholds hstored => ?_
  refine passes_bind (passes_heartbeatOnce hholds fun _ => hstored) fun _ m₂ hholds₂ hsettled => ?_
  exact passes_return hholds₂ hsettled

theorem AgentProcess.through {p : AgentCall Unit} (hp : AgentProcess p) (hm : Holds m) :
    p.Through anyStep Holds (fun _ _ => True) m := by
  cases hp with
  | run rounds => exact (passes_run hm rounds).post fun _ _ _ _ => trivial
  | once => exact (passes_once hm).post fun _ _ _ _ => trivial

end Calls

theorem Lives.holds {w : Enrolled} {m : AgentMoment} (h : Lives ⟨w.world, []⟩ m) : Holds m :=
  h.keeps (fun _ _ hp => hp.through) w.sound

/-- Whatever has failed, and wherever the processes have been stopped: the file holds the active
credential. -/
theorem stored_holds_active (w : Enrolled) {m : AgentMoment} (h : Lives ⟨w.world, []⟩ m) :
    m.state.stored.holds m.state.row.credential :=
  h.holds.file.holds

/-- An Agent whose credential has been in use for thirty days. -/
def due : Enrolled where
  world :=
    { now := UrlMigration.dueWorld.now
      row := UrlMigration.dueWorld.row
      stored := UrlMigration.dueWorld.config
      config := UrlMigration.dueWorld.config }
  targetId := rfl
  credential := rfl
  generation := rfl
  previous := rfl
  config := rfl
  pending := rfl
  drawn := Nat.zero_lt_one

/-- The answer to the heartbeat that activates the new credential is lost. -/
def lost : AgentMoment :=
  once.advance
    ((List.replicate 8 {} : List AgentInput) ++ [{ fault := some ⟨.failed "timeout", true, nofun⟩ }])
    ⟨due.world, []⟩

theorem lives_lost : Lives ⟨due.world, []⟩ lost :=
  .attempt .refl .once (Prog.stops_advance _ _ _)

theorem stored_holds_active_lost :
    lost.state.row.credential = ⟨1⟩ ∧ lost.state.stored.holds lost.state.row.credential :=
  ⟨by decide, stored_holds_active due lives_lost⟩

/-- After anything that has happened, a heartbeat without a fault gets through, and the file then
holds the active credential alone. -/
theorem once_settles (w : Enrolled) {m m' : AgentMoment} {r : Except AgentError Unit}
    (h : Lives ⟨w.world, []⟩ m) (hends : once.Ends ⟨m.state, []⟩ r m')
    (hflawless : Flawless m'.history) :
    r = .ok () ∧ Alone m'.state.row m'.state.stored := by
  have hm : Holds ⟨m.state, []⟩ := h.holds
  obtain ⟨hok, herror⟩ := (passes_once hm).ends hends
  cases r with
  | ok u =>
    obtain ⟨hsync, halone⟩ := hok u rfl
    rw [hsync hflawless]
    exact ⟨rfl, halone⟩
  | error x =>
    obtain ⟨ev, hev, fault, hfault, -⟩ := herror x rfl
    rw [hflawless ev hev] at hfault
    cases hfault

theorem once_settles_lost : ∃ r m', once.Ends ⟨lost.state, []⟩ r m' ∧
    r = .ok () ∧ Alone m'.state.row m'.state.stored := by
  obtain ⟨r, m', hends, hcheck⟩ := Prog.ends_of_performs once (List.replicate 8 {}) ⟨lost.state, []⟩
    (fun _ m' => m'.history.all (·.input.fault.isNone)) (by decide)
  refine ⟨r, m', hends, once_settles due lives_lost hends fun ev hev => ?_⟩
  exact Option.isNone_iff_eq_none.mp (List.all_eq_true.mp hcheck ev hev)

/-- A process ends with an error only if a statement has failed with it, and never with a 401. -/
theorem run_error_of_fault (w : Enrolled) {m m' : AgentMoment} {rounds : Nat} {x : AgentError}
    (h : Lives ⟨w.world, []⟩ m) (hends : (run rounds).Ends ⟨m.state, []⟩ (.error x) m') :
    x ≠ .unauthorized ∧ Blamed x m'.history := by
  have hm : Holds ⟨m.state, []⟩ := h.holds
  have hblamed := ((passes_run hm rounds).ends hends).2 x rfl
  exact ⟨hblamed.ne_unauthorized, hblamed⟩

/-- Something in front of the control plane answers the first heartbeat with a 403. -/
def forbidden : List AgentInput :=
  (List.replicate 5 {} : List AgentInput) ++ [{ fault := some ⟨.controlPlane 403, false, nofun⟩ }]

theorem run_error_of_fault_forbidden : ∃ m' : AgentMoment,
    (run 1).Ends ⟨lost.state, []⟩ (.error (.controlPlane 403)) m' ∧
      AgentError.controlPlane 403 ≠ .unauthorized ∧ Blamed (.controlPlane 403) m'.history := by
  have hperform : (run 1).perform forbidden ⟨lost.state, []⟩ =
      some (.error (.controlPlane 403), (run 1).advance forbidden ⟨lost.state, []⟩) := rfl
  have hends := Prog.ends_of_perform hperform
  exact ⟨_, hends, run_error_of_fault due lives_lost hends⟩

end InitPad.CredentialRotation
