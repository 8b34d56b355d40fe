import InitPad.Rotation.Completion

/-!
# InitPad.Rotation.Tenure

A mail worker as a process, and the message that it is delivering, read off its own events: from a
claim that is answered until the row is marked as sent or given back. `MailRule` says which
statements need it, and every call keeps the rule.
-/

namespace InitPad.Rotation

open Interleave Store Secrets
open Prog (await)

variable {α β : Type}

section

variable [Keys]

/-- `workerId = randomUUID()`, and the sweeps that the timer and `scheduleDelivery` start: there is
one at a time, and its errors are logged. -/
def mailWorker (sweeps : Nat) : Call Unit := do
  let worker ← await .randomIv
  Prog.forEach (fun _ => (drain worker MAX_BATCH_SIZE).ignoreError) (List.range sweeps)

/-- The processes that write the outbox. -/
inductive OutboxCall : Call Unit → Prop
  | mailWorker (sweeps : Nat) : OutboxCall (mailWorker sweeps)
  | enqueueAuthMail (payload : String) : OutboxCall (await (.enqueueAuthMail payload))
  | sweep (fuel : Nat) : OutboxCall (reencryptStoredSecrets fuel).ignoreError
  | deleteMessages (ids : List Id) : OutboxCall (await (.deleteMessages ids))

end

/-! ## What statements do -/

structure Tenure where
  id : Id
  worker : Id
  lockedAt : Time
  message : Option EmailOutbox := none
  /-- The message has been handed to `sendMail`. -/
  handed : Bool := false
  accepted : Bool := false
  deriving DecidableEq

structure Claim where
  id : Id
  now : Time
  worker : Id
  deriving DecidableEq

def Stmt.claims : Stmt β → Option Claim
  | .claimMessage id now worker => some ⟨id, now, worker⟩
  | _ => none

def Stmt.claimed : Stmt β → Except Failure β → Option Claim
  | .claimMessage id now worker, r => if r.toOption = some 1 then some ⟨id, now, worker⟩ else none
  | _, _ => none

def Stmt.hands : Stmt β → Option Id
  | .sendMail id _ => some id
  | _ => none

def Stmt.marks : Stmt β → Option (Id × Id)
  | .markSent id worker => some (id, worker)
  | _ => none

structure GiveBack where
  id : Id
  worker : Id
  status : MailStatus
  availableAt : Time
  payload : StoredSecret
  deriving DecidableEq

def Stmt.givesBack : Stmt β → Option GiveBack
  | .markFailed id worker status availableAt payload =>
    some ⟨id, worker, status, availableAt, payload⟩
  | _ => none

def Stmt.found : Stmt β → Except Failure β → Option (Id × EmailOutbox)
  | .findMessage id, r => r.toOption.join.map fun row => (id, row)
  | _, _ => none

def Stmt.drew : Stmt β → Except Failure β → Option Id
  | .randomIv, r => r.toOption
  | _, _ => none

def Stmt.clockRead : Stmt β → Except Failure β → Option Time
  | .clock, r => r.toOption
  | _, _ => none

abbrev Drew := Recorded (E := Stmt) (ι := Input) (ε := Failure) fun ev => ev.stmt.drew ev.result

abbrev ClockRead := Recorded (E := Stmt) (ι := Input) (ε := Failure)
  fun ev => ev.stmt.clockRead ev.result

def Stmt.tenureAfter : Stmt β → Except Failure β → Option Tenure → Option Tenure
  | .claimMessage id now worker, r, _ =>
    if r.toOption = some 1 then some { id, worker, lockedAt := now } else none
  | .findMessage _, r, tenure => tenure.map fun l => { l with
      message := r.toOption.join
      accepted := false }
  | .sendMail _ _, r, tenure => tenure.map fun l => { l with
      handed := true
      accepted := r.isOk }
  | .markSent _ _, r, tenure => if r.isOk then none else tenure
  | .markFailed _ _ _ _ _, _, _ => none
  | _, _, tenure => tenure

def tenure (h : History) : Option Tenure :=
  h.foldl (fun held ev => ev.stmt.tenureAfter ev.result held) none

theorem tenure_append (h : History) (ev : RotationEvent) :
    tenure (h ++ [ev]) = ev.stmt.tenureAfter ev.result (tenure h) := by
  simp [tenure, List.foldl_append]

def Genuine (ev : RotationEvent) : Prop :=
  ∀ id row, ev.stmt.found ev.result = some (id, row) → row.id = id

inductive TenureEffect (e : Stmt β) (r : Except Failure β) (held : Option Tenure) (l : Tenure) : Prop
  | claimed {claim : Claim} : e.claimed r = some claim →
      l = ⟨claim.id, claim.worker, claim.now, none, false, false⟩ → TenureEffect e r held l
  | found {l₀ : Tenure} {message : Option EmailOutbox} : held = some l₀ → e.claims = none →
      e.givesBack = none → e.hands = none → l = { l₀ with message, accepted := false } →
      (∀ m, message = some m → ∃ id, e.found r = some (id, m)) → TenureEffect e r held l
  | handed {l₀ : Tenure} {id : Id} : held = some l₀ → e.claims = none → e.givesBack = none →
      e.hands = some id → l = { l₀ with handed := true, accepted := r.isOk } →
      TenureEffect e r held l
  | kept : held = some l → e.claims = none → e.givesBack = none → e.hands = none →
      TenureEffect e r held l

theorem tenureAfter_some {e : Stmt β} {r : Except Failure β} {held : Option Tenure} {l : Tenure}
    (h : e.tenureAfter r held = some l) : TenureEffect e r held l := by
  cases e with
  | claimMessage id now worker =>
    simp only [Stmt.tenureAfter] at h
    split at h
    · rename_i hone
      cases h
      have hclaimed : (Stmt.claimMessage id now worker).claimed r = some ⟨id, now, worker⟩ :=
        if_pos hone
      exact .claimed hclaimed rfl
    · cases h
  | findMessage id =>
    obtain ⟨l₀, hheld, rfl⟩ := Option.map_eq_some_iff.mp h
    refine .found hheld rfl rfl rfl rfl fun m hm => ⟨id, ?_⟩
    simp only [Stmt.found, hm, Option.map_some]
  | sendMail id payload =>
    obtain ⟨l₀, hheld, rfl⟩ := Option.map_eq_some_iff.mp h
    exact .handed hheld rfl rfl rfl rfl
  | markSent id worker =>
    simp only [Stmt.tenureAfter] at h
    split at h
    · cases h
    · exact .kept h rfl rfl rfl
  | markFailed id worker status availableAt payload => cases h
  | _ => exact .kept h rfl rfl rfl

structure MailRule (e : Stmt β) (h : History) : Prop where
  claims : ∀ claim, e.claims = some claim → ClockRead claim.now h ∧ Drew claim.worker h
  hands : ∀ id, e.hands = some id →
    ∃ l m, tenure h = some l ∧ l.id = id ∧ l.message = some m ∧ m.id = l.id ∧ l.handed = false
  marks : ∀ id worker, e.marks = some (id, worker) → ∃ l m, tenure h = some l ∧ l.id = id ∧
    l.worker = worker ∧ l.message = some m ∧ m.id = l.id ∧ l.accepted = true
  givesBack : ∀ g, e.givesBack = some g → ∃ l m, tenure h = some l ∧ l.id = g.id ∧
    l.worker = g.worker ∧ l.message = some m ∧ m.id = l.id ∧
      (g.status = .failed ∧ g.payload = .legacy "" ∧ MAX_ATTEMPTS ≤ m.attempts ∨
        g.status = .pending ∧ g.payload = m.payloadEncrypted ∧ m.attempts < MAX_ATTEMPTS)
  rewrites : ∀ r, e.rewrites = some r → r.previous ≠ .legacy "" ∧ r.next ≠ .legacy ""

/-- Statements that are no part of a delivery and no compare-and-set. -/
structure Undelivering (e : Stmt β) : Prop where
  claims : e.claims = none
  hands : e.hands = none
  marks : e.marks = none
  givesBack : e.givesBack = none
  rewrites : e.rewrites = none

theorem Undelivering.rule {e : Stmt β} {h : History} (he : Undelivering e) : MailRule e h where
  claims claim hclaims := by
    rw [he.claims] at hclaims
    cases hclaims
  hands id hhands := by
    rw [he.hands] at hhands
    cases hhands
  marks id worker hmarks := by
    rw [he.marks] at hmarks
    cases hmarks
  givesBack g hgives := by
    rw [he.givesBack] at hgives
    cases hgives
  rewrites r hrewrites := by
    rw [he.rewrites] at hrewrites
    cases hrewrites

/-! ## The worker -/

section

variable [Keys] {t : Nat} {h : History} {worker : Id}

abbrev Mails {α : Type} (Q : Except Failure α → History → Prop) (t : Nat) (p : Call α)
    (h : History) : Prop := p.Meets Genuine MailRule Q t h

omit [Keys] in
theorem claimNext_mails (hdrew : Drew worker h) :
    Mails (fun r h' => ∀ m, r = .ok (some m) →
      ∃ now, tenure h' = some ⟨m.id, worker, now, some m, false, false⟩) t (claimNext worker) h := by
  refine .await_bind (Undelivering.rule ⟨rfl, rfl, rfl, rfl, rfl⟩) (fun i now _ => ?_)
    fun i x _ m hm => by cases hm
  refine .await_bind (Undelivering.rule ⟨rfl, rfl, rfl, rfl, rfl⟩) (fun j candidate _ => ?_)
    fun j x _ m hm => by cases hm
  cases candidate with
  | none => exact fun m hm => by cases hm
  | some candidate =>
    have hclaims : MailRule (.claimMessage candidate.id now worker)
        (h ++ [⟨t, .clock, i, .ok now⟩] ++
          [⟨t, .findClaimable now, j, .ok (some candidate)⟩]) := by
      refine ⟨fun claim hclaim => ?_, nofun, nofun, nofun, nofun⟩
      cases hclaim
      refine ⟨?_, hdrew.mono fun ev hev => ?_⟩
      · have hread : ClockRead now (h ++ [⟨t, .clock, i, .ok now⟩]) := recorded_last rfl
        exact hread.mono (List.subset_append_left _ _)
      · exact List.mem_append_left _ (List.mem_append_left _ hev)
    refine .await_bind hclaims (fun k claimed _ => ?_) fun k x _ m hm => by cases hm
    split
    · exact fun m hm => by cases hm
    · rename_i hone
      obtain rfl : claimed = 1 := not_not.mp hone
      refine .await (Undelivering.rule ⟨rfl, rfl, rfl, rfl, rfl⟩) fun l r hgenuine m hm => ?_
      subst hm
      have hid : m.id = candidate.id := hgenuine candidate.id m rfl
      refine ⟨now, ?_⟩
      rw [tenure_append, tenure_append, hid]
      rfl

theorem send_mails {m : EmailOutbox} {now : Time}
    (htenure : tenure h = some ⟨m.id, worker, now, some m, false, false⟩) :
    Mails (fun r h' => ∀ x, r = .error x → ∃ handed accepted,
      tenure h' = some ⟨m.id, worker, now, some m, handed, accepted⟩) t (send worker m) h := by
  have hpayload : Mails (fun _ h' => h' = h) t (readPayload m.payloadEncrypted) h := by
    unfold readPayload
    split
    · rfl
    · rfl
  refine hpayload.bind (fun payload h' hsame => ?_) fun x h' hsame y _ => ?_
  · subst hsame
    have hhands : MailRule (.sendMail m.id payload) h' := by
      refine ⟨nofun, fun id hid => ?_, nofun, nofun, nofun⟩
      cases hid
      exact ⟨_, m, htenure, rfl, rfl, rfl, rfl⟩
    refine .await_bind hhands (fun i b _ => ?_) fun i x _ y _ => ⟨true, false, ?_⟩
    · have hsent : tenure (h' ++ [(⟨t, .sendMail m.id payload, i, .ok b⟩ : RotationEvent)]) =
          some ⟨m.id, worker, now, some m, true, true⟩ := by
        rw [tenure_append, htenure]
        rfl
      have hmarks : MailRule (.markSent m.id worker)
          (h' ++ [(⟨t, .sendMail m.id payload, i, .ok b⟩ : RotationEvent)]) := by
        refine ⟨nofun, nofun, fun id worker' hid => ?_, nofun, nofun⟩
        cases hid
        exact ⟨_, m, hsent, rfl, rfl, rfl, rfl, rfl⟩
      refine .await hmarks fun j r _ y hr => ⟨true, true, ?_⟩
      subst hr
      rw [tenure_append, hsent]
      rfl
    · rw [tenure_append, htenure]
      rfl
  · subst hsame
    exact ⟨false, false, htenure⟩

omit [Keys] in
theorem giveBack_mails {m : EmailOutbox} {now : Time} {handed accepted : Bool}
    (htenure : tenure h = some ⟨m.id, worker, now, some m, handed, accepted⟩) :
    Mails (fun _ _ => True) t (giveBack worker m) h := by
  unfold giveBack
  split
  · rename_i hlast
    refine .await ⟨nofun, nofun, nofun, fun g hg => ?_, nofun⟩ fun _ _ _ => trivial
    cases hg
    exact ⟨_, m, htenure, rfl, rfl, rfl, rfl, .inl ⟨rfl, rfl, hlast⟩⟩
  · rename_i hmore
    refine .await_bind (Undelivering.rule ⟨rfl, rfl, rfl, rfl, rfl⟩) (fun i time _ => ?_)
      fun _ _ _ => trivial
    have hsame : tenure (h ++ [(⟨t, .clock, i, .ok time⟩ : RotationEvent)]) = tenure h :=
      tenure_append _ _
    refine .await ⟨nofun, nofun, nofun, fun g hg => ?_, nofun⟩ fun _ _ _ => trivial
    cases hg
    exact ⟨_, m, hsame.trans htenure, rfl, rfl, rfl, rfl,
      .inr ⟨rfl, rfl, Nat.lt_of_not_le hmore⟩⟩

theorem deliver_mails {m : EmailOutbox} {now : Time}
    (htenure : tenure h = some ⟨m.id, worker, now, some m, false, false⟩) :
    Mails (fun _ _ => True) t (deliver worker m) h := by
  refine .tryCatch (send_mails htenure) (fun _ _ _ => trivial) fun x h' herror => ?_
  obtain ⟨handed, accepted, htenure'⟩ := herror x rfl
  exact giveBack_mails htenure'

theorem drain_mails (processed : Nat) (hdrew : Drew worker h) :
    Mails (fun _ _ => True) t (drain worker processed) h := by
  induction processed generalizing h with
  | zero => trivial
  | succ processed ih =>
    refine (claimNext_mails hdrew).grows.bind (fun message h₁ hclaim => ?_) fun _ _ _ => trivial
    cases message with
    | none => trivial
    | some m =>
      obtain ⟨now, htenure⟩ := hclaim.1 m rfl
      refine (deliver_mails htenure).grows.bind (fun _ h₂ hgrows => ?_) fun _ _ _ => trivial
      exact ih ((hdrew.mono hclaim.2).mono hgrows.2)

theorem mailWorker_mails (sweeps : Nat) : Mails (fun _ _ => True) t (mailWorker sweeps) h := by
  refine .await_bind (Undelivering.rule ⟨rfl, rfl, rfl, rfl, rfl⟩) (fun i worker _ => ?_)
    fun _ _ _ => trivial
  have hdrew : Drew worker (h ++ [⟨t, .randomIv, i, .ok worker⟩]) := recorded_last rfl
  have hbody : ∀ (a : Nat) (h' : History), Drew worker h' →
      Mails (fun _ => Drew worker) t (drain worker MAX_BATCH_SIZE).ignoreError h' := by
    intro a h' hdrew'
    refine (drain_mails MAX_BATCH_SIZE hdrew').grows.andThen fun r h'' hgrows => ?_
    exact hdrew'.mono hgrows.2
  exact (Prog.Meets.forEach hbody (List.range sweeps) _ hdrew).mono fun _ _ _ => trivial

/-! ## Calls -/

theorem reencryptRow_mails (column : Column) (row : StoredValue) (summary : ReencryptionSummary) :
    Mails (fun _ _ => True) t (reencryptRow column row summary) h := by
  unfold reencryptRow
  split
  · trivial
  · rename_i value hsome
    have hvalue : value ≠ .legacy "" := by
      have hne := (Option.filter_eq_some_iff.mp hsome).2
      simpa using hne
    refine .await_bind (Undelivering.rule ⟨rfl, rfl, rfl, rfl, rfl⟩) (fun i iv _ => ?_)
      fun _ _ _ => trivial
    split
    · trivial
    · trivial
    · rename_i next hreplaced
      have hnext : next ≠ .legacy "" := by
        rcases reencryptedSecret_cases iv value with ⟨hcurrent, -⟩ | hunreadable | ⟨-, hnew⟩
        · rw [hcurrent] at hreplaced
          cases hreplaced
        · rw [hunreadable] at hreplaced
          cases hreplaced
        · rw [hnew] at hreplaced
          cases hreplaced
          exact nofun
      refine .await_bind ⟨nofun, nofun, nofun, nofun, fun r hr => ?_⟩ (fun _ _ _ => trivial)
        fun _ _ _ => trivial
      cases hr
      exact ⟨hvalue, hnext⟩

theorem sweepRows_mails (column : Column) (rows : List StoredValue)
    (summary : ReencryptionSummary) :
    Mails (fun _ _ => True) t (sweepRows column rows summary) h := by
  induction rows generalizing summary h with
  | nil => trivial
  | cons row rows ih =>
    exact (reencryptRow_mails column row summary).bind (fun summary' _ _ => ih summary')
      fun _ _ _ => trivial

theorem sweepPages_mails (column : Column) (pendingOnly : Bool) (fuel : Nat) (cursor : Option Id)
    (summary : ReencryptionSummary) :
    Mails (fun _ _ => True) t (sweepPages column pendingOnly fuel cursor summary) h := by
  induction fuel generalizing cursor summary h with
  | zero => trivial
  | succ fuel ih =>
    refine .await_bind (Undelivering.rule ⟨rfl, rfl, rfl, rfl, rfl⟩) (fun i rows _ => ?_)
      fun _ _ _ => trivial
    refine (sweepRows_mails column rows summary).bind (fun summary' h' _ => ?_) fun _ _ _ => trivial
    split
    · trivial
    · exact ih _ _

theorem sweepColumns_mails (pendingOnly : Bool) (fuel : Nat) (columns : List Column)
    (summary : ReencryptionSummary) :
    Mails (fun _ _ => True) t (sweepColumns pendingOnly fuel columns summary) h := by
  induction columns generalizing summary h with
  | nil => trivial
  | cons column columns ih =>
    exact (sweepPages_mails column pendingOnly fuel none summary).bind (fun summary' _ _ =>
      ih summary') fun _ _ _ => trivial

theorem outboxCall_mails {p : Call Unit} (hp : OutboxCall p) : Mails (fun _ _ => True) t p h := by
  cases hp with
  | mailWorker sweeps => exact mailWorker_mails sweeps
  | enqueueAuthMail | deleteMessages =>
    exact .await (Undelivering.rule ⟨rfl, rfl, rfl, rfl, rfl⟩) fun _ _ _ => trivial
  | sweep fuel =>
    refine Prog.Meets.andThen (Q := fun _ _ => True) ?_ fun _ _ _ => trivial
    refine (sweepColumns_mails _ fuel columns ⟨0, 0⟩).bind (fun summary _ _ => ?_)
      fun _ _ _ => trivial
    split
    · exact .await_bind (Undelivering.rule ⟨rfl, rfl, rfl, rfl, rfl⟩) (fun _ _ _ => trivial)
        fun _ _ _ => trivial
    · trivial

end

end InitPad.Rotation
