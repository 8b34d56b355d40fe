import InitPad.Interleave.Trace
import InitPad.Updates.Service

/-!
# InitPad.Updates.Pending

The row that a request has inserted and not settled yet, read off its own events. `UpdateRule` says
which statements it allows; every call keeps the rule, and ends without such a row.
-/

namespace InitPad.Updates

open Interleave
open Prog (await refuseIf)
open Supervisor (UpdateOperation)

variable {α β : Type}

abbrev UpdateMoment := Moment Stmt Input World Failure
abbrev UpdateStep := Transition Stmt Input World Failure
abbrev UpdateSystem := Config Stmt Input World Failure
abbrev UpdateEvent := Event Stmt Input Failure
abbrev History := List UpdateEvent

/-- An inserted row, with the connection of its request once that has left. -/
structure Pending where
  id : Id
  requestId : String
  connection : Option Id
  deriving DecidableEq

/-! ## What statements do -/

def Stmt.inserts : Stmt β → Bool
  | .create _ _ _ => true
  | _ => false

def Stmt.submits : Stmt β → Option String
  | .post requestId _ => some requestId
  | _ => none

def Stmt.fails : Stmt β → Option Id
  | .markFailed id _ => some id
  | _ => none

def Stmt.persists : Stmt β → Option UpdateOperation
  | .persist operation => some operation
  | _ => none

def Stmt.told : Stmt β → Except Failure β → Option UpdateOperation
  | .supervisorStatus, r => r.toOption.bind (·.operation)
  | .answer _, r => r.toOption
  | _, _ => none

theorem told_supervisorStatus (state : SupervisorState) :
    Stmt.told .supervisorStatus (.ok state) = state.operation := rfl

def Stmt.replied : Stmt β → Except Failure β → Option (Id × UpdateOperation)
  | .answer connection, r => r.toOption.map fun operation => (connection, operation)
  | _, _ => none

abbrev Told := Recorded (E := Stmt) (ι := Input) (ε := Failure) fun ev => ev.stmt.told ev.result

abbrev Replied := Recorded (E := Stmt) (ι := Input) (ε := Failure)
  fun ev => ev.stmt.replied ev.result

def crashed (r : Except Failure β) : Bool :=
  match r with
  | .error .crashed => true
  | _ => false

/-- The row of a request after a statement that its process has survived. -/
def Stmt.settles : Stmt β → Except Failure β → Option Pending → Option Pending
  | .create _ _ _, r, pending =>
    (r.toOption.map fun row => ⟨row.id, row.requestId, none⟩).or pending
  | .post _ _, r, pending =>
    pending.map fun p => { p with connection := r.toOption.or p.connection }
  | .markFailed _ _, _, _ => none
  | .persist _, _, _ => none
  | _, _, pending => pending

def Stmt.pendingAfter (e : Stmt β) (r : Except Failure β) (pending : Option Pending) :
    Option Pending :=
  if crashed r then none else e.settles r pending

def pending (h : History) : Option Pending :=
  h.foldl (fun held ev => ev.stmt.pendingAfter ev.result held) none

theorem pending_append (h : History) (ev : UpdateEvent) :
    pending (h ++ [ev]) = ev.stmt.pendingAfter ev.result (pending h) := by
  simp [pending, List.foldl_append]

structure UpdateRule (e : Stmt β) (h : History) : Prop where
  inserts : e.inserts = true → pending h = none
  submits : ∀ requestId, e.submits = some requestId → ∃ id, pending h = some ⟨id, requestId, none⟩
  fails : ∀ id, e.fails = some id → ∃ p, pending h = some p ∧ p.id = id
  persists : ∀ operation, e.persists = some operation → Told operation h ∧
    ∀ p, pending h = some p → ∃ connection, p.connection = some connection ∧
      Replied (connection, operation) h

/-- Statements that write no row and send no request. -/
structure Reading (e : Stmt β) : Prop where
  inserts : e.inserts = false
  submits : e.submits = none
  fails : e.fails = none
  persists : e.persists = none
  settles : ∀ r pending, e.settles r pending = pending

theorem Reading.rule {e : Stmt β} {h : History} (he : Reading e) : UpdateRule e h where
  inserts hinserts := by
    rw [he.inserts] at hinserts
    cases hinserts
  submits requestId hsubmits := by
    rw [he.submits] at hsubmits
    cases hsubmits
  fails id hfails := by
    rw [he.fails] at hfails
    cases hfails
  persists operation hpersists := by
    rw [he.persists] at hpersists
    cases hpersists

theorem Reading.after {e : Stmt β} {r : Except Failure β} (he : Reading e) :
    e.pendingAfter r none = none := by
  unfold Stmt.pendingAfter
  split
  · rfl
  · exact he.settles r none

/-! ## Calls -/

variable {t : Nat}

/-- Without a row of its own, the program keeps the rule and ends without one. -/
def Settled (t : Nat) (p : Call α) : Prop := ∀ h, pending h = none →
  p.Meets (fun _ => True) UpdateRule (fun _ h => pending h = none) t h

theorem compositional_settled : Prog.Compositional (E := Stmt) (ε := Failure)
    fun p => Settled t p where
  ret _ _ hnone := hnone
  andThen hp hf h hnone := (hp h hnone).andThen fun r h' hnone' => hf r h' hnone'

theorem settled_reading {p : Call α} (hp : p.Only fun e => Reading e) : Settled t p :=
  hp.compose compositional_settled fun e he h hnone => .await he.rule fun i r _ => by
    rw [pending_append, hnone]
    exact he.after

theorem meets_handled {P : UpdateEvent → Prop} {G : ∀ {γ : Type}, Stmt γ → History → Prop}
    {Q Q' : Except Failure α → History → Prop} {p : Call α} {f : Failure → Call α} {h : History}
    (hp : p.Meets P G Q t h) (hok : ∀ a h', Q (.ok a) h' → Q' (.ok a) h')
    (hcrash : ∀ h', Q (.error .crashed) h' → Q' (.error .crashed) h')
    (herr : ∀ x h', x ≠ .crashed → Q (.error x) h' → (f x).Meets P G Q' t h') :
    (handled p f).Meets P G Q' t h := by
  refine .tryCatch hp hok fun x h' hQ => ?_
  by_cases hx : x = .crashed
  · subst hx
    rw [if_pos rfl]
    exact hcrash h' hQ
  · rw [if_neg hx]
    exact herr x h' hx hQ

theorem crashed_error {x : Failure} : crashed (.error x : Except Failure β) = decide (x = .crashed) := by
  cases x <;> rfl

theorem sendUpdate_meets {row : PlatformUpdateOperation} {h : History}
    (hpending : pending h = some ⟨row.id, row.requestId, none⟩) :
    (sendUpdate row).Meets (fun _ => True) UpdateRule (fun r h' => match r with
      | .error _ => pending h' = none
      | .ok operation => ∃ connection,
          pending h' = some ⟨row.id, row.requestId, some connection⟩ ∧
            Replied (connection, operation) h' ∧ Told operation h') t h := by
  refine meets_handled (Q := fun r h' => match r with
    | .error x => if x = .crashed then pending h' = none
      else ∃ p, pending h' = some p ∧ p.id = row.id
    | .ok operation => ∃ connection, pending h' = some ⟨row.id, row.requestId, some connection⟩ ∧
        Replied (connection, operation) h' ∧ Told operation h') ?_ (fun _ _ hQ => hQ)
    (fun h' hQ => by simpa using hQ) fun x h' hx hQ => ?_
  · have hposts : UpdateRule (.post row.requestId row.toVersion) h := by
      refine ⟨nofun, fun requestId hr => ?_, nofun, nofun⟩
      cases hr
      exact ⟨row.id, hpending⟩
    refine .await_bind hposts (fun i connection _ => ?_) fun i x _ => ?_
    · have hsent : pending (h ++ [(⟨t, .post row.requestId row.toVersion, i, .ok connection⟩ :
          UpdateEvent)]) = some ⟨row.id, row.requestId, some connection⟩ := by
        rw [pending_append, hpending]
        rfl
      refine .await (Reading.rule ⟨rfl, rfl, rfl, rfl, fun _ _ => rfl⟩) fun j r _ => ?_
      cases r with
      | ok operation =>
        refine ⟨connection, ?_, recorded_last rfl, recorded_last rfl⟩
        rw [pending_append, hsent]
        rfl
      | error x =>
        simp only
        rw [pending_append, hsent]
        unfold Stmt.pendingAfter
        rw [crashed_error]
        by_cases hx : x = .crashed
        · simp [hx]
        · simp only [hx, if_false, decide_false, Bool.false_eq_true]
          exact ⟨_, rfl, rfl⟩
    · simp only
      rw [pending_append, hpending]
      unfold Stmt.pendingAfter
      rw [crashed_error]
      by_cases hx : x = .crashed
      · simp [hx]
      · simp only [hx, if_false, decide_false, Bool.false_eq_true]
        exact ⟨_, rfl, rfl⟩
  · simp only [hx, if_false] at hQ
    have hfails : UpdateRule (.markFailed row.id "Supervisor rejected the update") h' := by
      refine ⟨nofun, nofun, fun id hid => ?_, nofun⟩
      cases hid
      exact hQ
    have hover : ∀ {i} {r : Except Failure Unit}, pending (h' ++ [(⟨t, .markFailed row.id
        "Supervisor rejected the update", i, r⟩ : UpdateEvent)]) = none := by
      intro i r
      rw [pending_append]
      unfold Stmt.pendingAfter
      split <;> rfl
    exact .await_bind hfails (fun _ _ _ => hover) fun _ _ _ => hover

/-- What `insertRow` leaves. -/
def InsertLeaves : Except Failure (Option PlatformUpdateOperation) → History → Prop
  | .ok (some row), h => pending h = some ⟨row.id, row.requestId, none⟩
  | _, h => pending h = none

theorem submit_settled (requestId fromVersion toVersion : String) :
    Settled t (submit requestId fromVersion toVersion) := by
  intro h hnone
  have hinsert : (insertRow requestId fromVersion toVersion).Meets (fun _ => True) UpdateRule
      InsertLeaves t h := by
    refine meets_handled (Q := InsertLeaves) ?_ (fun _ _ hQ => hQ) (fun _ hQ => hQ)
      fun x h' _ hQ => ?_
    · have hcreates : UpdateRule (.create requestId fromVersion toVersion) h :=
        ⟨fun _ => hnone, nofun, nofun, nofun⟩
      refine .await_bind hcreates (fun i row _ => ?_) fun i x _ => ?_
      · have hpending : pending (h ++ [(⟨t, .create requestId fromVersion toVersion, i, .ok row⟩ :
          UpdateEvent)]) = some ⟨row.id, row.requestId, none⟩ := pending_append _ _
        exact hpending
      · have hkept : pending (h ++ [(⟨t, .create requestId fromVersion toVersion, i, .error x⟩ :
            UpdateEvent)]) = none := by
          rw [pending_append, hnone]
          unfold Stmt.pendingAfter
          split <;> rfl
        exact hkept
    · split
      · exact hQ
      · exact hQ
  refine hinsert.bind (fun inserted h₁ hinserted => ?_) fun _ _ hQ => hQ
  cases inserted with
  | none =>
    refine settled_reading ?_ h₁ hinserted
    refine .bind (.await ⟨rfl, rfl, rfl, rfl, fun _ _ => rfl⟩) fun concurrent => ?_
    cases concurrent with
    | none => exact .ret _
    | some row => exact .ret _
  | some row =>
    refine (sendUpdate_meets hinserted).bind (fun operation h₂ hQ => ?_) fun _ _ hQ => hQ
    obtain ⟨connection, hpending, hreplied, htold⟩ := hQ
    have hpersists : UpdateRule (.persist operation) h₂ := by
      refine ⟨nofun, nofun, nofun, fun operation' hoperation => ?_⟩
      cases hoperation
      refine ⟨htold, fun p hp => ?_⟩
      rw [hpending] at hp
      cases hp
      exact ⟨connection, rfl, hreplied⟩
    refine .await hpersists fun i r _ => ?_
    rw [pending_append]
    unfold Stmt.pendingAfter
    split <;> rfl

theorem request_settled (requestId : String) : Settled t (request requestId) := by
  have hread : ∀ {β : Type} {e : Stmt β}, Reading e → Settled t (await e) :=
    fun he => settled_reading (.await he)
  refine compositional_settled.bind (hread ⟨rfl, rfl, rfl, rfl, fun _ _ => rfl⟩) fun duplicate => ?_
  cases duplicate with
  | some row => exact compositional_settled.ret _
  | none =>
    refine compositional_settled.bind (hread ⟨rfl, rfl, rfl, rfl, fun _ _ => rfl⟩) fun release => ?_
    refine compositional_settled.bind (hread ⟨rfl, rfl, rfl, rfl, fun _ _ => rfl⟩) fun state => ?_
    refine compositional_settled.bind (hread ⟨rfl, rfl, rfl, rfl, fun _ _ => rfl⟩) fun actor => ?_
    refine compositional_settled.bind (compositional_settled.ret _) fun _ => ?_
    cases release with
    | none => exact compositional_settled.ret _
    | some toVersion =>
      refine compositional_settled.bind (compositional_settled.ret _) fun _ => ?_
      refine compositional_settled.bind (compositional_settled.ret _) fun _ => ?_
      refine compositional_settled.bind (hread ⟨rfl, rfl, rfl, rfl, fun _ _ => rfl⟩) fun active => ?_
      exact compositional_settled.bind (compositional_settled.ret _) fun _ =>
        submit_settled requestId state.currentVersion toVersion

theorem supervisorState_meets {h : History} (hnone : pending h = none) :
    supervisorState.Meets (fun _ => True) UpdateRule (fun r h' => pending h' = none ∧
      ∀ state operation, r = .ok (some state) → state.operation = some operation →
        Told operation h') t h := by
  have hkept : ∀ {i} {r : Except Failure SupervisorState},
      pending (h ++ [(⟨t, .supervisorStatus, i, r⟩ : UpdateEvent)]) = none := by
    intro i r
    rw [pending_append, hnone]
    unfold Stmt.pendingAfter
    split <;> rfl
  refine meets_handled (Q := fun r h' => pending h' = none ∧ ∀ state operation,
    r = .ok (some state) → state.operation = some operation → Told operation h') ?_
    (fun _ _ hQ => hQ) (fun _ hQ => ⟨hQ.1, fun _ _ hr => by cases hr⟩)
    fun x h' _ hQ => ⟨hQ.1, fun _ _ hr => by cases hr⟩
  refine .await_bind (Reading.rule ⟨rfl, rfl, rfl, rfl, fun _ _ => rfl⟩) (fun i state _ => ?_)
    fun i x _ => ⟨hkept, fun _ _ hr => by cases hr⟩
  refine ⟨hkept, fun state' operation hr hoperation => ?_⟩
  obtain rfl : state = state' := by simpa using Except.ok.inj hr
  have hread : Stmt.told .supervisorStatus (.ok state) = some operation := by
    rw [told_supervisorStatus, hoperation]
  exact ⟨_, List.mem_append_right _ (.head _), hread⟩

theorem syncOperation_meets {operation : UpdateOperation} {h : History}
    (hnone : pending h = none) (htold : Told operation h) :
    (syncOperation operation).Meets (fun _ => True) UpdateRule (fun _ h' => pending h' = none)
      t h := by
  refine .await_bind (Reading.rule ⟨rfl, rfl, rfl, rfl, fun _ _ => rfl⟩) (fun i existing _ => ?_)
    fun i x _ => ?_
  · have hnone' : pending (h ++ [(⟨t, .findByRequestId operation.requestId, i, .ok existing⟩ :
        UpdateEvent)]) = none := (pending_append _ _).trans hnone
    have htold' := htold.mono (List.subset_append_left h
      [(⟨t, .findByRequestId operation.requestId, i, .ok existing⟩ : UpdateEvent)])
    split
    · exact hnone'
    · have hpersists : UpdateRule (.persist operation) (h ++ [(⟨t,
          .findByRequestId operation.requestId, i, .ok existing⟩ : UpdateEvent)]) := by
        refine ⟨nofun, nofun, nofun, fun operation' hoperation => ?_⟩
        cases hoperation
        refine ⟨htold', fun p hp => ?_⟩
        rw [hnone'] at hp
        cases hp
      have hover : ∀ {j} {r : Except Failure PlatformUpdateOperation},
          pending (h ++ [(⟨t, .findByRequestId operation.requestId, i, .ok existing⟩ :
            UpdateEvent)] ++ [⟨t, .persist operation, j, r⟩]) = none := by
        intro j r
        rw [pending_append]
        unfold Stmt.pendingAfter
        split <;> rfl
      exact .await_bind hpersists (fun _ _ _ => hover) fun _ _ _ => hover
  · rw [pending_append, hnone]
    unfold Stmt.pendingAfter
    split <;> rfl

theorem status_settled : Settled t status := by
  intro h hnone
  refine (supervisorState_meets hnone).bind (fun result h' hresult => ?_) fun _ _ hQ => hQ.1
  obtain ⟨hnone', htold⟩ := hresult
  cases hoperation : result.bind (·.operation) with
  | none => exact hnone'
  | some operation =>
    obtain ⟨state, rfl, hstate⟩ := Option.bind_eq_some_iff.mp hoperation
    exact syncOperation_meets hnone' (htold state operation rfl hstate)

theorem updateCall_settled {p : Call Unit} (hp : UpdateCall p) : Settled t p := by
  cases hp with
  | request requestId => exact compositional_settled.ignoreError (request_settled requestId)
  | status => exact status_settled
  | _ => exact settled_reading (.await ⟨rfl, rfl, rfl, rfl, fun _ _ => rfl⟩)

end InitPad.Updates
