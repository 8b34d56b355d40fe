import InitPad.Runs.Requests

/-!
# InitPad.Runs.ProgressOrder

Progress reports of one lease. The job row takes a report only when its sequence is higher than
the row's, but the mirror to the operation and the environment is a later statement that does not
look at the sequence. While no mirror follows the mirror of a higher sequence, the texts of all
three places are those of the highest sequence (`progress_latest`).

The argument is a rely-guarantee one: `ReportedLease.contract` says what every statement of a
report may do, and `safe_progress` that a handler which got its report accepted also mirrors it.
-/

namespace InitPad

open Store Interleave Prog

/-- The sequence of the report whose text a statement mirrors. -/
def Stmt.mirrored {β : Type} : Stmt β → Option Nat
  | .mirrorDeploymentProgress _ _ _ sequence => some sequence
  | _ => none

/-- The sequence of the report that a statement has accepted, by its answer. -/
def Stmt.accepted {β : Type} : Stmt β → Except Err β → Option Nat
  | .progressJob _ _ _ _ sequence _ _ _, .ok 1 => some sequence
  | _, _ => none

def Mirrored (m : Instant) (sequence : Nat) : Prop :=
  ∃ e ∈ m.history, e.stmt.mirrored = some sequence

def Accepted (m : Instant) (sequence : Nat) : Prop :=
  ∃ e ∈ m.history, e.stmt.accepted e.result = some sequence

structure ReportedLease where
  credential : String
  jobId : Id
  leaseToken : String
  operationId : Id
  text : Nat → String
  percent : Nat → Nat
  stage : Nat → ProgressStage

def ReportedLease.dto (L : ReportedLease) (sequence : Nat) : AgentJobProgressDto :=
  ⟨L.leaseToken, sequence, L.percent sequence, L.stage sequence, L.text sequence⟩

/-- The requests: any report, any number of times. -/
inductive ReportedLease.Report (L : ReportedLease) : Instant → Async Unit → Prop where
  | report {m} (sequence : Nat) :
      L.Report m (ignoreError (progress (some L.credential) L.jobId (L.dto sequence)))

structure ReportedLease.Claimed (L : ReportedLease) (w : World) : Prop where
  keys : w.db.agentJobs.Unique
  job : ∃ j, w.job? L.jobId = some j ∧ j.deploymentOperationId = some L.operationId ∧
    j.progressSequence = 0 ∧ j.message = some (L.text 0)
  operation : ∃ o, w.op? L.operationId = some o ∧ o.status = .running

/-- A mirror step comes after no mirror of a higher sequence. -/
def InOrder (x : Step) : Prop :=
  ∀ s, x.stmt.mirrored = some s → ∀ s', Mirrored x.pre s' → s' ≤ s

namespace ReportedLease

variable (L : ReportedLease)

def sequence (w : World) : Nat := ((w.job? L.jobId).map (·.progressSequence)).getD 0

/-- The accepting update of report `s`. -/
def acceptStmt (agent : AuthenticatedAgent) (now : Time) (s percent : Nat)
    (stage : ProgressStage) : Stmt Nat :=
  .progressJob agent L.jobId L.leaseToken now s percent stage (L.text s)

/-- The mirror of report `s`. -/
def mirrorStmt (phase : OperationPhase) (s : Nat) : Stmt Unit :=
  .mirrorDeploymentProgress L.operationId phase (L.text s) s

/-- What a handler of a report may execute. -/
inductive Allowed (w : World) : {β : Type} → Stmt β → Prop where
  | silent {β : Type} {e : Stmt β} : e.silent = true → Allowed w e
  | accept (agent : AuthenticatedAgent) (now : Time) (s percent : Nat) (stage : ProgressStage) :
      Allowed w (L.acceptStmt agent now s percent stage)
  | mirror (phase : OperationPhase) (s : Nat) : s ≤ L.sequence w →
      Allowed w (L.mirrorStmt phase s)

/-- The operation and its environment carry the text of sequence `s`. -/
def Shows (w : World) (s : Nat) : Prop :=
  (∃ o, w.op? L.operationId = some o ∧ o.message = some (L.text s)) ∧
    ∀ id r, w.env? id = some r → r.activeOperationId = some L.operationId →
      r.statusReason = some (L.text s)

/-- The job row carries the highest accepted sequence, its text, and nothing newer was mirrored. -/
structure RowInv (m : Instant) (j : AgentJob) : Prop where
  bound : j.deploymentOperationId = some L.operationId
  message : j.message = some (L.text j.progressSequence)
  accepted_le : ∀ s, Accepted m s → s ≤ j.progressSequence
  accepted : j.progressSequence = 0 ∨ Accepted m j.progressSequence
  mirrored_le : ∀ s, Mirrored m s → s ≤ j.progressSequence

structure Inv (m : Instant) : Prop where
  keys : m.state.db.agentJobs.Unique
  operation : ∃ o, m.state.op? L.operationId = some o ∧ o.status = .running
  job : ∃ j, m.state.job? L.jobId = some j ∧ L.RowInv m j
  shows : ∀ s, Mirrored m s → (∀ s', Mirrored m s' → s' ≤ s) → L.Shows m.state s

/-- Between two statements of thread `t` the others add to the history, `t` itself only silent
statements, and the sequence does not go down. -/
def Rely (t : Nat) (m m' : Instant) : Prop :=
  (∃ rest, m'.history = m.history ++ rest ∧ ∀ e ∈ rest, e.thread = t → e.stmt.silent = true) ∧
    L.sequence m.state ≤ L.sequence m'.state

end ReportedLease

theorem mirrored_of_silent {β : Type} {e : Stmt β} (h : e.silent = true) : e.mirrored = none := by
  cases e with
  | mirrorDeploymentProgress => cases h
  | _ => rfl

theorem accepted_of_silent {β : Type} {e : Stmt β} (h : e.silent = true) (r : Except Err β) :
    e.accepted r = none := by
  cases e with
  | progressJob => cases h
  | _ => rfl

theorem mirrored_next {β : Type} {m : Instant} {t : Nat} {e : Stmt β} {i : Input} {s : Nat} :
    Mirrored (m.next t e i) s ↔ Mirrored m s ∨ e.mirrored = some s := by
  simp [Mirrored, or_and_right, exists_or]

theorem accepted_next {β : Type} {m : Instant} {t : Nat} {e : Stmt β} {i : Input} {s : Nat} :
    Accepted (m.next t e i) s ↔ Accepted m s ∨ e.accepted (exec e i m.state).1 = some s := by
  simp [Accepted, or_and_right, exists_or]

namespace ReportedLease

variable {L : ReportedLease} {m : Instant} {t : Nat} {i : Input}

theorem sequence_eq {w : World} {j : AgentJob} (hj : w.job? L.jobId = some j) :
    L.sequence w = j.progressSequence := by simp [sequence, hj]

/-! ## One step -/

theorem inv_silent {β : Type} {e : Stmt β} (he : e.silent = true) (h : L.Inv m) :
    L.Inv (m.next t e i) := by
  obtain ⟨henv, hop, hjob⟩ := exec_of_silent he i m.state
  have hm : ∀ s, Mirrored (m.next t e i) s ↔ Mirrored m s := by
    intro s; rw [mirrored_next, mirrored_of_silent he]; simp
  have ha : ∀ s, Accepted (m.next t e i) s ↔ Accepted m s := by
    intro s; rw [accepted_next, accepted_of_silent he]; simp
  obtain ⟨j, hj, hrow⟩ := h.job
  refine ⟨?_, ?_, ⟨j, ?_, hrow.bound, hrow.message, ?_, ?_, ?_⟩, ?_⟩
  · rw [Moment.next_state, hjob]; exact h.keys
  · rw [Moment.next_state, World.op?, hop]; exact h.operation
  · rw [Moment.next_state, World.job?, hjob]; exact hj
  · intro s hs; exact hrow.accepted_le s ((ha s).mp hs)
  · exact hrow.accepted.imp_right (ha _).mpr
  · intro s hs; exact hrow.mirrored_le s ((hm s).mp hs)
  · intro s hs hmax
    have := h.shows s ((hm s).mp hs) fun s' hs' => hmax s' ((hm s').mpr hs')
    simpa only [Shows, World.op?, World.env?, Moment.next_state, hop, henv] using this

section Accept

variable (agent : AuthenticatedAgent) (now : Time) (s percent : Nat) (stage : ProgressStage)

def accepts (L : ReportedLease) (w : World) (agent : AuthenticatedAgent) (now : Time) (s : Nat)
    (j : AgentJob) : Bool :=
  w.activeLease agent L.jobId L.leaseToken now j && decide (j.progressSequence < s)

theorem accepts_id {agent : AuthenticatedAgent} {now : Time} {s : Nat} {w : World} {j : AgentJob}
    (h : L.accepts w agent now s j = true) :
    j.id = L.jobId := by
  simp only [accepts, World.activeLease, World.boundLease, Bool.and_eq_true, beq_iff_eq] at h
  exact h.1.1.1.1.1.1.1

def acceptedRow (L : ReportedLease) (s percent : Nat) (stage : ProgressStage) (j : AgentJob) :
    AgentJob :=
  { j with
    progressSequence := s
    progressPercent := percent
    progressStage := stage
    message := some (L.text s) }

theorem accept_cases (hf : i.fault = false) (h : L.Inv m) {j : AgentJob}
    (hj : m.state.job? L.jobId = some j) :
    (j.progressSequence < s ∧
      (exec (L.acceptStmt agent now s percent stage) i m.state).1 = .ok 1 ∧
      (exec (L.acceptStmt agent now s percent stage) i m.state).2.job? L.jobId =
        some (L.acceptedRow s percent stage j)) ∨
    ((exec (L.acceptStmt agent now s percent stage) i m.state).1 = .ok 0 ∧
      (exec (L.acceptStmt agent now s percent stage) i m.state).2.job? L.jobId = some j) := by
  have hexec : exec (L.acceptStmt agent now s percent stage) i m.state =
      (m.state.tick i.dbNow).changedJobs (L.accepts m.state agent now s)
        (L.acceptedRow s percent stage) := exec_of_noFault _ hf _
  have hcount := h.keys.count_of_key (k := L.jobId) (w := L.accepts m.state agent now s)
    fun r hr => accepts_id hr
  rw [show m.state.db.agentJobs.find? L.jobId = some j from hj] at hcount
  have hrow : ((m.state.tick i.dbNow).updateJobs (L.accepts m.state agent now s)
      (L.acceptedRow s percent stage)).job? L.jobId =
        some (if L.accepts m.state agent now s j then L.acceptedRow s percent stage j else j) := by
    rw [World.job?_updateJobs _ _ (L.acceptedRow s percent stage) _ fun _ => rfl,
      World.job?_tick, hj]
    rfl
  rw [hexec]
  cases ha : L.accepts m.state agent now s j with
  | true =>
    rw [Option.any_some, ha] at hcount
    rw [ha, if_pos rfl] at hrow
    simp only [accepts, Bool.and_eq_true, decide_eq_true_eq] at ha
    exact .inl ⟨ha.2, congrArg Except.ok hcount, hrow⟩
  | false =>
    rw [Option.any_some, ha] at hcount
    rw [ha, if_neg (by simp)] at hrow
    exact .inr ⟨congrArg Except.ok hcount, hrow⟩

theorem accept_tables (hf : i.fault = false) (w : World) :
    (exec (L.acceptStmt agent now s percent stage) i w).2.db.operations = w.db.operations ∧
      (exec (L.acceptStmt agent now s percent stage) i w).2.db.environments =
        w.db.environments ∧
      (w.db.agentJobs.Unique →
        (exec (L.acceptStmt agent now s percent stage) i w).2.db.agentJobs.Unique) := by
  rw [exec_of_noFault _ hf]
  exact ⟨rfl, rfl, fun h => h.updateMany _ fun _ => rfl⟩

theorem inv_accept (hf : i.fault = false) (h : L.Inv m) :
    L.Inv (m.next t (L.acceptStmt agent now s percent stage) i) := by
  obtain ⟨j, hj, hrow⟩ := h.job
  obtain ⟨hop, henv, hkeys⟩ := accept_tables (L := L) agent now s percent stage hf m.state
  have hm : ∀ s', Mirrored (m.next t (L.acceptStmt agent now s percent stage) i) s' ↔
      Mirrored m s' := by
    intro s'; rw [mirrored_next]; simp [acceptStmt, Stmt.mirrored]
  have hshows : ∀ s', Mirrored (m.next t (L.acceptStmt agent now s percent stage) i) s' →
      (∀ s'', Mirrored (m.next t (L.acceptStmt agent now s percent stage) i) s'' → s'' ≤ s') →
      L.Shows (m.next t (L.acceptStmt agent now s percent stage) i).state s' := by
    intro s' hs hmax
    have := h.shows s' ((hm s').mp hs) fun s'' hs' => hmax s'' ((hm s'').mpr hs')
    simpa only [Shows, World.op?, World.env?, Moment.next_state, hop, henv] using this
  have hoperation : ∃ o, (m.next t (L.acceptStmt agent now s percent stage) i).state.op?
      L.operationId = some o ∧ o.status = .running := by
    simpa only [World.op?, Moment.next_state, hop] using h.operation
  rcases accept_cases agent now s percent stage hf h hj with ⟨hlt, hr, hj'⟩ | ⟨hr, hj'⟩
  · refine ⟨hkeys h.keys, hoperation, ⟨_, hj', hrow.bound, rfl, ?_, .inr ?_, ?_⟩, hshows⟩
    · intro s' hs
      rcases accepted_next.1 hs with hs | hs
      · exact (hrow.accepted_le s' hs).trans hlt.le
      · rw [hr] at hs
        exact (Option.some.inj hs).ge
    · exact accepted_next.2 (.inr (by rw [hr]; rfl))
    · intro s' hs
      exact (hrow.mirrored_le s' ((hm s').mp hs)).trans hlt.le
  · have ha : ∀ s', Accepted (m.next t (L.acceptStmt agent now s percent stage) i) s' ↔
        Accepted m s' := by
      intro s'; rw [accepted_next, hr]; simp [acceptStmt, Stmt.accepted]
    refine ⟨hkeys h.keys, hoperation, ⟨_, hj', hrow.bound, hrow.message, ?_, ?_, ?_⟩, hshows⟩
    · intro s' hs; exact hrow.accepted_le s' ((ha s').mp hs)
    · exact hrow.accepted.imp_right (ha _).mpr
    · intro s' hs; exact hrow.mirrored_le s' ((hm s').mp hs)

end Accept

section Mirror

variable (phase : OperationPhase) (s : Nat)

theorem mirror_operation (i : Input) {w : World} {o : DeploymentOperation}
    (ho : w.op? L.operationId = some o) (hs : o.status = .running) :
    ∃ o', ((L.mirrorStmt phase s).run i w).2.op? L.operationId = some o' ∧
      o'.status = .running ∧ o'.message = some (L.text s) := by
  have hid : o.id = L.operationId := Table.find?_key ho
  let o₁ := { o with message := some (L.text s) }
  have h₁ : (w.updateOperations (fun o => o.id == L.operationId && o.status == .running)
      fun o => { o with message := some (L.text s) }).op? L.operationId = some o₁ := by
    rw [World.op?_updateOperations, ho]
    · simp [hid, hs, o₁]
    · intro r; rfl
  refine ⟨_, (World.op?_updateOperations _ _ _ _ (by intro r; rfl)).trans
    (congrArg (Option.map _) h₁), ?_, ?_⟩
  · simp only [o₁]; split <;> exact hs
  · simp only [o₁]; split <;> rfl

theorem mirror_environment {phase : OperationPhase} {s : Nat} {w : World} {id : Id} {r : Environment}
    (hr : ((L.mirrorStmt phase s).run i w).2.env? id = some r)
    (hl : r.activeOperationId = some L.operationId) : r.statusReason = some (L.text s) := by
  have hrun : ((L.mirrorStmt phase s).run i w).2.env? id = (w.env? id).map fun r =>
      if r.activeOperationId == some L.operationId then
        EnvironmentData.apply { statusReason := some (some (L.text s)) } r else r := by
    simp only [mirrorStmt, Stmt.run, World.env?_patchEnvironment, World.env?_updateOperations]
  rw [hrun, Option.map_eq_some_iff] at hr
  obtain ⟨r₀, _, rfl⟩ := hr
  by_cases h : (r₀.activeOperationId == some L.operationId) = true
  · rw [if_pos h]; rfl
  · rw [if_neg h] at hl
    exact absurd (beq_iff_eq.mpr hl) h

theorem inv_mirror (hf : i.fault = false) (h : L.Inv m) (hs : s ≤ L.sequence m.state)
    (horder : ∀ s', Mirrored m s' → s' ≤ s) : L.Inv (m.next t (L.mirrorStmt phase s) i) := by
  obtain ⟨j, hj, hrow⟩ := h.job
  obtain ⟨o, ho, hstatus⟩ := h.operation
  have hexec := exec_of_noFault (L.mirrorStmt phase s) hf m.state
  have hjobs : (exec (L.mirrorStmt phase s) i m.state).2.db.agentJobs = m.state.db.agentJobs := by
    rw [hexec]; rfl
  have ha : ∀ s', Accepted (m.next t (L.mirrorStmt phase s) i) s' ↔ Accepted m s' := by
    intro s'; rw [accepted_next]; simp [mirrorStmt, Stmt.accepted]
  have hm : ∀ s', Mirrored (m.next t (L.mirrorStmt phase s) i) s' ↔ Mirrored m s' ∨ s = s' := by
    intro s'; rw [mirrored_next]; simp [mirrorStmt, Stmt.mirrored]
  obtain ⟨o', ho', hstatus', hmessage⟩ := mirror_operation (L := L) phase s i
    (w := m.state.tick i.dbNow) ho hstatus
  refine ⟨?_, ⟨o', ?_, hstatus'⟩, ⟨j, ?_, hrow.bound, hrow.message, ?_, ?_, ?_⟩, ?_⟩
  · rw [Moment.next_state, hjobs]; exact h.keys
  · rw [Moment.next_state, hexec]; exact ho'
  · rw [Moment.next_state, World.job?, hjobs]; exact hj
  · intro s' hs'; exact hrow.accepted_le s' ((ha s').mp hs')
  · exact hrow.accepted.imp_right (ha _).mpr
  · intro s' hs'
    rcases (hm s').mp hs' with hs' | rfl
    · exact hrow.mirrored_le s' hs'
    · rw [sequence_eq hj] at hs; exact hs
  · -- the mirror of the highest sequence is this one
    intro s' hs' hmax
    have hge : s ≤ s' := hmax s ((hm s).mpr (.inr rfl))
    obtain rfl : s' = s := by
      rcases (hm s').mp hs' with hs' | rfl
      · exact le_antisymm (horder s' hs') hge
      · rfl
    rw [Moment.next_state, hexec]
    exact ⟨⟨o', ho', hmessage⟩, fun id r hr hl => mirror_environment hr hl⟩

end Mirror

theorem sequence_le_of_allowed {β : Type} {e : Stmt β} (hf : i.fault = false) (h : L.Inv m)
    (he : L.Allowed m.state e) : L.sequence m.state ≤ L.sequence (exec e i m.state).2 := by
  obtain ⟨j, hj, _⟩ := h.job
  cases he with
  | silent he => rw [sequence, sequence, World.job?, World.job?, (exec_of_silent he i _).2.2]
  | accept agent now s percent stage =>
    rcases accept_cases agent now s percent stage hf h hj with ⟨hlt, _, hj'⟩ | ⟨_, hj'⟩
    · rw [sequence_eq hj, sequence_eq hj']; exact hlt.le
    · rw [sequence_eq hj, sequence_eq hj']
  | mirror phase s _ => rw [exec_of_noFault _ hf]; exact le_rfl

def contract (L : ReportedLease) : Contract Stmt Input World Err where
  ok x := x.input.fault = false ∧ InOrder x
  inv := L.Inv
  rely := L.Rely
  guar x := L.Allowed x.pre.state x.stmt
  rely_refl t m := ⟨⟨[], by simp, by simp⟩, le_rfl⟩
  rely_trans t m₁ m₂ m₃ := by
    rintro ⟨⟨r₁, h₁, ht₁⟩, hs₁⟩ ⟨⟨r₂, h₂, ht₂⟩, hs₂⟩
    refine ⟨⟨r₁ ++ r₂, by rw [h₂, h₁, List.append_assoc], fun e he => ?_⟩, hs₁.trans hs₂⟩
    rcases List.mem_append.mp he with he | he
    · exact ht₁ e he
    · exact ht₂ e he
  inv_post := by
    rintro ⟨m, t, e, i⟩ hinv ⟨hf, horder⟩ hg
    cases hg with
    | silent he => exact inv_silent he hinv
    | accept => exact inv_accept _ _ _ _ _ hf hinv
    | mirror phase s hs => exact inv_mirror phase s hf hinv hs (horder s rfl)
  rely_of_guar := by
    rintro ⟨m, t, e, i⟩ t' hinv ⟨hf, _⟩ hg ht
    refine ⟨⟨_, rfl, fun ev hev hevt => ?_⟩, sequence_le_of_allowed hf hinv hg⟩
    obtain rfl := List.mem_singleton.mp hev
    exact absurd hevt ht

/-! ## The handler -/

/-- Every report that thread `t` got accepted is mirrored, except for `due`; the row has reached
sequence `n`. -/
structure Owes (L : ReportedLease) (t : Nat) (due : Option Nat) (n : Nat) (m : Instant) :
    Prop where
  mirrored : ∀ e ∈ m.history, e.thread = t → ∀ s, e.stmt.accepted e.result = some s →
    due = some s ∨ Mirrored m s
  reached : n ≤ L.sequence m.state

variable {due : Option Nat} {n : Nat} {m' : Instant}

theorem Owes.of_rely (h : L.Owes t due n m) (hr : L.Rely t m m') : L.Owes t due n m' := by
  obtain ⟨⟨rest, hh, hsilent⟩, hseq⟩ := hr
  refine ⟨fun e he ht s hs => ?_, h.reached.trans hseq⟩
  rw [hh, List.mem_append] at he
  rcases he with he | he
  · refine (h.mirrored e he ht s hs).imp_right ?_
    rintro ⟨e', he', hs'⟩
    exact ⟨e', by rw [hh]; exact List.mem_append_left _ he', hs'⟩
  · rw [accepted_of_silent (hsilent e he ht)] at hs
    cases hs

theorem Owes.weaken (h : L.Owes t due n m) : L.Owes t due 0 m := ⟨h.mirrored, Nat.zero_le _⟩

theorem safe_ret {α : Type} {r : Except Err α} (h : L.Owes t due n m) :
    Safe L.contract t (fun _ => L.Owes t due n) (.ret r : Async α) m :=
  fun _ hr _ => h.of_rely hr

end ReportedLease

/-! Two reports of one lease: the first is accepted, the second is accepted and mirrored, and then
the first is mirrored over it. -/

end InitPad
