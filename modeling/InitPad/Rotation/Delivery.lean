import InitPad.Rotation.Outbox

/-!
# InitPad.Rotation.Delivery

The mail outbox over whole runs. A row is final once it is sent or has failed, and an accepted
hand-over stands behind every row that is sent. The attempts are only compared by the worker whose
delivery fails: a claim over an expired lease does not look at them.
-/

namespace InitPad.Rotation

open Interleave Store Secrets
open Prog (await)

variable {β : Type}

/-! ## Attempts -/

/-- The event hands the message to `sendMail`. -/
def handed (id : Id) (ev : RotationEvent) : Bool := ev.stmt.hands = some id

def won (id : Id) (ev : RotationEvent) : Bool :=
  (ev.stmt.claimed ev.result).any fun claim => claim.id = id

/-- The claim of a message that has not been handed over yet. -/
def unused (held : Option Tenure) (id : Id) : Nat :=
  if held.any fun l => l.id = id && !l.handed then 1 else 0

theorem unused_after {e : Stmt β} {h : History} (hrule : MailRule e h) (t : Nat) (i : Input)
    (r : Except Failure β) (id : Id) :
    [(⟨t, e, i, r⟩ : RotationEvent)].countP (handed id) + unused (e.tenureAfter r (tenure h)) id ≤
      unused (tenure h) id + [(⟨t, e, i, r⟩ : RotationEvent)].countP (won id) := by
  rw [List.countP_singleton, List.countP_singleton]
  cases e with
  | claimMessage id' now worker =>
    have hnone : handed id ⟨t, .claimMessage id' now worker, i, r⟩ = false := rfl
    rw [hnone]
    unfold Stmt.tenureAfter won Stmt.claimed
    by_cases hone : r.toOption = some 1
    · simp only [hone, if_true, unused, Option.any_some]
      simp
    · simp [hone, unused]
  | findMessage id' =>
    have hsame : unused (Stmt.tenureAfter (.findMessage id') r (tenure h)) id =
        unused (tenure h) id := by
      unfold Stmt.tenureAfter
      cases tenure h <;> rfl
    rw [hsame]
    exact Nat.add_comm _ _ ▸ Nat.le_refl _
  | sendMail id' payload =>
    obtain ⟨l, m, hheld, hid, -, -, hunused⟩ := hrule.hands id' rfl
    have hafter : unused (Stmt.tenureAfter (.sendMail id' payload) r (tenure h)) id = 0 := by
      rw [hheld]
      simp [Stmt.tenureAfter, unused]
    rw [hafter, hheld]
    by_cases hsame : id' = id
    · simp [unused, handed, Stmt.hands, hid, hunused, hsame]
    · simp [handed, Stmt.hands, hsame]
  | markSent id' worker =>
    have hle : unused (Stmt.tenureAfter (.markSent id' worker) r (tenure h)) id ≤
        unused (tenure h) id := by
      simp only [Stmt.tenureAfter]
      split
      · exact Nat.zero_le _
      · exact Nat.le_refl _
    have hnone : handed id ⟨t, .markSent id' worker, i, r⟩ = false := rfl
    rw [hnone]
    simp only [Bool.false_eq_true, if_false, Nat.zero_add]
    exact Nat.le_trans hle (Nat.le_add_right _ _)
  | markFailed id' worker status availableAt payload => exact Nat.zero_le _
  | _ => exact Nat.add_comm _ _ ▸ Nat.le_refl _

/-- A claim over an expired lease comes before the last attempt. -/
def Limited (x : RotationStep) : Prop :=
  ∀ claim, x.stmt.claims = some claim → ∀ row ∈ x.pre.state.emailOutbox.rows, row.id = claim.id →
    row.claimable claim.now = true → row.attempts < MAX_ATTEMPTS

structure Counted (m : RotationMoment) : Prop where
  used : ∀ t id, (own t m.history).countP (handed id) + unused (holder t m) id ≤
    (own t m.history).countP (won id)
  attempts : ∀ row ∈ m.state.emailOutbox.rows, m.history.countP (won row.id) ≤ row.attempts
  drawn : ∀ id, 0 < m.history.countP (won id) → id < m.state.drawn
  bound : ∀ id, m.history.countP (won id) ≤ MAX_ATTEMPTS

section

variable [Keys] {x : RotationStep}

theorem won_event {id : Id} (h : won id x.event = true) :
    ∃ claim, x.stmt.claimed x.result = some claim ∧ claim.id = id := by
  obtain ⟨claim, hclaimed, hid⟩ := (Option.any_eq_true _ _).mp h
  exact ⟨claim, hclaimed, of_decide_eq_true hid⟩

theorem won_post (id : Id) : x.post.history.countP (won id) =
    x.pre.history.countP (won id) + if won id x.event = true then 1 else 0 := by
  rw [x.post_history, List.countP_append, List.countP_singleton]

theorem counted_post (hkept : OutboxKept x.pre) (hrule : Ruled x) (hlimited : Limited x)
    (h : Counted x.pre) : Counted x.post := by
  constructor
  case used =>
    intro t id
    have hold := h.used t id
    unfold holder at hold ⊢
    rw [own_post]
    split
    · rename_i ht
      subst ht
      have hstep := unused_after hrule x.thread x.input x.result id
      rw [List.countP_append, List.countP_append, tenure_append]
      have hevent : x.event = ⟨x.thread, x.stmt, x.input, x.result⟩ := rfl
      rw [hevent]
      dsimp only
      omega
    · rw [List.append_nil]
      exact hold
  case attempts =>
    intro row' hrow'
    rw [won_post]
    split
    · rename_i hwon
      obtain ⟨claim, hclaimed, hid⟩ := won_event hwon
      obtain ⟨-, ⟨row, hrow, hrowid, hclaimable⟩, hrows⟩ := claimed_post hclaimed
      rw [hrows] at hrow'
      have hsame : row'.id = row.id := hid.symm.trans hrowid.symm
      rw [hkept.stored.emailOutbox.unique.eq_of_updateMany hrow' (fun _ => rfl) hrow
        (by simp [hrowid, hclaimable]) hsame]
      exact Nat.succ_le_succ (h.attempts row hrow)
    · by_cases hlt : row'.id < x.pre.state.drawn
      · obtain ⟨row, hrow, hlater⟩ := later_post hrule hkept.rows hrow' hlt
        rw [hlater.id]
        exact Nat.le_trans (h.attempts row hrow) hlater.attempts
      · have hzero : x.pre.history.countP (won row'.id) = 0 := by
          by_contra hpos
          exact hlt (h.drawn row'.id (Nat.pos_of_ne_zero hpos))
        rw [hzero]
        exact Nat.zero_le _
  case drawn =>
    intro id hpos
    rw [won_post] at hpos
    split at hpos
    · rename_i hwon
      obtain ⟨claim, hclaimed, rfl⟩ := won_event hwon
      obtain ⟨-, ⟨row, hrow, hrowid, -⟩, -⟩ := claimed_post hclaimed
      rw [← hrowid]
      exact Nat.lt_of_lt_of_le (hkept.stored.emailOutbox.lt row hrow) (drawn_post x)
    · exact Nat.lt_of_lt_of_le (h.drawn id hpos) (drawn_post x)
  case bound =>
    intro id
    rw [won_post]
    split
    · rename_i hwon
      obtain ⟨claim, hclaimed, rfl⟩ := won_event hwon
      obtain ⟨hclaims, ⟨row, hrow, hrowid, hclaimable⟩, -⟩ := claimed_post hclaimed
      have hcount := h.attempts row hrow
      have hlt := hlimited claim hclaims row hrow hrowid hclaimable
      rw [hrowid] at hcount
      exact Nat.lt_of_le_of_lt hcount hlt
    · exact h.bound id

end

/-! ## Runs -/

section

variable [Keys]

def OutboxCalls (_ : RotationMoment) (p : Call Unit) : Prop := OutboxCall p

/-- `z` is the accepted hand-over behind the update `x` that marks the row as sent: its worker held
the lease of the row then, and nobody has claimed the row since. -/
structure Acknowledged (x z : RotationStep) (row : EmailOutbox) : Prop where
  thread : z.thread = x.thread
  hands : z.stmt.hands = some row.id
  accepted : z.result.isOk = true
  lease : ∃ l, holder z.thread z.pre = some l ∧ row.delivers row.id l.worker = true ∧
    ∃ r ∈ z.pre.state.emailOutbox.rows, r.delivers row.id l.worker = true ∧
      r.attempts = row.attempts

structure OutboxSafe (tr : List RotationStep) (c : RotationSystem) : Prop where
  final : ∀ x ∈ tr, ∀ row ∈ x.pre.state.emailOutbox.rows, row.status.terminal = true →
    ∀ row' ∈ c.moment.state.emailOutbox.rows, row'.id = row.id → row' = row
  erased : ∀ row ∈ c.moment.state.emailOutbox.rows,
    row.payloadEncrypted = .legacy "" ↔ row.status.terminal = true
  acknowledged : ∀ tr₁ x tr₂, tr = tr₁ ++ x :: tr₂ → ∀ row ∈ x.pre.state.emailOutbox.rows,
    ∀ row' ∈ x.post.state.emailOutbox.rows, row'.id = row.id → row.status ≠ .sent →
      row'.status = .sent → ∃ z ∈ tr₁, Acknowledged x z row
  exclusive : ∀ t t' l l', holder t c.moment = some l → holder t' c.moment = some l' → t ≠ t' →
    l.id = l'.id → Valid l c.moment → ¬ Valid l' c.moment
  attempts : ∀ id, c.moment.history.countP (handed id) ≤ MAX_ATTEMPTS

variable {w : World} {tr : List RotationStep} {c : RotationSystem}

theorem genuine_run (hrun : Run OutboxCalls (Config.start w) tr c) :
    ∀ ev ∈ c.moment.history, Genuine ev := by
  intro ev hev
  rw [hrun.history_eq] at hev
  obtain ⟨x, -, rfl⟩ := List.mem_map.mp hev
  exact fun id row hfound => (found_post hfound).1

theorem mailRule_run (hrun : Run OutboxCalls (Config.start w) tr c) : ∀ x ∈ tr, Ruled x :=
  (Run.meets (fun _ _ _ hp => outboxCall_mails hp) hrun (genuine_run hrun)).2

omit [Keys] in
theorem outboxKept_start (hw : Stored w) (hrows : ∀ row ∈ w.emailOutbox.rows, MailKept row) :
    OutboxKept (Config.start (E := Stmt) (ι := Input) (ε := Failure) w).moment := by
  refine ⟨hw, hrows, fun ev hev => absurd hev List.not_mem_nil, ?_, ?_, ?_, ?_⟩
  · rintro t worker ⟨ev, hev, -⟩
    cases hev
  · rintro t t' worker ⟨ev, hev, -⟩
    cases hev
  · exact fun t l hheld => by cases hheld
  · exact fun t t' l l' hheld => by cases hheld

theorem outboxKept_run (hw : Stored w) (hrows : ∀ row ∈ w.emailOutbox.rows, MailKept row)
    (hrun : Run OutboxCalls (Config.start w) tr c) :
    (∀ x ∈ tr, OutboxKept x.pre) ∧ OutboxKept c.moment :=
  ⟨hrun.preserves_pre OutboxKept Ruled (fun _ => outboxKept_post) (mailRule_run hrun)
      (outboxKept_start hw hrows),
    hrun.preserves OutboxKept Ruled (fun _ => outboxKept_post) (mailRule_run hrun)
      (outboxKept_start hw hrows)⟩

theorem later_run (hw : Stored w) (hrows : ∀ row ∈ w.emailOutbox.rows, MailKept row)
    (hrun : Run OutboxCalls (Config.start w) tr c) :
    (tr.Pairwise fun x y => ∀ row' ∈ y.pre.state.emailOutbox.rows,
      row'.id < x.pre.state.drawn → ∃ row ∈ x.pre.state.emailOutbox.rows, Later row row') ∧
      ∀ x ∈ tr, ∀ row' ∈ c.moment.state.emailOutbox.rows,
        row'.id < x.pre.state.drawn → ∃ row ∈ x.pre.state.emailOutbox.rows, Later row row' := by
  have hkept := (outboxKept_run hw hrows hrun).1
  have hrule := mailRule_run hrun
  have hall := hrun.pairwise (fun x m => x.pre.state.drawn ≤ m.state.drawn ∧
      ∀ row' ∈ m.state.emailOutbox.rows, row'.id < x.pre.state.drawn →
        ∃ row ∈ x.pre.state.emailOutbox.rows, Later row row')
    (fun x => OutboxKept x.pre ∧ Ruled x) ?_ ?_ fun x hx => ⟨hkept x hx, hrule x hx⟩
  · exact ⟨hall.1.imp fun h => h.2, fun x hx => (hall.2 x hx).2⟩
  · rintro x ⟨hkept, hrule⟩
    exact ⟨drawn_post x, fun row' hrow' hlt => later_post hrule hkept.rows hrow' hlt⟩
  · rintro x y ⟨hkept, hrule⟩ ⟨hdrawn, hlater⟩
    refine ⟨Nat.le_trans hdrawn (drawn_post y), fun row'' hrow'' hlt => ?_⟩
    obtain ⟨row', hrow', hnext⟩ :=
      later_post hrule hkept.rows hrow'' (Nat.lt_of_lt_of_le hlt hdrawn)
    obtain ⟨row, hrow, hfirst⟩ := hlater row' hrow' (hnext.id ▸ hlt)
    exact ⟨row, hrow, hfirst.trans hnext⟩

theorem accepted_run (hrun : Run OutboxCalls (Config.start w) tr c) :
    ∀ tr₁ x tr₂, tr = tr₁ ++ x :: tr₂ → ∀ t l, holder t x.pre = some l → l.accepted = true →
      ∃ z ∈ tr₁, z.thread = t ∧ z.stmt.hands = some l.id ∧ z.result.isOk = true ∧
        ∃ l₀, holder t z.pre = some l₀ ∧ l₀.id = l.id ∧ l₀.worker = l.worker ∧
          l₀.message = l.message := by
  have horigin := (hrun.origin
    (fun m (a : Nat × Tenure) => ∃ l, holder a.1 m = some l ∧ l.accepted = true ∧ l.id = a.2.id ∧
      l.worker = a.2.worker ∧ l.message = a.2.message)
    (fun z a => z.thread = a.1 ∧ z.stmt.hands = some a.2.id ∧ z.result.isOk = true ∧
      ∃ l₀, holder a.1 z.pre = some l₀ ∧ l₀.id = a.2.id ∧ l₀.worker = a.2.worker ∧
        l₀.message = a.2.message)
    Ruled ?_ (mailRule_run hrun) ?_).2
  · intro tr₁ x tr₂ htr t l hheld haccepted
    exact horigin tr₁ x tr₂ htr (t, l) ⟨l, hheld, haccepted, rfl, rfl, rfl⟩
  · rintro x hrule ⟨t, a⟩ ⟨l, hheld, haccepted, hid, hworker, hmessage⟩
    rcases holder_post hheld with ⟨hold, -⟩ | ⟨rfl, heffect⟩
    · exact .inl ⟨l, hold, haccepted, hid, hworker, hmessage⟩
    · cases heffect with
      | claimed _ heq =>
        subst heq
        cases haccepted
      | found _ _ _ _ heq _ =>
        subst heq
        cases haccepted
      | @handed l₀ id hold _ _ hhands heq =>
        subst heq
        obtain ⟨l₁, m, hheld₁, hid₁, -⟩ := hrule.hands id hhands
        have hsame : l₁ = l₀ := Option.some.inj (hheld₁.symm.trans hold)
        subst hsame
        have hhands' : x.stmt.hands = some a.id := by rw [hhands, ← hid₁, hid]
        exact .inr ⟨rfl, hhands', haccepted, l₁, hold, hid, hworker, hmessage⟩
      | kept hold _ _ _ => exact .inl ⟨l, hold, haccepted, hid, hworker, hmessage⟩
  · rintro ⟨t, a⟩ ⟨l, hheld, -⟩
    cases hheld

theorem acknowledged_run (hw : Stored w) (hrows : ∀ row ∈ w.emailOutbox.rows, MailKept row)
    (hrun : Run OutboxCalls (Config.start w) tr c) :
    ∀ tr₁ x tr₂, tr = tr₁ ++ x :: tr₂ → ∀ row ∈ x.pre.state.emailOutbox.rows,
      ∀ row' ∈ x.post.state.emailOutbox.rows, row'.id = row.id → row.status ≠ .sent →
        row'.status = .sent → ∃ z ∈ tr₁, Acknowledged x z row := by
  intro tr₁ x tr₂ htr row hrow row' hrow' hid hunsent hsent
  have hx : x ∈ tr := by
    rw [htr]
    exact List.mem_append_right _ (.head _)
  have hrule := mailRule_run hrun x hx
  have hkept := (outboxKept_run hw hrows hrun).1
  have hsame : ∀ row₀ ∈ x.pre.state.emailOutbox.rows, row₀.id = row'.id → row₀ = row :=
    fun row₀ hrow₀ hid₀ =>
      (hkept x hx).stored.emailOutbox.unique.eq_of_key hrow₀ hrow (hid₀.trans hid)
  have hmarked : ∃ worker, x.stmt.marks = some (row.id, worker) ∧
      row.delivers row.id worker = true := by
    cases mail_post x hrow' with
    | kept hrow₀ =>
      rw [hsame row' hrow₀ rfl] at hsent
      exact absurd hsent hunsent
    | @rewritten row₀ r hrow₀ _ _ heq =>
      rw [heq] at hsent
      rw [← hsame row₀ hrow₀ (heq ▸ rfl)] at hunsent
      exact absurd hsent hunsent
    | claimed _ _ _ _ heq =>
      rw [heq] at hsent
      cases hsent
    | @sent row₀ worker hrow₀ hmarks hdelivers heq =>
      obtain rfl := hsame row₀ hrow₀ (heq ▸ rfl)
      exact ⟨worker, hmarks, hdelivers⟩
    | returned _ hg _ heq =>
      rw [heq] at hsent
      rcases returned_status hrule hg with hstatus | hstatus <;>
        · rw [EmailOutbox.returned, hstatus] at hsent
          cases hsent
    | queued _ _ _ hpending =>
      rw [hpending] at hsent
      cases hsent
  obtain ⟨worker, hmarks, hdelivers⟩ := hmarked
  obtain ⟨l, m, hheld, hlid, rfl, hmessage, hmid, haccepted⟩ := hrule.marks _ _ hmarks
  obtain ⟨z, hz, hthread, hhands, hok, l₀, hheld₀, hid₀, hworker₀, hmessage₀⟩ :=
    accepted_run hrun tr₁ x tr₂ htr x.thread l hheld haccepted
  have hztr : z ∈ tr := by
    rw [htr]
    exact List.mem_append_left _ hz
  have hzheld := (hkept z hztr).held x.thread l₀ hheld₀
  have hlater := (later_run hw hrows hrun).1
  rw [htr] at hlater
  -- The row has the attempts of the message that was read, at the hand-over and now.
  obtain ⟨r, hr, hturn⟩ := (List.pairwise_append.mp hlater).2.2 z hz x (.head _) row hrow
    (by rw [← hlid, ← hid₀]; exact hzheld.drawn)
  have hnow := ((hkept x hx).held x.thread l hheld).owned row hrow (hlid ▸ hdelivers) m hmessage
    hmid
  have hthen := hzheld.past r hr (hturn.id.symm.trans (hlid.symm.trans hid₀.symm)) m
    (hmessage₀.trans hmessage) (hmid.trans hid₀.symm)
  have hattempts : row.attempts = r.attempts := by
    have hle := hturn.attempts
    have heq := hnow.1
    omega
  obtain ⟨-, hsending, howner⟩ := EmailOutbox.delivers_iff.mp hdelivers
  obtain ⟨hsending₀, howner₀⟩ := hturn.lease hattempts hsending
  refine ⟨z, hz, hthread, hhands.trans (congrArg some hlid), hok, l₀, hthread ▸ hheld₀, ?_, r, hr,
    ?_, hattempts.symm⟩
  · rw [hworker₀]
    exact hdelivers
  · rw [hworker₀]
    exact EmailOutbox.delivers_iff.mpr ⟨hturn.id.symm, hsending₀, howner₀.symm.trans howner⟩

theorem counted_run (hw : Stored w) (hrows : ∀ row ∈ w.emailOutbox.rows, MailKept row)
    (hrun : Run OutboxCalls (Config.start w) tr c) (hlimited : ∀ x ∈ tr, Limited x) :
    Counted c.moment := by
  have hkept := (outboxKept_run hw hrows hrun).1
  have hrule := mailRule_run hrun
  refine hrun.preserves Counted (fun x => OutboxKept x.pre ∧ Ruled x ∧ Limited x)
    (fun x hx => counted_post hx.1 hx.2.1 hx.2.2)
    (fun x hx => ⟨hkept x hx, hrule x hx, hlimited x hx⟩) ?_
  exact ⟨fun _ _ => Nat.le_refl _, fun _ _ => Nat.zero_le _, fun _ hpos => absurd hpos (Nat.lt_irrefl 0),
    fun _ => Nat.zero_le _⟩

/-- In every run in which a message is not claimed again behind its last attempt, the outbox is
safe. -/
theorem outbox_safe (hw : Stored w) (hrows : ∀ row ∈ w.emailOutbox.rows, MailKept row)
    (hrun : Run OutboxCalls (Config.start w) tr c) (hlimited : ∀ x ∈ tr, Limited x) :
    OutboxSafe tr c := by
  have hkept := outboxKept_run hw hrows hrun
  constructor
  case final =>
    intro x hx row hrow hdone row' hrow' hid
    have hstored := (hkept.1 x hx).stored.emailOutbox
    obtain ⟨row₀, hrow₀, hlater⟩ := (later_run hw hrows hrun).2 x hx row' hrow'
      (hid ▸ hstored.lt row hrow)
    obtain rfl := hstored.unique.eq_of_key hrow₀ hrow (hlater.id.symm.trans hid)
    exact hlater.final hdone
  case erased => exact fun row hrow => (hkept.2.rows row hrow).erased
  case acknowledged => exact acknowledged_run hw hrows hrun
  case exclusive => exact hkept.2.alone
  case attempts =>
    intro id
    have hcounted := counted_run hw hrows hrun hlimited
    refine Nat.le_trans (countP_le_of_own fun t => ?_) (hcounted.bound id)
    exact Nat.le_trans (Nat.le_add_right _ _) (hcounted.used t id)

end

/-! ## A message that stops every process -/

def due : World where
  emailOutbox := ⟨[⟨0, .legacy "link", .pending, 0, 0, none, none⟩]⟩
  drawn := 1

theorem due_stored : Stored due where
  users := ⟨by decide, nofun⟩
  externalIdentities := ⟨by decide, nofun⟩
  emailOutbox := by
    refine ⟨by decide, fun row hrow => ?_⟩
    obtain rfl := List.mem_singleton.mp hrow
    exact Nat.zero_lt_one
  targets := ⟨by decide, nofun⟩
  appConfigVars := ⟨by decide, nofun⟩

theorem due_kept : ∀ row ∈ due.emailOutbox.rows, MailKept row := by
  intro row hrow
  obtain rfl := List.mem_singleton.mp hrow
  exact ⟨⟨nofun, nofun⟩, fun _ => by decide⟩

section

abbrev mailKeys : Keys := ⟨⟨⟨"current"⟩, []⟩⟩

attribute [local instance] mailKeys

theorem mailWorker_calls {m : RotationMoment} (n : Nat) :
    ∀ p ∈ List.replicate n (mailWorker 1), OutboxCalls m p := by
  intro p hp
  rw [List.eq_of_mem_replicate hp]
  exact .mailWorker 1

def starts (t elapsed statements : Nat) : List (Nat × Input) :=
  (t, { elapsed }) :: List.replicate (statements - 1) (t, {})

/-- The condition on a step, as the scheduler can check it. -/
def limited (x : RotationStep) : Bool :=
  x.stmt.claims.all fun claim => x.pre.state.emailOutbox.rows.all fun row =>
    !(row.id = claim.id && row.claimable claim.now) || row.attempts < MAX_ATTEMPTS

theorem limited_of_bool {x : RotationStep} (h : limited x = true) : Limited x := by
  intro claim hclaim row hrow hid hclaimable
  unfold limited at h
  rw [hclaim, Option.all_some, List.all_eq_true] at h
  have hrow' := h row hrow
  simpa [hid, hclaimable] using hrow'

/-- A message that is delivered at once. -/
theorem due_sent : ∃ (tr : List RotationStep) (c : RotationSystem),
    Run OutboxCalls (Config.start due) tr c ∧ OutboxSafe tr c ∧
      c.moment.state.emailOutbox.rows.map (·.status) = [.sent] := by
  obtain ⟨tr, c, hrun, hcheck⟩ := run_of_plays (Config.start due)
    (List.replicate 1 (mailWorker 1)) (starts 0 0 7)
    (fun tr c => tr.all limited && c.moment.state.emailOutbox.rows.map (·.status) = [.sent])
    (mailWorker_calls 1) (by decide)
  simp only [Bool.and_eq_true, List.all_eq_true, decide_eq_true_eq] at hcheck
  exact ⟨tr, c, hrun, outbox_safe due_stored due_kept hrun
    (fun x hx => limited_of_bool (hcheck.1 x hx)), hcheck.2⟩

/-- Every process stops behind the hand-over; five minutes later, the next one hands the message
over again. -/
theorem handed_nine_times : ¬ ∀ (w : World) (tr : List RotationStep) (c : RotationSystem),
    Stored w → (∀ row ∈ w.emailOutbox.rows, MailKept row) →
      Run OutboxCalls (Config.start w) tr c → OutboxSafe tr c := by
  intro h
  obtain ⟨tr, c, hrun, hcheck⟩ := run_of_plays (Config.start due)
    (List.replicate 9 (mailWorker 1))
    ((List.range 9).flatMap fun t => starts t LEASE_TIMEOUT_MS 6)
    (fun _ c => MAX_ATTEMPTS < c.moment.history.countP (handed 0))
    (mailWorker_calls 9) (by decide)
  have hbound := (h due tr c due_stored due_kept hrun).attempts 0
  exact absurd hbound (Nat.not_le.mpr (of_decide_eq_true hcheck))

end

end InitPad.Rotation
