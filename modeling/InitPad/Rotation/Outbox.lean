import InitPad.Rotation.Tenure

/-!
# InitPad.Rotation.Outbox

The rows of the mail outbox and the leases of its workers. A row moves on with every claim, and a
worker that is late finds another owner in it.
-/

namespace InitPad.Rotation

open Interleave Store Secrets
open Prog (await)

variable {β : Type}

/-! ## Rows -/

def MailStatus.terminal : MailStatus → Bool
  | .sent | .failed => true
  | _ => false

structure MailKept (row : EmailOutbox) : Prop where
  erased : row.payloadEncrypted = .legacy "" ↔ row.status.terminal = true
  retried : row.status = .pending → row.attempts < MAX_ATTEMPTS

structure Later (row row' : EmailOutbox) : Prop where
  id : row'.id = row.id
  final : row.status.terminal = true → row' = row
  attempts : row.attempts ≤ row'.attempts
  lease : row'.attempts = row.attempts → row'.status = .sending →
    row.status = .sending ∧ row'.lockOwner = row.lockOwner

theorem Later.refl (row : EmailOutbox) : Later row row :=
  ⟨rfl, fun _ => rfl, Nat.le_refl _, fun _ hsending => ⟨hsending, rfl⟩⟩

theorem Later.trans {row row' row'' : EmailOutbox} (h : Later row row') (h' : Later row' row'') :
    Later row row'' := by
  refine ⟨h'.id.trans h.id, fun hfinal => ?_, Nat.le_trans h.attempts h'.attempts,
    fun hsame hsending => ?_⟩
  · obtain rfl := h.final hfinal
    exact h'.final hfinal
  · have hle := h.attempts
    have hle' := h'.attempts
    obtain ⟨hsending', howner'⟩ := h'.lease (by omega) hsending
    obtain ⟨hsending, howner⟩ := h.lease (by omega) hsending'
    exact ⟨hsending, howner'.trans howner⟩

inductive MailEffect (e : Stmt β) (w w' : World) (row' : EmailOutbox) : Prop
  | kept : row' ∈ w.emailOutbox.rows → MailEffect e w w' row'
  | rewritten {row : EmailOutbox} {r : Rewrite} : row ∈ w.emailOutbox.rows →
      e.rewrites = some r → row.payloadEncrypted = r.previous →
      row' = { row with payloadEncrypted := r.next } → MailEffect e w w' row'
  | claimed {row : EmailOutbox} {claim : Claim} : row ∈ w.emailOutbox.rows →
      e.claims = some claim → row.id = claim.id → row.claimable claim.now = true →
      row' = row.claimed claim.now claim.worker → MailEffect e w w' row'
  | sent {row : EmailOutbox} {worker : Id} : row ∈ w.emailOutbox.rows →
      e.marks = some (row.id, worker) → row.delivers row.id worker = true → row' = row.sent →
      MailEffect e w w' row'
  | returned {row : EmailOutbox} {g : GiveBack} : row ∈ w.emailOutbox.rows →
      e.givesBack = some g → row.delivers g.id g.worker = true →
      row' = row.returned g.status g.availableAt g.payload → MailEffect e w w' row'
  | queued : row'.id = w.drawn → w.drawn < w'.drawn → MailKept row' → row'.status = .pending →
      MailEffect e w w' row'

theorem EmailOutbox.delivers_iff {row : EmailOutbox} {id worker : Id} :
    row.delivers id worker = true ↔
      row.id = id ∧ row.status = .sending ∧ row.lockOwner = some worker := by
  simp [EmailOutbox.delivers, and_assoc]

section

variable [Keys] {e : Stmt β} {w w' : World} {b : β} {row' : EmailOutbox}

theorem run_mail (h : e.run w = .ok (b, w')) (hrow' : row' ∈ w'.emailOutbox.rows) :
    MailEffect e w w' row' := by
  cases e with
  | writeColumn column id previous next =>
    cases h
    cases column with
    | emailPayload =>
      obtain ⟨row, hrow, rfl⟩ := Table.mem_updateMany.mp hrow'
      split
      · rename_i hmine
        simp only [Bool.and_eq_true, decide_eq_true_eq] at hmine
        exact .rewritten (r := ⟨.emailPayload, id, previous, next⟩) hrow rfl hmine.2 rfl
      · exact .kept hrow
    | _ => exact .kept hrow'
  | claimMessage id now worker =>
    cases h
    obtain ⟨row, hrow, rfl⟩ := Table.mem_updateMany.mp hrow'
    split
    · rename_i hmine
      simp only [Bool.and_eq_true, decide_eq_true_eq] at hmine
      have hclaims : (Stmt.claimMessage id now worker).claims = some ⟨id, now, worker⟩ := rfl
      exact .claimed hrow hclaims hmine.1 hmine.2 rfl
    · exact .kept hrow
  | markSent id worker =>
    cases h
    obtain ⟨row, hrow, rfl⟩ := Table.mem_updateMany.mp hrow'
    split
    · rename_i hmine
      obtain rfl := (EmailOutbox.delivers_iff.mp hmine).1
      exact .sent hrow rfl hmine rfl
    · exact .kept hrow
  | markFailed id worker status availableAt payload =>
    cases h
    obtain ⟨row, hrow, rfl⟩ := Table.mem_updateMany.mp hrow'
    split
    · rename_i hmine
      exact .returned (g := ⟨id, worker, status, availableAt, payload⟩) hrow rfl hmine rfl
    · exact .kept hrow
  | enqueueAuthMail payload =>
    cases h
    rcases Table.mem_insert.mp hrow' with hold | rfl
    · exact .kept hold
    · refine .queued rfl (Nat.lt_succ_self _) ⟨⟨nofun, nofun⟩, fun _ => ?_⟩ rfl
      exact Nat.zero_lt_succ 7
  | deleteMessages ids =>
    cases h
    exact .kept (Table.mem_deleteMany.mp hrow').1
  | upsertVar environmentId key value isSecret =>
    cases h
    dsimp only [World.upsertVar] at hrow'
    split at hrow' <;> exact .kept hrow'
  | _ =>
    cases h
    exact .kept hrow'

theorem run_drawn (h : e.run w = .ok (b, w')) : w.drawn ≤ w'.drawn ∧ w'.now = w.now := by
  cases e with
  | writeColumn column id previous next =>
    cases h
    cases column <;> exact ⟨Nat.le_refl _, rfl⟩
  | upsertVar environmentId key value isSecret =>
    cases h
    dsimp only [World.upsertVar]
    split <;> exact ⟨Nat.le_succ _, rfl⟩
  | storeTokens id accessToken refreshToken =>
    cases h
    exact ⟨Nat.le_add_right _ 2, rfl⟩
  | randomIv | enqueueAuthMail | createUser | setAccessToken | link | createTarget |
      setTargetSecret =>
    cases h
    exact ⟨Nat.le_succ _, rfl⟩
  | _ =>
    cases h
    exact ⟨Nat.le_refl _, rfl⟩

/-! ## Steps -/

theorem mail_post (x : RotationStep) (hrow' : row' ∈ x.post.state.emailOutbox.rows) :
    MailEffect x.stmt x.pre.state x.post.state row' := by
  rcases post_run x with hsame | ⟨b, hrun⟩
  · rw [hsame] at hrow'
    exact .kept hrow'
  · cases run_mail hrun hrow' with
    | kept hrow => exact .kept hrow
    | rewritten hrow hrewrites hprevious heq => exact .rewritten hrow hrewrites hprevious heq
    | claimed hrow hclaims hid hclaimable heq => exact .claimed hrow hclaims hid hclaimable heq
    | sent hrow hmarks hdelivers heq => exact .sent hrow hmarks hdelivers heq
    | returned hrow hgives hdelivers heq => exact .returned hrow hgives hdelivers heq
    | queued hid hlt hkept hpending => exact .queued hid hlt hkept hpending

theorem drawn_post (x : RotationStep) : x.pre.state.drawn ≤ x.post.state.drawn := by
  rcases post_run x with hsame | ⟨b, hrun⟩
  · rw [hsame]
    exact Nat.le_refl _
  · exact (run_drawn hrun).1

theorem now_post (x : RotationStep) : x.pre.state.now ≤ x.post.state.now := by
  rcases post_run x with hsame | ⟨b, hrun⟩
  · rw [hsame]
    exact Nat.le_add_right _ _
  · rw [(run_drawn hrun).2]
    exact Nat.le_add_right _ _

theorem claimed_post {x : RotationStep} {claim : Claim} (h : x.stmt.claimed x.result = some claim) :
    x.stmt.claims = some claim ∧
      (∃ row ∈ x.pre.state.emailOutbox.rows, row.id = claim.id ∧
        row.claimable claim.now = true) ∧
      x.post.state.emailOutbox = x.pre.state.emailOutbox.updateMany
        (fun row => row.id = claim.id && row.claimable claim.now)
        (.claimed claim.now claim.worker) := by
  have hok : ∀ {n}, x.result = .ok n → x.stmt.run (x.pre.state.tick x.input.elapsed) =
    .ok (n, x.post.state) := run_of_ok
  generalize x.post.state = w' at hok ⊢
  generalize x.result = r at h hok
  obtain ⟨m, t, e, i⟩ := x
  cases e with
  | claimMessage id now worker =>
    cases r with
    | error failure => cases h
    | ok count =>
      simp only [Stmt.claimed, Except.toOption, Option.some.injEq] at h
      split at h
      · rename_i hone
        cases h
        have hrun := hok rfl
        cases hrun
        refine ⟨rfl, ?_, rfl⟩
        have hpos : 0 < m.state.emailOutbox.count
            (fun row => row.id = id && row.claimable now) := by
          have hcount : m.state.emailOutbox.count
            (fun row => row.id = id && row.claimable now) = 1 := hone
          omega
        obtain ⟨row, hrow, hmine⟩ := (Table.count_pos_iff _ _).mp hpos
        simp only [Bool.and_eq_true, decide_eq_true_eq] at hmine
        exact ⟨row, hrow, hmine⟩
      · cases h
  | _ => cases h

theorem found_post {x : RotationStep} {id : Id} {row : EmailOutbox}
    (h : x.stmt.found x.result = some (id, row)) :
    row.id = id ∧ row ∈ x.pre.state.emailOutbox.rows ∧
      x.post.state.emailOutbox = x.pre.state.emailOutbox := by
  have hok : ∀ {n}, x.result = .ok n → x.stmt.run (x.pre.state.tick x.input.elapsed) =
    .ok (n, x.post.state) := run_of_ok
  generalize x.post.state = w' at hok ⊢
  generalize x.result = r at h hok
  obtain ⟨m, t, e, i⟩ := x
  cases e with
  | findMessage id' =>
    cases r with
    | error failure => cases h
    | ok found =>
      have hrun := hok rfl
      cases found with
      | none => cases h
      | some row' =>
        cases h
        simp only [Stmt.run, Except.ok.injEq, Prod.mk.injEq] at hrun
        obtain ⟨hfind, rfl⟩ := hrun
        exact ⟨Table.find?_key hfind, Table.mem_of_find? hfind, rfl⟩
  | _ => cases h

theorem drew_post {x : RotationStep} {worker : Id} (h : x.stmt.drew x.result = some worker) :
    worker = x.pre.state.drawn ∧ worker < x.post.state.drawn := by
  have hok : ∀ {n}, x.result = .ok n → x.stmt.run (x.pre.state.tick x.input.elapsed) =
    .ok (n, x.post.state) := run_of_ok
  generalize x.post.state = w' at hok ⊢
  generalize x.result = r at h hok
  obtain ⟨m, t, e, i⟩ := x
  cases e with
  | randomIv =>
    cases r with
    | error failure => cases h
    | ok iv =>
      cases h
      have hrun := hok rfl
      cases hrun
      exact ⟨rfl, Nat.lt_succ_self _⟩
  | _ => cases h

theorem clock_post {x : RotationStep} {now : Time} (h : x.stmt.clockRead x.result = some now) :
    now = x.post.state.now := by
  have hok : ∀ {n}, x.result = .ok n → x.stmt.run (x.pre.state.tick x.input.elapsed) =
    .ok (n, x.post.state) := run_of_ok
  generalize x.post.state = w' at hok ⊢
  generalize x.result = r at h hok
  obtain ⟨m, t, e, i⟩ := x
  cases e with
  | clock =>
    cases r with
    | error failure => cases h
    | ok n =>
      cases h
      have hrun := hok rfl
      cases hrun
      rfl
  | _ => cases h

end

/-! ## Leases -/

/-- The message of a thread. -/
def holder (t : Nat) (m : RotationMoment) : Option Tenure := tenure (own t m.history)

def staleAt (lockedAt : Nat) : Time := lockedAt + LEASE_TIMEOUT_MS

/-- The lease has not expired. -/
def Valid (l : Tenure) (m : RotationMoment) : Prop := m.state.now < staleAt l.lockedAt

structure HeldAt (t : Nat) (l : Tenure) (m : RotationMoment) : Prop where
  drew : Drew l.worker (own t m.history)
  drawn : l.id < m.state.drawn
  owned : ∀ row ∈ m.state.emailOutbox.rows, row.delivers l.id l.worker = true →
    ∀ msg, l.message = some msg → msg.id = l.id →
      msg.attempts = row.attempts ∧ msg.payloadEncrypted ≠ .legacy ""
  past : ∀ row ∈ m.state.emailOutbox.rows, row.id = l.id →
    ∀ msg, l.message = some msg → msg.id = l.id → msg.attempts ≤ row.attempts
  marked : Valid l m → ∀ row ∈ m.state.emailOutbox.rows, row.id = l.id →
    row.status.terminal = true ∨
      row.delivers l.id l.worker = true ∧ row.lockedAt = some l.lockedAt

structure OutboxKept (m : RotationMoment) : Prop where
  stored : Stored m.state
  rows : ∀ row ∈ m.state.emailOutbox.rows, MailKept row
  clocks : ∀ ev ∈ m.history, ∀ now, ev.stmt.clockRead ev.result = some now → now ≤ m.state.now
  draws : ∀ t worker, Drew worker (own t m.history) → worker < m.state.drawn
  apart : ∀ t t' worker, Drew worker (own t m.history) → Drew worker (own t' m.history) → t = t'
  held : ∀ t l, holder t m = some l → HeldAt t l m
  alone : ∀ t t' l l', holder t m = some l → holder t' m = some l' → t ≠ t' → l.id = l'.id →
    Valid l m → ¬ Valid l' m

section

variable [Keys] {x : RotationStep}

abbrev Ruled (x : RotationStep) : Prop := MailRule x.stmt (own x.thread x.pre.history)

theorem Valid.earlier {l : Tenure} (h : Valid l x.post) : Valid l x.pre :=
  Nat.lt_of_le_of_lt (now_post x) h

theorem own_post (t : Nat) : own t x.post.history =
    own t x.pre.history ++ if x.thread = t then [x.event] else [] := by
  rw [x.post_history, own_append]
  congr 1
  split
  · rename_i ht
    subst ht
    exact own_self _ _ _ _
  · rename_i ht
    exact own_of_ne ht _ _ _

theorem holder_post {t : Nat} {l : Tenure} (h : holder t x.post = some l) :
    holder t x.pre = some l ∧ x.thread ≠ t ∨
      x.thread = t ∧ TenureEffect x.stmt x.result (holder t x.pre) l := by
  unfold holder at h
  rw [own_post] at h
  split at h
  · rename_i ht
    rw [tenure_append] at h
    exact .inr ⟨ht, tenureAfter_some h⟩
  · rename_i ht
    rw [List.append_nil] at h
    exact .inl ⟨h, ht⟩

theorem drew_own_post {t : Nat} {worker : Id} (h : Drew worker (own t x.post.history)) :
    Drew worker (own t x.pre.history) ∨ x.thread = t ∧ x.stmt.drew x.result = some worker := by
  obtain ⟨ev, hev, hdrew⟩ := h
  rw [own_post] at hev
  rcases List.mem_append.mp hev with hev | hev
  · exact .inl ⟨ev, hev, hdrew⟩
  · split at hev
    · rename_i ht
      obtain rfl := List.mem_singleton.mp hev
      exact .inr ⟨ht, hdrew⟩
    · cases hev

theorem own_subset_post (t : Nat) : own t x.pre.history ⊆ own t x.post.history := by
  rw [own_post]
  exact List.subset_append_left _ _

omit [Keys] in
theorem returned_status (hrule : Ruled x) {g : GiveBack} (hg : x.stmt.givesBack = some g) :
    g.status = .failed ∨ g.status = .pending := by
  obtain ⟨l, m, -, -, -, -, -, ⟨hstatus, -⟩ | ⟨hstatus, -⟩⟩ := hrule.givesBack g hg
  · exact .inl hstatus
  · exact .inr hstatus

omit [Keys] in
theorem not_terminal_of_claimable {row : EmailOutbox} {now : Time}
    (h : row.claimable now = true) : row.status.terminal = false := by
  unfold EmailOutbox.claimable at h
  cases hstatus : row.status with
  | pending | sending => rfl
  | sent | failed =>
    rw [hstatus] at h
    cases h

omit [Keys] in
theorem stale_of_claimable {row : EmailOutbox} {id worker : Id} {now lockedAt : Time}
    (hdelivers : row.delivers id worker = true) (hlocked : row.lockedAt = some lockedAt)
    (hclaimable : row.claimable now = true) : staleAt lockedAt ≤ now := by
  unfold EmailOutbox.claimable at hclaimable
  rw [(EmailOutbox.delivers_iff.mp hdelivers).2.1, hlocked] at hclaimable
  dsimp only at hclaimable
  rw [Option.any_some] at hclaimable
  exact of_decide_eq_true hclaimable

omit [Keys] in
theorem not_terminal_of_delivers {row : EmailOutbox} {id worker : Id}
    (h : row.delivers id worker = true) : row.status.terminal = false := by
  rw [(EmailOutbox.delivers_iff.mp h).2.1]
  rfl

theorem later_post (hrule : Ruled x) (hrows : ∀ row ∈ x.pre.state.emailOutbox.rows, MailKept row)
    {row' : EmailOutbox} (hrow' : row' ∈ x.post.state.emailOutbox.rows)
    (hid : row'.id < x.pre.state.drawn) :
    ∃ row ∈ x.pre.state.emailOutbox.rows, Later row row' := by
  have hopen : ∀ {row : EmailOutbox} {P : Prop}, row.status.terminal = false →
      row.status.terminal = true → P :=
    fun hfalse htrue => absurd (hfalse.symm.trans htrue) Bool.false_ne_true
  cases mail_post x hrow' with
  | kept hrow => exact ⟨row', hrow, .refl row'⟩
  | @rewritten row r hrow hrewrites hprevious heq =>
    subst heq
    refine ⟨row, hrow, rfl, fun hdone => ?_, Nat.le_refl _, fun _ hsending => ⟨hsending, rfl⟩⟩
    have hempty := (hrows row hrow).erased.mpr hdone
    exact absurd (hprevious.symm.trans hempty) (hrule.rewrites r hrewrites).1
  | @claimed row claim hrow _ _ hclaimable heq =>
    subst heq
    refine ⟨row, hrow, rfl, hopen (not_terminal_of_claimable hclaimable), Nat.le_succ _, ?_⟩
    exact fun hsame => absurd hsame (Nat.succ_ne_self _)
  | @sent row worker hrow _ hdelivers heq =>
    subst heq
    exact ⟨row, hrow, rfl, hopen (not_terminal_of_delivers hdelivers), Nat.le_refl _, nofun⟩
  | @returned row g hrow hg hdelivers heq =>
    subst heq
    refine ⟨row, hrow, rfl, hopen (not_terminal_of_delivers hdelivers), Nat.le_refl _, ?_⟩
    intro _ hsending
    have hsending : g.status = .sending := hsending
    rcases returned_status hrule hg with hstatus | hstatus <;>
      · rw [hstatus] at hsending
        cases hsending
  | queued hnew _ _ _ => exact absurd hid (Nat.not_lt.mpr (Nat.le_of_eq hnew.symm))

theorem HeldAt.post {t : Nat} {l : Tenure} (h : HeldAt t l x.pre) (hrule : Ruled x)
    (hkept : OutboxKept x.pre)
    (hclaims : ∀ claim, x.stmt.claims = some claim → claim.worker ≠ l.worker)
    (hgives : ∀ g, x.stmt.givesBack = some g → g.worker ≠ l.worker) : HeldAt t l x.post := by
  constructor
  case drew => exact h.drew.mono (own_subset_post t)
  case drawn => exact Nat.lt_of_lt_of_le h.drawn (drawn_post x)
  case owned =>
    intro row' hrow' hdelivers msg hmsg hsame
    obtain ⟨hid, hsending, howner⟩ := EmailOutbox.delivers_iff.mp hdelivers
    cases mail_post x hrow' with
    | kept hrow => exact h.owned row' hrow hdelivers msg hmsg hsame
    | @rewritten row r hrow _ _ heq =>
      subst heq
      exact h.owned row hrow hdelivers msg hmsg hsame
    | @claimed row claim _ hclaim _ _ heq =>
      subst heq
      exact absurd (Option.some.inj howner) (hclaims claim hclaim)
    | sent _ _ _ heq =>
      subst heq
      cases hsending
    | @returned row g _ hg _ heq =>
      subst heq
      have hstatus : g.status = .sending := hsending
      rcases returned_status hrule hg with hfailed | hpending
      · rw [hfailed] at hstatus
        cases hstatus
      · rw [hpending] at hstatus
        cases hstatus
    | queued _ _ _ hpending =>
      rw [hpending] at hsending
      cases hsending
  case past =>
    intro row' hrow' hid msg hmsg hsame
    obtain ⟨row, hrow, hlater⟩ := later_post hrule hkept.rows hrow' (hid ▸ h.drawn)
    exact Nat.le_trans (h.past row hrow (hlater.id.symm.trans hid) msg hmsg hsame) hlater.attempts
  case marked =>
    intro hvalid row' hrow' hid
    have hmarked := h.marked hvalid.earlier
    cases mail_post x hrow' with
    | kept hrow => exact hmarked row' hrow hid
    | @rewritten row r hrow _ _ heq =>
      subst heq
      exact hmarked row hrow hid
    | @claimed row claim hrow hclaim _ hclaimable heq =>
      -- The row was locked or done, so the new claim comes behind the end of the lease.
      subst heq
      rcases hmarked row hrow hid with hdone | ⟨hdelivers, hlocked⟩
      · have hopen := not_terminal_of_claimable hclaimable
        rw [hdone] at hopen
        cases hopen
      · have hstale := stale_of_claimable hdelivers hlocked hclaimable
        obtain ⟨ev, hev, hread⟩ := (hrule.claims claim hclaim).1
        have hclock := hkept.clocks ev (List.mem_of_mem_filter hev) claim.now hread
        have hlate := Nat.le_trans hstale hclock
        exact absurd hvalid.earlier (Nat.not_lt.mpr hlate)
    | sent _ _ _ heq =>
      subst heq
      exact .inl rfl
    | @returned row g hrow hg hdelivers heq =>
      obtain ⟨-, hsending, howner⟩ := EmailOutbox.delivers_iff.mp hdelivers
      have hrowid : row.id = l.id := by
        rw [← hid, heq]
        rfl
      rcases hmarked row hrow hrowid with hdone | ⟨hmine, -⟩
      · rw [hsending] at hdone
        cases hdone
      · obtain ⟨-, -, howner'⟩ := EmailOutbox.delivers_iff.mp hmine
        rw [howner] at howner'
        exact absurd (Option.some.inj howner') (hgives g hg)
    | queued hnew _ _ _ => exact absurd (hnew.symm.trans hid) (Nat.ne_of_gt h.drawn)

theorem HeldAt.claimed (hkept : OutboxKept x.pre) (hrule : Ruled x) {claim : Claim}
    (h : x.stmt.claimed x.result = some claim) :
    HeldAt x.thread ⟨claim.id, claim.worker, claim.now, none, false, false⟩ x.post := by
  obtain ⟨hclaims, ⟨row, hrow, hid, hclaimable⟩, hrows⟩ := claimed_post h
  refine ⟨(hrule.claims claim hclaims).2.mono (own_subset_post _), ?_, ?_, ?_, ?_⟩
  · have hlt := hkept.stored.emailOutbox.lt row hrow
    rw [← hid]
    exact Nat.lt_of_lt_of_le hlt (drawn_post x)
  · intro _ _ _ msg hmsg
    cases hmsg
  · intro _ _ _ msg hmsg
    cases hmsg
  · intro _ row' hrow' hid'
    rw [hrows] at hrow'
    obtain rfl := hkept.stored.emailOutbox.unique.eq_of_updateMany hrow' (fun _ => rfl) hrow
      (by simp [hid, hclaimable]) (hid'.trans hid.symm)
    exact .inr ⟨EmailOutbox.delivers_iff.mpr ⟨hid', rfl, rfl⟩, rfl⟩

theorem HeldAt.found {t : Nat} {l : Tenure} {message : Option EmailOutbox}
    (h : HeldAt t l x.post) (hkept : OutboxKept x.pre)
    (hfound : ∀ m, message = some m → ∃ id, x.stmt.found x.result = some (id, m)) :
    HeldAt t { l with message, accepted := false } x.post := by
  have hsame : ∀ m, message = some m → m.id = l.id → ∀ row ∈ x.post.state.emailOutbox.rows,
      row.id = l.id → row = m ∧ MailKept m := by
    intro m hm hid row hrow hid'
    obtain ⟨id, hread⟩ := hfound m hm
    obtain ⟨-, hmem, hrows⟩ := found_post hread
    rw [hrows] at hrow
    exact ⟨hkept.stored.emailOutbox.unique.eq_of_key hrow hmem (hid'.trans hid.symm),
      hkept.rows m hmem⟩
  refine ⟨h.drew, h.drawn, fun row hrow hdelivers msg hmsg hid => ?_,
    fun row hrow hid' msg hmsg hid => ?_, h.marked⟩
  · obtain ⟨hrowid, hsending, -⟩ := EmailOutbox.delivers_iff.mp hdelivers
    obtain ⟨rfl, hrowkept⟩ := hsame msg hmsg hid row hrow hrowid
    refine ⟨rfl, fun hempty => ?_⟩
    have hdone := hrowkept.erased.mp hempty
    rw [hsending] at hdone
    cases hdone
  · obtain ⟨rfl, -⟩ := hsame msg hmsg hid row hrow hid'
    exact Nat.le_refl _

theorem held_post (hkept : OutboxKept x.pre) (hrule : Ruled x) {t : Nat} {l : Tenure}
    (h : holder t x.post = some l) : HeldAt t l x.post := by
  have hown : ∀ {l₀ : Tenure}, holder t x.pre = some l₀ → x.stmt.claims = none →
      x.stmt.givesBack = none → HeldAt t l₀ x.post := by
    intro l₀ hheld hnoclaim hnogive
    refine (hkept.held t l₀ hheld).post hrule hkept (fun claim hclaim => ?_) fun g hg => ?_
    · rw [hnoclaim] at hclaim
      cases hclaim
    · rw [hnogive] at hg
      cases hg
  rcases holder_post h with ⟨hheld, hother⟩ | ⟨rfl, heffect⟩
  · -- Another worker has another id.
    have hat := hkept.held t l hheld
    have hne : ∀ worker, Drew worker (own x.thread x.pre.history) → worker ≠ l.worker := by
      rintro worker hdrew rfl
      exact hother (hkept.apart _ _ _ hdrew hat.drew)
    refine hat.post hrule hkept (fun claim hclaim => hne _ (hrule.claims claim hclaim).2) ?_
    intro g hg
    obtain ⟨l', m, hheld', -, hworker, -⟩ := hrule.givesBack g hg
    rw [← hworker]
    exact hne _ (hkept.held _ l' hheld').drew
  · cases heffect with
    | claimed hclaimed heq =>
      rw [heq]
      exact .claimed hkept hrule hclaimed
    | found hheld hnoclaim hnogive _ heq hfound =>
      rw [heq]
      exact (hown hheld hnoclaim hnogive).found hkept hfound
    | handed hheld hnoclaim hnogive _ heq =>
      have hat := hown hheld hnoclaim hnogive
      rw [heq]
      exact ⟨hat.drew, hat.drawn, hat.owned, hat.past, hat.marked⟩
    | kept hheld hnoclaim hnogive _ => exact hown hheld hnoclaim hnogive

theorem mailKept_post (hkept : OutboxKept x.pre) (hrule : Ruled x) {row' : EmailOutbox}
    (hrow' : row' ∈ x.post.state.emailOutbox.rows) : MailKept row' := by
  cases mail_post x hrow' with
  | kept hrow => exact hkept.rows row' hrow
  | @rewritten row r hrow hrewrites hprevious heq =>
    subst heq
    obtain ⟨hold, hnew⟩ := hrule.rewrites r hrewrites
    have hrowkept := hkept.rows row hrow
    refine ⟨⟨fun hempty => absurd hempty hnew, fun hdone => ?_⟩, hrowkept.retried⟩
    exact absurd (hprevious ▸ hrowkept.erased.mpr hdone) hold
  | @claimed row claim hrow _ _ hclaimable heq =>
    subst heq
    refine ⟨⟨fun hempty => ?_, nofun⟩, nofun⟩
    have hdone := (hkept.rows row hrow).erased.mp hempty
    exact absurd ((not_terminal_of_claimable hclaimable).symm.trans hdone) Bool.false_ne_true
  | sent _ _ _ heq =>
    subst heq
    exact ⟨⟨fun _ => rfl, fun _ => rfl⟩, nofun⟩
  | @returned row g hrow hg hdelivers heq =>
    subst heq
    obtain ⟨l, m, hheld, hid, hworker, hmessage, hmid, hcases⟩ := hrule.givesBack g hg
    rcases hcases with ⟨hfailed, hempty, -⟩ | ⟨hpending, hpayload, hmore⟩
    · have hdone : g.status.terminal = true := by rw [hfailed]; rfl
      refine ⟨⟨fun _ => hdone, fun _ => hempty⟩, fun hretry => ?_⟩
      rw [EmailOutbox.returned, hfailed] at hretry
      cases hretry
    · rw [← hid, ← hworker] at hdelivers
      obtain ⟨hattempts, hne⟩ :=
        (hkept.held x.thread l hheld).owned row hrow hdelivers m hmessage hmid
      have hopen : g.status.terminal = false := by rw [hpending]; rfl
      refine ⟨⟨fun hempty => absurd (hpayload.symm.trans hempty) hne, fun hdone => ?_⟩, fun _ => ?_⟩
      · exact absurd (hopen.symm.trans hdone) Bool.false_ne_true
      · rw [hattempts] at hmore
        exact hmore
  | queued _ _ hnew _ => exact hnew

theorem outboxKept_post (hrule : Ruled x) (h : OutboxKept x.pre) : OutboxKept x.post := by
  constructor
  case stored => exact stored_post x h.stored
  case rows => exact fun row' hrow' => mailKept_post h hrule hrow'
  case clocks =>
    intro ev hev now hread
    rw [x.post_history] at hev
    rcases List.mem_append.mp hev with hold | hnew
    · exact Nat.le_trans (h.clocks ev hold now hread) (now_post x)
    · obtain rfl := List.mem_singleton.mp hnew
      exact Nat.le_of_eq (clock_post hread)
  case draws =>
    intro t worker hdrew
    rcases drew_own_post hdrew with hold | ⟨-, hnew⟩
    · exact Nat.lt_of_lt_of_le (h.draws t worker hold) (drawn_post x)
    · exact (drew_post hnew).2
  case apart =>
    have hfresh : ∀ t worker, Drew worker (own t x.pre.history) →
        x.stmt.drew x.result ≠ some worker := by
      intro t worker hold hnew
      have hlt := h.draws t worker hold
      exact absurd (drew_post hnew).1 (Nat.ne_of_lt hlt)
    intro t t' worker hdrew hdrew'
    rcases drew_own_post hdrew with hold | ⟨rfl, hnew⟩
    · rcases drew_own_post hdrew' with hold' | ⟨-, hnew'⟩
      · exact h.apart t t' worker hold hold'
      · exact absurd hnew' (hfresh t worker hold)
    · rcases drew_own_post hdrew' with hold' | ⟨rfl, -⟩
      · exact absurd hnew (hfresh t' worker hold')
      · rfl
  case held => exact fun t l hheld => held_post h hrule hheld
  case alone =>
    -- A lease that has been claimed anew is not valid at the time of the claim.
    have hwon : ∀ t l claim, holder t x.pre = some l → x.stmt.claimed x.result = some claim →
        l.id = claim.id → ¬ Valid l x.pre := by
      intro t l claim hheld hclaimed hid hvalid
      obtain ⟨hclaims, ⟨row, hrow, hrowid, hclaimable⟩, -⟩ := claimed_post hclaimed
      rcases (h.held t l hheld).marked hvalid row hrow (hrowid.trans hid.symm) with
        hdone | ⟨hdelivers, hlocked⟩
      · have hopen := not_terminal_of_claimable hclaimable
        rw [hdone] at hopen
        cases hopen
      · have hstale := stale_of_claimable hdelivers hlocked hclaimable
        obtain ⟨ev, hev, hread⟩ := (hrule.claims claim hclaims).1
        have hclock := h.clocks ev (List.mem_of_mem_filter hev) claim.now hread
        exact absurd hvalid (Nat.not_lt.mpr (Nat.le_trans hstale hclock))
    have hcase : ∀ {t l}, holder t x.post = some l →
        (∃ l₀, holder t x.pre = some l₀ ∧ l₀.id = l.id ∧ l₀.lockedAt = l.lockedAt) ∨
          x.thread = t ∧ ∃ claim, x.stmt.claimed x.result = some claim ∧ l.id = claim.id := by
      intro t l hl
      rcases holder_post hl with ⟨hheld, -⟩ | ⟨ht, heffect⟩
      · exact .inl ⟨l, hheld, rfl, rfl⟩
      · cases heffect with
        | claimed hclaimed heq => exact .inr ⟨ht, _, hclaimed, heq ▸ rfl⟩
        | found hheld _ _ _ heq _ => exact .inl ⟨_, hheld, heq ▸ rfl, heq ▸ rfl⟩
        | handed hheld _ _ _ heq => exact .inl ⟨_, hheld, heq ▸ rfl, heq ▸ rfl⟩
        | kept hheld _ _ _ => exact .inl ⟨l, hheld, rfl, rfl⟩
    have hearlier : ∀ {l₀ l : Tenure}, l₀.lockedAt = l.lockedAt → Valid l x.post →
        Valid l₀ x.pre := by
      intro l₀ l hlocked hvalid
      unfold Valid
      rw [hlocked]
      exact hvalid.earlier
    intro t t' l l' hl hl' hne hid hvalid hvalid'
    rcases hcase hl with ⟨l₀, hheld, hsame, hlocked⟩ | ⟨rfl, claim, hclaimed, hnew⟩
    · rcases hcase hl' with ⟨l₀', hheld', hsame', hlocked'⟩ | ⟨rfl, claim, hclaimed, hnew⟩
      · exact h.alone t t' l₀ l₀' hheld hheld' hne (hsame.trans (hid.trans hsame'.symm))
          (hearlier hlocked hvalid) (hearlier hlocked' hvalid')
      · exact hwon t l₀ claim hheld hclaimed (hsame.trans (hid.trans hnew))
          (hearlier hlocked hvalid)
    · rcases hcase hl' with ⟨l₀', hheld', hsame', hlocked'⟩ | ⟨rfl, -⟩
      · exact hwon t' l₀' claim hheld' hclaimed (hsame'.trans (hid.symm.trans hnew))
          (hearlier hlocked' hvalid')
      · exact hne rfl

end

end InitPad.Rotation
