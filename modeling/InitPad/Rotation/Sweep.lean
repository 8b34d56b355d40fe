import InitPad.Rotation.Writes

/-!
# InitPad.Rotation.Sweep

What a sweep has done when it says that every secret is rotated, read off its own events: a page
covers every id of every column, and each value of a page was settled or has been rewritten.
-/

namespace InitPad.Rotation

open Interleave Store Secrets
open Prog (await)

variable {β : Type}

/-! ## Pages -/

structure Page where
  column : Column
  cursor : Option Id
  rows : List StoredValue
  deriving DecidableEq

def Stmt.paged : Stmt β → Except Failure β → Option Page
  | .readColumn column cursor pendingOnly, r =>
    if pendingOnly then none else r.toOption.map fun rows => ⟨column, cursor, rows⟩
  | _, _ => none

/-- The compare-and-set that is carried out, with or without effect. -/
def Stmt.rewrote : Stmt β → Except Failure β → Option Rewrite
  | .writeColumn column id previous next, r => r.toOption.map fun _ => ⟨column, id, previous, next⟩
  | _, _ => none

def Stmt.completes : Stmt β → Bool
  | .logRotated => true
  | _ => false

abbrev PageRead := Recorded (E := Stmt) (ι := Input) (ε := Failure)
  fun ev => ev.stmt.paged ev.result

abbrev Rewrote := Recorded (E := Stmt) (ι := Input) (ε := Failure)
  fun ev => ev.stmt.rewrote ev.result

structure Page.Covers (p : Page) (id : Id) : Prop where
  behind : p.cursor.all (· < id) = true
  upTo : p.rows.length < BATCH_SIZE ∨ ∃ last, p.rows.getLast? = some last ∧ id ≤ last.id

section

variable [Keys]

/-- The sweep leaves the value, or has rewritten it. -/
def RowDone (column : Column) (row : StoredValue) (h : History) : Prop :=
  Settled row.value ∨ ∃ r, Rewrote r h ∧ r.column = column ∧ r.id = row.id ∧
    row.value = some r.previous

theorem RowDone.mono {column : Column} {row : StoredValue} {h h' : History}
    (hdone : RowDone column row h) (hsub : h ⊆ h') : RowDone column row h' := by
  rcases hdone with hsettled | ⟨r, hwrote, hrest⟩
  · exact .inl hsettled
  · exact .inr ⟨r, hwrote.mono hsub, hrest⟩

def Handled (column : Column) (id : Id) (h : History) : Prop :=
  ∃ p, PageRead p h ∧ p.column = column ∧ p.Covers id ∧
    ∀ row ∈ p.rows, row.id = id → RowDone column row h

theorem Handled.mono {column : Column} {id : Id} {h h' : History}
    (hhandled : Handled column id h) (hsub : h ⊆ h') : Handled column id h' := by
  obtain ⟨p, hread, hcolumn, hcovers, hrows⟩ := hhandled
  exact ⟨p, hread.mono hsub, hcolumn, hcovers, fun row hrow hid => (hrows row hrow hid).mono hsub⟩

structure SweepRule (e : Stmt β) (h : History) : Prop where
  rewrites : ∀ r, e.rewrites = some r → decryptSecret keyring r.previous = some r.previous.plaintext ∧
    ∃ iv, r.next = encryptSecret keyring iv r.previous.plaintext
  completes : e.completes = true → ∀ column id, Handled column id h

/-- Statements that are no part of a sweep. -/
structure Plain (e : Stmt β) : Prop where
  rewrites : e.rewrites = none
  completes : e.completes = false

theorem Plain.rule {e : Stmt β} {h : History} (he : Plain e) : SweepRule e h where
  rewrites r hr := by
    rw [he.rewrites] at hr
    cases hr
  completes hcompletes := by
    rw [he.completes] at hcompletes
    cases hcompletes

/-! ## The sweep -/

abbrev Sweeps {α : Type} (Q : Except Failure α → History → Prop) (t : Nat) (p : Call α)
    (h : History) : Prop := p.Meets (fun _ => True) SweepRule Q t h

variable {t : Nat} {h : History}

theorem reencryptedSecret_cases (iv : Nat) (stored : StoredSecret) :
    (reencryptedSecret keyring iv stored = .current ∧ Settled (some stored)) ∨
      reencryptedSecret keyring iv stored = .unreadable ∨
        (decryptSecret keyring stored = some stored.plaintext ∧
          reencryptedSecret keyring iv stored =
            .replaced (encryptSecret keyring iv stored.plaintext)) := by
  unfold reencryptedSecret
  split
  · rename_i hempty
    subst hempty
    exact .inl ⟨rfl, settled_empty⟩
  split
  · rename_i key iv' plaintext _
    split
    · rename_i hcurrent
      subst hcurrent
      exact .inl ⟨rfl, settled_encrypted iv' plaintext⟩
    split
    · rename_i text hdecrypt
      obtain rfl := plaintext_of_decrypt hdecrypt
      exact .inr (.inr ⟨hdecrypt, rfl⟩)
    · exact .inr (.inl rfl)
  · exact .inr (.inr ⟨rfl, rfl⟩)

theorem reencryptRow_sweeps (column : Column) (row : StoredValue) (summary : ReencryptionSummary) :
    Sweeps (fun r h' => ∀ s, r = .ok s → s.unreadable = 0 →
      summary.unreadable = 0 ∧ RowDone column row h') t (reencryptRow column row summary) h := by
  unfold reencryptRow
  split
  · rename_i hnone
    intro s hs hzero
    cases hs
    refine ⟨hzero, .inl fun stored hstored => ?_⟩
    rw [hstored, Option.filter_eq_none_iff] at hnone
    have hempty := hnone stored rfl
    simp only [decide_eq_true_eq, not_not] at hempty
    exact .inl hempty
  · rename_i value hsome
    have hvalue : row.value = some value := (Option.filter_eq_some_iff.mp hsome).1
    refine .await_bind (Plain.rule ⟨rfl, rfl⟩) (fun i iv _ => ?_) fun _ _ _ _ hs => by cases hs
    rcases reencryptedSecret_cases iv value with ⟨hcurrent, hsettled⟩ | hunreadable | ⟨hread, hnext⟩
    · rw [hcurrent]
      intro s hs hzero
      cases hs
      exact ⟨hzero, .inl (hvalue ▸ hsettled)⟩
    · rw [hunreadable]
      intro s hs hzero
      cases hs
      cases hzero
    · rw [hnext]
      refine .await_bind ⟨fun r hr => ?_, nofun⟩ (fun j _ _ => ?_) fun _ _ _ _ hs => by cases hs
      · cases hr
        exact ⟨hread, iv, rfl⟩
      · intro s hs hzero
        cases hs
        exact ⟨hzero, .inr ⟨⟨column, row.id, value, encryptSecret keyring iv value.plaintext⟩,
          recorded_last rfl, rfl, rfl, hvalue⟩⟩

theorem sweepRows_sweeps (column : Column) (rows : List StoredValue)
    (summary : ReencryptionSummary) :
    Sweeps (fun r h' => ∀ s, r = .ok s → s.unreadable = 0 →
      summary.unreadable = 0 ∧ ∀ row ∈ rows, RowDone column row h') t
      (sweepRows column rows summary) h := by
  induction rows generalizing summary h with
  | nil =>
    intro s hs hzero
    cases hs
    exact ⟨hzero, fun _ hrow => absurd hrow List.not_mem_nil⟩
  | cons row rows ih =>
    refine (reencryptRow_sweeps column row summary).bind (fun s₁ h₁ hrow => ?_)
      fun _ _ _ _ hs => by cases hs
    refine (ih s₁).grows.mono fun r h₂ hrows s hs hzero => ?_
    obtain ⟨hzero₁, hrest⟩ := hrows.1 s hs hzero
    obtain ⟨hzero₀, hfirst⟩ := hrow s₁ rfl hzero₁
    refine ⟨hzero₀, fun row' hrow' => ?_⟩
    rcases List.mem_cons.mp hrow' with rfl | hrow'
    · exact hfirst.mono hrows.2
    · exact hrest row' hrow'

theorem sweepPages_sweeps (column : Column) (fuel : Nat) (cursor : Option Id)
    (summary : ReencryptionSummary)
    (hbefore : summary.unreadable = 0 → ∀ k, cursor = some k → ∀ id ≤ k, Handled column id h) :
    Sweeps (fun r h' => ∀ s, r = .ok s → s.unreadable = 0 →
      summary.unreadable = 0 ∧ ∀ id, Handled column id h') t
      (sweepPages column false fuel cursor summary) h := by
  induction fuel generalizing cursor summary h with
  | zero => exact fun s hs => by cases hs
  | succ fuel ih =>
    refine .await_bind (Plain.rule ⟨rfl, rfl⟩) (fun i rows _ => ?_) fun _ _ _ _ hs => by cases hs
    have hread : PageRead ⟨column, cursor, rows⟩
        (h ++ [(⟨t, .readColumn column cursor false, i, .ok rows⟩ : RotationEvent)]) :=
      recorded_last rfl
    have hsub := List.subset_append_left h
      [(⟨t, .readColumn column cursor false, i, .ok rows⟩ : RotationEvent)]
    generalize h ++ [(⟨t, .readColumn column cursor false, i, .ok rows⟩ : RotationEvent)] = h₁
      at hread hsub
    refine (sweepRows_sweeps column rows summary).grows.bind (fun s₁ h₂ hrows => ?_)
      fun _ _ _ _ hs => by cases hs
    obtain ⟨hrows, hsub₂⟩ := hrows
    -- An id is covered by this page, or lies before the cursor.
    have hpage : s₁.unreadable = 0 → ∀ id, (rows.length < BATCH_SIZE ∨
        ∃ last, rows.getLast? = some last ∧ id ≤ last.id) → Handled column id h₂ := by
      intro hzero id hupTo
      obtain ⟨hzero₀, hdone⟩ := hrows s₁ rfl hzero
      by_cases hbehind : cursor.all (· < id) = true
      · exact ⟨⟨column, cursor, rows⟩, hread.mono hsub₂, rfl, ⟨hbehind, hupTo⟩,
          fun row hrow _ => hdone row hrow⟩
      · cases cursor with
        | none => exact absurd rfl hbehind
        | some k =>
          have hle : id ≤ k := by simpa using hbehind
          exact ((hbefore hzero₀ k rfl id hle).mono hsub).mono hsub₂
    split
    · rename_i hshort
      intro s hs hzero
      cases hs
      exact ⟨(hrows s₁ rfl hzero).1, fun id => hpage hzero id (.inl hshort)⟩
    · refine (ih (rows.getLast?.map (·.id)) s₁ fun hzero k hk id hle => ?_).mono
        fun r h₃ hrest s hs hzero => ?_
      · obtain ⟨last, hlast, rfl⟩ := Option.map_eq_some_iff.mp hk
        exact hpage hzero id (.inr ⟨last, hlast, hle⟩)
      · obtain ⟨hzero₁, hall⟩ := hrest s hs hzero
        exact ⟨(hrows s₁ rfl hzero₁).1, hall⟩

theorem sweepColumns_sweeps (fuel : Nat) (columns : List Column) (summary : ReencryptionSummary) :
    Sweeps (fun r h' => ∀ s, r = .ok s → s.unreadable = 0 →
      summary.unreadable = 0 ∧ ∀ column ∈ columns, ∀ id, Handled column id h') t
      (sweepColumns false fuel columns summary) h := by
  induction columns generalizing summary h with
  | nil =>
    intro s hs hzero
    cases hs
    exact ⟨hzero, fun _ hcolumn => absurd hcolumn List.not_mem_nil⟩
  | cons column columns ih =>
    refine (sweepPages_sweeps column fuel none summary fun _ k hk => by cases hk).bind
      (fun s₁ h₁ hfirst => ?_) fun _ _ _ _ hs => by cases hs
    refine (ih s₁).grows.mono fun r h₂ hrest s hs hzero => ?_
    obtain ⟨hzero₁, hcolumns⟩ := hrest.1 s hs hzero
    obtain ⟨hzero₀, hhandled⟩ := hfirst s₁ rfl hzero₁
    refine ⟨hzero₀, fun column' hcolumn' id => ?_⟩
    rcases List.mem_cons.mp hcolumn' with rfl | hcolumn'
    · exact (hhandled id).mono hrest.2
    · exact hcolumns column' hcolumn' id

theorem reencryptStoredSecrets_sweeps (hrotating : rotating = true) (fuel : Nat) :
    Sweeps (fun _ _ => True) t (reencryptStoredSecrets fuel) h := by
  unfold reencryptStoredSecrets
  simp only [hrotating, Bool.not_true, Bool.true_and, decide_eq_true_eq]
  refine (sweepColumns_sweeps fuel columns ⟨0, 0⟩).bind (fun s h₁ hall => ?_) fun _ _ _ => trivial
  split
  · rename_i hzero
    refine .await_bind ⟨nofun, fun _ column id => ?_⟩ (fun _ _ _ => trivial) fun _ _ _ => trivial
    exact (hall s rfl hzero).2 column (mem_columns column) id
  · exact trivial

theorem plain_drain (worker : Id) (processed : Nat) :
    (drain worker processed).Only fun e => Plain e := by
  have hclaim : (claimNext worker).Only fun e => Plain e := by
    refine .bind (.await ⟨rfl, rfl⟩) fun now => .bind (.await ⟨rfl, rfl⟩) fun candidate => ?_
    cases candidate with
    | none => exact .ret _
    | some candidate =>
      refine .bind (.await ⟨rfl, rfl⟩) fun claimed => ?_
      split
      · exact .ret _
      · exact .await ⟨rfl, rfl⟩
  have hsend : ∀ message, (send worker message).Only fun e => Plain e := by
    intro message
    have hpayload : (readPayload message.payloadEncrypted).Only fun e => Plain e := by
      unfold readPayload
      split <;> exact .ret _
    exact .bind hpayload fun _ => .bind (.await ⟨rfl, rfl⟩) fun _ => .await ⟨rfl, rfl⟩
  have hgiveBack : ∀ message, (giveBack worker message).Only fun e => Plain e := by
    intro message
    unfold giveBack
    split
    · exact .await ⟨rfl, rfl⟩
    · exact .bind (.await ⟨rfl, rfl⟩) fun _ => .await ⟨rfl, rfl⟩
  induction processed with
  | zero => exact .ret _
  | succ processed ih =>
    refine .bind hclaim fun message => ?_
    cases message with
    | none => exact .ret _
    | some message => exact .bind (.tryCatch (hsend message) fun _ => hgiveBack message) fun _ => ih

theorem sweeps_plain {p : Call Unit} (hp : p.Only fun e => Plain e) :
    Sweeps (fun _ _ => True) t p h :=
  .of_only (B := fun _ => True) (fun _ _ he _ => ⟨he.rule, fun _ _ _ => trivial⟩) hp trivial

theorem rotationCall_sweeps (hrotating : rotating = true) {p : Call Unit} (hp : RotationCall p) :
    Sweeps (fun _ _ => True) t p h := by
  cases hp with
  | sweep fuel => exact (reencryptStoredSecrets_sweeps hrotating fuel).andThen fun _ _ _ => trivial
  | drain worker => exact sweeps_plain (plain_drain worker MAX_BATCH_SIZE)
  | _ => exact sweeps_plain (.await ⟨rfl, rfl⟩)

end

end InitPad.Rotation
