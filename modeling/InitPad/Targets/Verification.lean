import InitPad.Interleave.Contract
import InitPad.Targets.Service

/-!
# InitPad.Targets.Verification

The state and the verification of one target under any number of calls at once. Every write of the
row goes by id alone, with a decision that was taken on a row read earlier. `Current` is the
condition under which the write still fits the row that it finds.
-/

namespace InitPad.Targets

open Interleave
open Prog (await refuseIf lift)

abbrev TargetMoment := Moment Stmt TargetInput World String
abbrev TargetStep := Transition Stmt TargetInput World String
abbrev TargetSystem := Config Stmt TargetInput World String

inductive ManagementCall : TargetCall Unit → Prop where
  | verify : ManagementCall (do let _ ← verify)
  | update (dto : UpdateTargetDto) : ManagementCall (update dto)
  | disconnect : ManagementCall disconnect
  | retire : ManagementCall retire
  | restore : ManagementCall restore

def Calls (_ : TargetMoment) (p : TargetCall Unit) : Prop := ManagementCall p

/-! ## What has been read, tested and written -/

variable {β : Type}

def Stmt.change : Stmt β → Option Change
  | .updateTarget change => some change
  | _ => none

/-- The row that the statement has read. -/
def Stmt.found : Stmt β → Except String β → Option TargetRow
  | .findTarget, .ok row => some row
  | _, _ => none

def Stmt.passed : Stmt β → Except String β → Option (TargetRow × Option ProviderConnection)
  | .testConnection row connection, .ok true => some (row, connection)
  | _, _ => none

abbrev History := List (Event Stmt TargetInput String)

/-- Thread `t` has read the row. -/
def HasRead (t : Nat) (row : TargetRow) (h : History) : Prop :=
  ∃ ev ∈ h, ev.thread = t ∧ ev.stmt.found ev.result = some row

def HasPassed (row : TargetRow) (connection : Option ProviderConnection) (h : History) : Prop :=
  ∃ ev ∈ h, ev.stmt.passed ev.result = some (row, connection)

/-- A test of the connection that these settings describe has succeeded. -/
def Tested (settings : ConnectionSettings) (h : History) : Prop :=
  ∃ row connection, row.toConnectionSettings = settings ∧
    connectionForTarget row true = .ok (some connection) ∧ HasPassed row (some connection) h

/-- The statement is executed, whatever its caller is told. -/
def TakesEffect (x : TargetStep) : Prop := ∀ fault, x.input.fault = some fault → fault.carriedOut

/-- What the write relies on in the row that it finds. -/
def Change.Fits (t : Nat) (h : History) (target : TargetRow) : Change → Prop
  | .verified _ => target.managementState ≠ .retired ∧ missing target.host = false ∧
      ∀ row, HasRead t row h → row.toConnectionSettings = target.toConnectionSettings
  | .unavailable nextState => nextState ≠ .retired → target.managementState ≠ .retired
  | .edited patch => patch.connectionChanged = true ∨ target.verifiedAt = none ∨
      patch.settings target = target.toConnectionSettings
  | .restored => True

/-- `verify` finds a target that is not retired, has a host and has the settings that were read;
`disconnect` finds one that is not retired; an edit that keeps the verification finds the settings
that it writes. -/
def Current (x : TargetStep) : Prop :=
  TakesEffect x → ∀ change, x.stmt.change = some change →
    change.Fits x.thread x.pre.history x.pre.state.target

/-- A retired target leaves that state through `restore`, and becomes disconnected. -/
def LeavesRetiredByRestore (x : TargetStep) : Prop :=
  x.pre.state.target.managementState = .retired → x.post.state.target.managementState ≠ .retired →
    x.stmt.change = some .restored ∧ x.post.state.target.managementState = .disconnected

structure Managed (m : TargetMoment) : Prop where
  credential : m.state.target.managementState = .active → missing m.state.target.secret = false
  verified : m.state.target.verifiedAt.isSome →
    Tested m.state.target.toConnectionSettings m.history

/-! ## One step -/

theorem HasRead.append {t : Nat} {row : TargetRow} {h : History} (hread : HasRead t row h)
    (rest : History) : HasRead t row (h ++ rest) := by
  obtain ⟨ev, hev, hfound⟩ := hread
  exact ⟨ev, List.mem_append_left _ hev, hfound⟩

theorem HasPassed.append {row : TargetRow} {connection : Option ProviderConnection} {h : History}
    (hpassed : HasPassed row connection h) (rest : History) :
    HasPassed row connection (h ++ rest) := by
  obtain ⟨ev, hev, hpassed⟩ := hpassed
  exact ⟨ev, List.mem_append_left _ hev, hpassed⟩

theorem Tested.append {settings : ConnectionSettings} {h : History} (htested : Tested settings h)
    (rest : History) : Tested settings (h ++ rest) := by
  obtain ⟨row, connection, hsettings, hconnection, hpassed⟩ := htested
  exact ⟨row, connection, hsettings, hconnection, hpassed.append rest⟩

theorem exec_state (e : Stmt β) (i : TargetInput) (w : World) :
    (exec e i w).2 = w.tick i.elapsed ∨ (∀ fault, i.fault = some fault → fault.carriedOut) ∧
      (exec e i w).2 = (e.run i (w.tick i.elapsed)).2 := by
  simp only [exec]
  split
  · rename_i fault hfault
    dsimp only
    split
    · rename_i hcarried
      refine .inr ⟨fun fault' hfault' => ?_, rfl⟩
      cases hfault.symm.trans hfault'
      exact hcarried
    · exact .inl rfl
  · rename_i hfault
    refine .inr ⟨fun fault' hfault' => ?_, rfl⟩
    cases hfault.symm.trans hfault'

theorem target_post (x : TargetStep) :
    x.post.state.target = x.pre.state.target ∨
      ∃ now change, TakesEffect x ∧ x.stmt.change = some change ∧
        x.post.state.target = change.apply now x.pre.state.target := by
  obtain ⟨m, t, e, i⟩ := x
  rcases exec_state e i m.state with h | ⟨heffect, h⟩
  · have htarget := congrArg World.target h
    exact .inl htarget
  · have htarget := congrArg World.target h
    cases e with
    | updateTarget change => exact .inr ⟨_, change, heffect, rfl, htarget⟩
    | _ => exact .inl htarget

/-- What a call knows when it writes. -/
def Change.Backed (t : Nat) (h : History) : Change → Prop
  | .verified _ => ∃ row connection, HasRead t row h ∧ row.scope = .user ∧
      connectionForTarget row true = .ok connection ∧ HasPassed row connection h
  | .unavailable nextState => nextState ≠ .active
  | .edited patch => patch.secret ≠ some ""
  | .restored => True

theorem connection_of_host {row : TargetRow} {connection : Option ProviderConnection}
    (hscope : row.scope = .user) (hhost : missing row.host = false)
    (h : connectionForTarget row true = .ok connection) :
    missing row.secret = false ∧ ∃ c, connection = some c := by
  unfold connectionForTarget at h
  simp only [Bool.not_true, Bool.and_false, Bool.false_eq_true, if_false, hscope, hhost, ne_eq,
    not_true_eq_false, decide_false, Bool.or_self] at h
  split at h
  · cases h
  · rename_i hsecret
    split at h
    · cases h
    · cases h
      exact ⟨by simpa using hsecret, _, rfl⟩

theorem missing_edited {stored : Option String} {secret : Option String} (hsecret : secret ≠ some "")
    (h : missing stored = false) : missing (secret.or stored) = false := by
  cases secret with
  | none => exact h
  | some s => simpa [missing] using hsecret

theorem managed_apply {target : TargetRow} {h : History} {t : Nat} {now : Time} {change : Change}
    (hfits : change.Fits t h target) (hbacked : change.Backed t h)
    (hcredential : target.managementState = .active → missing target.secret = false)
    (hverified : target.verifiedAt.isSome → Tested target.toConnectionSettings h) :
    ((change.apply now target).managementState = .active →
        missing (change.apply now target).secret = false) ∧
      ((change.apply now target).verifiedAt.isSome →
        Tested (change.apply now target).toConnectionSettings h) := by
  cases change with
  | edited patch =>
    refine ⟨fun hactive => missing_edited hbacked (hcredential hactive), fun hsome => ?_⟩
    simp only [Change.apply, TargetPatch.apply] at hsome ⊢
    split at hsome
    · cases hsome
    · rename_i hkept
      rcases hfits with hchanged | hnone | hsettings
      · exact absurd hchanged hkept
      · rw [hnone] at hsome
        cases hsome
      · rw [hsettings]
        exact hverified hsome
  | unavailable nextState =>
    refine ⟨fun hactive => absurd hactive hbacked, fun hsome => ?_⟩
    cases hsome
  | restored =>
    refine ⟨fun hactive => ?_, fun hsome => ?_⟩
    · cases hactive
    · cases hsome
  | verified reconnecting =>
    obtain ⟨-, hhost, hread⟩ := hfits
    obtain ⟨row, connection, hown, hscope, hconnection, hpassed⟩ := hbacked
    have hsettings := hread row hown
    have hrowHost : missing row.host = false := by
      rw [hsettings]
      exact hhost
    obtain ⟨hsecret, c, rfl⟩ := connection_of_host hscope hrowHost hconnection
    refine ⟨fun _ => ?_, fun _ => ⟨row, c, hsettings, hconnection, hpassed⟩⟩
    rw [hsettings] at hsecret
    exact hsecret

theorem retired_apply {target : TargetRow} {h : History} {t : Nat} {now : Time} {change : Change}
    (hfits : change.Fits t h target) (hretired : target.managementState = .retired)
    (hleft : (change.apply now target).managementState ≠ .retired) :
    change = .restored ∧ (change.apply now target).managementState = .disconnected := by
  cases change with
  | edited patch => exact absurd hretired hleft
  | unavailable nextState => exact absurd hretired (hfits hleft)
  | restored => exact ⟨rfl, rfl⟩
  | verified reconnecting => exact absurd hretired hfits.1

/-! ## The calls -/

/-- Threads only add to the history; what a call writes is backed by what it knows. -/
def managementContract : Contract Stmt TargetInput World String where
  ok := Current
  inv := Managed
  rely _ m m' := ∃ rest, m'.history = m.history ++ rest
  guar x := ∀ change, x.stmt.change = some change → change.Backed x.thread x.pre.history
  rely_refl _ m := ⟨[], (List.append_nil _).symm⟩
  rely_trans _ _ _ _ h₁ h₂ := by
    obtain ⟨rest₁, h₁⟩ := h₁
    obtain ⟨rest₂, h₂⟩ := h₂
    exact ⟨rest₁ ++ rest₂, by rw [h₂, h₁, List.append_assoc]⟩
  inv_post x hinv hcurrent hguar := by
    rcases target_post x with h | ⟨now, change, heffect, hchange, h⟩
    · refine ⟨fun hactive => ?_, fun hsome => ?_⟩
      · rw [h] at hactive ⊢
        exact hinv.credential hactive
      · rw [h] at hsome ⊢
        exact (hinv.verified hsome).append _
    · obtain ⟨hcredential, hverified⟩ := @managed_apply x.pre.state.target x.pre.history x.thread now
        change (hcurrent heffect change hchange) (hguar change hchange) hinv.credential
          hinv.verified
      refine ⟨fun hactive => ?_, fun hsome => ?_⟩
      · rw [h] at hactive ⊢
        exact hcredential hactive
      · rw [h] at hsome ⊢
        exact (hverified hsome).append _
  rely_of_guar _ _ _ _ _ _ := ⟨_, rfl⟩

variable {t : Nat} {m m' : TargetMoment} {α : Type}

/-- Statements that write nothing, or something that needs no knowledge. -/
def Plain (e : Stmt β) : Prop := ∀ t h change, e.change = some change → change.Backed t h

theorem plain_of_none {e : Stmt β} (h : e.change = none) : Plain e := by
  intro t history change hchange
  rw [h] at hchange
  cases hchange

theorem plain_write {change : Change} (h : ∀ t history, change.Backed t history) :
    Plain (.updateTarget change) := by
  intro t history change' hchange
  cases hchange
  exact h t history

theorem safe_of_plain {p : TargetCall α} (h : p.Only fun e => Plain e) :
    Safe managementContract t (fun _ _ => True) p m :=
  Safe.of_only (fun _ _ _ _ => trivial)
    (fun _ _ m hplain _ _ _ => ⟨hplain t m.history, trivial⟩) h trivial

theorem plain_aside (what : String) : (await (.aside what) : TargetCall Unit).Only fun e => Plain e :=
  .await (plain_of_none rfl)

theorem plain_getVisibleTarget : getVisibleTarget.Only fun e => Plain e :=
  .bind (.await (plain_of_none rfl)) fun _ => .bind (plain_aside _) fun _ => .ret _

theorem plain_getUserTarget : getUserTarget.Only fun e => Plain e :=
  .bind plain_getVisibleTarget fun _ => .bind (.ret _) fun _ => .ret _

theorem plain_refuseInUse (changes : Bool) (message : String) :
    (refuseInUse changes message).Only fun e => Plain e := by
  cases changes with
  | true => exact .bind (.await (plain_of_none rfl)) fun _ => .ret _
  | false => exact .ret _

theorem plain_checkEndpoint (dto : UpdateTargetDto) (row : TargetRow) :
    (checkEndpoint dto row).Only fun e => Plain e := by
  unfold checkEndpoint
  split
  · exact .bind (.ret _) fun _ => plain_aside _
  · exact .bind (.ret _) fun _ => plain_aside _

theorem plain_checkName (dto : UpdateTargetDto) (row : TargetRow) :
    (checkName dto row).Only fun e => Plain e := by
  unfold checkName
  split
  · exact .ret _
  · split
    · exact .ret _
    · exact .bind (.await (plain_of_none rfl)) fun _ => .ret _

theorem secret_patch (dto : UpdateTargetDto) (row : TargetRow) :
    (dto.patch row).secret ≠ some "" := by
  intro h
  have hfilter := (Option.filter_eq_some_iff.mp h).2
  simp at hfilter

theorem plain_update (dto : UpdateTargetDto) : (update dto).Only fun e => Plain e := by
  refine .bind plain_getUserTarget fun row => .bind (.ret _) fun _ => .bind (.ret _) fun _ =>
    .bind (.await (plain_of_none rfl)) fun _ => .bind (.ret _) fun _ =>
      .bind (plain_checkEndpoint dto row) fun _ => .bind (plain_checkName dto row) fun _ =>
        .bind (plain_refuseInUse ..) fun _ => .bind (plain_refuseInUse ..) fun _ =>
          .bind (plain_refuseInUse ..) fun _ => .bind (.await ?_) fun _ => plain_aside _
  exact plain_write fun _ _ => secret_patch dto row

theorem plain_makeUnavailable (row : TargetRow) {nextState : ManagementState}
    (h : nextState ≠ .active) : (makeUnavailable row nextState).Only fun e => Plain e := by
  unfold makeUnavailable
  split
  · exact .ret _
  · exact .bind (.await (plain_of_none rfl)) fun _ => .bind (.ret _) fun _ =>
      .bind (plain_aside _) fun _ => .bind (.await (plain_of_none rfl)) fun _ =>
        .bind (.await (plain_write fun _ _ => h)) fun _ => plain_aside _

theorem plain_disconnect : disconnect.Only fun e => Plain e :=
  .bind plain_getUserTarget fun row => .bind (.ret _) fun _ => plain_makeUnavailable row (by decide)

theorem plain_retire : retire.Only fun e => Plain e :=
  .bind plain_getUserTarget fun row => plain_makeUnavailable row (by decide)

theorem plain_restore : restore.Only fun e => Plain e :=
  .bind plain_getUserTarget fun _ => .bind (.ret _) fun _ =>
    .bind (.await (plain_write fun _ _ => trivial)) fun _ => plain_aside _

/-! ## Verification -/

theorem found_answer {i : TargetInput} {w : World} {row : TargetRow}
    (h : (exec Stmt.findTarget i w).1 = .ok row) :
    Stmt.findTarget.found (exec Stmt.findTarget i w).1 = some row := by
  rw [h]
  rfl

theorem hasRead_next {i : TargetInput} {row : TargetRow}
    (h : (exec Stmt.findTarget i m.state).1 = .ok row) :
    HasRead t row (m.next t .findTarget i).history :=
  ⟨_, List.mem_append_right _ (List.mem_singleton.mpr rfl), rfl, found_answer h⟩

theorem hasPassed_next {i : TargetInput} {row : TargetRow}
    {connection : Option ProviderConnection}
    (h : (exec (Stmt.testConnection row connection) i m.state).1 = .ok true) :
    HasPassed row connection (m.next t (.testConnection row connection) i).history := by
  refine ⟨_, List.mem_append_right _ (List.mem_singleton.mpr rfl), ?_⟩
  dsimp only
  rw [h]
  rfl

theorem persistent_hasRead (t : Nat) (row : TargetRow) :
    managementContract.Persistent fun m => HasRead t row m.history where
  rely _ _ _ hr h := by
    obtain ⟨rest, hrest⟩ := hr
    rw [hrest]
    exact h.append rest
  step _ _ _ _ h := h.append _

theorem safe_error (x : String) :
    Safe managementContract t (fun _ _ => True) (.ret (.error x) : TargetCall α) m :=
  .ret fun _ _ _ => trivial

theorem safe_bind_plain {γ : Type} {A : TargetMoment → Prop} (hA : managementContract.Persistent A)
    {p : TargetCall α} {f : α → TargetCall γ} (hp : p.Only fun e => Plain e) (hinv : Managed m)
    (hm : A m)
    (hf : ∀ a m', Managed m' → A m' → Safe managementContract t (fun _ _ => True) (f a) m') :
    Safe managementContract t (fun _ _ => True) (p >>= f) m :=
  Safe.bind hinv ((safe_of_plain hp).persistent hA hm) hf fun _ _ _ _ => safe_error _

theorem safe_getVisibleTarget : Safe managementContract t
    (fun r m => ∀ row, r = .ok row → HasRead t row m.history) getVisibleTarget m := by
  have herror : ∀ (m : TargetMoment) (x : String), Safe managementContract t
      (fun r m => ∀ row, r = .ok row → HasRead t row m.history)
      (.ret (.error x) : TargetCall TargetRow) m := fun _ _ => .ret fun _ _ _ row h => by cases h
  refine Safe.await_bind fun m₁ i _ hinv₁ hok =>
    ⟨plain_of_none rfl _ _, Safe.onValue (fun row hrow => ?_) fun x _ => herror _ x⟩
  have hread : HasRead t row (m₁.next t .findTarget i).history := hasRead_next hrow
  have hinv₂ : Managed (m₁.next t .findTarget i) :=
    managementContract.inv_post ⟨m₁, t, .findTarget, i⟩ hinv₁ hok (plain_of_none rfl _ _)
  refine Safe.bind hinv₂ ((safe_of_plain (plain_aside _)).persistent (persistent_hasRead t row)
    hread) (fun _ m₂ _ hread₂ => .ret fun m₃ hr _ row' h => ?_) fun x m₂ _ _ => herror m₂ x
  cases h
  exact (persistent_hasRead t row).rely t m₂ m₃ hr hread₂

theorem plain_builtinAccess (row : TargetRow) : (builtinAccess row).Only fun e => Plain e := by
  unfold builtinAccess
  split
  · exact plain_aside _
  · exact .ret _

theorem plain_auditConnected (reconnecting : Bool) :
    (auditConnected reconnecting).Only fun e => Plain e := by
  cases reconnecting with
  | true => exact plain_aside _
  | false => exact .ret _

theorem safe_stampVerified {row : TargetRow} {connection : Option ProviderConnection}
    (hconnection : connectionForTarget row true = .ok connection) (hread : HasRead t row m.history)
    {ok : Bool} (hpassed : ok = true → HasPassed row connection m.history) :
    Safe managementContract t (fun _ _ => True) (stampVerified row ok) m := by
  unfold stampVerified
  split
  · rename_i hstamp
    obtain ⟨hok, hscope⟩ := (Bool.and_eq_true _ _).mp hstamp
    refine Safe.await_bind fun m₁ i hr _ _ => ⟨fun change hchange => ?_, ?_⟩
    · cases hchange
      obtain ⟨rest, hrest⟩ := hr
      refine ⟨row, connection, ?_, of_decide_eq_true hscope, hconnection, ?_⟩
      · rw [hrest]
        exact hread.append rest
      · rw [hrest]
        exact (hpassed hok).append rest
    · exact Safe.onValue (fun _ _ => safe_of_plain (plain_auditConnected _)) fun x _ => safe_error x
  · exact .ret fun _ _ _ => trivial

theorem safe_verify (hinv : Managed m) :
    Safe managementContract t (fun _ _ => True) verify m := by
  refine Safe.bind hinv safe_getVisibleTarget (fun row m₁ hinv₁ hread => ?_)
    fun x _ _ _ => safe_error x
  have hread : HasRead t row m₁.history := hread row rfl
  have hA := persistent_hasRead t row
  refine safe_bind_plain hA (.ret _) hinv₁ hread fun _ m₂ hinv₂ hread => ?_
  refine safe_bind_plain hA (.ret _) hinv₂ hread fun _ m₃ hinv₃ hread => ?_
  refine safe_bind_plain hA (plain_builtinAccess row) hinv₃ hread fun _ m₄ hinv₄ hread => ?_
  refine safe_bind_plain hA (plain_aside _) hinv₄ hread fun _ m₅ hinv₅ hread => ?_
  cases hconnection : connectionForTarget row true with
  | error x => exact safe_error x
  | ok connection =>
    refine Safe.await_bind fun m₆ i hr hinv₆ hok => ⟨plain_of_none rfl _ _,
      Safe.onValue (fun ok hanswer => ?_) fun x _ => safe_error x⟩
    have hread₆ : HasRead t row (m₆.next t (.testConnection row connection) i).history :=
      (hA.rely t m₅ m₆ hr hread).append _
    have hinv₇ := managementContract.inv_post ⟨m₆, t, .testConnection row connection, i⟩ hinv₆ hok
      (plain_of_none rfl _ _)
    refine Safe.bind hinv₇ (safe_stampVerified hconnection hread₆ fun htrue => ?_)
      (fun _ _ _ _ => .ret fun _ _ _ => trivial) fun x _ _ _ => safe_error x
    rw [htrue] at hanswer
    exact hasPassed_next hanswer

theorem safe_call {p : TargetCall Unit} (h : ManagementCall p) (hinv : Managed m) :
    Safe managementContract t (fun _ _ => True) p m := by
  cases h with
  | verify =>
    exact Safe.bind hinv (safe_verify hinv) (fun _ _ _ _ => .ret fun _ _ _ => trivial)
      fun x _ _ _ => safe_error x
  | update dto => exact safe_of_plain (plain_update dto)
  | disconnect => exact safe_of_plain plain_disconnect
  | retire => exact safe_of_plain plain_retire
  | restore => exact safe_of_plain plain_restore

structure Registered (w : World) : Prop where
  credential : w.target.managementState = .active → missing w.target.secret = false
  unverified : w.target.verifiedAt = none

theorem managed_start {w : World} (h : Registered w) : Managed ⟨w, []⟩ where
  credential := h.credential
  verified hsome := by
    rw [h.unverified] at hsome
    cases hsome

theorem leaves_retired {x : TargetStep} (hcurrent : Current x) : LeavesRetiredByRestore x := by
  intro hretired hleft
  rcases target_post x with h | ⟨now, change, heffect, hchange, h⟩
  · rw [h] at hleft
    exact absurd hretired hleft
  · rw [h] at hleft ⊢
    obtain ⟨rfl, hstate⟩ := retired_apply (hcurrent heffect change hchange) hretired hleft
    exact ⟨hchange, hstate⟩

/-- As long as every write fits the row that it finds, a retired target leaves that state through
`restore` only, an active target has a credential, and a verified one has tested settings. -/
theorem target_managed {w : World} {tr : List TargetStep} {c : TargetSystem} (hw : Registered w)
    (hrun : Run Calls (Config.start w) tr c) (hcurrent : ∀ x ∈ tr, Current x) :
    (∀ x ∈ tr, LeavesRetiredByRestore x) ∧ Managed c.moment := by
  have hstart : Run.Sound managementContract (fun _ _ => True) (Config.start w) :=
    Run.sound_start _ w (managed_start hw)
  obtain ⟨hsound, -⟩ := Run.safe managementContract
    (fun _ _ _ hinv _ hp => safe_call hp hinv) hrun hstart hcurrent
  exact ⟨fun x hx => leaves_retired (hcurrent x hx), hsound.1⟩

/-! ## A retirement during the connection test -/

/-- An SFTP server that was connected a moment ago and is not verified yet. -/
def sampleTarget : World where
  now := 0
  target := {
    host := some "web.example"
    port := some 22
    username := some "deploy"
    auth := some "password"
    secret := some "s3cret"
    hostKeyFingerprint := some "SHA256:abc"
    remotePath := some "/srv/www"
    publicUrl := some "https://web.example"
    capabilities := [.static]
    name := "web"
    kind := .sftp
    scope := .user
    managementState := .active
    managementStateChangedAt := none
    routingMode := .directPort
    verifiedAt := none }

theorem sampleTarget_registered : Registered sampleTarget where
  credential _ := by decide
  unverified := rfl

def verifyAndRetire : List (TargetCall Unit) := [do let _ ← verify, retire]

theorem call_of_mem_verifyAndRetire {m : TargetMoment} :
    ∀ p ∈ verifyAndRetire, Calls m p := by
  intro p hp
  simp only [verifyAndRetire, List.mem_cons, List.not_mem_nil, or_false] at hp
  rcases hp with rfl | rfl
  · exact .verify
  · exact .retire

def answered (t n : Nat) : List (Nat × TargetInput) := List.replicate n (t, {})

def fitsBool (x : TargetStep) : Change → Bool
  | .verified _ => x.pre.state.target.managementState ≠ .retired &&
      !missing x.pre.state.target.host && x.pre.history.all fun ev => ev.thread ≠ x.thread ||
        (ev.stmt.found ev.result).all fun row =>
          row.toConnectionSettings = x.pre.state.target.toConnectionSettings
  | .unavailable nextState =>
    nextState = .retired || x.pre.state.target.managementState ≠ .retired
  | _ => false

theorem current_of_bool {x : TargetStep} (h : x.stmt.change.all (fitsBool x) = true) :
    Current x := by
  intro _ change hchange
  rw [hchange, Option.all_some] at h
  cases change with
  | edited patch => cases h
  | restored => cases h
  | unavailable nextState =>
    intro hne
    simpa [fitsBool, hne] using h
  | verified reconnecting =>
    simp only [fitsBool, Bool.and_eq_true, decide_eq_true_eq, Bool.not_eq_true',
      List.all_eq_true, Bool.or_eq_true] at h
    obtain ⟨⟨hstate, hhost⟩, hreads⟩ := h
    refine ⟨hstate, hhost, fun row hread => ?_⟩
    obtain ⟨ev, hev, hthread, hfound⟩ := hread
    rcases hreads ev hev with hne | hsettings
    · exact absurd hthread hne
    · rw [hfound] at hsettings
      simpa using hsettings

/-- The target is verified and then retired. -/
theorem target_managed_in_turn : ∃ (c : TargetSystem) (tr : List TargetStep),
    Run Calls (Config.start sampleTarget) tr c ∧ (∀ x ∈ tr, LeavesRetiredByRestore x) ∧
      Managed c.moment ∧ c.moment.state.target.managementState = .retired := by
  obtain ⟨tr, c, hrun, hcheck⟩ := run_of_plays (Config.start sampleTarget) verifyAndRetire
    (answered 0 5 ++ answered 1 7)
    (fun tr c => tr.all (fun x => x.stmt.change.all (fitsBool x)) &&
      c.moment.state.target.managementState = .retired)
    call_of_mem_verifyAndRetire (by decide)
  simp only [Bool.and_eq_true, List.all_eq_true, decide_eq_true_eq] at hcheck
  obtain ⟨hleaves, hmanaged⟩ := target_managed sampleTarget_registered hrun fun x hx =>
    current_of_bool (hcheck.1 x hx)
  exact ⟨c, tr, hrun, hleaves, hmanaged, hcheck.2⟩

/-- The target is retired while its connection is tested; then the test passes. -/
theorem retired_target_verified : ¬ ∀ (w : World) (tr : List TargetStep) (c : TargetSystem),
    Registered w → Run Calls (Config.start w) tr c →
      (∀ x ∈ tr, LeavesRetiredByRestore x) ∧ Managed c.moment := by
  intro h
  obtain ⟨tr, c, hrun, hcheck⟩ := run_of_plays (Config.start sampleTarget) verifyAndRetire
    (answered 0 4 ++ answered 1 7 ++ answered 0 1)
    (fun _ c => c.moment.state.target.managementState = .active &&
      c.moment.state.target.secret = none)
    call_of_mem_verifyAndRetire (by decide)
  simp only [Bool.and_eq_true, decide_eq_true_eq] at hcheck
  obtain ⟨hactive, hnone⟩ := hcheck
  have hsecret := (h _ tr c sampleTarget_registered hrun).2.credential hactive
  rw [hnone] at hsecret
  cases hsecret

end InitPad.Targets
