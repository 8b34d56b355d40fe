import InitPad.Rotation.Sweep

/-!
# InitPad.Rotation.Completion

A rotation of the keys over whole runs. Behind the end of a sweep every stored secret opens under
the current key, as long as no failed delivery gives back a payload that has been rewritten since
the worker read it: its update does not compare.
-/

namespace InitPad.Rotation

open Interleave Store Secrets
open Prog (await)

variable {β : Type}

def World.plaintexts (w : World) (column : Column) : List (Id × Option String) :=
  (w.values column).map fun v => (v.id, v.value.map (·.plaintext))

section

variable [Keys]

/-- Every stored secret opens under the current key alone. -/
def Rotated (w : World) : Prop :=
  ∀ column, ∀ v ∈ w.values column, ∀ stored, v.value = some stored → stored ≠ .legacy "" →
    (∃ iv, stored = encryptSecret keyring iv stored.plaintext) ∧
      decryptSecret ⟨keyring.current, []⟩ stored = some stored.plaintext

theorem rotated_of_settled {w : World}
    (h : ∀ column, ∀ v ∈ w.values column, Settled v.value) : Rotated w := by
  intro column v hv stored hstored hne
  rcases h column v hv stored hstored with hempty | ⟨iv, hcurrent⟩
  · exact absurd hempty hne
  · refine ⟨⟨iv, hcurrent⟩, ?_⟩
    rw [hcurrent]
    simp [encryptSecret, decryptSecret, Keyring.keys, StoredSecret.plaintext]

/-- A delivery that has failed gives back what its message still holds, or nothing. -/
def Fresh (x : RotationStep) : Prop :=
  ∀ id worker payload, x.stmt.returns = some (id, worker, payload) →
    ∀ row ∈ x.pre.state.emailOutbox.rows, row.delivers id worker = true →
      payload = .legacy "" ∨ row.payloadEncrypted = payload

/-! ## Steps -/

theorem post_run (x : RotationStep) : x.post.state = x.pre.state.tick x.input.elapsed ∨
    ∃ b, x.stmt.run (x.pre.state.tick x.input.elapsed) = .ok (b, x.post.state) :=
  execute_state (x.stmt.fault x.input) _ _

theorem run_of_ok {x : RotationStep} {b : x.β} (h : x.result = .ok b) :
    x.stmt.run (x.pre.state.tick x.input.elapsed) = .ok (b, x.post.state) :=
  execute_ok h

theorem stored_post (x : RotationStep) (h : Stored x.pre.state) : Stored x.post.state := by
  have htick : Stored (x.pre.state.tick x.input.elapsed) := { h with }
  rcases post_run x with hsame | ⟨b, hrun⟩
  · rw [hsame]
    exact htick
  · exact run_stored hrun htick

omit [Keys] in
theorem values_tick (w : World) (elapsed : Nat) (column : Column) :
    (w.tick elapsed).values column = w.values column := by cases column <;> rfl

theorem values_post {x : RotationStep} {h : History} (hrule : SweepRule x.stmt h) (hfresh : Fresh x)
    {column : Column} {v : StoredValue} (hv : v ∈ x.post.state.values column) :
    v ∈ x.pre.state.values column ∨ Settled v.value := by
  rcases post_run x with hsame | ⟨b, hrun⟩
  · rw [hsame, values_tick] at hv
    exact .inl hv
  cases run_values hrun hv with
  | kept hold =>
    rw [values_tick] at hold
    exact .inl hold
  | settled hsettled => exact .inr hsettled
  | rewritten hrewrites hnext =>
    obtain ⟨-, iv, hencrypted⟩ := hrule.rewrites _ hrewrites
    rw [hnext, hencrypted]
    exact .inr (settled_encrypted _ _)
  | @returned id worker payload row hreturns hcolumn hrow hdelivers hsame =>
    subst hcolumn hsame
    rcases hfresh _ _ _ hreturns row hrow hdelivers with rfl | rfl
    · exact .inr settled_empty
    · exact .inl (List.mem_map_of_mem hrow)

theorem paged_post {x : RotationStep} {p : Page} (hw : Stored x.pre.state)
    (h : x.stmt.paged x.result = some p) {v : StoredValue} (hv : v ∈ x.post.state.values p.column)
    (hcovers : p.Covers v.id) : v ∈ p.rows := by
  have hok : ∀ {b}, x.result = .ok b → x.stmt.run (x.pre.state.tick x.input.elapsed) =
    .ok (b, x.post.state) := run_of_ok
  generalize x.post.state = w' at hok hv
  generalize x.result = r at h hok
  obtain ⟨m, t, e, i⟩ := x
  cases e with
  | readColumn column cursor pendingOnly =>
    cases pendingOnly with
    | true => cases h
    | false =>
      cases r with
      | error failure => cases h
      | ok rows =>
        cases h
        have hrun := hok rfl
        cases hrun
        have hall : ((m.state.tick i.elapsed).values column).filter
            (fun v => !false || World.pending v) = (m.state.tick i.elapsed).values column :=
          List.filter_eq_self.mpr fun _ _ => rfl
        have hunique : Stored (m.state.tick i.elapsed) := { hw with }
        have hunique := hunique.values column
        rw [← hall] at hv hunique
        exact mem_page hunique hv hcovers.behind hcovers.upTo
  | _ => cases h

theorem rewrote_post {x : RotationStep} {r : Rewrite} (h : x.stmt.rewrote x.result = some r)
    {v : StoredValue} (hv : v ∈ x.post.state.values r.column) (hid : v.id = r.id) :
    v.value = some r.next ∨ v.value ≠ some r.previous := by
  have hok : ∀ {b}, x.result = .ok b → x.stmt.run (x.pre.state.tick x.input.elapsed) =
    .ok (b, x.post.state) := run_of_ok
  generalize x.post.state = w' at hok hv
  generalize x.result = r' at h hok
  obtain ⟨m, t, e, i⟩ := x
  cases e with
  | writeColumn column id previous next =>
    cases r' with
    | error failure => cases h
    | ok b =>
      cases h
      have hrun := hok rfl
      cases hrun
      rcases writeColumn_values hv with ⟨-, hother⟩ | hnext
      · exact .inr (hother rfl hid)
      · exact .inl hnext
  | _ => cases h

omit [Keys] in
theorem rewrites_of_rewrote {e : Stmt β} {result : Except Failure β} {r : Rewrite}
    (h : e.rewrote result = some r) : e.rewrites = some r := by
  cases e with
  | writeColumn column id previous next =>
    cases result with
    | error failure => cases h
    | ok b => exact h
  | _ => cases h

/-- What has been read and rewritten, as far as the values are not settled since. -/
structure SweepKept (m : RotationMoment) : Prop where
  stored : Stored m.state
  pages : ∀ ev ∈ m.history, ∀ p, ev.stmt.paged ev.result = some p →
    ∀ v ∈ m.state.values p.column, p.Covers v.id → v ∈ p.rows ∨ Settled v.value
  rewritten : ∀ ev ∈ m.history, ∀ r, ev.stmt.rewrote ev.result = some r →
    ∀ v ∈ m.state.values r.column, v.id = r.id → v.value ≠ some r.previous ∨ Settled v.value

theorem sweepKept_post {x : RotationStep} {h : History} (hrule : SweepRule x.stmt h)
    (hfresh : Fresh x) (hkept : SweepKept x.pre) : SweepKept x.post := by
  constructor
  case stored => exact stored_post x hkept.stored
  case pages =>
    intro ev hev p hpaged v hv hcovers
    rw [x.post_history] at hev
    rcases List.mem_append.mp hev with hev | hev
    · rcases values_post hrule hfresh hv with hold | hsettled
      · exact hkept.pages ev hev p hpaged v hold hcovers
      · exact .inr hsettled
    · obtain rfl := List.mem_singleton.mp hev
      exact .inl (paged_post hkept.stored hpaged hv hcovers)
  case rewritten =>
    intro ev hev r hrewrote v hv hid
    rw [x.post_history] at hev
    rcases List.mem_append.mp hev with hev | hev
    · rcases values_post hrule hfresh hv with hold | hsettled
      · exact hkept.rewritten ev hev r hrewrote v hold hid
      · exact .inr hsettled
    · obtain rfl := List.mem_singleton.mp hev
      rcases rewrote_post hrewrote hv hid with hnext | hother
      · obtain ⟨-, iv, hencrypted⟩ := hrule.rewrites r (rewrites_of_rewrote hrewrote)
        rw [hnext, hencrypted]
        exact .inr (settled_encrypted _ _)
      · exact .inl hother

theorem settled_of_handled {m : RotationMoment} {t : Nat} (hkept : SweepKept m)
    (h : ∀ column id, Handled column id (own t m.history)) :
    ∀ column, ∀ v ∈ m.state.values column, Settled v.value := by
  intro column v hv
  obtain ⟨p, ⟨ev, hev, hpaged⟩, rfl, hcovers, hrows⟩ := h column v.id
  rcases hkept.pages ev (List.mem_filter.mp hev).1 p hpaged v hv hcovers with hpage | hsettled
  · rcases hrows v hpage rfl with hsettled | ⟨r, ⟨ev', hev', hrewrote⟩, hcolumn, hid, hvalue⟩
    · exact hsettled
    · have hother := hkept.rewritten ev' (List.mem_filter.mp hev').1 r hrewrote v
        (hcolumn.symm ▸ hv) hid.symm
      exact hother.resolve_left fun hne => hne hvalue
  · exact hsettled

/-! ## Runs -/

structure RotationCompletes (tr : List RotationStep) (c : RotationSystem) : Prop where
  current : ∀ x ∈ tr, x.stmt.completes = true → Rotated c.moment.state
  /-- Neither a sweep nor a delivery that is tried again changes a plaintext. -/
  plaintexts : ∀ x ∈ tr, x.stmt.rewrites.isSome ∨ (∃ id worker payload,
    x.stmt.returns = some (id, worker, payload) ∧ payload ≠ .legacy "") →
      ∀ column, x.post.state.plaintexts column = x.pre.state.plaintexts column

def RotationCalls (_ : RotationMoment) (p : Call Unit) : Prop := RotationCall p

variable {w : World} {tr : List RotationStep} {c : RotationSystem}

theorem sweepRule_run (hrotating : rotating = true)
    (hrun : Run RotationCalls (Config.start w) tr c) :
    ∀ x ∈ tr, SweepRule x.stmt (own x.thread x.pre.history) :=
  (Run.meets (fun _ _ _ hp => rotationCall_sweeps hrotating hp) hrun fun _ _ => trivial).2

omit [Keys] in
theorem map_updateMany {α γ : Type} {t : Table α} {p : α → Bool} {d : α → α} {g : α → γ}
    (hg : ∀ r ∈ t.rows, p r = true → g (d r) = g r) :
    (t.updateMany p d).rows.map g = t.rows.map g := by
  simp only [Table.updateMany, List.map_map]
  refine List.map_congr_left fun r hr => ?_
  by_cases hp : p r = true
  · simp [hp, hg r hr hp]
  · simp [hp]

omit [Keys] in
theorem plaintexts_writeColumn {w : World} {written : Column} {id : Id}
    {previous next : StoredSecret} (hsame : next.plaintext = previous.plaintext)
    (column : Column) : (w.writeColumn written id previous next).plaintexts column =
      w.plaintexts column := by
  have hother : ∀ {α : Type} {t : Table α} {p : α → Bool} {d : α → α} {f : α → StoredValue},
      (∀ r ∈ t.rows, p r = true →
        ((f (d r)).id, (f (d r)).value.map (·.plaintext)) = ((f r).id, (f r).value.map (·.plaintext))) →
      ((t.updateMany p d).rows.map f).map (fun v => (v.id, v.value.map (·.plaintext))) =
        (t.rows.map f).map fun v => (v.id, v.value.map (·.plaintext)) := by
    intro α t p d f hf
    rw [List.map_map, List.map_map]
    exact map_updateMany hf
  unfold World.plaintexts
  cases written with
  | userAccessToken =>
    cases column with
    | userAccessToken =>
      refine hother fun row _ hprevious => ?_
      simp only [Bool.and_eq_true, decide_eq_true_eq] at hprevious
      simp [hprevious.2, hsame]
    | _ => rfl
  | identityAccessToken =>
    cases column with
    | identityAccessToken =>
      refine hother fun row _ hprevious => ?_
      simp only [Bool.and_eq_true, decide_eq_true_eq] at hprevious
      simp [hprevious.2, hsame]
    | identityRefreshToken => exact hother fun row _ _ => rfl
    | _ => rfl
  | identityRefreshToken =>
    cases column with
    | identityRefreshToken =>
      refine hother fun row _ hprevious => ?_
      simp only [Bool.and_eq_true, decide_eq_true_eq] at hprevious
      simp [hprevious.2, hsame]
    | identityAccessToken => exact hother fun row _ _ => rfl
    | _ => rfl
  | emailPayload =>
    cases column with
    | emailPayload =>
      refine hother fun row _ hprevious => ?_
      simp only [Bool.and_eq_true, decide_eq_true_eq] at hprevious
      simp [hprevious.2, hsame]
    | _ => rfl
  | targetSecret =>
    cases column with
    | targetSecret =>
      refine hother fun row _ hprevious => ?_
      simp only [Bool.and_eq_true, decide_eq_true_eq] at hprevious
      simp [hprevious.2, hsame]
    | _ => rfl
  | configValue =>
    cases column with
    | configValue =>
      have hrows := Table.findMany_updateMany w.appConfigVars (q := (·.isSecret))
        (w := fun row => row.id = id && row.isSecret && row.value = previous)
        (d := fun row => { row with value := next }) fun _ _ => rfl
      simp only [World.values, World.writeColumn]
      unfold Table.findMany at hrows
      rw [hrows, List.map_map, List.map_map, List.map_map]
      refine List.map_congr_left fun row _ => ?_
      simp only [Function.comp_apply]
      split
      · rename_i hprevious
        simp only [Bool.and_eq_true, decide_eq_true_eq] at hprevious
        simp [hprevious.2, hsame]
      · rfl
    | _ => rfl

theorem plaintexts_rewrite {x : RotationStep} {h : History} (hrule : SweepRule x.stmt h)
    (hrewrites : x.stmt.rewrites.isSome) (column : Column) :
    x.post.state.plaintexts column = x.pre.state.plaintexts column := by
  have htick : (x.pre.state.tick x.input.elapsed).plaintexts column =
      x.pre.state.plaintexts column := by rw [World.plaintexts, values_tick, World.plaintexts]
  rcases post_run x with hsame | ⟨b, hrun⟩
  · rw [hsame, htick]
  rw [← htick]
  generalize x.post.state = w' at hrun ⊢
  obtain ⟨m, t, e, i⟩ := x
  cases e with
  | writeColumn written id previous next =>
    cases hrun
    obtain ⟨-, iv, hnext⟩ := hrule.rewrites _ rfl
    refine plaintexts_writeColumn ?_ column
    have hnext : next = encryptSecret keyring iv previous.plaintext := hnext
    rw [hnext]
    rfl
  | _ => cases hrewrites

theorem plaintexts_return {x : RotationStep} (hfresh : Fresh x) {id worker : Id}
    {payload : StoredSecret} (hreturns : x.stmt.returns = some (id, worker, payload))
    (hne : payload ≠ .legacy "") (column : Column) :
    x.post.state.plaintexts column = x.pre.state.plaintexts column := by
  have htick : (x.pre.state.tick x.input.elapsed).plaintexts column =
      x.pre.state.plaintexts column := by rw [World.plaintexts, values_tick, World.plaintexts]
  rcases post_run x with hsame | ⟨b, hrun⟩
  · rw [hsame, htick]
  rw [← htick]
  generalize x.post.state = w' at hrun ⊢
  obtain ⟨m, t, e, i⟩ := x
  cases e with
  | markFailed id worker status availableAt payload =>
    cases hrun
    cases hreturns
    cases column with
    | emailPayload =>
      unfold World.plaintexts World.values
      rw [List.map_map, List.map_map]
      refine map_updateMany fun row hrow hdelivers => ?_
      have hheld := (hfresh _ _ _ rfl row hrow hdelivers).resolve_left hne
      simp [EmailOutbox.returned, hheld]
    | _ => rfl
  | _ => cases hreturns

/-- In every run in which failed deliveries give back what their messages still hold, a rotation
completes. -/
theorem rotation_completes (hw : Stored w) (hprevious : keyring.previous ≠ [])
    (hrun : Run RotationCalls (Config.start w) tr c) (hfresh : ∀ x ∈ tr, Fresh x) :
    RotationCompletes tr c := by
  have hrotating : rotating = true := by simp [rotating, hprevious]
  have hrule := sweepRule_run hrotating hrun
  have hkept := hrun.preserves_pre SweepKept
    (fun x => SweepRule x.stmt (own x.thread x.pre.history) ∧ Fresh x)
    (fun x hx => sweepKept_post hx.1 hx.2) (fun x hx => ⟨hrule x hx, hfresh x hx⟩)
    ⟨hw, fun _ hev => absurd hev List.not_mem_nil, fun _ hev => absurd hev List.not_mem_nil⟩
  constructor
  case current =>
    intro x hx hcompletes
    obtain ⟨tr₁, tr₂, rfl⟩ := List.append_of_mem hx
    have hsettled := settled_of_handled (hkept x hx) ((hrule x hx).completes hcompletes)
    obtain ⟨c₁, -, h₂⟩ := hrun.split rfl
    refine rotated_of_settled (h₂.preserves
      (fun m => ∀ column, ∀ v ∈ m.state.values column, Settled v.value)
      (fun x => SweepRule x.stmt (own x.thread x.pre.history) ∧ Fresh x) ?_ ?_ ?_)
    · intro y hy hpre column v hv
      rcases values_post hy.1 hy.2 hv with hold | hsettled
      · exact hpre column v hold
      · exact hsettled
    · intro y hy
      have hmem := List.mem_append_right tr₁ hy
      exact ⟨hrule y hmem, hfresh y hmem⟩
    · rw [← h₂.uncons.1]
      exact hsettled
  case plaintexts =>
    rintro x hx (hrewrites | ⟨id, worker, payload, hreturns, hne⟩) column
    · exact plaintexts_rewrite (hrule x hx) hrewrites column
    · exact plaintexts_return (hfresh x hx) hreturns hne column

end

/-! ## A payload that comes back -/

def oldKey : EncryptionKey := ⟨"old"⟩

abbrev changedKey : Keys := ⟨⟨"current"⟩, [oldKey]⟩

def queued : World where
  emailOutbox := ⟨[⟨0, .encrypted oldKey 0 "link", .pending, 0, 0, none, none⟩]⟩
  drawn := 1

theorem queued_stored : Stored queued where
  users := ⟨List.nodup_nil, nofun⟩
  externalIdentities := ⟨List.nodup_nil, nofun⟩
  emailOutbox := ⟨List.nodup_singleton 0, fun _ hr => List.mem_singleton.mp hr ▸ Nat.zero_lt_one⟩
  targets := ⟨List.nodup_nil, nofun⟩
  appConfigVars := ⟨List.nodup_nil, nofun⟩

section

attribute [local instance] changedKey

def sweep : Call Unit := (reencryptStoredSecrets 1).ignoreError

theorem rotation_calls {m : RotationMoment} :
    ∀ p ∈ [sweep, drain 7 MAX_BATCH_SIZE], RotationCalls m p := by
  simp only [List.mem_cons, List.not_mem_nil, or_false, forall_eq_or_imp, forall_eq]
  exact ⟨.sweep 1, .drain 7⟩

def turns (schedule : List (Nat × Nat)) : List (Nat × Input) :=
  schedule.flatMap fun (t, n) => List.replicate n (t, {})

/-- The condition on a step, as the scheduler can check it. -/
def fresh (x : RotationStep) : Bool :=
  x.stmt.returns.all fun (id, worker, payload) => x.pre.state.emailOutbox.rows.all fun row =>
    !row.delivers id worker || payload = .legacy "" || row.payloadEncrypted = payload

theorem fresh_of_bool {x : RotationStep} (h : fresh x = true) : Fresh x := by
  intro id worker payload hreturns row hrow hdelivers
  rw [fresh, hreturns, Option.all_some, List.all_eq_true] at h
  have hrow := h row hrow
  rw [hdelivers] at hrow
  simpa using hrow

/-- A sweep, with nobody in its way. -/
theorem queued_rotated : ∃ (tr : List RotationStep) (c : RotationSystem),
    Run RotationCalls (Config.start queued) tr c ∧ RotationCompletes tr c ∧
      (∃ x ∈ tr, x.stmt.completes = true) ∧
        c.moment.state.plaintexts .emailPayload = [(0, some "link")] := by
  obtain ⟨tr, c, hrun, hcheck⟩ := run_of_plays (Config.start queued)
    [sweep, drain 7 MAX_BATCH_SIZE] (turns [(0, 9)])
    (fun tr c => tr.all fresh && tr.any (·.stmt.completes) &&
      c.moment.state.plaintexts .emailPayload = [(0, some "link")])
    rotation_calls (by decide)
  simp only [Bool.and_eq_true, List.all_eq_true, decide_eq_true_eq] at hcheck
  obtain ⟨⟨hfresh, hcompletes⟩, hplaintexts⟩ := hcheck
  exact ⟨tr, c, hrun, rotation_completes queued_stored (by simp [keyring]) hrun
    fun x hx => fresh_of_bool (hfresh x hx), List.any_eq_true.mp hcompletes, hplaintexts⟩

/-- The answer of the relay to a message. -/
def refused : Input := { fault := some ⟨.transport, false⟩ }

/-- A worker has read the message before the sweep and cannot deliver it: its payload comes back
under the old key. -/
theorem old_payload_comes_back : ¬ ∀ (w : World) (tr : List RotationStep) (c : RotationSystem),
    Stored w → keyring.previous ≠ [] → Run RotationCalls (Config.start w) tr c →
      RotationCompletes tr c := by
  intro h
  obtain ⟨tr, c, hrun, hcheck⟩ := run_of_plays (Config.start queued)
    [sweep, drain 7 MAX_BATCH_SIZE]
    (turns [(1, 4)] ++ turns [(0, 9)] ++ [(1, refused)] ++ turns [(1, 2)])
    (fun tr c => tr.any (·.stmt.completes) && (c.moment.state.values .emailPayload).contains
      ⟨0, some (.encrypted oldKey 0 "link")⟩)
    rotation_calls (by decide)
  simp only [Bool.and_eq_true, List.any_eq_true, List.contains_iff_mem] at hcheck
  obtain ⟨⟨x, hx, hcompletes⟩, hmem⟩ := hcheck
  have hcomplete := h queued tr c queued_stored (by simp [keyring]) hrun
  obtain ⟨⟨iv, hcurrent⟩, -⟩ :=
    hcomplete.current x hx hcompletes .emailPayload _ hmem _ rfl (by decide)
  simp [encryptSecret, oldKey, keyring] at hcurrent

end

end InitPad.Rotation
