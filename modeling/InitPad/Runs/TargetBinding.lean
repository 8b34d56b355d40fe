import InitPad.Runs.LockOwnership
import InitPad.Deployment.EnvironmentSteps

/-!
# InitPad.Runs.TargetBinding

The target of an environment while an operation works on it. `bindTarget` looks at the lock in an
early read and updates the row unconditionally at the end, and `begin` copies the target into the
operation from a read that precedes its claim. The target stays the one the operation was begun for
exactly when neither of the two acts on an outdated read.
-/

namespace InitPad

open Store Interleave Prog

/-- The environment row `r` is locked by the unfinished operation `o`. -/
def World.working (w : World) (r : Environment) (o : DeploymentOperation) : Prop :=
  ∃ B, r.activeOperationId = some B ∧ w.op? B = some o ∧ o.finishedAt = none

/-- The step leaves the target of an environment with unfinished work alone. -/
def TargetKept (id : Id) (x : Step) : Prop :=
  ∀ r o, x.pre.state.env? id = some r → x.pre.state.working r o →
    ∃ r', x.post.state.env? id = some r' ∧ SameTarget r r'

/-- An operation works on the target that it was begun for. -/
def SnapshotHolds (id : Id) (w : World) : Prop :=
  ∀ r o, w.env? id = some r → w.working r o → o.targetIdSnapshot = r.targetId

/-- The update of `bindTarget` does not move an environment with unfinished work. -/
def BindsFree (id : Id) (x : Step) : Prop :=
  ∀ targetId provider r o, x.stmt.bindsTo = some (id, targetId, provider) →
    x.input.fault = false → x.pre.state.env? id = some r → x.pre.state.working r o →
    r.targetId = some targetId ∧ r.provider = provider

/-- When the claim of `begin` takes the environment, its target is still as `begin` has read it. -/
def ClaimsFresh (id : Id) (x : Step) : Prop :=
  ∀ view expected r, x.stmt.claimView = some (view, expected) → x.input.fault = false →
    x.pre.state.env? id = some r → x.pre.state.admits view x.input = true →
    claimable view.environment.id expected r = true → view.environment.targetId = r.targetId

/-- Locks name operations whose ids have been given out. -/
def World.LocksKnown (w : World) (id : Id) : Prop :=
  ∀ r B, w.env? id = some r → r.activeOperationId = some B → B < w.db.nextId

/-- What holds of the environment from the start. -/
structure World.TargetBound (w : World) (id : Id) : Prop where
  keys : w.WellKeyed
  locks : w.LocksKnown id
  snapshot : SnapshotHolds id w

section Steps

variable {β : Type} {e : Stmt β} {i : Input} {w : World} {id : Id}

theorem op?_of_nextId_le {B : Id} (hk : w.WellKeyed) (hB : w.db.nextId ≤ B) : w.op? B = none := by
  cases h : w.op? B with
  | none => rfl
  | some o =>
    have hmem : B ∈ w.db.operations.keys := by
      rw [← Table.find?_isSome_iff]
      change (w.op? B).isSome
      rw [h]; rfl
    exact absurd (hk.operationIds B hmem) (Nat.not_lt.mpr hB)

theorem env?_of_run {r' : Environment} (hr' : (e.run i w).2.env? id = some r') :
    ∃ r, w.env? id = some r := by
  have h : ((e.run i w).2.env? id).isSome := by rw [hr']; rfl
  rw [World.env?, Table.find?_isSome_iff, environmentKeys_run e i w, ← Table.find?_isSome_iff] at h
  exact Option.isSome_iff_exists.mp h

theorem locksKnown_run (hk : w.LocksKnown id) : (e.run i w).2.LocksKnown id := by
  intro r' B hr' hB
  obtain ⟨r, hr⟩ := env?_of_run hr'
  have hnext := nextId_run e i w
  cases environmentStep_run hr hr' with
  | kept _ hlock => exact Nat.lt_of_lt_of_le (hk r B hr (hlock B hB)) hnext
  | claimed _ _ _ _ hlock hnext' =>
    obtain rfl : B = w.db.nextId := Option.some.inj (hB.symm.trans hlock)
    rw [hnext']
    exact Nat.lt_succ_self _
  | bound _ _ _ hlock => exact Nat.lt_of_lt_of_le (hk r B hr (hlock.symm.trans hB)) hnext

theorem unfinished_before {B : Id} {o' : DeploymentOperation} (hB : B < w.db.nextId)
    (ho' : (e.run i w).2.op? B = some o') (hf : o'.finishedAt = none) :
    ∃ o, w.op? B = some o ∧ o.finishedAt = none ∧ o.targetIdSnapshot = o'.targetIdSnapshot := by
  cases ho : w.op? B with
  | none =>
    obtain ⟨_, _, _, _, _, _, _, _, hid, _⟩ := newOperation_run ho ho'
    exact absurd hB (hid ▸ Nat.lt_irrefl _)
  | some o =>
    refine ⟨o, rfl, ?_, (sameRequest_run ho ho').targetIdSnapshot.symm⟩
    cases outcomeStep_run ho ho' with
    | kept _ h => exact h.symm.trans hf
    | cancelled _ h => rw [hf] at h; cases h
    | cancelledDirect _ _ h => exact h.symm.trans hf
    | concluded _ h _ => exact h
    | ended _ h _ => exact h

theorem snapshotHolds_run (hw : w.TargetBound id)
    (hbinds : ∀ targetId provider r o, e.bindsTo = some (id, targetId, provider) →
      w.env? id = some r → w.working r o → r.targetId = some targetId)
    (hclaims : ∀ view expected r, e.claimView = some (view, expected) → w.env? id = some r →
      w.admits view i = true → claimable view.environment.id expected r = true →
      view.environment.targetId = r.targetId) :
    SnapshotHolds id (e.run i w).2 := by
  rintro r' o' hr' ⟨B, hB, ho', hf⟩
  obtain ⟨r, hr⟩ := env?_of_run hr'
  cases environmentStep_run hr hr' with
  | kept htarget hlock =>
    obtain ⟨o, ho, hfo, hsnap⟩ := unfinished_before (hw.locks r B hr (hlock B hB)) ho' hf
    rw [← hsnap, htarget.1]
    exact hw.snapshot r o hr ⟨B, hlock B hB, ho, hfo⟩
  | claimed hview hadmits hclaimable htarget hlock _ =>
    obtain rfl : B = w.db.nextId := Option.some.inj (hB.symm.trans hlock)
    obtain ⟨view, expected, _, _, _, _, hview', _, _, rfl⟩ :=
      newOperation_run (op?_of_nextId_le hw.keys (Nat.le_refl _)) ho'
    rw [hview] at hview'
    cases hview'
    rw [htarget.1]
    exact hclaims _ _ r hview hr hadmits hclaimable
  | bound hbind htarget _ hlock =>
    have hlock' := hlock.symm.trans hB
    obtain ⟨o, ho, hfo, hsnap⟩ := unfinished_before (hw.locks r B hr hlock') ho' hf
    have hworking : w.working r o := ⟨B, hlock', ho, hfo⟩
    rw [← hsnap, htarget, ← hbinds _ _ r o hbind hr hworking]
    exact hw.snapshot r o hr hworking

theorem inProcess_of_bindsTo {t : Id × Id × ProviderKind} (h : e.bindsTo = some t) :
    e.inProcess = false := by
  cases e with
  | bindEnvironment => rfl
  | _ => cases h

theorem inProcess_of_claimView {v : EnvironmentView × Option ExpectedProductionState}
    (h : e.claimView = some v) : e.inProcess = false := by
  cases e with
  | beginClaim => rfl
  | _ => cases h

theorem noFault_of_exec (hp : e.inProcess = false) (h : i.fault = false ∨ e.inProcess = true) :
    i.fault = false := h.resolve_right (by simp [hp])

theorem targetBound_post {x : Step} (hw : x.pre.state.TargetBound id) (hbinds : BindsFree id x)
    (hclaims : ClaimsFresh id x) : x.post.state.TargetBound id := by
  obtain ⟨m, t, e, i⟩ := x
  change (exec e i m.state).2.TargetBound id
  rcases exec_cases e i m.state with ⟨_, _, he⟩ | ⟨hf, he⟩
  · rw [he]; exact hw
  · rw [he]
    have hw' : (m.state.tick i.dbNow).TargetBound id :=
      ⟨⟨hw.keys.1, hw.keys.2, hw.keys.3, hw.keys.4, hw.keys.5, hw.keys.6, hw.keys.7⟩, hw.locks,
        hw.snapshot⟩
    refine ⟨?_, locksKnown_run hw'.locks, snapshotHolds_run hw' ?_ ?_⟩
    · rw [← he]; exact hw.keys.exec e i
    · intro targetId provider r o hb hr hworking
      exact (hbinds targetId provider r o hb (noFault_of_exec (inProcess_of_bindsTo hb) hf) hr
        hworking).1
    · intro view expected r hv hr hadmits hclaimable
      exact hclaims view expected r hv (noFault_of_exec (inProcess_of_claimView hv) hf) hr hadmits
        hclaimable

theorem targetKept_of_bindsFree {x : Step} (h : BindsFree id x) : TargetKept id x := by
  obtain ⟨m, t, e, i⟩ := x
  intro r o hr hworking
  change ∃ r', (exec e i m.state).2.env? id = some r' ∧ SameTarget r r'
  rcases exec_cases e i m.state with ⟨_, _, he⟩ | ⟨hf, he⟩
  · rw [he]; exact ⟨r, hr, rfl, rfl⟩
  · have hsome : ((exec e i m.state).2.env? id).isSome := by
      rw [env?_isSome_exec, show m.state.env? id = some r from hr]
      rfl
    obtain ⟨r', hr'⟩ := Option.isSome_iff_exists.mp hsome
    refine ⟨r', hr', ?_⟩
    rw [he] at hr'
    have hr₀ : (m.state.tick i.dbNow).env? id = some r := hr
    cases environmentStep_run hr₀ hr' with
    | kept htarget _ => exact htarget
    | claimed _ _ _ htarget _ _ => exact htarget
    | bound hbind ht hp _ =>
      have hsame := h _ _ r o hbind (noFault_of_exec (inProcess_of_bindsTo hbind) hf) hr hworking
      exact ⟨ht.trans hsame.1.symm, hp.trans hsame.2.symm⟩

theorem bindEnvironment_row {r : Environment} {targetId allocationId : Id}
    {provider : ProviderKind} {movingAway targetChanged : Bool} (hr : w.env? id = some r) :
    ∃ r', ((Stmt.bindEnvironment id targetId allocationId provider movingAway targetChanged).run i
      w).2.env? id = some r' ∧ r'.targetId = some targetId ∧ r'.provider = provider := by
  have hid : r.id = id := Table.find?_key hr
  simp [Stmt.run, World.snd_requireRows, World.env?_updateEnvironments, hr, hid]

theorem beginClaim_row {view : EnvironmentView} {kind : OperationKind} {version : Option String}
    {artifact : Option Id} {expected : Option ExpectedProductionState} {r : Environment}
    (hk : w.WellKeyed) (hr : w.env? id = some r) (hadmits : w.admits view i = true)
    (hclaimable : claimable view.environment.id expected r = true) :
    ∃ r', ((Stmt.beginClaim view kind version artifact expected).run i w).2.env? id = some r' ∧
      SameTarget r r' ∧ r'.activeOperationId = some w.db.nextId ∧
      ((Stmt.beginClaim view kind version artifact expected).run i w).2.op? w.db.nextId =
        some (w.newOperation view kind version artifact i.correlationId) := by
  unfold World.admits at hadmits
  cases hworkspace : w.db.workspaces.find? view.project.workspaceId with
  | none => rw [hworkspace] at hadmits; cases hadmits
  | some workspace =>
    rw [hworkspace] at hadmits
    have hquota := of_decide_eq_true hadmits
    simp only [Stmt.run, hworkspace]
    rw [if_neg (by omega)]
    refine ⟨(claimData kind w.db.nextId).apply r, ?_, ⟨rfl, rfl⟩, rfl, ?_⟩
    · rw [World.env?_patchEnvironment]
      change Option.map _ (w.env? id) = _
      rw [hr, Option.map_some, if_pos hclaimable]
      rfl
    · exact Table.find?_insert_self (op?_of_nextId_le hk (Nat.le_refl _))

theorem bindsFree_of_targetKept {x : Step} (h : TargetKept id x) : BindsFree id x := by
  obtain ⟨m, t, e, i⟩ := x
  intro targetId provider r o hbind hf hr hworking
  obtain ⟨r', hr', htarget⟩ := h r o hr hworking
  cases e with
  | bindEnvironment environmentId targetId' allocationId provider' movingAway targetChanged =>
    cases hbind
    change (exec _ i m.state).2.env? id = some r' at hr'
    rw [exec_of_noFault _ hf] at hr'
    obtain ⟨r₁, hr₁, ht, hp⟩ := bindEnvironment_row (i := i) (w := m.state.tick i.dbNow) hr
    obtain rfl := Option.some.inj (hr'.symm.trans hr₁)
    exact ⟨htarget.1.symm.trans ht, htarget.2.symm.trans hp⟩
  | _ => cases hbind

theorem claimsFresh_of_snapshotHolds {x : Step} (hk : x.pre.state.WellKeyed)
    (h : SnapshotHolds id x.post.state) : ClaimsFresh id x := by
  obtain ⟨m, t, e, i⟩ := x
  intro view expected r hview hf hr hadmits hclaimable
  cases e with
  | beginClaim view' kind version artifact expected' =>
    cases hview
    have hk' : (m.state.tick i.dbNow).WellKeyed :=
      ⟨hk.1, hk.2, hk.3, hk.4, hk.5, hk.6, hk.7⟩
    change SnapshotHolds id (exec _ i m.state).2 at h
    rw [exec_of_noFault _ hf] at h
    obtain ⟨r', hr', htarget, hlock, ho'⟩ : ∃ r',
        ((Stmt.beginClaim view kind version artifact expected).run i _).2.env? id = some r' ∧ _ :=
      beginClaim_row hk' hr hadmits hclaimable
    have hsnap := h r' _ hr' ⟨_, hlock, ho', rfl⟩
    exact hsnap.trans htarget.1
  | _ => cases hview

end Steps

/-- In every run the environment keeps its target while work is unfinished, and every operation
works on the target it was begun for, exactly when no update of `bindTarget` meets unfinished work
and no claim of `begin` rests on an outdated target. -/
theorem target_stable {id : Id} {w : World} {c : System} {tr : List Step} (hw : w.TargetBound id)
    (hrun : Run Request (Config.start w) tr c) :
    ((∀ x ∈ tr, TargetKept id x) ∧ ∀ x ∈ tr, SnapshotHolds id x.post.state) ↔
      ∀ x ∈ tr, BindsFree id x ∧ ClaimsFresh id x := by
  constructor
  · rintro ⟨hkept, hsnap⟩ x hx
    have hkeys : ∀ x ∈ tr, x.pre.state.WellKeyed :=
      Run.preserves_pre (fun m => m.state.WellKeyed) (fun _ => True)
        (fun x _ h => h.exec x.stmt x.input) hrun (fun _ _ => trivial) hw.keys
    exact ⟨bindsFree_of_targetKept (hkept x hx),
      claimsFresh_of_snapshotHolds (hkeys x hx) (hsnap x hx)⟩
  · intro hok
    have hbound : ∀ x ∈ tr, x.pre.state.TargetBound id :=
      Run.preserves_pre (fun m => m.state.TargetBound id)
        (fun x => BindsFree id x ∧ ClaimsFresh id x)
        (fun x hx h => targetBound_post h hx.1 hx.2) hrun hok hw
    exact ⟨fun x hx => targetKept_of_bindsFree (hok x hx).1, fun x hx =>
      (targetBound_post (hbound x hx) (hok x hx).1 (hok x hx).2).snapshot⟩

/-! ## A deployment that begins while `bindTarget` is under way -/

def bindAndBegin : List (Async Unit) :=
  [bindTarget (sampleApi 0) 0 .dev 2, ignoreError (begin 0 .dev .redeploy (some "v2") none none)]

theorem request_of_mem_bindAndBegin {m : Instant} : ∀ p ∈ bindAndBegin, Request m p := by
  intro p hp
  simp only [bindAndBegin, List.mem_cons, List.not_mem_nil, or_false] at hp
  rcases hp with rfl | rfl
  · exact .bindTarget (sampleApi 0) 0 .dev 2
  · exact .begin 0 .dev .redeploy (some "v2") none none

/-- The step moves environment `0` while operation `11` works on it. -/
def movesWorking (x : Step) : Bool :=
  (x.pre.state.env? 0).any fun r => r.activeOperationId == some 11 &&
    ((x.pre.state.op? 11).any fun o => o.finishedAt.isNone) &&
      (x.post.state.env? 0).any fun r' => r'.targetId != r.targetId

theorem not_targetKept_of_movesWorking {x : Step} (h : movesWorking x = true) :
    ¬ TargetKept 0 x := by
  simp only [movesWorking, Option.any_eq_true, Bool.and_eq_true, beq_iff_eq, bne_iff_ne,
    Option.isNone_iff_eq_none] at h
  obtain ⟨r, hr, ⟨hlock, o, ho, hf⟩, r', hr', hmoved⟩ := h
  intro hkept
  obtain ⟨r'', hr'', htarget⟩ := hkept r o hr ⟨11, hlock, ho, hf⟩
  obtain rfl := Option.some.inj (hr'.symm.trans hr'')
  exact hmoved htarget.1

def bindableWorld : World := agentWorld sampleEnvironment [] []

theorem bindableWorld_bound : bindableWorld.TargetBound 0 := by
  refine ⟨⟨by decide, by decide, by decide, by decide, by decide, by decide, by decide⟩, ?_, ?_⟩
  · intro r B hr hB
    obtain rfl := Option.some.inj (hr.symm.trans (rfl : _ = some sampleEnvironment))
    cases hB
  · rintro r o hr ⟨B, hB, _⟩
    obtain rfl := Option.some.inj (hr.symm.trans (rfl : _ = some sampleEnvironment))
    cases hB

/-- `bindTarget` reads a free environment, a deployment claims it, and the update then moves it
under the running deployment. -/
theorem target_moved : ¬ ∀ (id : Id) (w : World) (c : System) (tr : List Step),
    w.TargetBound id → Run Request (Config.start w) tr c →
      (∀ x ∈ tr, TargetKept id x) ∧ ∀ x ∈ tr, SnapshotHolds id x.post.state := by
  intro h
  obtain ⟨tr, c, hrun, hcheck⟩ := run_of_plays (Config.start bindableWorld) bindAndBegin
    (turns 0 9 ++ turns 1 3 ++ turns 0 1) (fun tr _ => tr.any movesWorking)
    request_of_mem_bindAndBegin (by decide)
  obtain ⟨x, hx, hmoves⟩ := List.any_eq_true.mp hcheck
  exact not_targetKept_of_movesWorking hmoves ((h 0 _ c tr bindableWorld_bound hrun).1 x hx)

/-- The step meets both conditions at environment `0`. -/
def meetsConditions (x : Step) : Bool :=
  (x.stmt.bindsTo.isNone || x.pre.state.lock 0 == none) &&
    x.stmt.claimView.all fun v =>
      (x.pre.state.env? 0).all fun r => v.1.environment.targetId == r.targetId

theorem conditions_of_meetsConditions {x : Step} (h : meetsConditions x = true) :
    BindsFree 0 x ∧ ClaimsFresh 0 x := by
  simp only [meetsConditions, Bool.and_eq_true, Bool.or_eq_true, beq_iff_eq] at h
  constructor
  · rintro targetId provider r o hbind _ hr ⟨B, hB, _⟩
    rw [hbind] at h
    have hlock := h.1.resolve_left nofun
    exact absurd ((lock_eq_some.mpr ⟨r, hr, hB⟩).symm.trans hlock) nofun
  · intro view expected r hview _ hr _ _
    rw [hview, Option.all_some, hr, Option.all_some, beq_iff_eq] at h
    exact h.2

/-- A deployment that begins after `bindTarget` has finished works on the new target. -/
theorem target_stable_in_turn : ∃ (tr : List Step) (c : System),
    Run Request (Config.start bindableWorld) tr c ∧ tr.length = 13 ∧
      c.moment.state.lock 0 = some 11 ∧
      (∀ x ∈ tr, TargetKept 0 x) ∧ ∀ x ∈ tr, SnapshotHolds 0 x.post.state := by
  obtain ⟨tr, c, hrun, hcheck⟩ := run_of_plays (Config.start bindableWorld) bindAndBegin
    (turns 0 10 ++ turns 1 3)
    (fun tr c => tr.length == 13 && c.moment.state.lock 0 == some 11 && tr.all meetsConditions)
    request_of_mem_bindAndBegin (by decide)
  simp only [Bool.and_eq_true, beq_iff_eq, List.all_eq_true] at hcheck
  exact ⟨tr, c, hrun, hcheck.1.1, hcheck.1.2, (target_stable bindableWorld_bound hrun).mpr
    fun x hx => conditions_of_meetsConditions (hcheck.2 x hx)⟩

end InitPad
