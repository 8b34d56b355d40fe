import InitPad.Approvals.ClosedRequests
import InitPad.Interleave.Sequential

/-!
# InitPad.Approvals.Rollback

What `ProjectRollback.preview` offers, against the whole history of an environment. The filter of
the database drops publications without an artifact once the environment has one, and only the 20
latest of the rest are looked at.
-/

namespace InitPad

open Store Interleave Prog

section Latest

variable {α : Type} {p : α → Bool}

theorem find?_take (l : List α) (n : Nat) :
    (l.take n).find? p = if (l.takeWhile fun a => !p a).length < n then l.find? p else none := by
  induction l generalizing n with
  | nil => simp only [List.take_nil, List.find?_nil, ite_self]
  | cons a l ih =>
    cases n with
    | zero => simp
    | succ n =>
      cases ha : p a with
      | true => simp [ha]
      | false => simp [ha, ih n]

theorem first_of_find? {r : α → α → Prop} (hrefl : ∀ a, r a a) {l : List α} (hl : l.Pairwise r)
    {a : α} (h : l.find? p = some a) : ∀ b ∈ l, p b = true → r a b := by
  induction l with
  | nil => cases h
  | cons c l ih =>
    obtain ⟨hc, hl⟩ := List.pairwise_cons.mp hl
    intro b hb hp
    cases hpc : p c with
    | true =>
      rw [List.find?_cons_of_pos hpc] at h
      cases h
      rcases List.mem_cons.mp hb with rfl | hb
      · exact hrefl b
      · exact hc b hb
    | false =>
      rw [List.find?_cons_of_neg (by simp [hpc])] at h
      rcases List.mem_cons.mp hb with rfl | hb
      · rw [hpc] at hp
        cases hp
      · exact ih hl h b hb hp

end Latest

/-! ## Publications -/

/-- A succeeded publication of the environment that can be published again: an immutable version,
not the current build, and with its artifact in the object store where that is required. -/
structure Db.Eligible (db : Db) (view : EnvironmentView) (o : DeploymentOperation) : Prop where
  row : o ∈ db.operations.rows
  environment : o.environmentId = view.environment.id
  succeeded : o.status = .succeeded
  publication : o.kind.publication = true
  candidate : db.rollbackCandidate view.environment view.durableArtifactRequired o = true

/-- The preview is the latest eligible publication, and there is none without a preview. -/
def Db.Offers (db : Db) (view : EnvironmentView) : Option RollbackPreview → Prop
  | none => ∀ o, ¬ db.Eligible view o
  | some preview => ∃ o, db.Eligible view o ∧ preview.candidateOperationId = o.id ∧
      o.version = some preview.rollbackVersion ∧
        ∀ o', db.Eligible view o' → o'.createdAt ≤ o.createdAt

/-- The database drops a publication without an artifact if the environment has one. -/
def Environment.dropped (e : Environment) (o : DeploymentOperation) : Prop :=
  e.buildArtifactId.isSome = true ∧ o.buildArtifactId = none

/-- A dropped publication is not the latest eligible one, and the first eligible publication that is
not dropped is among the 20 latest. -/
structure Db.WithinReach (db : Db) (view : EnvironmentView) : Prop where
  kept : ∀ o, db.Eligible view o → view.environment.dropped o →
    ∃ o', db.Eligible view o' ∧ ¬ view.environment.dropped o' ∧ o.createdAt ≤ o'.createdAt
  near : (∃ o, db.Eligible view o ∧ ¬ view.environment.dropped o) →
    ((db.otherPublications view.environment).takeWhile fun o =>
      !db.rollbackCandidate view.environment view.durableArtifactRequired o).length < 20

section Filter

variable {db : Db} {view : EnvironmentView} {e : Environment} {o : DeploymentOperation}

theorem excludesCurrent_iff (hversion : o.version.isSome = true)
    (hother : e.sameAsCurrent o = false) : e.excludesCurrent o = true ↔ ¬ e.dropped o := by
  unfold Environment.sameAsCurrent at hother
  unfold Environment.excludesCurrent Environment.dropped
  cases hcurrent : e.buildArtifactId with
  | some artifact =>
    rw [hcurrent] at hother
    cases hartifact : o.buildArtifactId with
    | none => simp
    | some other =>
      rw [hartifact] at hother
      simpa using hother
  | none =>
    rw [hcurrent] at hother
    obtain ⟨version, hversion⟩ := Option.isSome_iff_exists.mp hversion
    cases hdeployed : e.version with
    | none => simp
    | some deployed =>
      rw [hversion, hdeployed] at hother
      have hne : version ≠ deployed := by simpa using hother
      simp [hversion, hne]

theorem version_of_candidate {durable : Bool} (h : db.rollbackCandidate e durable o = true) :
    o.version.isSome = true ∧ e.sameAsCurrent o = false := by
  simp only [Db.rollbackCandidate, Bool.and_eq_true, Bool.not_eq_true'] at h
  obtain ⟨version, hversion, _⟩ := (Option.any_eq_true _ _).mp h.1.1
  exact ⟨Option.isSome_iff_exists.mpr ⟨version, hversion⟩, h.1.2⟩

theorem mem_otherPublications : o ∈ db.otherPublications view.environment ∧
    db.rollbackCandidate view.environment view.durableArtifactRequired o = true ↔
      db.Eligible view o ∧ ¬ view.environment.dropped o := by
  unfold Db.otherPublications Table.findMany
  rw [List.mem_insertionSort, List.mem_reverse, List.mem_filter]
  simp only [Bool.and_eq_true, beq_iff_eq]
  constructor
  · rintro ⟨⟨hrow, ⟨⟨⟨henvironment, hsucceeded⟩, hpublication⟩, _⟩, hexcludes⟩, hcandidate⟩
    obtain ⟨hversion, hother⟩ := version_of_candidate hcandidate
    exact ⟨⟨hrow, henvironment, hsucceeded, hpublication, hcandidate⟩,
      (excludesCurrent_iff hversion hother).mp hexcludes⟩
  · rintro ⟨⟨hrow, henvironment, hsucceeded, hpublication, hcandidate⟩, hkept⟩
    obtain ⟨hversion, hother⟩ := version_of_candidate hcandidate
    exact ⟨⟨hrow, ⟨⟨⟨henvironment, hsucceeded⟩, hpublication⟩, hversion⟩,
      (excludesCurrent_iff hversion hother).mpr hkept⟩, hcandidate⟩

theorem otherPublications_sorted :
    (db.otherPublications e).Pairwise fun o o' => o'.createdAt ≤ o.createdAt := by
  unfold Db.otherPublications
  have htotal : Std.Total fun (o o' : DeploymentOperation) => o'.createdAt ≤ o.createdAt :=
    ⟨fun o o' => Nat.le_total o'.createdAt o.createdAt⟩
  have htrans : IsTrans DeploymentOperation fun o o' => o'.createdAt ≤ o.createdAt :=
    ⟨fun _ _ _ h h' => Nat.le_trans h' h⟩
  exact List.pairwise_insertionSort _ _

end Filter

/-! ## The preview -/

section Preview

variable {db : Db} {view : EnvironmentView} {o : DeploymentOperation}

/-- What the search through the latest publications finds. -/
def Db.selected (db : Db) (view : EnvironmentView) : Option DeploymentOperation :=
  (db.earlierPublications view.environment).find?
    (db.rollbackCandidate view.environment view.durableArtifactRequired)

theorem selected_eq : db.selected view =
    if ((db.otherPublications view.environment).takeWhile fun o =>
        !db.rollbackCandidate view.environment view.durableArtifactRequired o).length < 20 then
      (db.otherPublications view.environment).find?
        (db.rollbackCandidate view.environment view.durableArtifactRequired)
    else none :=
  find?_take _ 20

theorem selected_some (h : db.selected view = some o) :
    db.Eligible view o ∧ ¬ view.environment.dropped o ∧ ∀ o', db.Eligible view o' →
      ¬ view.environment.dropped o' → o'.createdAt ≤ o.createdAt := by
  rw [selected_eq] at h
  split at h
  · obtain ⟨heligible, hkept⟩ :=
      mem_otherPublications.1 ⟨List.mem_of_find?_eq_some h, List.find?_some h⟩
    refine ⟨heligible, hkept, fun o' heligible' hkept' => ?_⟩
    obtain ⟨hmem, hcandidate⟩ := mem_otherPublications.2 ⟨heligible', hkept'⟩
    exact first_of_find? (fun o => Nat.le_refl o.createdAt) otherPublications_sorted h o' hmem
      hcandidate
  · cases h

theorem selected_near (h : db.selected view = some o) :
    ((db.otherPublications view.environment).takeWhile fun o =>
      !db.rollbackCandidate view.environment view.durableArtifactRequired o).length < 20 := by
  rw [selected_eq] at h
  split at h
  · assumption
  · cases h

theorem selected_none (hnear : ((db.otherPublications view.environment).takeWhile fun o =>
      !db.rollbackCandidate view.environment view.durableArtifactRequired o).length < 20)
    (h : db.selected view = none) (heligible : db.Eligible view o) : view.environment.dropped o := by
  rw [selected_eq, if_pos hnear, List.find?_eq_none] at h
  by_contra hkept
  obtain ⟨hmem, hcandidate⟩ := mem_otherPublications.2 ⟨heligible, hkept⟩
  exact h o hmem hcandidate

/-- `result` is the preview of `selected`. -/
def Previews (selected : Option DeploymentOperation) (result : Option RollbackPreview) : Prop :=
  result.map (fun preview => (preview.candidateOperationId, some preview.rollbackVersion)) =
    selected.map fun o => (o.id, o.version)

theorem offers_iff (hunique : db.operations.Unique) {result : Option RollbackPreview}
    (hresult : Previews (db.selected view) result) :
    db.Offers view result ↔ db.WithinReach view := by
  unfold Previews at hresult
  cases hselected : db.selected view with
  | none =>
    rw [hselected, Option.map_none, Option.map_eq_none_iff] at hresult
    subst hresult
    constructor
    · intro hnone
      exact ⟨fun o heligible => absurd heligible (hnone o),
        fun ⟨o, heligible, _⟩ => absurd heligible (hnone o)⟩
    · intro hreach o heligible
      have hkept : ∃ o', db.Eligible view o' ∧ ¬ view.environment.dropped o' := by
        by_cases hdropped : view.environment.dropped o
        · obtain ⟨o', heligible', hkept', _⟩ := hreach.kept o heligible hdropped
          exact ⟨o', heligible', hkept'⟩
        · exact ⟨o, heligible, hdropped⟩
      obtain ⟨o', heligible', hkept'⟩ := hkept
      exact hkept' (selected_none (hreach.near ⟨o', heligible', hkept'⟩) hselected heligible')
  | some c =>
    obtain ⟨heligible, hkept, hlatest⟩ := selected_some hselected
    rw [hselected, Option.map_some, Option.map_eq_some_iff] at hresult
    obtain ⟨preview, rfl, hpreview⟩ := hresult
    obtain ⟨hid, hversion⟩ := Prod.mk.inj hpreview
    constructor
    · rintro ⟨c', heligible', hid', _, hlatest'⟩
      -- the previewed operation is the selected one
      have hsame : c' = c := by
        have hc := hunique.find?_of_mem heligible.row
        have hc' := hunique.find?_of_mem heligible'.row
        have hkey : c'.id = c.id := hid'.symm.trans hid
        change db.operations.find? c.id = some c at hc
        change db.operations.find? c'.id = some c' at hc'
        rw [hkey, hc] at hc'
        exact (Option.some.inj hc').symm
      subst hsame
      exact ⟨fun o heligible'' _ => ⟨c', heligible, hkept, hlatest' o heligible''⟩,
        fun _ => selected_near hselected⟩
    · intro hreach
      refine ⟨c, heligible, hid, hversion.symm, fun o heligible' => ?_⟩
      by_cases hdropped : view.environment.dropped o
      · obtain ⟨o', heligible'', hkept', hle⟩ := hreach.kept o heligible' hdropped
        exact Nat.le_trans hle (hlatest o' heligible'' hkept')
      · exact hlatest o heligible' hdropped

end Preview

theorem ends_read {β : Type} {f : ApprovalWorld → Except Err β} {m m' : ApprovalMoment} {b : β}
    (h : Ends (read f) m (.ok b) m') : f m.state = .ok b ∧ m'.state = m.state := by
  obtain ⟨i, hi, rfl⟩ := ends_await.mp h
  refine ⟨?_, state_of_reads rfl i m.state⟩
  change _ = (if i.fault && !false then (.error .databaseFault, m.state) else (f m.state, m.state) :
    Except Err β × ApprovalWorld).1 at hi
  split at hi
  · cases hi
  · exact hi.symm

theorem previews_of_ends {tokens : StateTokens} {projectId : Id} {name : EnvName}
    {m m' : ApprovalMoment} {view : EnvironmentView} {result : Option RollbackPreview}
    (hview : m.state.base.db.findEnvironmentView projectId name = some view)
    (hidle : view.environment.activeOperationId = none)
    (h : Ends (rollbackPreview tokens projectId name) m (.ok result) m') :
    Previews (m.state.base.db.selected view) result := by
  obtain ⟨found, m₁, hfound, h⟩ := ends_bind_ok.mp h
  obtain ⟨hfound, hstate⟩ := ends_read hfound
  rw [hview] at hfound
  cases hfound
  dsimp only at h
  rw [if_neg (by simp [hidle])] at h
  obtain ⟨candidate, m₂, hcandidate, h⟩ := ends_bind_ok.mp h
  obtain ⟨hcandidate, _⟩ := ends_read hcandidate
  rw [hstate, Except.ok.injEq] at hcandidate
  unfold Previews
  change (m.state.base.db.selected view).map _ = _ at hcandidate
  cases hselected : m.state.base.db.selected view with
  | none =>
    rw [hselected] at hcandidate
    subst hcandidate
    obtain ⟨hr, _⟩ := ends_pure.mp h
    cases hr
    rfl
  | some o =>
    rw [hselected] at hcandidate
    subst hcandidate
    obtain ⟨hr, _⟩ := ends_pure.mp h
    cases hr
    obtain ⟨hversion, _⟩ := version_of_candidate (selected_some hselected).1.candidate
    obtain ⟨version, hversion⟩ := Option.isSome_iff_exists.mp hversion
    simp [hversion]

/-- The preview is the latest eligible publication of the whole history, and missing only without
one, exactly if the history is `WithinReach`. -/
theorem rollback_preview {tokens : StateTokens} {projectId : Id} {name : EnvName}
    {m m' : ApprovalMoment} {view : EnvironmentView} {result : Option RollbackPreview}
    (hunique : m.state.base.db.operations.Unique)
    (hview : m.state.base.db.findEnvironmentView projectId name = some view)
    (hidle : view.environment.activeOperationId = none)
    (h : Ends (rollbackPreview tokens projectId name) m (.ok result) m') :
    m.state.base.db.Offers view result ↔ m.state.base.db.WithinReach view :=
  offers_iff hunique (previews_of_ends hview hidle h)

/-! An environment with the artifact `5` whose history is one publication. -/

def samplePublication (artifact : Option Id) : DeploymentOperation :=
  { sampleOperation .ciDeploy with
    status := .succeeded
    version := some (String.ofList (List.replicate 40 'b'))
    buildArtifactId := artifact }

def publishedWorld (artifact : Option Id) : ApprovalWorld where
  base := sampleWorld { sampleEnvironment with buildArtifactId := some 5 } [samplePublication artifact]

def publishedView : EnvironmentView where
  environment := { sampleEnvironment with buildArtifactId := some 5 }
  target := none
  allocation := none
  artifact := none
  project := sampleProject

theorem publishedWorld_unique (artifact : Option Id) :
    (publishedWorld artifact).base.db.operations.Unique :=
  List.nodup_singleton _

theorem samplePublication_eligible :
    (publishedWorld none).base.db.Eligible publishedView (samplePublication none) where
  row := List.mem_singleton.mpr rfl
  environment := rfl
  succeeded := rfl
  publication := rfl
  candidate := by decide

/-- A publication of another artifact is offered. -/
theorem rollback_preview_offers : ∃ (m' : ApprovalMoment) (preview : RollbackPreview),
    Ends (rollbackPreview sampleTokens 0 .dev) (⟨publishedWorld (some 6), []⟩ : ApprovalMoment)
      (.ok (some preview)) m' ∧
        (publishedWorld (some 6)).base.db.Offers publishedView (some preview) := by
  obtain ⟨r, m', hends, hcheck⟩ := ends_of_performs (rollbackPreview sampleTokens 0 .dev) [{}, {}]
    (⟨publishedWorld (some 6), []⟩ : ApprovalMoment)
    (fun r _ => r.toOption.any Option.isSome) (by decide)
  have hreach : (publishedWorld (some 6)).base.db.WithinReach publishedView := by
    refine ⟨fun o heligible hdropped => ?_, fun _ => by decide⟩
    rw [List.mem_singleton.mp heligible.row] at hdropped
    cases hdropped.2
  cases r with
  | error => cases hcheck
  | ok result =>
    obtain ⟨preview, rfl⟩ := Option.isSome_iff_exists.mp hcheck
    exact ⟨m', preview, hends,
      (rollback_preview (publishedWorld_unique _) rfl rfl hends).mpr hreach⟩

/-- A publication without an artifact is not offered. -/
theorem rollback_preview_drops : ¬ ∀ (tokens : StateTokens) (projectId : Id) (name : EnvName)
    (m m' : ApprovalMoment) (view : EnvironmentView) (result : Option RollbackPreview),
      m.state.base.db.operations.Unique →
        m.state.base.db.findEnvironmentView projectId name = some view →
          view.environment.activeOperationId = none →
            Ends (rollbackPreview tokens projectId name) m (.ok result) m' →
              m.state.base.db.Offers view result := by
  intro h
  obtain ⟨r, m', hends, hcheck⟩ := ends_of_performs (rollbackPreview sampleTokens 0 .dev) [{}, {}]
    (⟨publishedWorld none, []⟩ : ApprovalMoment)
    (fun r _ => r.toOption.any Option.isNone) (by decide)
  cases r with
  | error => cases hcheck
  | ok result =>
    cases result with
    | some => cases hcheck
    | none =>
      have hnone : ∀ o, ¬ (publishedWorld none).base.db.Eligible publishedView o :=
        h sampleTokens 0 .dev ⟨publishedWorld none, []⟩ m' publishedView none
          (publishedWorld_unique none) rfl rfl hends
      exact hnone _ samplePublication_eligible

end InitPad
