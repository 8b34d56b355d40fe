import InitPad.Ci.History
import InitPad.Wire.Ip
import Mathlib.Data.List.Nodup

/-!
# InitPad.Ci.RunAgain

`runAgain` reuses a version whose build was published, unless the last attempt of a Gitea project is
one without an artifact. Versions, operations and artifacts belong together in every history.
-/

namespace InitPad.Ci

namespace History

variable {s s' : History} {v : Version} {version : Option Version} {artifact : Option Nat}

/-! ## What belongs together -/

/-- Rows and builds of `s` are still there. -/
structure Extends (s s' : History) : Prop where
  provider : s'.provider = s.provider
  artifacts : ∀ a ∈ s.artifacts, ∃ a' ∈ s'.artifacts, a'.id = a.id ∧ a'.commitSha = a.commitSha
  stored : ∀ v ∈ s.stored, v ∈ s'.stored

structure Paired (s : History) (version : Option Version) (artifact : Option Nat) : Prop where
  commit : ∀ v, version = some v → isCommit v = true
  artifact : ∀ id, artifact = some id → ∃ v, version = some v ∧
    (∃ a ∈ s.artifacts, a.id = id ∧ a.commitSha = lower v) ∧
      (s.provider = .gitea → lower v ∈ s.stored)

theorem Extends.refl (s : History) : Extends s s :=
  ⟨rfl, fun a ha => ⟨a, ha, rfl, rfl⟩, fun _ hv => hv⟩

theorem Paired.mono (h : Paired s version artifact) (hext : Extends s s') :
    Paired s' version artifact where
  commit := h.commit
  artifact := fun id hid => by
    obtain ⟨v, hv, ⟨a, ha, haid, hsha⟩, hstored⟩ := h.artifact id hid
    obtain ⟨a', ha', hid', hsha'⟩ := hext.artifacts a ha
    exact ⟨v, hv, ⟨a', ha', hid'.trans haid, hsha'.trans hsha⟩, fun hgitea =>
      hext.stored _ (hstored (hext.provider.symm.trans hgitea))⟩

theorem Paired.none (s : History) (h : ∀ v, version = some v → isCommit v = true) :
    Paired s version none := ⟨h, fun id hid => by cases hid⟩

/-- The ids count up, from the oldest operation. -/
def Numbered (operations : List Operation) : Prop :=
  operations.map (·.id) = (List.range operations.length).reverse

theorem Numbered.cons {operations : List Operation} {o : Operation} (h : Numbered operations)
    (ho : o.id = operations.length) : Numbered (o :: operations) := by
  unfold Numbered at h ⊢
  rw [List.map_cons, List.length_cons, List.range_succ, List.reverse_append, h, ho]
  rfl

theorem Numbered.update {operations : List Operation} {id : Nat} {change : Operation → Operation}
    (h : Numbered operations) (hchange : ∀ o, (change o).id = o.id) :
    Numbered (operations.map fun o => if o.id = id then change o else o) := by
  unfold Numbered at h ⊢
  rw [List.map_map, List.length_map, ← h]
  refine List.map_congr_left fun o _ => ?_
  dsimp only [Function.comp_apply]
  split
  · exact hchange o
  · rfl

theorem Numbered.eq {operations : List Operation} {o o' : Operation} (h : Numbered operations)
    (ho : o ∈ operations) (ho' : o' ∈ operations) (hid : o.id = o'.id) : o = o' :=
  List.inj_on_of_nodup_map (h ▸ List.nodup_reverse.mpr List.nodup_range) ho ho' hid

structure Consistent (s : History) : Prop where
  numbered : Numbered s.operations
  operations : ∀ o ∈ s.operations, Paired s o.version o.buildArtifactId
  dev : Paired s s.dev.version s.dev.buildArtifactId
  requested : ∀ r ∈ s.requested, Paired s r.version r.buildArtifactId
  commits : ∀ a ∈ s.artifacts, ∀ a' ∈ s.artifacts, a.id = a'.id → a.commitSha = a'.commitSha
  available : ∀ a ∈ s.artifacts, a.available = true → a.commitSha ∈ s.stored

theorem Consistent.of_rows (h : Consistent s) (hprovider : s'.provider = s.provider)
    (hartifacts : s'.artifacts = s.artifacts) (hstored : s'.stored = s.stored)
    (hnumbered : Numbered s'.operations)
    (hoperations : ∀ o ∈ s'.operations, Paired s o.version o.buildArtifactId)
    (hdev : Paired s s'.dev.version s'.dev.buildArtifactId)
    (hrequested : ∀ r ∈ s'.requested, Paired s r.version r.buildArtifactId) : Consistent s' := by
  have hext : Extends s s' := by
    refine ⟨hprovider, fun a ha => ⟨a, ?_, rfl, rfl⟩, fun v hv => ?_⟩
    · rw [hartifacts]
      exact ha
    · rw [hstored]
      exact hv
  refine ⟨hnumbered, fun o ho => (hoperations o ho).mono hext, hdev.mono hext,
    fun r hr => (hrequested r hr).mono hext, ?_, ?_⟩
  · rw [hartifacts]
    exact h.commits
  · rw [hartifacts, hstored]
    exact h.available

theorem consistent_created (provider : ScmKind) (imported : Bool) :
    Consistent (created provider imported) where
  numbered := rfl
  operations := fun o ho => by cases ho
  dev := .none _ fun v hv => by cases hv
  requested := fun r hr => by cases hr
  commits := fun a ha => by cases ha
  available := fun a ha => by cases ha

/-! ## What `runAgain` decides -/

/-- Dev has no operation, and nothing runs. -/
def Idle (s : History) : Prop :=
  s.dev.activeOperationId = none ∧ (s.dev.status = .empty ∨ s.dev.status = .failed)

/-- No newer operation than `o` is one that can be reused. -/
def LastReusable (s : History) (o : Operation) : Prop :=
  ∃ newer older, s.operations = newer ++ o :: older ∧ isReusable o = true ∧
    ∀ o' ∈ newer, isReusable o' = false

theorem reusableOperation_eq_some {o : Operation} :
    s.reusableOperation = some o ↔ LastReusable s o := by
  unfold History.reusableOperation LastReusable
  rw [List.find?_eq_some_iff_append]
  constructor
  · rintro ⟨ho, newer, older, heq, hnewer⟩
    exact ⟨newer, older, heq, ho, fun o' ho' => by simpa using hnewer o' ho'⟩
  · rintro ⟨newer, older, heq, ho, hnewer⟩
    exact ⟨ho, newer, older, heq, fun o' ho' => by simpa using hnewer o' ho'⟩

theorem LastReusable.mem {o : Operation} (h : LastReusable s o) : o ∈ s.operations := by
  obtain ⟨newer, older, heq, -, -⟩ := h
  rw [heq]
  exact List.mem_append_right _ List.mem_cons_self

theorem startCi_eq_ok {answers : Answers} {decision : Decision}
    (h : s.startCi answers = .ok decision) : ∃ sha, isCommit sha = true ∧
      (decision = .recover sha ∧ s.provider = .github ∧ answers.artifactFound = true ∨
        decision = .ciRetry sha) := by
  unfold History.startCi at h
  split at h
  · cases h
  · rename_i sha hsha
    refine ⟨sha, (Option.filter_eq_some_iff.mp hsha).2, ?_⟩
    split at h
    · rename_i hgithub
      split at h
      · rename_i hfound
        cases h
        exact .inl ⟨rfl, beq_iff_eq.mp hgithub, hfound⟩
      · split at h
        · cases h
          exact .inr rfl
        · cases h
    · cases h
      exact .inr rfl

theorem runAgain_eq_ok {answers : Answers} {decision : Decision}
    (h : s.runAgain answers = .ok decision) : Idle s ∧ (s.startCi answers = .ok decision ∨
      ∃ o v, LastReusable s o ∧ o.version = some v ∧ s.canReuseArtifact answers o v = true ∧
        decision = .reuse (if o.status == .succeeded then .redeploy else .retry) v
          o.buildArtifactId) := by
  unfold History.runAgain at h
  split at h
  · cases h
  · rename_i hidle
    refine ⟨?_, ?_⟩
    · simpa [Idle, or_iff_not_imp_left] using hidle
    · split at h
      · exact .inl h
      · rename_i o ho
        split at h
        · exact .inl h
        · rename_i v hv
          split at h
          · rename_i hreuse
            cases h
            exact .inr ⟨o, v, reusableOperation_eq_some.1 ho,
              (Option.filter_eq_some_iff.mp hv).1, hreuse, rfl⟩
          · exact .inl h

theorem runAgain_of_reuse {answers : Answers} {o : Operation} (hidle : Idle s)
    (ho : LastReusable s o) (hv : o.version = some v) (hne : v ≠ [])
    (hreuse : s.canReuseArtifact answers o v = true) :
    s.runAgain answers = .ok
      (.reuse (if o.status == .succeeded then .redeploy else .retry) v o.buildArtifactId) := by
  have hfilter : o.version.filter (fun version => !version.isEmpty) = some v :=
    Option.filter_eq_some_iff.mpr ⟨hv, by simpa using hne⟩
  unfold History.runAgain
  rw [if_neg (by simpa [Idle, or_iff_not_imp_left] using hidle),
    reusableOperation_eq_some.2 ho]
  dsimp only
  rw [hfilter]
  dsimp only
  rw [if_pos hreuse]

/-! ## Every event keeps it -/

theorem Consistent.request {r : Request} (h : Consistent s)
    (hr : Paired s r.version r.buildArtifactId) : Consistent (s.request r) :=
  h.of_rows rfl rfl rfl h.numbered h.operations h.dev fun r' hr' => by
    rcases List.mem_cons.mp hr' with rfl | hr'
    · exact hr
    · exact h.requested r' hr'

theorem Consistent.setDev {dev : Dev} (h : Consistent s)
    (hdev : Paired s dev.version dev.buildArtifactId) : Consistent (s.setDev dev) :=
  h.of_rows rfl rfl rfl h.numbered h.operations hdev h.requested

theorem Consistent.updateOperation {id : Nat} {change : Operation → Operation} (h : Consistent s)
    (hid : ∀ o, (change o).id = o.id) (hchange : ∀ o ∈ s.operations, o.id = id →
      Paired s (change o).version (change o).buildArtifactId) :
    Consistent (s.updateOperation id change) := by
  refine h.of_rows rfl rfl rfl (h.numbered.update hid) (fun o ho => ?_) h.dev h.requested
  obtain ⟨o', ho', rfl⟩ := List.mem_map.mp ho
  split
  · exact hchange o' ho' ‹_›
  · exact h.operations o' ho'

theorem operation?_mem {id : Nat} {o : Operation} (h : s.operation? id = some o) :
    o ∈ s.operations ∧ o.id = id :=
  ⟨List.mem_of_find?_eq_some h, beq_iff_eq.mp (List.find?_some (p := fun o : Operation => o.id == id) h)⟩

theorem Consistent.begin {r : Request} (h : Consistent s)
    (hr : Paired s r.version r.buildArtifactId) : Consistent (s.begin r) := by
  refine h.of_rows rfl rfl rfl (h.numbered.cons rfl) (fun o ho => ?_) ?_ h.requested
  · rcases List.mem_cons.mp ho with rfl | ho
    · exact hr
    · exact h.operations o ho
  · unfold History.begin
    dsimp only
    split
    · exact h.dev
    · exact h.dev

theorem isHexChar_toLower (c : Char) (h : isHexChar c = true) : isHexChar c.toLower = true := by
  have hall : ∀ n : Fin 128, isHexChar (Char.ofNat n) = true →
      isHexChar (Char.ofNat n).toLower = true := by decide
  rcases Ip.toLower_cases c with hsame | ⟨n, rfl⟩
  · rw [hsame]
    exact h
  · exact hall n h

theorem isCommit_lower (h : isCommit v = true) : isCommit (lower v) = true := by
  obtain ⟨hlength, hall⟩ := (Bool.and_eq_true _ _).mp h
  refine (Bool.and_eq_true _ _).mpr ⟨?_, List.all_eq_true.mpr fun c hc => ?_⟩
  · rw [lower, List.length_map]
    exact hlength
  · obtain ⟨c', hc', rfl⟩ := List.mem_map.mp hc
    exact isHexChar_toLower c' (List.all_eq_true.mp hall c' hc')

theorem Consistent.publishCiFailure {sha : Version} {isRetry : Bool} (h : Consistent s) :
    Consistent (s.publishCiFailure sha isRetry) := by
  unfold History.publishCiFailure
  split
  · exact h
  · rename_i hcommit
    split
    · split
      · exact h
      · rename_i o _
        have hfailed : Consistent (s.updateOperation o.id fun o => { o with status := .failed }) :=
          h.updateOperation (fun _ => rfl) fun o ho _ => h.operations o ho
        exact hfailed.of_rows rfl rfl rfl hfailed.numbered hfailed.operations hfailed.dev hfailed.requested
    · split
      · exact h
      · refine h.of_rows rfl rfl rfl (h.numbered.cons rfl) (fun o ho => ?_) ?_ h.requested
        · rcases List.mem_cons.mp ho with rfl | ho
          · refine .none _ fun v hv => ?_
            cases hv
            exact isCommit_lower (by simpa using hcommit)
          · exact h.operations o ho
        · dsimp only
          split
          · exact h.dev
          · exact h.dev

theorem Consistent.deployFromCi {sha : Version} {isRetry duplicate : Bool} (h : Consistent s) :
    Consistent (s.deployFromCi sha isRetry duplicate) := by
  unfold History.deployFromCi
  split
  · exact h
  · rename_i hcommit
    have hsucceeded : Consistent { s with succeeded := lower sha :: s.succeeded } :=
      h.of_rows rfl rfl rfl h.numbered h.operations h.dev h.requested
    dsimp only
    split
    · exact hsucceeded
    · refine Consistent.request (hsucceeded.of_rows rfl rfl rfl hsucceeded.numbered
        hsucceeded.operations hsucceeded.dev hsucceeded.requested) (.none _ fun v hv => ?_)
      cases hv
      simpa using hcommit

theorem Consistent.withArtifact {id : Nat} {sha : Version} (h : Consistent s)
    (heq : s.withArtifact id sha = some s') :
    Consistent s' ∧ Extends s s' ∧ s'.operations = s.operations ∧
      ∃ a ∈ s'.artifacts, a.id = id ∧ a.commitSha = sha := by
  unfold History.withArtifact at heq
  cases hfind : s.artifacts.find? (·.id == id) with
  | some a =>
    rw [hfind] at heq
    obtain ⟨hsha, hsome⟩ := Option.ite_none_right_eq_some.mp heq
    obtain rfl := Option.some.inj hsome
    exact ⟨h, .refl s, rfl, a, List.mem_of_find?_eq_some hfind,
      beq_iff_eq.mp (List.find?_some (p := fun a : Artifact => a.id == id) hfind), hsha⟩
  | none =>
    rw [hfind] at heq
    obtain rfl := Option.some.inj heq
    have hnew : ∀ a ∈ s.artifacts, a.id ≠ id := fun a ha hid =>
      List.find?_eq_none.mp hfind a ha (beq_iff_eq.mpr hid)
    have hext : Extends s { s with artifacts := ⟨id, sha, false⟩ :: s.artifacts } :=
      ⟨rfl, fun a ha => ⟨a, List.mem_cons_of_mem _ ha, rfl, rfl⟩, fun _ hv => hv⟩
    refine ⟨⟨h.numbered, fun o ho => (h.operations o ho).mono hext, h.dev.mono hext,
      fun r hr => (h.requested r hr).mono hext, fun a ha a' ha' hid => ?_, fun a ha havailable => ?_⟩,
      hext, rfl, _, List.mem_cons_self, rfl, rfl⟩
    · rcases List.mem_cons.mp ha with rfl | ha <;> rcases List.mem_cons.mp ha' with rfl | ha'
      · rfl
      · exact absurd hid.symm (hnew a' ha')
      · exact absurd hid (hnew a ha)
      · exact h.commits a ha a' ha' hid
    · rcases List.mem_cons.mp ha with rfl | ha
      · cases havailable
      · exact h.available a ha havailable

theorem Consistent.mapArtifacts {change : Artifact → Artifact} {stored : List Version}
    (h : Consistent s) (hchange : ∀ a, (change a).id = a.id ∧ (change a).commitSha = a.commitSha)
    (hstored : ∀ v ∈ s.stored, v ∈ stored)
    (havailable : ∀ a ∈ s.artifacts, (change a).available = true → a.commitSha ∈ stored) :
    Consistent { s with artifacts := s.artifacts.map change, stored := stored } ∧
      Extends s { s with artifacts := s.artifacts.map change, stored := stored } := by
  have hext : Extends s { s with artifacts := s.artifacts.map change, stored := stored } :=
    ⟨rfl, fun a ha => ⟨_, List.mem_map_of_mem ha, hchange a⟩, hstored⟩
  refine ⟨⟨h.numbered, fun o ho => (h.operations o ho).mono hext, h.dev.mono hext,
    fun r hr => (h.requested r hr).mono hext, fun a ha a' ha' hid => ?_, fun a ha ha' => ?_⟩, hext⟩
  · obtain ⟨b, hb, rfl⟩ := List.mem_map.mp ha
    obtain ⟨b', hb', rfl⟩ := List.mem_map.mp ha'
    rw [(hchange b).2, (hchange b').2]
    exact h.commits b hb b' hb' (((hchange b).1.symm.trans hid).trans (hchange b').1)
  · obtain ⟨b, hb, rfl⟩ := List.mem_map.mp ha
    rw [(hchange b).2]
    exact havailable b hb ha'

theorem Consistent.store {id : Nat} (h : Consistent s) :
    Consistent (s.store id) ∧ Extends s (s.store id) := by
  refine h.mapArtifacts (fun a => ?_) (fun v hv => List.mem_append_right _ hv) fun a ha hnow => ?_
  · split
    · exact ⟨rfl, rfl⟩
    · exact ⟨rfl, rfl⟩
  · by_cases hid : a.id = id
    · refine List.mem_append_left _ (List.mem_map.mpr ⟨a, List.mem_filter.mpr ⟨ha, ?_⟩, rfl⟩)
      exact beq_iff_eq.mpr hid
    · rw [if_neg hid] at hnow
      exact List.mem_append_right _ (h.available a ha hnow)

theorem stored_store {id : Nat} {a : Artifact} (ha : a ∈ s.artifacts) (hid : a.id = id) :
    a.commitSha ∈ (s.store id).stored :=
  List.mem_append_left _
    (List.mem_map.mpr ⟨a, List.mem_filter.mpr ⟨ha, beq_iff_eq.mpr hid⟩, rfl⟩)

theorem Consistent.bind {id : Nat} {o : Operation} {a : Artifact} (h : Consistent s)
    (ho : o ∈ s.operations) (hv : o.version = some v) (ha : a ∈ s.artifacts) (hid : a.id = id)
    (hsha : a.commitSha = lower v) (hstored : s.provider = .gitea → lower v ∈ s.stored) :
    Consistent (s.bind o.id id) := by
  refine h.updateOperation (fun _ => rfl) fun o' ho' hid' => ?_
  obtain rfl := h.numbered.eq ho' ho hid'
  refine ⟨(h.operations o' ho').commit, fun id' hid' => ?_⟩
  obtain rfl := Option.some.inj hid'
  exact ⟨v, hv, ⟨a, ha, hid, hsha⟩, hstored⟩

theorem withArtifact_eq_some {operationId artifactId : Nat}
    (h : (((s.operation? operationId).bind (·.version)).bind fun version =>
      s.withArtifact artifactId (lower version)) = some s') :
    ∃ o ∈ s.operations, o.id = operationId ∧
      ∃ v, o.version = some v ∧ s.withArtifact artifactId (lower v) = some s' := by
  obtain ⟨v, hv, hs'⟩ := Option.bind_eq_some_iff.mp h
  obtain ⟨o, ho, hv⟩ := Option.bind_eq_some_iff.mp hv
  exact ⟨o, (operation?_mem ho).1, (operation?_mem ho).2, v, hv, hs'⟩

theorem consistent_devRequest {kind : OperationKind} {r : Request} (h : Consistent s)
    (heq : s.devRequest kind = some r) : Paired s r.version r.buildArtifactId := by
  unfold History.devRequest at heq
  split at heq
  · obtain ⟨v, hv, rfl⟩ := Option.map_eq_some_iff.mp heq
    exact hv ▸ h.dev
  · obtain ⟨v, hv, rfl⟩ := Option.map_eq_some_iff.mp heq
    exact .none _ (hv ▸ h.dev.commit)
  · obtain rfl := Option.some.inj heq
    exact h.dev
  · obtain rfl := Option.some.inj heq
    exact h.dev
  · cases heq

theorem consistent_cleanupRequest {o : Operation} {r : Request} (h : Consistent s)
    (ho : o ∈ s.operations) (heq : s.cleanupRequest o = some r) :
    Paired s r.version r.buildArtifactId := by
  obtain ⟨hcond, hsome⟩ := Option.ite_none_right_eq_some.mp heq
  obtain rfl := Option.some.inj hsome
  have hpaired := h.operations o ho
  cases hartifact : o.buildArtifactId with
  | some id =>
    -- The artifact is of the version of the operation, so there is one.
    obtain ⟨v, hv, -⟩ := hpaired.artifact id hartifact
    rw [hv, hartifact] at hpaired
    simpa [hv, hartifact] using hpaired
  | none =>
    have hsame : o.version = s.dev.version := by simpa [hartifact] using hcond
    simpa [hsame, hartifact] using h.dev

theorem consistent_decision {answers : Answers} {decision : Decision} (h : Consistent s)
    (heq : s.runAgain answers = .ok decision) :
    Paired s decision.request.version decision.request.buildArtifactId := by
  rcases (runAgain_eq_ok heq).2 with hstart | ⟨o, v, ho, hv, -, rfl⟩
  · obtain ⟨sha, hsha, ⟨rfl, -⟩ | rfl⟩ := startCi_eq_ok hstart
    · exact .none _ fun v hv => Option.some.inj hv ▸ hsha
    · exact .none _ fun v hv => Option.some.inj hv ▸ hsha
  · have hpaired := h.operations o ho.mem
    rw [hv] at hpaired
    exact hpaired

/-! ## Every run keeps it -/

theorem consistent_apply {event : Event} (h : Consistent s) : Consistent (s.apply event) := by
  cases event with
  | ciSucceeded sha isRetry duplicate => exact h.deployFromCi
  | ciFailed sha isRetry => exact h.publishCiFailure
  | runAgain answers =>
    unfold History.apply
    dsimp only
    split
    · rename_i decision hdecision
      exact h.request (consistent_decision h hdecision)
    · exact h
  | requested kind =>
    unfold History.apply
    dsimp only
    cases hr : s.devRequest kind with
    | none => exact h
    | some r => exact h.request (consistent_devRequest h hr)
  | rollbackRequested operationId =>
    unfold History.apply
    dsimp only
    split
    · rename_i o ho
      split
      · exact h.request (h.operations o (operation?_mem ho).1)
      · exact h
    · exact h
  | cleanupRequested operationId =>
    unfold History.apply
    dsimp only
    cases hr : (s.operation? operationId).bind s.cleanupRequest with
    | none => exact h
    | some r =>
      obtain ⟨o, ho, hr⟩ := Option.bind_eq_some_iff.mp hr
      exact h.request (consistent_cleanupRequest h (operation?_mem ho).1 hr)
  | began r =>
    unfold History.apply
    dsimp only
    split
    · rename_i hr
      have herased : Consistent { s with requested := s.requested.erase r } :=
        h.of_rows rfl rfl rfl h.numbered h.operations h.dev fun r' hr' => h.requested r' (List.mem_of_mem_erase hr')
      exact herased.begin ((h.requested r hr).mono ⟨rfl, fun a ha => ⟨a, ha, rfl, rfl⟩, fun _ hv => hv⟩)
    · exact h
  | rejected r =>
    exact h.of_rows rfl rfl rfl h.numbered h.operations h.dev fun r' hr' => h.requested r' (List.mem_of_mem_erase hr')
  | ended operationId status =>
    refine h.updateOperation (fun o => ?_) fun o ho _ => ?_
    · split
      · rfl
      · rfl
    · split
      · exact h.operations o ho
      · exact h.operations o ho
  | published operationId status =>
    unfold History.apply
    dsimp only
    split
    · rename_i o ho
      exact h.setDev (h.operations o (operation?_mem ho).1)
    · exact h
  | emptied => exact h.setDev (.none _ fun v hv => by cases hv)
  | devChanged status => exact h.setDev h.dev
  | unlocked => exact h.setDev h.dev
  | retargeted agentBacked => exact h.setDev h.dev
  | accepted operationId artifactId =>
    unfold History.apply
    dsimp only
    split
    · rename_i hgithub
      cases hs : (((s.operation? operationId).bind (·.version)).bind fun version =>
          s.withArtifact artifactId (lower version)) with
      | none => exact h
      | some s' =>
        obtain ⟨o, ho, rfl, v, hv, hs'⟩ := withArtifact_eq_some hs
        obtain ⟨hs', hext, hoperations, a, ha, hid, hsha⟩ := h.withArtifact hs'
        refine hs'.bind (hoperations ▸ ho) hv ha hid hsha fun hgitea => ?_
        rw [hext.provider.symm.trans hgitea] at hgithub
        cases hgithub
    · exact h
  | captured operationId artifactId =>
    unfold History.apply
    dsimp only
    cases hs : (((s.operation? operationId).bind (·.version)).bind fun version =>
        s.withArtifact artifactId (lower version)) with
    | none => exact h
    | some s' =>
      obtain ⟨o, ho, rfl, v, hv, hs'⟩ := withArtifact_eq_some hs
      obtain ⟨hs', hext, hoperations, a, ha, hid, hsha⟩ := h.withArtifact hs'
      obtain ⟨a', ha', hid', hsha'⟩ := hs'.store.2.artifacts a ha
      exact hs'.store.1.bind (hoperations ▸ ho) hv ha' (hid'.trans hid) (hsha'.trans hsha)
        fun _ => hsha ▸ stored_store ha hid
  | acceptedAlone artifactId sha =>
    unfold History.apply
    dsimp only
    cases hs : s.withArtifact artifactId (lower sha) with
    | none => exact h
    | some s' => exact (h.withArtifact hs).1
  | stored artifactId => exact h.store.1
  | lost artifactId =>
    refine (h.mapArtifacts (fun a => ?_) (fun v hv => hv) fun a ha hnow => ?_).1
    · split
      · exact ⟨rfl, rfl⟩
      · exact ⟨rfl, rfl⟩
    · split at hnow
      · cases hnow
      · exact h.available a ha hnow

theorem consistent_run (events : List Event) (h : Consistent s) : Consistent (s.run events) := by
  induction events generalizing s with
  | nil => exact h
  | cons event events ih => exact ih (consistent_apply h)

/-! ## Builds that were published -/

/-- Dev can run again on Gitea, and what it reuses is an attempt without an artifact, of a version
whose build was never published. -/
def RepeatsFailedBuild (s : History) : Prop :=
  Idle s ∧ s.provider = .gitea ∧ ∃ o v, LastReusable s o ∧ o.version = some v ∧
    o.buildArtifactId = none ∧ ¬ s.Published v

theorem published_of_reuse {answers : Answers} {o : Operation} (h : Consistent s)
    (ho : o ∈ s.operations) (hv : o.version = some v)
    (hreuse : s.canReuseArtifact answers o v = true)
    (hartifact : s.provider = .gitea → o.buildArtifactId ≠ none) : s.Published v := by
  have hpaired := h.operations o ho
  refine .inr ?_
  cases hprovider : s.provider with
  | gitea =>
    obtain ⟨id, hid⟩ := Option.ne_none_iff_exists'.mp (hartifact hprovider)
    obtain ⟨v', hv', -, hstored⟩ := hpaired.artifact id hid
    obtain rfl := Option.some.inj (hv.symm.trans hv')
    exact hstored hprovider
  | github =>
    unfold History.canReuseArtifact at hreuse
    rw [if_neg (by simp [hprovider, hpaired.commit v hv])] at hreuse
    obtain ⟨id, hid, hany⟩ := (Option.any_eq_true _ _).mp hreuse
    obtain ⟨a, ha, hmatch⟩ := List.any_eq_true.mp ((Bool.and_eq_true _ _).mp hany).1
    obtain ⟨haid, havailable⟩ := (Bool.and_eq_true _ _).mp hmatch
    obtain ⟨v', hv', ⟨a', ha', hid', hsha⟩, -⟩ := hpaired.artifact id hid
    obtain rfl := Option.some.inj (hv.symm.trans hv')
    have hcommit := h.commits a ha a' ha' ((beq_iff_eq.mp haid).trans hid'.symm)
    exact (hcommit.trans hsha) ▸ h.available a ha havailable

theorem RepeatsFailedBuild.runAgain (h : RepeatsFailedBuild s) (hs : Consistent s)
    (answers : Answers) : ∃ kind v, s.runAgain answers = .ok (.reuse kind v none) ∧
      ¬ s.Published v := by
  obtain ⟨hidle, hgitea, o, v, ho, hv, hartifact, hpublished⟩ := h
  have hne : v ≠ [] := fun hnil => by
    have hcommit := (hs.operations o ho.mem).commit v hv
    rw [hnil] at hcommit
    cases hcommit
  have hreuse : s.canReuseArtifact answers o v = true := by
    unfold History.canReuseArtifact
    rw [if_pos (by simp [hgitea])]
  exact ⟨_, v, hartifact ▸ runAgain_of_reuse hidle ho hv hne hreuse, hpublished⟩

end History

/-- What a decision rests on. -/
def Decision.Founded (s : History) (answers : Answers) : Decision → Prop
  | .reuse _ version _ => s.Published version
  | .recover _ => answers.artifactFound = true
  | .ciRetry _ => True

/-- Whatever SCM, store and daemon answer, a version without a published build is deployed again. -/
def History.Stuck (s : History) : Prop :=
  ∀ answers, ∃ kind version artifact,
    s.runAgain answers = .ok (.reuse kind version artifact) ∧ ¬ s.Published version

/-- `runAgain` rests on a build or a CI run, and is not bound to repeat what cannot succeed. -/
def History.RunsAgain (s : History) : Prop :=
  (∀ answers decision, s.runAgain answers = .ok decision → decision.Founded s answers) ∧ ¬ s.Stuck

theorem runs_again_iff (provider : ScmKind) (imported : Bool) (events : List Event) :
    ((created provider imported).run events).RunsAgain ↔
      ¬ ((created provider imported).run events).RepeatsFailedBuild := by
  have hs := History.consistent_run events (History.consistent_created provider imported)
  constructor
  · rintro ⟨-, hstuck⟩ hrepeats
    refine hstuck fun answers => ?_
    obtain ⟨kind, v, heq, hpublished⟩ := hrepeats.runAgain hs answers
    exact ⟨kind, v, none, heq, hpublished⟩
  · intro hrepeats
    have hfounded : ∀ answers decision,
        ((created provider imported).run events).runAgain answers = .ok decision →
          decision.Founded ((created provider imported).run events) answers := by
      intro answers decision hdecision
      obtain ⟨hidle, hstart | ⟨o, v, ho, hv, hreuse, rfl⟩⟩ := History.runAgain_eq_ok hdecision
      · obtain ⟨sha, -, ⟨rfl, -, hfound⟩ | rfl⟩ := History.startCi_eq_ok hstart
        · exact hfound
        · exact trivial
      · by_contra hpublished
        refine hpublished (History.published_of_reuse hs ho.mem hv hreuse fun hgitea hnone => ?_)
        exact hrepeats ⟨hidle, hgitea, o, v, ho, hv, hnone, hpublished⟩
    refine ⟨hfounded, fun hstuck => ?_⟩
    obtain ⟨kind, v, artifact, heq, hpublished⟩ := hstuck ⟨false, none, false, false⟩
    exact hpublished (hfounded _ _ heq)

def failedImport (sha : Version) : List Event := [.ciFailed sha false]

theorem runs_again_fails : ¬ ∀ (provider : ScmKind) (imported : Bool) (events : List Event),
    ((created provider imported).run events).RunsAgain := by
  intro h
  have hfails := (h .gitea true (failedImport (List.replicate 40 'a'))).1
    ⟨false, none, false, false⟩ (.reuse .retry (List.replicate 40 'a') none) (by decide)
  exact absurd hfails (by decide : ¬ History.Published _ _)

end InitPad.Ci
