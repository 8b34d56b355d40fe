import InitPad.Hosting.Removal
import InitPad.Interleave.Guarded
import InitPad.Interleave.Trace

/-!
# InitPad.Hosting.ImageCache

The images on the control plane's daemon, with several operations of a project at once: a deployment
holds its image by name only between resolving it and creating the container, while other operations
prune the tags that no container uses.
-/

namespace InitPad.Hosting

open Store Interleave Prog

/-! ## Archives -/

/-- An archive of an image: the error of `assertImageArchiveIdentity` for a reference, and what the
daemon loads from it. -/
structure Archive where
  identity : String → Option Failure
  imageId : Nat
  repoTags : List String

namespace Docker

variable (d : Docker)

def load (archive : Archive) : Docker :=
  let kept := d.images.map fun image =>
    { image with repoTags := image.repoTags.filter fun tag => !archive.repoTags.contains tag }
  { d with
    images :=
      if kept.any (·.id == archive.imageId) then
        kept.map fun image =>
          if image.id = archive.imageId then
            { image with repoTags := image.repoTags ++ archive.repoTags }
          else image
      else kept ++ [⟨archive.imageId, archive.repoTags⟩]
    nextId := max d.nextId (archive.imageId + 1) }

end Docker

/-- The calls of `DockerProvider`, with those on archives. -/
inductive ImageCall : Type → Type 1 where
  | provider {β : Type} (e : Stmt β) : ImageCall β
  | loadImage (archive : Archive) : ImageCall Unit
  /-- `createContainer({ Image, Cmd })`; the daemon names the container. -/
  | createUnnamed (image : String) : ImageCall Nat
  /-- `container.getArchive({ path })`, unpacked to its end. -/
  | getArchive (ref : Ref) (path : String) : ImageCall Unit

def unnamed (image name : String) : ContainerSpec where
  image := image
  name := name
  labels := { managed := false, project := "", environment := .dev, allocation := none }
  containerPort := 0

def ImageCall.run (i : Reply) : ∀ {β : Type}, ImageCall β → Hosts → Except Failure (β × Hosts)
  | _, .provider e, h => e.run i h
  | _, .loadImage archive, h => .ok ((), h.onDocker (h.docker.load archive))
  | _, .createUnnamed image, h => (Stmt.createContainer (unnamed image i.stamp)).run i h
  | _, .getArchive ref _, h =>
    if (h.docker.container? ref).isSome then .ok ((), h) else .error (noSuch "container")

def ImageCall.fault (i : Reply) {β : Type} : ImageCall β → Option (Fault Failure)
  | .provider e => e.fault i
  | _ => i.fault

instance : Semantics ImageCall Reply Hosts Failure :=
  ⟨fun e i h => Interleave.execute (e.fault i) (e.run i h) h⟩

abbrev OnImages (α : Type) := Prog ImageCall Failure α

abbrev ImageMoment := Moment ImageCall Reply Hosts Failure

abbrev ImageConfig := Config ImageCall Reply Hosts Failure

abbrev ImageStep := Transition ImageCall Reply Hosts Failure

/-- A function of a provider among the operations on images. -/
def onDaemon {α : Type} (p : OnHosts α) : OnImages α := p.translate .provider

/-! ## Operations -/

def resolveTested (imageRef : String) : OnHosts Unit := do
  let present ← imageExists imageRef
  if present then pure ()
  else
    let pull ← tryPull imageRef
    match pull with
    | none => pure ()
    | some error => throw (refused s!"Could not pull tested image {imageRef}: {error}")

def extractArtifact (imageRef srcPath : String) : OnImages Unit := do
  let available ← onDaemon isAvailable
  refuseIf (!available)
    (refused "Docker daemon is not available — cannot build the SFTP artifact.")
  onDaemon (resolveTested imageRef)
  let id ← await (.createUnnamed imageRef)
  ensure (await (.getArchive (.id id) srcPath)) do
    onDaemon (ignoreError (await (.removeContainer (.id id))))
    onDaemon (pruneUnusedRepositoryImages imageRef)

def loadImageArchive (archive : Archive) (expectedRef : String) : OnImages Unit := do
  let available ← onDaemon isAvailable
  refuseIf (!available)
    (refused "Docker daemon is not available — cannot ingest the tested image.")
  lift (match archive.identity expectedRef with
    | some failure => .error failure
    | none => .ok ())
  await (.loadImage archive)
  let present ← onDaemon (imageExists expectedRef)
  refuseIf (!present)
    (refused s!"The ingested image archive did not create expected tag '{expectedRef}'")

def hasImage (imageRef : String) : OnHosts Bool := do
  let available ← isAvailable
  if available then imageExists imageRef else pure false

/-- `hasImage`, else `rehydrateImage` with the archive that the object store has; the answer is
whether the image is there. -/
def ensureImageAvailable (imageRef : String) (archive : Archive) : OnImages Bool := do
  let present ← onDaemon (hasImage imageRef)
  if present then pure true
  else tryCatch (do loadImageArchive archive imageRef; pure true) fun _ => pure false

/-- What the environments of a project do on the daemon. -/
inductive ImageOperation where
  | deploy (input : DeployInput)
  | extractArtifact (imageRef srcPath : String)
  | teardown (provider : ProviderKind) (input : TeardownInput)
  | cleanupImage (imageRef : String)
  | loadImageArchive (archive : Archive) (expectedRef : String)
  | ensureImageAvailable (imageRef : String) (archive : Archive)

namespace ImageOperation

/-- `depth` bounds the directories that an SFTP teardown descends into. -/
def program (config : ProviderConfig) (depth : Nat) : ImageOperation → OnImages Unit
  | .deploy input => onDaemon do
    let _ ← DockerProvider.deploy config input
    pure ()
  | .extractArtifact imageRef srcPath => Hosting.extractArtifact imageRef srcPath
  | .teardown provider input => onDaemon do
    let _ ← DeploymentService.teardown config depth input provider
    pure ()
  | .cleanupImage imageRef => onDaemon (Hosting.cleanupImage imageRef)
  | .loadImageArchive archive expectedRef => Hosting.loadImageArchive archive expectedRef
  | .ensureImageAvailable imageRef archive => do
    let _ ← Hosting.ensureImageAvailable imageRef archive
    pure ()

end ImageOperation

inductive Resolution where
  | tested (ref : String)
  | built (tag : String)
  | failed
  deriving DecidableEq

def ImageCall.resolution? {β : Type} (e : ImageCall β) (r : Except Failure β) : Option Resolution :=
  match e with
  | .provider (.inspectImage ref) => some (if r.toOption.isSome then .tested ref else .failed)
  | .provider (.pullImage ref) => some (if r.toOption.isSome then .tested ref else .failed)
  | .provider (.buildImage tag) => some (if r.toOption.isSome then .built tag else .failed)
  | _ => none

def ImageCall.resolves {β : Type} : ImageCall β → Bool
  | .provider (.inspectImage _) => true
  | .provider (.pullImage _) => true
  | .provider (.buildImage _) => true
  | _ => false

def ImageCall.createdFrom {β : Type} : ImageCall β → Option String
  | .provider (.createContainer spec) => some spec.image
  | .createUnnamed image => some image
  | _ => none

def ImageCall.removedTag {β : Type} (d : Docker) (i : Reply) : ImageCall β → Option String
  | .provider (.removeImage tag) =>
    if (d.untag tag).isSome && i.carriedOut then some tag else none
  | _ => none

def resolved (h : List (Event ImageCall Reply Failure)) : Option Resolution :=
  (h.filterMap fun ev => ev.stmt.resolution? ev.result).getLast?

/-- The program can come to create a container from the image before it resolves one. -/
def Awaits (ref : String) : OnImages Unit → Prop
  | .ret _ => False
  | .call e k => e.createdFrom = some ref ∨ e.resolves = false ∧ ∃ r, Awaits ref (k r)

/-- A deployment has resolved its tested image and has not created the container yet. -/
def Held (c : ImageConfig) (ref : String) : Prop :=
  ∃ t p, c.threads[t]? = some p ∧ Awaits ref p ∧
    resolved (own t c.moment.history) = some (.tested ref)

def Unheld (c : ImageConfig) (x : ImageStep) : Prop :=
  ∀ ref, x.stmt.removedTag x.pre.state.docker x.input = some ref → ¬ Held c ref

def Hosts.hasImage (h : Hosts) (ref : String) : Prop := (h.docker.image? ref).isSome = true

instance (h : Hosts) (ref : String) : Decidable (h.hasImage ref) :=
  inferInstanceAs (Decidable (_ = true))

def ImageCall.neutral {β : Type} (e : ImageCall β) : Prop :=
  e.resolves = false ∧ e.createdFrom = none

def Stmt.neutral {β : Type} (e : Stmt β) : Prop := (ImageCall.provider e).neutral

theorem resolution?_of_not_resolves {β : Type} {e : ImageCall β} (h : e.resolves = false)
    (r : Except Failure β) : e.resolution? r = none := by
  cases e with
  | provider e => cases e <;> first | rfl | cases h
  | _ => rfl

theorem resolution?_of_resolves {β : Type} {e : ImageCall β} (h : e.resolves = true)
    (r : Except Failure β) : e.resolution? r ≠ none := by
  cases e with
  | provider e => cases e <;> first | exact Option.some_ne_none _ | cases h
  | _ => cases h

theorem resolved_append (h : List (Event ImageCall Reply Failure))
    (ev : Event ImageCall Reply Failure) :
    resolved (h ++ [ev]) = (ev.stmt.resolution? ev.result).or (resolved h) := by
  unfold resolved
  rw [List.filterMap_append, List.filterMap_cons, List.filterMap_nil]
  cases ev.stmt.resolution? ev.result with
  | none => rw [List.append_nil, Option.none_or]
  | some resolution => rw [List.getLast?_append, List.getLast?_singleton, Option.some_or]

section Programs

variable {α β : Type} {t : Nat} {h : List (Event ImageCall Reply Failure)}
  {resolution : Option Resolution} {imageRef : String} {config : ProviderConfig} {depth : Nat}

/-- A container is created from the image that was last resolved. -/
def FromResolved {β : Type} (e : ImageCall β) (h : List (Event ImageCall Reply Failure)) : Prop :=
  ∀ ref, e.createdFrom = some ref →
    resolved h = some (.built ref) ∨ resolved h = some (.tested ref)

abbrev Follows (Q : Except Failure α → List (Event ImageCall Reply Failure) → Prop) (t : Nat)
    (p : OnImages α) (h : List (Event ImageCall Reply Failure)) : Prop :=
  Meets (fun _ => True) FromResolved Q t p h

end Programs

/-! ## Images that stay -/

theorem image?_isSome {d : Docker} {ref : String} :
    (d.image? ref).isSome = true ↔ ∃ image ∈ d.images, ref ∈ image.repoTags := by
  unfold Docker.image?
  rw [List.find?_isSome]
  simp only [List.contains_iff_mem]

theorem image?_tagNew {d : Docker} {ref tag : String} (h : (d.image? ref).isSome = true) :
    ((d.tagNew tag).image? ref).isSome = true := by
  rw [image?_isSome] at h ⊢
  obtain ⟨image, himage, href⟩ := h
  by_cases hsame : ref = tag
  · exact ⟨⟨d.nextId, [tag]⟩, List.mem_append_right _ (.head _), by rw [hsame]; exact .head _⟩
  · exact ⟨_, List.mem_append_left _ (List.mem_map.mpr ⟨image, himage, rfl⟩),
      (List.mem_erase_of_ne hsame).mpr href⟩

theorem image?_untag {d d' : Docker} {ref tag : String} (hd : d.untag tag = some d')
    (hne : ref ≠ tag) (h : (d.image? ref).isSome = true) : (d'.image? ref).isSome = true := by
  unfold Docker.untag at hd
  rw [Option.bind_eq_some_iff] at hd
  obtain ⟨image, -, hd⟩ := hd
  split at hd
  · cases hd
  · cases hd
    rw [image?_isSome] at h ⊢
    obtain ⟨image, himage, href⟩ := h
    have hkept := (List.mem_erase_of_ne hne).mpr href
    refine ⟨_, List.mem_filter.mpr ⟨List.mem_map.mpr ⟨image, himage, rfl⟩, ?_⟩, hkept⟩
    rw [Bool.not_eq_true', List.isEmpty_eq_false_iff]
    exact List.ne_nil_of_mem hkept

theorem image?_load {d : Docker} {ref : String} (archive : Archive)
    (h : (d.image? ref).isSome = true) : ((d.load archive).image? ref).isSome = true := by
  rw [image?_isSome] at h ⊢
  obtain ⟨image, himage, href⟩ := h
  unfold Docker.load
  dsimp only
  by_cases hloaded : ref ∈ archive.repoTags
  · split
    · rename_i hany
      obtain ⟨kept, hkept, hid⟩ := List.any_eq_true.mp hany
      refine ⟨_, List.mem_map.mpr ⟨kept, hkept, rfl⟩, ?_⟩
      rw [if_pos (beq_iff_eq.mp hid)]
      exact List.mem_append_right _ hloaded
    · exact ⟨_, List.mem_append_right _ (.head _), hloaded⟩
  · have hkept : ref ∈ image.repoTags.filter fun tag => !archive.repoTags.contains tag :=
      List.mem_filter.mpr ⟨href, by simpa using hloaded⟩
    split
    · refine ⟨_, List.mem_map.mpr ⟨_, List.mem_map.mpr ⟨image, himage, rfl⟩, rfl⟩, ?_⟩
      split
      · exact List.mem_append_left _ hkept
      · exact hkept
    · exact ⟨_, List.mem_append_left _ (List.mem_map.mpr ⟨image, himage, rfl⟩), hkept⟩

theorem hasImage_run {β : Type} {e : Stmt β} {i : Reply} {h h' : Hosts} {b : β} {ref : String}
    (hrun : e.run i h = .ok (b, h')) (hi : i.carriedOut = true)
    (hkeep : (ImageCall.provider e).removedTag h.docker i ≠ some ref) (hh : h.hasImage ref) :
    h'.hasImage ref := by
  have hsame : h'.docker.images = h.docker.images → h'.hasImage ref := by
    intro heq
    unfold Hosts.hasImage Docker.image? at hh ⊢
    rw [heq]
    exact hh
  cases e with
  | pullImage tag | buildImage tag =>
    cases hrun
    exact image?_tagNew hh
  | removeImage tag =>
    simp only [Stmt.run] at hrun
    split at hrun
    case h_1 d hd =>
      cases hrun
      refine image?_untag hd (fun hsame => hkeep ?_) hh
      simp [ImageCall.removedTag, hd, hi, hsame]
    case h_2 => cases hrun
  | inspectNetwork | inspectImage | mkdir | stat | unlink | symlink | rename | put | putArchive
      | rmdir | readdir | inspectContainer | createContainer | startContainer | stopContainer
      | removeContainer =>
    simp only [Stmt.run] at hrun
    repeat' split at hrun
    all_goals first | cases hrun; done | (cases hrun; exact hsame rfl)
  | _ =>
    cases hrun
    exact hsame rfl

theorem execute_of_not_carriedOut {β : Type} {i : Reply} (hi : i.carriedOut = false)
    (r : Except Failure (β × Hosts)) (h : Hosts) : (Interleave.execute i.fault r h).2 = h := by
  unfold Reply.carriedOut at hi
  cases hfault : i.fault with
  | none =>
    rw [hfault] at hi
    cases hi
  | some fault =>
    rw [hfault] at hi
    have hfalse : fault.carriedOut = false := hi
    simp [Interleave.execute, hfalse]

theorem hasImage_exec {β : Type} {e : ImageCall β} {i : Reply} {h : Hosts} {ref : String}
    (hkeep : e.removedTag h.docker i ≠ some ref) (hh : h.hasImage ref) :
    (exec e i h).2.hasImage ref := by
  cases hi : i.carriedOut with
  | false =>
    have hsame : (exec e i h).2 = h := by
      cases e with
      | provider e => cases e <;> first | exact execute_of_not_carriedOut hi _ h | rfl
      | _ => exact execute_of_not_carriedOut hi _ h
    rw [hsame]
    exact hh
  | true =>
    rcases execute_state (e.fault i) (e.run i h) h with hsame | ⟨b, hrun⟩
    · change (Interleave.execute (e.fault i) (e.run i h) h).2.hasImage ref
      rw [hsame]
      exact hh
    · change (Interleave.execute (e.fault i) (e.run i h) h).2.hasImage ref
      generalize (Interleave.execute (e.fault i) (e.run i h) h).2 = h' at hrun ⊢
      cases e with
      | provider e => exact hasImage_run hrun hi hkeep hh
      | loadImage archive =>
        cases hrun
        exact image?_load archive hh
      | createUnnamed image =>
        exact hasImage_run (e := .createContainer (unnamed image i.stamp)) hrun hi
          (fun hnone => by cases hnone) hh
      | getArchive ref' path =>
        simp only [ImageCall.run] at hrun
        split at hrun
        · cases hrun
          exact hh
        · cases hrun

/-! ## Runs -/

section Runs

variable {config : ProviderConfig} {depth : Nat} {projectName : String} {c : ImageConfig}
  {tr : List ImageStep} {s : Hosts}

/-- What is held is present; the events are those of the threads of the pool. -/
structure Kept (c : ImageConfig) : Prop where
  threads : ∀ ev ∈ c.moment.history, ev.thread < c.threads.length
  present : ∀ ref, Held c ref → c.moment.state.hasImage ref

theorem Kept.start (s : Hosts) : Kept (Config.start s) where
  threads := fun ev hev => absurd hev List.not_mem_nil
  present := by
    rintro ref ⟨t, p, hp, -⟩
    cases hp

theorem Kept.spawn {m : ImageMoment} {ts : List (OnImages Unit)} (p : OnImages Unit)
    (h : Kept ⟨m, ts⟩) : Kept ⟨m, ts ++ [p]⟩ where
  threads := fun ev hev => by
    rw [List.length_append]
    exact Nat.lt_add_right _ (h.threads ev hev)
  present := by
    rintro ref ⟨t, q, hq, hawaits, hresolved⟩
    have hlt : t < ts.length := by
      by_contra hge
      have hnone : own t m.history = [] := by
        refine List.filter_eq_nil_iff.mpr fun ev hev => ?_
        have hthread : ev.thread < ts.length := h.threads ev hev
        simp only [decide_eq_true_eq]
        omega
      rw [hnone] at hresolved
      cases hresolved
    rw [List.getElem?_append_left hlt] at hq
    exact h.present ref ⟨t, q, hq, hawaits, hresolved⟩

theorem hasImage_resolved {β : Type} {e : ImageCall β} {i : Reply} {h : Hosts} {ref : String}
    (he : e.resolution? (exec e i h).1 = some (.tested ref)) : (exec e i h).2.hasImage ref := by
  have hok : ∀ ref', some (if (exec e i h).1.toOption.isSome = true then Resolution.tested ref'
      else .failed) = some (.tested ref) →
        ref' = ref ∧ ∃ b, e.run i h = .ok (b, (exec e i h).2) := by
    intro ref' hsame
    split at hsame
    · rename_i hanswer
      cases hresult : (exec e i h).1 with
      | error x =>
        rw [hresult] at hanswer
        cases hanswer
      | ok b =>
        cases hsame
        exact ⟨rfl, b, execute_ok hresult⟩
    · cases hsame
  cases e with
  | provider e =>
    cases e with
    | inspectImage ref' =>
      obtain ⟨rfl, b, hrun⟩ := hok ref' he
      simp only [ImageCall.run, Stmt.run] at hrun
      split at hrun
      · rename_i hpresent
        rw [← (Prod.mk.inj (Except.ok.inj hrun)).2]
        exact hpresent
      · cases hrun
    | pullImage ref' =>
      obtain ⟨rfl, b, hrun⟩ := hok ref' he
      simp only [ImageCall.run, Stmt.run] at hrun
      rw [← (Prod.mk.inj (Except.ok.inj hrun)).2]
      exact image?_isSome.2 ⟨_, List.mem_append_right _ (.head _), .head _⟩
    | buildImage tag =>
      change some (if _ then Resolution.built tag else .failed) = _ at he
      split at he <;> cases he
    | _ => cases he
  | _ => cases he

theorem Kept.step {m : ImageMoment} {ts : List (OnImages Unit)} {t : Nat} {β : Type}
    {e : ImageCall β} {k : Except Failure β → OnImages Unit} (i : Reply)
    (hk : ts[t]? = some (.call e k)) (hok : Unheld ⟨m, ts⟩ ⟨m, t, e, i⟩) (h : Kept ⟨m, ts⟩) :
    Kept ⟨m.next t e i, ts.set t (k (exec e i m.state).1)⟩ where
  threads := fun ev hev => by
    rw [List.length_set]
    rcases List.mem_append.mp hev with hev | hev
    · exact h.threads ev hev
    · rw [List.mem_singleton.mp hev]
      exact (List.getElem?_eq_some_iff.mp hk).1
  present := by
    rintro ref ⟨u, p, hp, hawaits, hresolved⟩
    -- what was held before the step and is not untagged by it is present behind it
    have hbefore : Held ⟨m, ts⟩ ref → (m.next t e i).state.hasImage ref := fun hheld =>
      hasImage_exec (fun hremoved => hok ref hremoved hheld) (h.present ref hheld)
    rw [Moment.next_history, own_append] at hresolved
    by_cases hu : t = u
    · subst hu
      rw [List.getElem?_set_self (List.getElem?_eq_some_iff.mp hk).1] at hp
      cases hp
      rw [own_self, resolved_append] at hresolved
      cases hresolves : e.resolves with
      | false =>
        rw [resolution?_of_not_resolves hresolves, Option.none_or] at hresolved
        exact hbefore ⟨t, _, hk, .inr ⟨hresolves, _, hawaits⟩, hresolved⟩
      | true =>
        cases hresolution : e.resolution? (exec e i m.state).1 with
        | none => exact absurd hresolution (resolution?_of_resolves hresolves _)
        | some resolution =>
          rw [hresolution, Option.some_or] at hresolved
          exact hasImage_resolved (hresolution.trans hresolved)
    · rw [List.getElem?_set_ne hu] at hp
      rw [own_of_ne hu, List.append_nil] at hresolved
      exact hbefore ⟨u, p, hp, hawaits, hresolved⟩

end Runs

/-! ## An image that is lost -/

def sampleConfig : ProviderConfig where
  publicHost := "localhost"
  deployHealthHost := "localhost"
  bindAddress := "127.0.0.1"
  sftpHost := ""
  sftpPort := 22
  sftpRemoteRoot := []
  sftpPublicUrl := ""
  sftpInternalUrl := ""
  sftpArtifactSubdir := ""

/-- Another environment lets go of the first build. -/
def cleanUp : OnImages Unit := forEach (ImageOperation.program sampleConfig 0) [.cleanupImage "shop:1"]

end InitPad.Hosting
