import InitPad.Wire.JsonText
import InitPad.Wire.Utf8

/-!
# InitPad.Artifacts.ImageArchive

The identity of a Docker image archive as it is asserted without a daemon, and what Docker's loader
makes of the same entries.
-/

namespace InitPad.Artifacts

open JsonText

structure TarEntry where
  name : Text
  chunks : List (List UInt8)

def TarEntry.content (e : TarEntry) : List UInt8 := e.chunks.flatten

inductive ArchiveError where
  | tooManyEntries
  | duplicateManifests
  | manifestTooLarge
  | noManifest
  | invalidManifest
  | invalidTag
  | otherTags (expectedRef : Text)
  deriving DecidableEq

def ArchiveError.message : ArchiveError → Text
  | .tooManyEntries => ascii "Image archive contains too many entries"
  | .duplicateManifests => ascii "Image archive contains duplicate Docker manifests"
  | .manifestTooLarge => ascii "Image archive manifest is too large"
  | .noManifest => ascii "Image archive contains no Docker manifest"
  | .invalidManifest => ascii "Image archive contains an invalid Docker manifest"
  | .invalidTag => ascii "Image archive contains an invalid Docker tag"
  | .otherTags expectedRef =>
    ascii "Image archive must contain exactly the expected tag '" ++ expectedRef ++ ascii "'"

def manifestName : Text := ascii "manifest.json"

def maxEntries : Nat := 100000

def maxManifestBytes : Nat := 1024 * 1024

/-! ## The scanner -/

structure Scan where
  entries : Nat := 0
  manifestSeen : Bool := false
  manifest : Option (List UInt8) := none
  validationError : Option ArchiveError := none

def onData : Nat × List UInt8 × Option ArchiveError → List UInt8 →
    Nat × List UInt8 × Option ArchiveError
  | (bytes, kept, validationError), chunk =>
    let bytes := bytes + chunk.length
    if maxManifestBytes < bytes then
      (bytes, kept, validationError.or (some .manifestTooLarge))
    else if validationError.isNone then (bytes, kept ++ chunk, validationError)
    else (bytes, kept, validationError)

def onEntry (s : Scan) (e : TarEntry) : Scan :=
  let entries := s.entries + 1
  if maxEntries < entries then
    { s with entries := entries, validationError := s.validationError.or (some .tooManyEntries) }
  else if e.name ≠ manifestName then { s with entries := entries }
  else if s.manifestSeen then
    { s with
      entries := entries
      validationError := s.validationError.or (some .duplicateManifests) }
  else
    let (_, kept, validationError) := e.chunks.foldl onData (0, [], s.validationError)
    { entries := entries
      manifestSeen := true
      manifest := some kept
      validationError := validationError }

/-- `JSON.parse(bytes.toString('utf8'))` -/
def parseManifest (bytes : List UInt8) : Option Json := parse (Utf8.toText bytes)

/-- `record.RepoTags`, where the last member of a key counts. -/
def repoTags : Json → Option Json
  | .object members => last? (· == ascii "RepoTags") members
  | _ => none

/-- `record && typeof record === 'object'` -/
def isRecord : Json → Bool
  | .object _ | .array _ => true
  | _ => false

/-- `record.RepoTags ?? []`, flattened by one level. -/
def flatTags (record : Json) : List Json :=
  match repoTags record with
  | none | some .null => []
  | some (.array items) => items
  | some value => [value]

def isString : Json → Bool
  | .string _ => true
  | _ => false

def assertRecords (records : List Json) (expectedRef : Text) : Except ArchiveError Unit :=
  if records.any fun record => !isRecord record then .error .invalidManifest
  else
    let tags := records.flatMap flatTags
    if tags.any fun tag => !isString tag then .error .invalidTag
    else
      match records, tags with
      | [_], [.string tag] =>
        if tag = expectedRef then .ok () else .error (.otherTags expectedRef)
      | _, _ => .error (.otherTags expectedRef)

def assertImageArchiveIdentity (entries : List TarEntry) (expectedRef : Text) :
    Except ArchiveError Unit :=
  let scan := entries.foldl onEntry {}
  match scan.validationError, scan.manifest with
  | some archiveError, _ => .error archiveError
  | none, none => .error .noManifest
  | none, some manifestBytes =>
    match parseManifest manifestBytes with
    | some (.array records) => assertRecords records expectedRef
    | _ => .error .invalidManifest

/-! ## The loader -/

/-- The parts of a path between its slashes. -/
def segments : Text → List Text
  | [] => [[]]
  | 0x2f :: rest => [] :: segments rest
  | u :: rest =>
    match segments rest with
    | segment :: others => (u :: segment) :: others
    | [] => [[u]]

/-- The parts that are left; `done` is what has been read of them, the last one first. -/
def resolve (absolute : Bool) : List Text → List Text → List Text
  | done, [] => done.reverse
  | done, segment :: rest =>
    if segment = [] ∨ segment = ascii "." then resolve absolute done rest
    else if segment = ascii ".." then
      match done with
      | [] => if absolute then resolve absolute [] rest else resolve absolute [segment] rest
      | parent :: others =>
        if parent = ascii ".." then resolve absolute (segment :: done) rest
        else resolve absolute others rest
    else resolve absolute (segment :: done) rest

/-- The path below the directory of the extraction. -/
def normalised (name : Text) : List Text := resolve (name.head? == some 0x2f) [] (segments name)

def isManifestFile (e : TarEntry) : Bool := normalised e.name == [manifestName]

/-- The letters of a key without their case; two of them have another form outside ASCII. -/
def foldCase (u : Nat) : Nat :=
  if 0x41 ≤ u ∧ u ≤ 0x5a then u + 0x20
  else if u = 0x17f then 0x73
  else if u = 0x212a then 0x6b
  else u

def foldsTo (name key : Text) : Bool := key.map foldCase == name.map foldCase

/-- The `RepoTags` of a record for the loader. -/
def loadedTags : Option Json → Option (List Text)
  | none | some .null => some []
  | some (.array items) => items.mapM fun
    | .string tag => some tag
    | .null => some []
    | _ => none
  | some _ => none

def foldedTags (members : List (Text × Json)) : Option Json :=
  last? (foldsTo (ascii "RepoTags")) members

def loadedRecord : Json → Option (List Text)
  | .null => some []
  | .object members => loadedTags (foldedTags members)
  | _ => none

def loadedManifest : Json → Option (List (List Text))
  | .null => some []
  | .array records => records.mapM loadedRecord
  | _ => none

def TarEntry.loads (e : TarEntry) : Option (List (List Text)) := do
  let manifest ← parseManifest e.content
  loadedManifest manifest

/-- The last entry with the path of the manifest is what is left there. -/
def load (entries : List TarEntry) : Option (List (List Text)) := do
  let manifest ← entries.reverse.find? isManifestFile
  manifest.loads

/-! ## What the scanner accepts -/

section Scanner

variable {entries before after : List TarEntry} {m : TarEntry} {r : Text} {s : Scan}

structure Accepted (entries : List TarEntry) (r : Text) (before : List TarEntry) (m : TarEntry)
    (after : List TarEntry) (members : List (Text × Json)) : Prop where
  split : entries = before ++ m :: after
  name : m.name = manifestName
  others : ∀ e ∈ before ++ after, e.name ≠ manifestName
  few : entries.length ≤ maxEntries
  small : m.content.length ≤ maxManifestBytes
  record : parseManifest m.content = some (.array [.object members])
  tag : repoTags (.object members) = some (.array [.string r]) ∨
    repoTags (.object members) = some (.string r)

theorem onData_some {state : Nat × List UInt8 × Option ArchiveError} {x : ArchiveError}
    (h : state.2.2 = some x) (chunks : List (List UInt8)) :
    (chunks.foldl onData state).2.2 = some x := by
  induction chunks generalizing state with
  | nil => exact h
  | cons chunk chunks ih =>
    refine ih ?_
    obtain ⟨bytes, kept, validationError⟩ := state
    cases h
    unfold onData
    dsimp only
    split
    · rfl
    · rfl

theorem onData_small {chunks : List (List UInt8)} {bytes : Nat} {kept : List UInt8}
    (h : bytes + chunks.flatten.length ≤ maxManifestBytes) :
    chunks.foldl onData (bytes, kept, none) =
      (bytes + chunks.flatten.length, kept ++ chunks.flatten, none) := by
  induction chunks generalizing bytes kept with
  | nil => simp
  | cons chunk chunks ih =>
    rw [List.flatten_cons, List.length_append] at h
    have hsmall : ¬ maxManifestBytes < bytes + chunk.length := by omega
    have hchunk : onData (bytes, kept, none) chunk = (bytes + chunk.length, kept ++ chunk, none) := by
      simp [onData, hsmall]
    rw [List.foldl_cons, hchunk, ih (by omega), List.flatten_cons, List.length_append,
      List.append_assoc, Nat.add_assoc]

theorem onData_large {chunks : List (List UInt8)} {bytes : Nat} {kept : List UInt8}
    (hfits : bytes ≤ maxManifestBytes) (h : maxManifestBytes < bytes + chunks.flatten.length) :
    (chunks.foldl onData (bytes, kept, none)).2.2 = some .manifestTooLarge := by
  induction chunks generalizing bytes kept with
  | nil =>
    rw [List.flatten_nil, List.length_nil] at h
    omega
  | cons chunk chunks ih =>
    rw [List.flatten_cons, List.length_append] at h
    rw [List.foldl_cons]
    by_cases hlarge : maxManifestBytes < bytes + chunk.length
    · refine onData_some ?_ chunks
      simp [onData, hlarge]
    · have hchunk : onData (bytes, kept, none) chunk =
          (bytes + chunk.length, kept ++ chunk, none) := by
        simp [onData, hlarge]
      rw [hchunk]
      exact ih (by omega) (by omega)

theorem onEntry_cases (s : Scan) (e : TarEntry) (hs : s.validationError = none) :
    (onEntry s e).validationError ≠ none ∧
        (maxEntries < s.entries + 1 ∨ e.name = manifestName ∧
          (s.manifestSeen = true ∨ maxManifestBytes < e.content.length)) ∨
      s.entries + 1 ≤ maxEntries ∧ e.name ≠ manifestName ∧
        onEntry s e = { s with entries := s.entries + 1 } ∨
      s.entries + 1 ≤ maxEntries ∧ e.name = manifestName ∧ s.manifestSeen = false ∧
        e.content.length ≤ maxManifestBytes ∧
        onEntry s e = ⟨s.entries + 1, true, some e.content, none⟩ := by
  unfold onEntry
  dsimp only
  split
  · rename_i hmany
    exact .inl ⟨by simp [hs], .inl hmany⟩
  · rename_i hfew
    split
    · rename_i hname
      exact .inr (.inl ⟨by omega, hname, rfl⟩)
    · rename_i hname
      have hname : e.name = manifestName := Decidable.not_not.mp hname
      split
      · rename_i hseen
        exact .inl ⟨by simp [hs], .inr ⟨hname, .inl hseen⟩⟩
      · rename_i hseen
        rw [hs]
        by_cases hsmall : e.content.length ≤ maxManifestBytes
        · have hdata := @onData_small e.chunks 0 [] (by rw [Nat.zero_add]; exact hsmall)
          refine .inr (.inr ⟨by omega, hname, Bool.not_eq_true _ ▸ hseen, hsmall, ?_⟩)
          rw [hdata]
          rfl
        · have hlarge : maxManifestBytes < e.content.length := by omega
          have hdata := @onData_large e.chunks 0 [] (Nat.zero_le _)
            (by rw [Nat.zero_add]; exact hlarge)
          refine .inl ⟨?_, .inr ⟨hname, .inr hlarge⟩⟩
          rw [hdata]
          exact Option.some_ne_none _

theorem onEntry_error (h : s.validationError ≠ none) (e : TarEntry) :
    (onEntry s e).validationError ≠ none := by
  obtain ⟨x, hx⟩ := Option.ne_none_iff_exists'.mp h
  unfold onEntry
  dsimp only
  split
  · simp [hx]
  · split
    · exact h
    · split
      · simp [hx]
      · rw [hx, onData_some rfl]
        exact Option.some_ne_none _

theorem foldl_error (h : s.validationError ≠ none) (es : List TarEntry) :
    (es.foldl onEntry s).validationError ≠ none := by
  induction es generalizing s with
  | nil => exact h
  | cons e es ih => exact ih (onEntry_error h e)

theorem foldl_others {es : List TarEntry} (hs : s.validationError = none)
    (hothers : ∀ e ∈ es, e.name ≠ manifestName) (hfew : s.entries + es.length ≤ maxEntries) :
    es.foldl onEntry s = { s with entries := s.entries + es.length } := by
  induction es generalizing s with
  | nil => rfl
  | cons e es ih =>
    rw [List.length_cons] at hfew
    rcases onEntry_cases s e hs with ⟨-, hmany | ⟨hname, -⟩⟩ | ⟨-, -, hentry⟩ | ⟨-, hname, -⟩
    · omega
    · exact absurd hname (hothers e List.mem_cons_self)
    · rw [List.foldl_cons, hentry, ih (s := { s with entries := s.entries + 1 }) hs
        (fun e he => hothers e (List.mem_cons_of_mem _ he)) (by dsimp only; omega),
        List.length_cons]
      dsimp only
      rw [Nat.add_assoc, Nat.add_comm 1]
    · exact absurd hname (hothers e List.mem_cons_self)

theorem foldl_seen {es : List TarEntry} (hseen : s.manifestSeen = true)
    (hfew : s.entries ≤ maxEntries) (h : (es.foldl onEntry s).validationError = none) :
    s.entries + es.length ≤ maxEntries ∧ ∀ e ∈ es, e.name ≠ manifestName := by
  induction es generalizing s with
  | nil => exact ⟨hfew, fun e he => by cases he⟩
  | cons e es ih =>
    have hs : s.validationError = none := by
      by_contra hs
      exact foldl_error hs (e :: es) h
    rw [List.foldl_cons] at h
    rcases onEntry_cases s e hs with ⟨herror, -⟩ | ⟨hmore, hname, hentry⟩ | ⟨-, -, hnot, -⟩
    · exact absurd h (foldl_error herror es)
    · rw [hentry] at h
      obtain ⟨hfew', hothers⟩ := ih (s := { s with entries := s.entries + 1 }) hseen hmore h
      refine ⟨by rw [List.length_cons]; dsimp only at hfew'; omega, fun e' he' => ?_⟩
      rcases List.mem_cons.mp he' with rfl | he'
      · exact hname
      · exact hothers e' he'
    · rw [hseen] at hnot
      cases hnot

theorem foldl_unseen {es : List TarEntry} (hseen : s.manifestSeen = false)
    (hmanifest : s.manifest = none) (hfew : s.entries ≤ maxEntries)
    (h : (es.foldl onEntry s).validationError = none) :
    s.entries + es.length ≤ maxEntries ∧ ((es.foldl onEntry s).manifest = none ∨
      ∃ before m after, es = before ++ m :: after ∧ m.name = manifestName ∧
        (∀ e ∈ before ++ after, e.name ≠ manifestName) ∧ m.content.length ≤ maxManifestBytes ∧
        (es.foldl onEntry s).manifest = some m.content) := by
  induction es generalizing s with
  | nil => exact ⟨hfew, .inl hmanifest⟩
  | cons e es ih =>
    have hs : s.validationError = none := by
      by_contra hs
      exact foldl_error hs (e :: es) h
    rw [List.foldl_cons] at h ⊢
    rw [List.length_cons]
    rcases onEntry_cases s e hs with
      ⟨herror, -⟩ | ⟨hmore, hname, hentry⟩ | ⟨hmore, hname, -, hsmall, hentry⟩
    · exact absurd h (foldl_error herror es)
    · rw [hentry] at h ⊢
      obtain ⟨hfew', hrest⟩ :=
        ih (s := { s with entries := s.entries + 1 }) hseen hmanifest hmore h
      dsimp only at hfew'
      refine ⟨by omega, hrest.imp_right ?_⟩
      rintro ⟨before, m, after, rfl, hm, hothers, hsmall, hkept⟩
      refine ⟨e :: before, m, after, rfl, hm, fun e' he' => ?_, hsmall, hkept⟩
      rcases List.mem_cons.mp he' with rfl | he'
      · exact hname
      · exact hothers e' he'
    · rw [hentry] at h ⊢
      obtain ⟨hfew', hothers⟩ := foldl_seen (s := ⟨s.entries + 1, true, some e.content, none⟩) rfl
        hmore h
      dsimp only at hfew'
      refine ⟨by omega, .inr ⟨[], e, es, rfl, hname, hothers, hsmall, ?_⟩⟩
      rw [foldl_others rfl hothers hfew']

theorem flatTags_eq {record : Json} {tag : Text} (h : flatTags record = [.string tag]) :
    ∃ members, record = .object members ∧ (repoTags record = some (.array [.string tag]) ∨
      repoTags record = some (.string tag)) := by
  have hobject : ∃ members, record = .object members := by
    cases record with
    | object members => exact ⟨members, rfl⟩
    | _ => cases h
  refine hobject.imp fun members hrecord => ⟨hrecord, ?_⟩
  unfold flatTags at h
  split at h
  · cases h
  · cases h
  · rename_i items hitems
    rw [hitems, h]
    exact .inl rfl
  · rename_i value hvalue
    rw [hvalue, (List.cons.inj h).1]
    exact .inr rfl

theorem assertRecords_iff {records : List Json} : assertRecords records r = .ok () ↔
    ∃ members, records = [.object members] ∧ (repoTags (.object members) =
      some (.array [.string r]) ∨ repoTags (.object members) = some (.string r)) := by
  constructor
  · intro h
    unfold assertRecords at h
    split at h
    · cases h
    · dsimp only at h
      split at h
      · cases h
      · split at h
        · rename_i record tag htags
          split at h
          · rename_i heq
            rw [List.flatMap_singleton] at htags
            obtain ⟨members, rfl, htag⟩ := flatTags_eq htags
            rw [heq] at htag
            exact ⟨members, rfl, htag⟩
          · cases h
        · cases h
  · rintro ⟨members, rfl, htag⟩
    have htags : flatTags (.object members) = [.string r] := by
      unfold flatTags
      rcases htag with htag | htag <;> rw [htag]
    unfold assertRecords
    simp [isRecord, isString, htags]

theorem assertImageArchiveIdentity_iff : assertImageArchiveIdentity entries r = .ok () ↔
    ∃ before m after members, Accepted entries r before m after members := by
  constructor
  · intro h
    unfold assertImageArchiveIdentity at h
    dsimp only at h
    split at h
    · cases h
    · cases h
    · rename_i manifestBytes herror hmanifest
      obtain ⟨hfew, hnone | ⟨before, m, after, hsplit, hname, hothers, hsmall, hkept⟩⟩ :=
        @foldl_unseen {} entries rfl rfl (Nat.zero_le _) herror
      · rw [hnone] at hmanifest
        cases hmanifest
      · rw [hkept] at hmanifest
        cases hmanifest
        split at h
        · rename_i records hrecords
          obtain ⟨members, rfl, htag⟩ := assertRecords_iff.1 h
          exact ⟨before, m, after, members, hsplit, hname, hothers,
            by rw [Nat.zero_add] at hfew; exact hfew, hsmall, hrecords, htag⟩
        · cases h
  · rintro ⟨before, m, after, members, h⟩
    obtain ⟨rfl, hname, hothers, hfew, hsmall, hrecord, htag⟩ := h
    rw [List.length_append, List.length_cons] at hfew
    have hbefore := @foldl_others {} before rfl
      (fun e he => hothers e (List.mem_append_left _ he)) (by dsimp only; omega)
    have hmanifest : onEntry { entries := 0 + before.length } m =
        ⟨before.length + 1, true, some m.content, none⟩ := by
      rcases onEntry_cases { entries := 0 + before.length } m rfl with
        ⟨-, hmany | ⟨-, hseen | hlarge⟩⟩ | ⟨-, hnot, -⟩ | ⟨-, -, -, -, hentry⟩
      · dsimp only at hmany
        omega
      · cases hseen
      · omega
      · exact absurd hname hnot
      · rw [hentry, Nat.zero_add]
    have hafter := @foldl_others ⟨before.length + 1, true, some m.content, none⟩ after rfl
      (fun e he => hothers e (List.mem_append_right _ he)) (by dsimp only; omega)
    unfold assertImageArchiveIdentity
    rw [List.foldl_append, List.foldl_cons, hbefore, hmanifest, hafter]
    simp only [hrecord]
    exact assertRecords_iff.2 ⟨members, rfl, htag⟩

end Scanner

/-! ## What the loader sees of an accepted archive -/

section Loader

variable {entries before after : List TarEntry} {m : TarEntry} {r : Text}
  {members : List (Text × Json)}

theorem isManifestFile_of_name (h : m.name = manifestName) : isManifestFile m = true := by
  unfold isManifestFile
  rw [h]
  decide

/-- The ways in which the loader reads an accepted archive otherwise. -/
inductive Drifts (r : Text) (members : List (Text × Json)) (after : List TarEntry) : Prop where
  | replaced (alias_ : TarEntry) (h : after.reverse.find? isManifestFile = some alias_)
      (hother : alias_.loads ≠ some [[r]])
  /-- `RepoTags` is the tag itself and no list. -/
  | bare (h : after.reverse.find? isManifestFile = none)
      (hbare : repoTags (.object members) = some (.string r))
      (hlast : foldedTags members = repoTags (.object members))
  /-- A later key is `RepoTags` in another case. -/
  | shadowed (h : after.reverse.find? isManifestFile = none)
      (hlast : foldedTags members ≠ repoTags (.object members))
      (hother : loadedTags (foldedTags members) ≠ some [r])

theorem load_accepted (h : Accepted entries r before m after members) :
    load entries = match after.reverse.find? isManifestFile with
      | some alias_ => alias_.loads
      | none => (loadedTags (foldedTags members)).map ([·]) := by
  have hm := isManifestFile_of_name h.name
  have hloads : m.loads = (loadedTags (foldedTags members)).map ([·]) := by
    unfold TarEntry.loads
    rw [h.record]
    change List.mapM loadedRecord [.object members] = _
    rw [List.mapM_cons, List.mapM_nil]
    change ((loadedTags (foldedTags members)).bind fun tags => some [tags]) = _
    cases loadedTags (foldedTags members) <;> rfl
  unfold load
  rw [h.split, List.reverse_append, List.reverse_cons, List.append_assoc, List.find?_append]
  cases after.reverse.find? isManifestFile with
  | some alias_ => rfl
  | none =>
    rw [Option.none_or, List.singleton_append, List.find?_cons_of_pos hm]
    exact hloads

theorem load_iff (h : Accepted entries r before m after members) :
    load entries = some [[r]] ↔ ¬ Drifts r members after := by
  rw [load_accepted h]
  cases hfind : after.reverse.find? isManifestFile with
  | some alias_ =>
    constructor
    · rintro hloads (⟨_, hother, hnot⟩ | ⟨hnone, -, -⟩ | ⟨hnone, -, -⟩)
      · rw [hfind] at hother
        cases hother
        exact hnot hloads
      · rw [hfind] at hnone
        cases hnone
      · rw [hfind] at hnone
        cases hnone
    · intro hnot
      by_contra hother
      exact hnot (.replaced alias_ hfind hother)
  | none =>
    have hmap : (loadedTags (foldedTags members)).map ([·]) = some [[r]] ↔
        loadedTags (foldedTags members) = some [r] := by
      cases loadedTags (foldedTags members) with
      | none => simp
      | some tags => simp
    rw [hmap]
    constructor
    · rintro hloads (⟨_, hother, -⟩ | ⟨-, hbare, hlast⟩ | ⟨-, -, hnot⟩)
      · rw [hfind] at hother
        cases hother
      · rw [hlast, hbare] at hloads
        cases hloads
      · exact hnot hloads
    · intro hnot
      by_contra hother
      by_cases hlast : foldedTags members = repoTags (.object members)
      · rcases h.tag with htag | htag
        · rw [hlast, htag] at hother
          exact hother rfl
        · exact hnot (.bare hfind htag hlast)
      · exact hnot (.shadowed hfind hlast hother)

end Loader

/-! ## The identity of an archive -/

/-- One bounded manifest with one record and one tag, among few entries. -/
def Regular (entries : List TarEntry) (r : Text) : Prop :=
  entries.length ≤ maxEntries ∧ ∃ m, entries.filter (·.name = manifestName) = [m] ∧
    m.content.length ≤ maxManifestBytes ∧ ∃ members,
      parseManifest m.content = some (.array [.object members]) ∧
        repoTags (.object members) = some (.array [.string r])

theorem Regular.accepted {entries : List TarEntry} {r : Text} (h : Regular entries r) :
    assertImageArchiveIdentity entries r = .ok () := by
  obtain ⟨hfew, m, hfilter, hsmall, members, hrecord, htag⟩ := h
  have hm : m ∈ entries.filter (·.name = manifestName) := by
    rw [hfilter]
    exact List.mem_singleton_self m
  obtain ⟨hmem, hname⟩ := List.mem_filter.mp hm
  obtain ⟨before, after, rfl⟩ := List.append_of_mem hmem
  have hname : m.name = manifestName := of_decide_eq_true hname
  have hothers : ∀ e ∈ before ++ after, e.name ≠ manifestName := by
    rw [List.filter_append, List.filter_cons_of_pos (by simpa using hname)] at hfilter
    have hlength := congrArg List.length hfilter
    rw [List.length_append, List.length_cons, List.length_singleton] at hlength
    intro e he hsame
    have hpass : ∀ es : List TarEntry, e ∈ es → 0 < (es.filter (·.name = manifestName)).length :=
      fun es hes => List.length_pos_of_mem (List.mem_filter.mpr ⟨hes, decide_eq_true hsame⟩)
    rcases List.mem_append.mp he with he | he
    · have hpos := hpass before he
      omega
    · have hpos := hpass after he
      omega
  exact assertImageArchiveIdentity_iff.2
    ⟨before, m, after, members, rfl, hname, hothers, hfew, hsmall, hrecord, .inl htag⟩

/-- The loader sees what has been asserted exactly when it reads the archive in the same way. -/
theorem archive_identity_iff (entries : List TarEntry) (r : Text) :
    ((assertImageArchiveIdentity entries r = .ok () → load entries = some [[r]]) ∧
        (Regular entries r → assertImageArchiveIdentity entries r = .ok ())) ↔
      ∀ before m after members, Accepted entries r before m after members →
        ¬ Drifts r members after := by
  constructor
  · rintro ⟨hloads, -⟩ before m after members haccepted
    exact (load_iff haccepted).mp
      (hloads (assertImageArchiveIdentity_iff.mpr ⟨before, m, after, members, haccepted⟩))
  · intro hnot
    refine ⟨fun h => ?_, Regular.accepted⟩
    obtain ⟨before, m, after, members, haccepted⟩ := assertImageArchiveIdentity_iff.1 h
    exact (load_iff haccepted).mpr (hnot before m after members haccepted)

/-- A manifest of one record with one tag of one letter. -/
def tagged (u : Nat) : Text := ascii "[\x7b\"RepoTags\":[\"" ++ u :: ascii "\"]\x7d]"

theorem parse_tagged {u : Nat} (hlow : 0x20 ≤ u) (hquote : u ≠ 0x22) (hslash : u ≠ 0x5c) :
    parse (tagged u) = some (.array [.object [(ascii "RepoTags", .array [.string [u]])]]) := by
  have htag : chars? (u :: ascii "\"]\x7d]") = some ([u], ascii "]\x7d]") := by
    unfold chars?
    simp [hslash, Nat.not_lt.mpr hlow, ascii, chars?]
  have hkey : chars? (ascii "RepoTags\":[\"" ++ u :: ascii "\"]\x7d]") =
      some (ascii "RepoTags", 0x3a :: 0x5b :: 0x22 :: u :: ascii "\"]\x7d]") := rfl
  have hstring : value? 35 (0x22 :: u :: ascii "\"]\x7d]") = some (.string [u], ascii "]\x7d]") :=
    value?_string htag
  have htags := value?_array rfl (by decide) (items?_single hstring)
  have hrecord := value?_object (members?_single hkey htags)
  exact parse_of_value (value?_array rfl (by decide) (items?_single hrecord))

def taggedEntry (name : Text) (tag : Char) : TarEntry where
  name := name
  chunks := [(tagged tag.toNat).map UInt8.ofNat]

def aliasedArchive : List TarEntry :=
  [taggedEntry manifestName 'a', taggedEntry (ascii "./manifest.json") 'b']

theorem parse_taggedEntry (name : Text) :
    parseManifest (taggedEntry name 'a').content = parse (tagged 0x61) ∧
      parseManifest (taggedEntry name 'b').content = parse (tagged 0x62) := by
  have ha : Utf8.toText ((tagged 0x61).map UInt8.ofNat) = tagged 0x61 := by decide
  have hb : Utf8.toText ((tagged 0x62).map UInt8.ofNat) = tagged 0x62 := by decide
  exact ⟨congrArg parse ha, congrArg parse hb⟩

theorem aliasedArchive_accepted :
    assertImageArchiveIdentity aliasedArchive (ascii "a") = .ok () := by
  have hrecord : parseManifest (taggedEntry manifestName 'a').content = some (.array
      [.object [(ascii "RepoTags", .array [.string (ascii "a")])]]) := by
    rw [(parse_taggedEntry _).1]
    exact parse_tagged (by decide) (by decide) (by decide)
  have hfilter : aliasedArchive.filter (·.name = manifestName) = [taggedEntry manifestName 'a'] := by
    unfold aliasedArchive
    rw [List.filter_cons_of_pos (by decide), List.filter_cons_of_neg (by decide)]
    rfl
  exact Regular.accepted ⟨by decide, _, hfilter, by decide, _, hrecord, rfl⟩

theorem aliasedArchive_find : aliasedArchive.reverse.find? isManifestFile =
    some (taggedEntry (ascii "./manifest.json") 'b') := by
  have hpath : isManifestFile (taggedEntry (ascii "./manifest.json") 'b') = true := by
    unfold isManifestFile
    decide
  unfold aliasedArchive
  rw [List.reverse_cons, List.reverse_cons, List.reverse_nil, List.nil_append, List.singleton_append,
    List.find?_cons_of_pos hpath]

theorem aliasedArchive_load : load aliasedArchive = some [[ascii "b"]] := by
  have hmanifest := (parse_taggedEntry (ascii "./manifest.json")).2.trans
    (parse_tagged (by decide) (by decide) (by decide))
  unfold load TarEntry.loads
  rw [aliasedArchive_find]
  simp only [Option.bind_eq_bind, Option.bind_some, hmanifest]
  rfl

theorem archive_identity_fails : ¬ ∀ (entries : List TarEntry) (r : Text),
    (assertImageArchiveIdentity entries r = .ok () → load entries = some [[r]]) ∧
      (Regular entries r → assertImageArchiveIdentity entries r = .ok ()) := by
  intro h
  have hloads := (h aliasedArchive (ascii "a")).1 aliasedArchive_accepted
  rw [aliasedArchive_load] at hloads
  exact absurd hloads (by decide)

end InitPad.Artifacts
