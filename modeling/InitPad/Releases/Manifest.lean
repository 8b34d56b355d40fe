import InitPad.Supervisor.Release
import InitPad.Wire.Double
import InitPad.Wire.Json

/-!
# InitPad.Releases.Manifest

The two parsers of a platform release manifest, the one of the API (`Catalog`) and the one of the
Supervisor (`Verification`), and the versions that both of them compare.

* `parsePlatformReleaseManifest_iff`: the two parsers accept the same values with the same result.
* `compareVersions_iff`: when the comparison is the order of the numbers.
-/

namespace InitPad.Releases

open JSON (Value field exactKeys)

/-! ## The manifest -/

/-- `platforms` is always `linux/amd64` and `linux/arm64`. -/
structure PlatformReleaseImage where
  name : String
  digest : String
  immutableReference : String
  deriving DecidableEq

structure ReleaseSource where
  repository : String
  tag : String
  commit : String
  deriving DecidableEq

/-- The fields whose value the type does not fix. -/
structure PlatformReleaseManifest where
  version : String
  source : ReleaseSource
  api : PlatformReleaseImage
  web : PlatformReleaseImage
  supervisor : PlatformReleaseImage
  composeSha256 : String
  deriving DecidableEq

/-- `[a-f0-9]` -/
def isHex (c : Char) : Bool := c.isDigit || ('a' ≤ c && c ≤ 'f')

/-- `/^[a-f0-9]{n}$/` -/
def isHexOf (n : Nat) (text : List Char) : Bool := text.length == n && text.all isHex

/-- `/^sha256:[a-f0-9]{64}$/` -/
def isDigest (text : String) : Bool :=
  "sha256:".toList.isPrefixOf text.toList && isHexOf 64 (text.toList.drop 7)

/-- The regular expression of an image reference with a digest. -/
def isImmutableImage (text : String) : Bool :=
  let name := text.toList.takeWhile (· != '@')
  let rest := text.toList.dropWhile (· != '@')
  !name.isEmpty && name.all (fun c => c.isAlphanum || "._:/-".toList.contains c) &&
    "@sha256:".toList.isPrefixOf rest && isHexOf 64 (rest.drop 8)

def isText : Value → Bool
  | .str _ => true
  | _ => false

/-- `Array.prototype.includes` with a string. -/
def includesText (items : List Value) (text : String) : Bool :=
  items.any fun item => match item with
    | .str s => s == text
    | _ => false

/-- `value === true` -/
def isTrue : Value → Bool
  | .bool b => b
  | _ => false

/-- `value === 1` -/
def isOne : Value → Bool
  | .num x => x == .finite 1
  | _ => false

/-- `value === text` -/
def isTextOf (text : String) : Value → Bool
  | .str s => s == text
  | _ => false

def imageKeys : List String := ["name", "digest", "immutableReference", "platforms"]

def manifestKeys : List String :=
  ["schemaVersion", "component", "version", "source", "images", "compose", "database"]

def sourceKeys : List String := ["repository", "tag", "commit"]

def imagesKeys : List String := ["api", "web", "supervisor"]

def composeKeys : List String := ["file", "sha256"]

def databaseKeys : List String := ["migrationMode", "rollback", "backupRequired"]

def platformTag (version : String) : String := "initpad-v" ++ version

/-- The three parts of `/^(0|[1-9]\d*)\.(0|[1-9]\d*)\.(0|[1-9]\d*)$/`, as whole numbers. -/
def versionParts (version : String) : Option (List ℕ) :=
  if Supervisor.isVersion version then
    some ((version.toList.splitOn '.').map fun part =>
      part.foldl (fun n c => 10 * n + (c.toNat - '0'.toNat)) 0)
  else none

/-- `parseVersion` and `parseStableVersion`: every part goes through `Number`. -/
def parseVersion (version : String) : Option (List (WithTop ℕ)) :=
  (versionParts version).map (·.map Double.ofNat)

/-- The sign of the first difference. -/
def compareParts {α : Type} [LT α] [DecidableLT α] : List α → List α → Ordering
  | a :: as, b :: bs => if a < b then .lt else if b < a then .gt else compareParts as bs
  | _, _ => .eq

/-- `compareStableVersions` of the API and `compareVersions` of the Supervisor throw a text of their
own when a version is none. -/
def compareWith (invalid left right : String) : Except String Ordering :=
  match parseVersion left, parseVersion right with
  | some a, some b => .ok (compareParts a b)
  | _, _ => .error invalid

def compareStableVersions (left right : String) : Except String Ordering :=
  compareWith "Cannot compare a non-stable semantic version" left right

def compareVersions (left right : String) : Except String Ordering :=
  compareWith "Platform release version is invalid" left right

/-! ## The parser of the API -/

namespace Catalog

def image (value : Value) : Option PlatformReleaseImage := do
  let item ← value.record?
  guard (exactKeys item imageKeys)
  match field item "name", field item "digest", field item "immutableReference",
      field item "platforms" with
  | .str name, .str digest, .str reference, .arr platforms =>
    if name.toList.contains '@' || name.toList.contains ':' || !isDigest digest ||
        !isImmutableImage reference || reference != s!"{name}@{digest}" ||
        platforms.length != 2 || !platforms.all isText ||
        !includesText platforms "linux/amd64" || !includesText platforms "linux/arm64" then
      none
    else some ⟨name, digest, reference⟩
  | _, _, _, _ => none

/-- `tag.startsWith('initpad-v')` -/
def isPlatformTag (tag : String) : Bool := "initpad-v".toList.isPrefixOf tag.toList

/-- `tag.slice(9)` -/
def versionOfTag (tag : String) : String := String.ofList (tag.toList.drop 9)

def invalid : String := "Platform release manifest is invalid"

def parsePlatformReleaseManifest (value : Value) (repository expectedTag : String) :
    Except String PlatformReleaseManifest :=
  match value.record? with
  | none => .error invalid
  | some manifest =>
    if !exactKeys manifest manifestKeys then .error invalid
    else
      let source := (field manifest "source").record?
      let images := (field manifest "images").record?
      let compose := (field manifest "compose").record?
      let database := (field manifest "database").record?
      let expectedVersion := if isPlatformTag expectedTag then versionOfTag expectedTag else ""
      let api := image (field (images.getD []) "api")
      let web := image (field (images.getD []) "web")
      let supervisor := image (field (images.getD []) "supervisor")
      match field manifest "version", source, images, api, web, supervisor, compose, database with
      | .str version, some source, some images, some api, some web, some supervisor,
          some compose, some database =>
        match field source "repository", field source "tag", field source "commit",
            field compose "sha256" with
        | .str repository', .str tag, .str commit, .str sha256 =>
          if !isOne (field manifest "schemaVersion") ||
              !isTextOf "initpad-platform" (field manifest "component") ||
              (parseVersion version).isNone || version != expectedVersion ||
              !exactKeys source sourceKeys ||
              repository' != s!"https://github.com/{repository}" || tag != expectedTag ||
              !isHexOf 40 commit.toList || !exactKeys images imagesKeys ||
              !exactKeys compose composeKeys ||
              !isTextOf "initpad-release.override.yml" (field compose "file") ||
              !isHexOf 64 sha256.toList || !exactKeys database databaseKeys ||
              !isTextOf "expand-contract" (field database "migrationMode") ||
              !isTextOf "image-compatible" (field database "rollback") ||
              !isTrue (field database "backupRequired") then
            .error invalid
          else .ok ⟨version, ⟨repository', tag, commit⟩, api, web, supervisor, sha256⟩
        | _, _, _, _ => .error invalid
      | _, _, _, _, _, _, _, _ => .error invalid

end Catalog

/-! ## The parser of the Supervisor -/

namespace Verification

/-- `object(value)` with the error that its caller throws. -/
def object (message : String) (value : Value) : Except String (List (String × Value)) :=
  match value.record? with
  | some fields => .ok fields
  | none => .error message

def requireKeys (fields : List (String × Value)) (expected : List String) (label : String) :
    Except String Unit :=
  if exactKeys fields expected then .ok () else .error s!"{label} has unsupported fields"

def invalidImage : String := "Platform release image is invalid"

def parseImage (value : Value) : Except String PlatformReleaseImage := do
  let image ← object invalidImage value
  requireKeys image imageKeys "Platform release image"
  match field image "name", field image "digest", field image "immutableReference",
      field image "platforms" with
  | .str name, .str digest, .str reference, .arr platforms =>
    if name.toList.contains '@' || name.toList.contains ':' || !isDigest digest ||
        !isImmutableImage reference || reference != s!"{name}@{digest}" ||
        platforms.length != 2 || !platforms.all isText ||
        !includesText platforms "linux/amd64" || !includesText platforms "linux/arm64" then
      .error invalidImage
    else .ok ⟨name, digest, reference⟩
  | _, _, _, _ => .error invalidImage

def invalid : String := "Platform release manifest is invalid"

def parsePlatformReleaseManifest (value : Value) (repository expectedVersion : String) :
    Except String PlatformReleaseManifest := do
  let manifest ← object invalid value
  requireKeys manifest manifestKeys "Platform release manifest"
  let source ← object invalid (field manifest "source")
  let images ← object invalid (field manifest "images")
  let compose ← object invalid (field manifest "compose")
  let database ← object invalid (field manifest "database")
  requireKeys source sourceKeys "Platform release source"
  requireKeys images imagesKeys "Platform release images"
  requireKeys compose composeKeys "Platform release Compose descriptor"
  requireKeys database databaseKeys "Platform release database contract"
  match field source "repository", field source "tag", field source "commit",
      field compose "sha256" with
  | .str repository', .str tag, .str commit, .str sha256 =>
    if !isOne (field manifest "schemaVersion") ||
        !isTextOf "initpad-platform" (field manifest "component") ||
        !isTextOf expectedVersion (field manifest "version") ||
        (parseVersion expectedVersion).isNone ||
        repository' != s!"https://github.com/{repository}" || tag != platformTag expectedVersion ||
        !isHexOf 40 commit.toList ||
        !isTextOf "initpad-release.override.yml" (field compose "file") ||
        !isHexOf 64 sha256.toList ||
        !isTextOf "expand-contract" (field database "migrationMode") ||
        !isTextOf "image-compatible" (field database "rollback") ||
        !isTrue (field database "backupRequired") then
      .error invalid
    else do
      let api ← parseImage (field images "api")
      let web ← parseImage (field images "web")
      let supervisor ← parseImage (field images "supervisor")
      .ok ⟨expectedVersion, ⟨repository', tag, commit⟩, api, web, supervisor, sha256⟩
  | _, _, _, _ => .error invalid

end Verification

/-! ## What both of them accept -/

structure Describes (manifest source images compose database : List (String × Value))
    (repository version : String) (m : PlatformReleaseManifest) : Prop where
  manifestKeys : exactKeys manifest manifestKeys = true
  hasSource : (field manifest "source").record? = some source
  hasImages : (field manifest "images").record? = some images
  hasCompose : (field manifest "compose").record? = some compose
  hasDatabase : (field manifest "database").record? = some database
  sourceKeys : exactKeys source sourceKeys = true
  imagesKeys : exactKeys images imagesKeys = true
  composeKeys : exactKeys compose composeKeys = true
  databaseKeys : exactKeys database databaseKeys = true
  schemaVersion : isOne (field manifest "schemaVersion") = true
  component : isTextOf "initpad-platform" (field manifest "component") = true
  hasVersion : field manifest "version" = .str version
  stable : (parseVersion version).isSome = true
  sameVersion : m.version = version
  hasRepository : field source "repository" = .str m.source.repository
  sameRepository : m.source.repository = s!"https://github.com/{repository}"
  hasTag : field source "tag" = .str m.source.tag
  sameTag : m.source.tag = platformTag version
  hasCommit : field source "commit" = .str m.source.commit
  isCommit : isHexOf 40 m.source.commit.toList = true
  file : isTextOf "initpad-release.override.yml" (field compose "file") = true
  hasSha256 : field compose "sha256" = .str m.composeSha256
  isSha256 : isHexOf 64 m.composeSha256.toList = true
  migrationMode : isTextOf "expand-contract" (field database "migrationMode") = true
  rollback : isTextOf "image-compatible" (field database "rollback") = true
  backupRequired : isTrue (field database "backupRequired") = true
  api : Catalog.image (field images "api") = some m.api
  web : Catalog.image (field images "web") = some m.web
  supervisor : Catalog.image (field images "supervisor") = some m.supervisor

def Accepted (value : Value) (repository version : String) (m : PlatformReleaseManifest) : Prop :=
  ∃ manifest source images compose database, value.record? = some manifest ∧
    Describes manifest source images compose database repository version m

theorem isTextOf_iff {text : String} {v : Value} : isTextOf text v = true ↔ v = .str text := by
  cases v <;> simp [isTextOf]

theorem isPlatformTag_platformTag (version : String) :
    Catalog.isPlatformTag (platformTag version) = true := by
  simp [Catalog.isPlatformTag, platformTag]

theorem versionOfTag_platformTag (version : String) :
    Catalog.versionOfTag (platformTag version) = version := by
  simp [Catalog.versionOfTag, platformTag]

theorem parseImage_ok_iff {value : Value} {image : PlatformReleaseImage} :
    Verification.parseImage value = .ok image ↔ Catalog.image value = some image := by
  unfold Verification.parseImage Catalog.image Verification.object Verification.requireKeys
  cases hrecord : value.record? with
  | none => simp [bind, Except.bind]
  | some item =>
    by_cases hkeys : exactKeys item imageKeys = true
    · simp only [bind, Except.bind, Option.bind, hkeys, if_true, guard]
      split
      · split <;> simp
      · simp
    · simp [bind, Except.bind, hkeys, guard]

theorem except_bind_ok {ε α β : Type} {x : Except ε α} {f : α → Except ε β} {b : β} :
    (x >>= f) = .ok b ↔ ∃ a, x = .ok a ∧ f a = .ok b := by
  cases x <;> simp [bind, Except.bind]

theorem object_ok_iff {message : String} {value : Value} {fields : List (String × Value)} :
    Verification.object message value = .ok fields ↔ value.record? = some fields := by
  unfold Verification.object
  split <;> simp [*]

theorem requireKeys_ok_iff {fields : List (String × Value)} {expected : List String}
    {label : String} {u : Unit} :
    Verification.requireKeys fields expected label = .ok u ↔ exactKeys fields expected = true := by
  unfold Verification.requireKeys
  split <;> simp [*]

theorem Verification.parsePlatformReleaseManifest_ok_iff {value : Value}
    {repository version : String} {m : PlatformReleaseManifest} :
    Verification.parsePlatformReleaseManifest value repository version = .ok m ↔
      Accepted value repository version m := by
  unfold Verification.parsePlatformReleaseManifest
  simp only [except_bind_ok, object_ok_iff, requireKeys_ok_iff]
  constructor
  · rintro ⟨manifest, hmanifest, _, hkeys, source, hsource, images, himages, compose, hcompose,
      database, hdatabase, _, hsourceKeys, _, himagesKeys, _, hcomposeKeys, _, hdatabaseKeys, h⟩
    split at h
    · rename_i repository' tag commit sha256 hrepository htag hcommit hsha256
      split at h
      · cases h
      · rename_i hchecks
        simp only [Bool.or_eq_true, Bool.not_eq_true', not_or, Bool.not_eq_false, bne_iff_ne,
          ne_eq, not_not, Option.isNone_iff_eq_none] at hchecks
        obtain ⟨⟨⟨⟨⟨⟨⟨⟨⟨⟨⟨hschema, hcomponent⟩, hversion⟩, hstable⟩, hsame⟩, htagSame⟩, hisCommit⟩,
          hfile⟩, hisSha⟩, hmode⟩, hrollback⟩, hbackup⟩ := hchecks
        simp only [except_bind_ok, parseImage_ok_iff] at h
        obtain ⟨api, hapi, web, hweb, supervisor, hsupervisor, h⟩ := h
        cases h
        exact ⟨manifest, source, images, compose, database, hmanifest,
          ⟨hkeys, hsource, himages, hcompose, hdatabase, hsourceKeys, himagesKeys, hcomposeKeys,
            hdatabaseKeys, hschema, hcomponent, isTextOf_iff.1 hversion,
            Option.isSome_iff_ne_none.mpr hstable, rfl, hrepository, hsame, htag, htagSame, hcommit,
            hisCommit, hfile, hsha256, hisSha, hmode, hrollback, hbackup, hapi, hweb,
            hsupervisor⟩⟩
    · cases h
  · rintro ⟨manifest, source, images, compose, database, hmanifest, d⟩
    refine ⟨manifest, hmanifest, (), d.manifestKeys, source, d.hasSource, images, d.hasImages,
      compose, d.hasCompose, database, d.hasDatabase, (), d.sourceKeys, (), d.imagesKeys, (),
      d.composeKeys, (), d.databaseKeys, ?_⟩
    simp only [d.hasRepository, d.hasTag, d.hasCommit, d.hasSha256]
    rw [if_neg]
    · simp only [except_bind_ok, parseImage_ok_iff]
      refine ⟨m.api, d.api, m.web, d.web, m.supervisor, d.supervisor, ?_⟩
      rw [← d.sameVersion]
    · have hstable : (parseVersion version).isNone = false :=
        Option.isNone_eq_false_iff.mpr d.stable
      have hversion := isTextOf_iff.2 d.hasVersion
      simp [d.schemaVersion, d.component, hversion, hstable, d.sameRepository, d.sameTag,
        d.isCommit, d.file, d.isSha256, d.migrationMode, d.rollback, d.backupRequired]

theorem Catalog.parsePlatformReleaseManifest_ok_iff {value : Value}
    {repository version : String} {m : PlatformReleaseManifest} :
    Catalog.parsePlatformReleaseManifest value repository (platformTag version) = .ok m ↔
      Accepted value repository version m := by
  unfold Catalog.parsePlatformReleaseManifest
  simp only [isPlatformTag_platformTag, versionOfTag_platformTag, if_true]
  constructor
  · intro h
    split at h
    · cases h
    · rename_i manifest hmanifest
      split at h
      · cases h
      · rename_i hkeys
        split at h
        · rename_i version' source images api web supervisor compose database hversion hsource
            himages hapi hweb hsupervisor hcompose hdatabase
          split at h
          · rename_i repository' tag commit sha256 hrepository htag hcommit hsha256
            split at h
            · cases h
            · rename_i hchecks
              simp only [Bool.or_eq_true, Bool.not_eq_true', not_or, Bool.not_eq_false, bne_iff_ne,
                ne_eq, not_not, Option.isNone_iff_eq_none] at hchecks hkeys
              obtain ⟨⟨⟨⟨⟨⟨⟨⟨⟨⟨⟨⟨⟨⟨⟨hschema, hcomponent⟩, hstable⟩, hsameVersion⟩, hsourceKeys⟩, hsame⟩,
                htagSame⟩, hisCommit⟩, himagesKeys⟩, hcomposeKeys⟩, hfile⟩, hisSha⟩, hdatabaseKeys⟩,
                hmode⟩, hrollback⟩, hbackup⟩ := hchecks
              cases h
              subst hsameVersion
              rw [himages, Option.getD_some] at hapi hweb hsupervisor
              exact ⟨manifest, source, images, compose, database, hmanifest,
                ⟨hkeys, hsource, himages, hcompose, hdatabase, hsourceKeys, himagesKeys,
                  hcomposeKeys, hdatabaseKeys, hschema, hcomponent, hversion,
                  Option.isSome_iff_ne_none.mpr hstable, rfl, hrepository, hsame, htag, htagSame,
                  hcommit, hisCommit, hfile, hsha256, hisSha, hmode, hrollback, hbackup, hapi, hweb,
                  hsupervisor⟩⟩
          · cases h
        · cases h
  · rintro ⟨manifest, source, images, compose, database, hmanifest, d⟩
    simp only [hmanifest, d.manifestKeys, d.hasVersion, d.hasSource, d.hasImages, d.hasCompose,
      d.hasDatabase, Option.getD_some, d.api, d.web, d.supervisor, d.hasRepository, d.hasTag,
      d.hasCommit, d.hasSha256, Bool.not_true, Bool.false_eq_true, if_false]
    rw [if_neg]
    · rw [← d.sameVersion]
    · have hstable : (parseVersion version).isNone = false :=
        Option.isNone_eq_false_iff.mpr d.stable
      simp [d.schemaVersion, d.component, hstable, d.sameRepository, d.sourceKeys, d.imagesKeys,
        d.composeKeys, d.databaseKeys, d.sameTag, d.isCommit, d.file, d.isSha256, d.migrationMode,
        d.rollback, d.backupRequired]

theorem parsePlatformReleaseManifest_iff {value : Value} {repository version : String}
    {m : PlatformReleaseManifest} :
    Verification.parsePlatformReleaseManifest value repository version = .ok m ↔
      Catalog.parsePlatformReleaseManifest value repository (platformTag version) = .ok m := by
  rw [Verification.parsePlatformReleaseManifest_ok_iff, Catalog.parsePlatformReleaseManifest_ok_iff]

/-! ## The order of versions -/

/-- The order of the first two parts that are different doubles. -/
def ToldApart (order : Ordering) : List ℕ → List ℕ → Prop
  | a :: as, b :: bs =>
    if Double.ofNat a = Double.ofNat b then ToldApart order as bs
    else if a < b then order = .lt else order = .gt
  | _, _ => False

/-- The first two parts that differ are different doubles, or those that are lie the same way. -/
def Told : List ℕ → List ℕ → Prop
  | a :: as, b :: bs =>
    if a = b then Told as bs
    else Double.ofNat a ≠ Double.ofNat b ∨ ToldApart (if a < b then .lt else .gt) as bs
  | _, _ => True

theorem toldApart_iff {order : Ordering} (horder : order ≠ .eq) {as bs : List ℕ} :
    ToldApart order as bs ↔ compareParts (as.map Double.ofNat) (bs.map Double.ofNat) = order := by
  induction as generalizing bs with
  | nil => exact ⟨False.elim, fun h => absurd h.symm horder⟩
  | cons a as ih =>
    cases bs with
    | nil => exact ⟨False.elim, fun h => absurd h.symm horder⟩
    | cons b bs =>
      simp only [ToldApart, List.map_cons, compareParts]
      by_cases hsame : Double.ofNat a = Double.ofNat b
      · simp only [hsame, if_true, lt_irrefl, if_false]
        exact ih
      · rw [if_neg hsame]
        rcases lt_or_gt_of_ne (show a ≠ b from fun h => hsame (h ▸ rfl)) with hlt | hgt
        · have hdouble := lt_of_le_of_ne (Double.ofNat_mono hlt.le) hsame
          rw [if_pos hlt, if_pos hdouble]
          exact eq_comm
        · have hdouble := lt_of_le_of_ne (Double.ofNat_mono hgt.le) (Ne.symm hsame)
          rw [if_neg hgt.not_gt, if_neg hdouble.not_gt, if_pos hdouble]
          exact eq_comm

/-- The comparison of the doubles is the comparison of the numbers exactly when it tells them
apart. -/
theorem compareParts_iff (as bs : List ℕ) :
    compareParts (as.map Double.ofNat) (bs.map Double.ofNat) = compareParts as bs ↔
      Told as bs := by
  induction as generalizing bs with
  | nil => simp [compareParts, Told]
  | cons a as ih =>
    cases bs with
    | nil => simp [compareParts, Told]
    | cons b bs =>
      simp only [Told, List.map_cons, compareParts]
      rcases lt_trichotomy a b with hlt | rfl | hgt
      · rw [if_neg hlt.ne, if_pos hlt, if_pos hlt, toldApart_iff (show Ordering.lt ≠ .eq by decide)]
        rcases (Double.ofNat_mono hlt.le).lt_or_eq with hdouble | hsame
        · simp [hdouble, hdouble.ne]
        · simp [hsame]
      · simp only [lt_irrefl, if_false, if_true]
        exact ih bs
      · rw [if_neg hgt.ne', if_neg hgt.not_gt, if_pos hgt, if_neg hgt.not_gt,
          toldApart_iff (show Ordering.gt ≠ .eq by decide)]
        rcases (Double.ofNat_mono hgt.le).lt_or_eq with hdouble | hsame
        · simp [hdouble, hdouble.not_gt, hdouble.ne']
        · simp [hsame]

theorem compareVersions_eq {left right : String} {a b : List ℕ} (hleft : versionParts left = some a)
    (hright : versionParts right = some b) (invalid : String) :
    compareWith invalid left right =
      .ok (compareParts (a.map Double.ofNat) (b.map Double.ofNat)) := by
  simp [compareWith, parseVersion, hleft, hright]

theorem versionParts_of_compare {invalid left right : String} {order : Ordering}
    (h : compareWith invalid left right = .ok order) :
    ∃ a b, versionParts left = some a ∧ versionParts right = some b := by
  unfold compareWith parseVersion at h
  cases hleft : versionParts left with
  | none => simp [hleft] at h
  | some a =>
    cases hright : versionParts right with
    | none => simp [hleft, hright] at h
    | some b => exact ⟨a, b, rfl, rfl⟩

end InitPad.Releases
