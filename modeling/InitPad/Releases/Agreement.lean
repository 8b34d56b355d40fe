import InitPad.Gateway.Text
import InitPad.Releases.Verification

/-!
# InitPad.Releases.Agreement

What the catalog offers against what the Supervisor accepts. A release that is offered is accepted
exactly when it fits into the limits of the Supervisor, its bundle is an object and the signature
also verifies for the bundle that is read back; what the Supervisor accepts, the API parses.
-/

namespace InitPad.Releases

open JSON (Value field exactKeys)

variable {config : UpdatesConfig} {outside : Outside} {fetch : String → Except String Download}
  {release : VerifiedPlatformRelease}

/-! ## What is offered -/

theorem platformTag_versionOfTag {tag : String} (h : Catalog.isPlatformTag tag = true) :
    platformTag (Catalog.versionOfTag tag) = tag := by
  obtain ⟨rest, hrest⟩ := List.isPrefixOf_iff_prefix.mp h
  have hdrop : tag.toList.drop 9 = rest := by
    rw [← hrest]
    exact List.drop_left' rfl
  apply String.toList_injective
  have hversion : (String.ofList rest).toList = rest := String.toList_ofList
  rw [platformTag, String.toList_append, Catalog.versionOfTag, hdrop, hversion]
  exact hrest

structure Offered (config : UpdatesConfig) (outside : Outside) (release : VerifiedPlatformRelease)
    (bytes : List UInt8) (value : Value) : Prop where
  encoded : release.manifestBase64 = String.ofList (Base64.encode bytes)
  parsed : outside.parseJson bytes = some value
  accepted : Catalog.parsePlatformReleaseManifest value config.repository
    (platformTag release.manifest.version) = .ok release.manifest
  verified : outside.verify release.bundle bytes
    (certificateIdentity config.repository (platformTag release.manifest.version)) = true

theorem offered_of_download {checkedAt : String} {candidate : ReleaseEntry}
    (hcandidate : Catalog.isCandidate config candidate = true)
    (h : Catalog.download config outside fetch checkedAt candidate = .ok release) :
    ∃ bytes value, Offered config outside release bytes value := by
  have htag : Catalog.isPlatformTag candidate.tag = true := by
    simp only [Catalog.isCandidate, Bool.and_eq_true] at hcandidate
    exact hcandidate.1.1.2
  unfold Catalog.download at h
  simp only [except_bind_ok] at h
  obtain ⟨manifestAsset, _, bundleAsset, _, _, _, _, _, manifestResponse, _, bundleResponse, _,
    h⟩ := h
  split at h
  · cases h
  · split at h
    · rename_i value bundle hvalue _
      obtain ⟨manifest, hmanifest, h⟩ := except_bind_ok.mp h
      split at h
      · rename_i hverify
        cases h
        have htagged := platformTag_versionOfTag htag
        have hversion : manifest.version = Catalog.versionOfTag candidate.tag := by
          rw [← htagged] at hmanifest
          obtain ⟨_, _, _, _, _, _, d⟩ := Catalog.parsePlatformReleaseManifest_ok_iff.mp hmanifest
          exact d.sameVersion
        have hplatform : platformTag manifest.version = candidate.tag := by rw [hversion, htagged]
        exact ⟨manifestResponse.body, value, rfl, hvalue, by rw [hplatform]; exact hmanifest,
          by rw [hplatform]; exact hverify⟩
      · cases h
    · cases h

theorem newest_candidate {releases : List ReleaseEntry} {candidate : ReleaseEntry}
    (h : Catalog.newest config releases = some candidate) :
    Catalog.isCandidate config candidate = true := by
  have hmem := List.mem_of_mem_head? (Option.mem_def.mpr h)
  rw [List.mem_insertionSort] at hmem
  exact (List.mem_filter.mp hmem).2

theorem offered_of_refresh {checkedAt : String} {result : PlatformCatalogResult}
    (h : Catalog.refresh config outside fetch checkedAt = .ok result)
    (hrelease : result.release = some release) :
    ∃ bytes value, Offered config outside release bytes value := by
  unfold Catalog.refresh at h
  obtain ⟨list, _, h⟩ := except_bind_ok.mp h
  split at h
  · cases h
  · obtain ⟨releases, _, h⟩ := except_bind_ok.mp h
    split at h
    · cases h
      cases hrelease
    · rename_i candidate hnewest
      obtain ⟨release', hdownload, h⟩ := except_bind_ok.mp h
      cases h
      obtain rfl := Option.some.inj hrelease
      exact offered_of_download (newest_candidate hnewest) hdownload

structure Kept (config : UpdatesConfig) (outside : Outside) (s : Catalog.State) : Prop where
  cached : ∀ expiresAt result release, s.cached = some (expiresAt, result) →
    result.release = some release → ∃ bytes value, Offered config outside release bytes value
  lastGood : ∀ result release, s.lastGood = some result →
    result.release = some release → ∃ bytes value, Offered config outside release bytes value

/-- A service that has answered any calls, each of which met other responses. -/
inductive Reachable (config : UpdatesConfig) (outside : Outside) : Catalog.State → Prop where
  | start : Reachable config outside {}
  | latest {s : Catalog.State} (fetch : String → Except String Download) (force : Bool) (now : ℕ)
      (checkedAt : String) (h : Reachable config outside s) :
      Reachable config outside
        (Catalog.latest config outside fetch force now checkedAt s).2

theorem offered_of_refreshed {s : Catalog.State} (hs : Kept config outside s) {checkedAt : String}
    (h : (Catalog.refreshed config outside fetch checkedAt s).release = some release) :
    ∃ bytes value, Offered config outside release bytes value := by
  unfold Catalog.refreshed at h
  split at h
  · rename_i result hrefresh
    exact offered_of_refresh hrefresh h
  · unfold Catalog.failed at h
    split at h
    · rename_i lastGood hgood
      exact hs.lastGood _ _ hgood h
    · cases h

theorem offered_of_latest {s : Catalog.State} (hs : Kept config outside s) {force : Bool} {now : ℕ}
    {checkedAt : String}
    (h : (Catalog.latest config outside fetch force now checkedAt s).1.release = some release) :
    ∃ bytes value, Offered config outside release bytes value := by
  unfold Catalog.latest at h
  split at h
  · cases h
  · split at h
    · rename_i cached hcached
      obtain ⟨hcached, _⟩ := Option.filter_eq_some_iff.mp hcached
      exact hs.cached _ _ _ hcached h
    · exact offered_of_refreshed hs h

theorem kept_latest {s : Catalog.State} (hs : Kept config outside s) (force : Bool) (now : ℕ)
    (checkedAt : String) :
    Kept config outside (Catalog.latest config outside fetch force now checkedAt s).2 := by
  unfold Catalog.latest
  split
  · exact hs
  · split
    · exact hs
    · constructor
      · intro expiresAt result release h hrelease
        cases h
        exact offered_of_refreshed hs hrelease
      · intro result release h hrelease
        dsimp only at h
        by_cases herror : (Catalog.refreshed config outside fetch checkedAt s).error.isNone = true
        · rw [if_pos herror] at h
          cases h
          exact offered_of_refreshed hs hrelease
        · rw [if_neg herror] at h
          exact hs.lastGood _ _ h hrelease

theorem reachable_kept {s : Catalog.State} (h : Reachable config outside s) :
    Kept config outside s := by
  induction h with
  | start =>
    constructor
    · intro expiresAt result release h
      cases h
    · intro result release h
      cases h
  | latest fetch force now checkedAt _ ih => exact kept_latest ih force now checkedAt

/-! ## What is accepted -/

theorem readChunks_ok_iff {tooLarge : String} {maximum total : ℕ} {chunks : List (List UInt8)}
    {body : List UInt8} (htotal : total ≤ maximum) :
    Catalog.readChunks tooLarge maximum total chunks = .ok body ↔
      body = chunks.flatten ∧ total + chunks.flatten.length ≤ maximum := by
  induction chunks generalizing total body with
  | nil => simp [Catalog.readChunks, htotal, eq_comm]
  | cons chunk chunks ih =>
    rw [Catalog.readChunks, List.flatten_cons, List.length_append]
    by_cases hlarge : total + chunk.length > maximum
    · rw [if_pos hlarge]
      constructor
      · intro h
        cases h
      · rintro ⟨_, hle⟩
        omega
    · rw [if_neg hlarge, except_bind_ok]
      constructor
      · rintro ⟨rest, hrest, h⟩
        obtain ⟨rfl, hle⟩ := (ih (by omega)).mp hrest
        cases h
        exact ⟨rfl, by omega⟩
      · rintro ⟨rfl, hle⟩
        exact ⟨chunks.flatten, (ih (by omega)).mpr ⟨rfl, by omega⟩, rfl⟩

theorem decodeManifest_encode {bytes bytes' : List UInt8} :
    Verification.decodeManifest (.str (String.ofList (Base64.encode bytes))) = .ok bytes' ↔
      bytes' = bytes ∧ bytes ≠ [] ∧ bytes.length ≤ Verification.MAX_MANIFEST_BYTES := by
  simp only [Verification.decodeManifest, String.toList_ofList, Base64.decode_encode,
    Base64.length_encode]
  by_cases hempty : bytes = []
  · subst hempty
    simp
  · have hpos : 0 < bytes.length := List.length_pos_iff.mpr hempty
    by_cases hfits : bytes.length ≤ Verification.MAX_MANIFEST_BYTES
    · have hmax : Verification.MAX_MANIFEST_BYTES = 524288 := rfl
      have hshort : ¬ 4 * ((bytes.length + 2) / 3) >
          (Verification.MAX_MANIFEST_BYTES * 4 + 2) / 3 + 4 := by omega
      have hsome : ¬ 4 * ((bytes.length + 2) / 3) = 0 := by omega
      have hshape := Base64.isEncoding_encode hempty
      rw [if_neg (by simp only [Bool.or_eq_true, beq_iff_eq, decide_eq_true_eq, hshape, hsome,
        hshort, Bool.not_true, Bool.false_eq_true, or_self, not_false_iff]),
        if_neg (by simp [hfits, hempty])]
      exact ⟨fun h => ⟨(Except.ok.inj h).symm, hempty, hfits⟩, fun h => by rw [h.1]⟩
    · constructor
      · intro h
        split at h
        · cases h
        · rw [if_pos (by simp [Nat.lt_of_not_le hfits])] at h
          cases h
      · intro h
        exact absurd h.2.2 hfits

theorem verifyPlatformRelease_ok_iff {value : Value} {installed repository : String}
    {m : PlatformReleaseManifest} :
    Verification.verifyPlatformRelease outside value installed repository = .ok m ↔
      ∃ submitted version bytes bundle parsed, value.record? = some submitted ∧
        exactKeys submitted ["version", "manifestBase64", "bundle"] = true ∧
        field submitted "version" = .str version ∧ (parseVersion version).isSome = true ∧
        compareVersions version installed = .ok .gt ∧
        Verification.decodeManifest (field submitted "manifestBase64") = .ok bytes ∧
        (field submitted "bundle").record? = some bundle ∧
        outside.parseJson bytes = some parsed ∧
        Catalog.parsePlatformReleaseManifest parsed repository (platformTag version) = .ok m ∧
        outside.verify (field submitted "bundle") bytes
          (certificateIdentity repository (platformTag version)) = true := by
  unfold Verification.verifyPlatformRelease
  simp only [except_bind_ok, object_ok_iff, requireKeys_ok_iff]
  constructor
  · rintro ⟨submitted, hsubmitted, _, hkeys, h⟩
    split at h
    · rename_i version hversion
      split at h
      · cases h
      · rename_i hstable
        obtain ⟨order, horder, h⟩ := except_bind_ok.mp h
        split at h
        · cases h
        · rename_i hnewer
          simp only [except_bind_ok, object_ok_iff] at h
          obtain ⟨bytes, hbytes, bundle, hbundle, h⟩ := h
          split at h
          · cases h
          · rename_i parsed hparsed
            obtain ⟨manifest, hmanifest, h⟩ := except_bind_ok.mp h
            split at h
            · rename_i hverified
              cases h
              obtain rfl : order = .gt := by simpa using hnewer
              exact ⟨submitted, version, bytes, bundle, parsed, hsubmitted, hkeys, hversion,
                Option.isSome_iff_ne_none.mpr (by simpa using hstable), horder, hbytes, hbundle, hparsed,
                parsePlatformReleaseManifest_iff.mp hmanifest, hverified⟩
            · cases h
    · cases h
  · rintro ⟨submitted, version, bytes, bundle, parsed, hsubmitted, hkeys, hversion, hstable, horder,
      hbytes, hbundle, hparsed, hmanifest, hverified⟩
    refine ⟨submitted, hsubmitted, (), hkeys, ?_⟩
    have hknown : (parseVersion version).isNone = false := Option.isNone_eq_false_iff.mpr hstable
    simp only [hversion, hknown, Bool.false_eq_true, if_false, except_bind_ok]
    refine ⟨.gt, horder, ?_⟩
    simp only [bne_self_eq_false, Bool.false_eq_true, if_false, except_bind_ok, object_ok_iff]
    refine ⟨bytes, hbytes, bundle, hbundle, ?_⟩
    simp only [hparsed, except_bind_ok]
    exact ⟨m, parsePlatformReleaseManifest_iff.mpr hmanifest, if_pos hverified⟩

/-! ## The hand-over -/

/-- The limits of the Supervisor, and the bundle as it is read back from the body. -/
structure Fits (outside : Outside) (numeral : ℚ → List Char) (repository : String)
    (release : VerifiedPlatformRelease) : Prop where
  manifest : (Base64.decode release.manifestBase64.toList).length ≤ Verification.MAX_MANIFEST_BYTES
  body : (requestBody numeral (signedRelease release)).length ≤ Verification.MAX_BODY_BYTES
  bundle : release.bundle.record?.isSome = true
  rereads : outside.verify release.bundle.reread (Base64.decode release.manifestBase64.toList)
    (certificateIdentity repository (platformTag release.manifest.version)) = true

theorem receive_ok_iff {chunks : List (List UInt8)} {installed repository : String}
    {m : PlatformReleaseManifest} :
    Verification.receive outside chunks installed repository = .ok m ↔
      chunks.flatten.length ≤ Verification.MAX_BODY_BYTES ∧
        ∃ value, outside.parseJson chunks.flatten = some value ∧
          Verification.verifyPlatformRelease outside value installed repository = .ok m := by
  unfold Verification.receive Verification.readBody
  rw [except_bind_ok]
  constructor
  · rintro ⟨body, hbody, h⟩
    obtain ⟨rfl, hsize⟩ := (readChunks_ok_iff (Nat.zero_le _)).mp hbody
    split at h
    · cases h
    · rename_i value hvalue
      exact ⟨by omega, value, hvalue, h⟩
  · rintro ⟨hsize, value, hvalue, h⟩
    refine ⟨chunks.flatten, (readChunks_ok_iff (Nat.zero_le _)).mpr ⟨rfl, by omega⟩, ?_⟩
    rw [hvalue]
    exact h

theorem signedRelease_reread (release : VerifiedPlatformRelease) : (signedRelease release).reread =
    .obj [("version", .str release.manifest.version),
      ("manifestBase64", .str release.manifestBase64), ("bundle", release.bundle.reread)] := by
  simp only [signedRelease, Value.reread, JSON.rereadFields]

theorem receive_submitted_iff {bytes : List UInt8} {value : Value} {numeral : ℚ → List Char}
    {chunks : List (List UInt8)} {installed : String} (hempty : outside.parseJson [] = none)
    (hoffered : Offered config outside release bytes value)
    (hnewer : compareStableVersions release.manifest.version installed = .ok .gt)
    (hbody : chunks.flatten = requestBody numeral (signedRelease release))
    (hread : outside.parseJson (requestBody numeral (signedRelease release)) =
      some (signedRelease release).reread) :
    Verification.receive outside chunks installed config.repository = .ok release.manifest ↔
      Fits outside numeral config.repository release := by
  have hne : bytes ≠ [] := by
    rintro rfl
    have hparsed := hoffered.parsed
    rw [hempty] at hparsed
    cases hparsed
  have hdecoded : Base64.decode release.manifestBase64.toList = bytes := by
    rw [hoffered.encoded, String.toList_ofList, Base64.decode_encode]
  obtain ⟨a, b, hversion, hinstalled⟩ := versionParts_of_compare hnewer
  have hstable : (parseVersion release.manifest.version).isSome = true := by
    rw [parseVersion, hversion]
    rfl
  have horder : compareVersions release.manifest.version installed = .ok .gt := by
    unfold compareStableVersions at hnewer
    unfold compareVersions
    rw [compareVersions_eq hversion hinstalled] at hnewer ⊢
    rw [Except.ok.inj hnewer]
  rw [receive_ok_iff, hbody, hread]
  constructor
  · rintro ⟨hsize, _, hvalue, h⟩
    obtain rfl := Option.some.inj hvalue
    rw [signedRelease_reread] at h
    obtain ⟨submitted, version, bytes', bundle, parsed, hsubmitted, -, hsent, -, -, hmanifest,
      hbundle, -, -, hverified⟩ := verifyPlatformRelease_ok_iff.1 h
    obtain rfl := Option.some.inj hsubmitted
    obtain rfl := Value.str.inj hsent
    change Verification.decodeManifest (.str release.manifestBase64) = _ at hmanifest
    rw [hoffered.encoded] at hmanifest
    obtain ⟨rfl, -, hfits⟩ := decodeManifest_encode.1 hmanifest
    refine ⟨by rw [hdecoded]; exact hfits, hsize, ?_, by rw [hdecoded]; exact hverified⟩
    have hrecord : release.bundle.reread.record? = some bundle := hbundle
    rw [JSON.record?_reread, Option.map_eq_some_iff] at hrecord
    obtain ⟨fields, hfields, -⟩ := hrecord
    rw [hfields]
    rfl
  · intro h
    refine ⟨h.body, _, rfl, ?_⟩
    obtain ⟨fields, hfields⟩ := Option.isSome_iff_exists.mp h.bundle
    rw [signedRelease_reread]
    refine verifyPlatformRelease_ok_iff.2 ⟨_, release.manifest.version, bytes,
      JSON.rereadFields fields, value, rfl, rfl, rfl, hstable, horder, ?_, ?_, hoffered.parsed,
      hoffered.accepted, ?_⟩
    · change Verification.decodeManifest (.str release.manifestBase64) = _
      rw [hoffered.encoded, decodeManifest_encode]
      exact ⟨rfl, hne, hdecoded ▸ h.manifest⟩
    · change release.bundle.reread.record? = _
      rw [JSON.record?_reread, hfields]
      rfl
    · have hverified := h.rereads
      rw [hdecoded] at hverified
      exact hverified

theorem parsed_of_verified {value : Value} {installed repository : String}
    {m : PlatformReleaseManifest}
    (h : Verification.verifyPlatformRelease outside value installed repository = .ok m) :
    ∃ submitted bytes parsed, value.record? = some submitted ∧
      Verification.decodeManifest (field submitted "manifestBase64") = .ok bytes ∧
      outside.parseJson bytes = some parsed ∧
      Catalog.parsePlatformReleaseManifest parsed repository (platformTag m.version) = .ok m := by
  obtain ⟨submitted, version, bytes, bundle, parsed, hsubmitted, -, -, -, -, hbytes, -, hparsed,
    hmanifest, -⟩ := verifyPlatformRelease_ok_iff.1 h
  refine ⟨submitted, bytes, parsed, hsubmitted, hbytes, hparsed, ?_⟩
  obtain ⟨_, _, _, _, _, _, d⟩ := Catalog.parsePlatformReleaseManifest_ok_iff.mp hmanifest
  rw [d.sameVersion]
  exact hmanifest

theorem compareWith_iff {left right : String} {a b : List ℕ} (hleft : versionParts left = some a)
    (hright : versionParts right = some b) (invalid : String) :
    compareWith invalid left right = .ok (compareParts a b) ↔ Told a b := by
  rw [compareVersions_eq hleft hright, ← compareParts_iff]
  exact ⟨Except.ok.inj, congrArg _⟩

theorem newer_of_verified {value : Value} {installed repository : String}
    {m : PlatformReleaseManifest}
    (h : Verification.verifyPlatformRelease outside value installed repository = .ok m) :
    ∃ a b, versionParts m.version = some a ∧ versionParts installed = some b ∧
      (compareParts a b = .gt ↔ Told a b) := by
  obtain ⟨_, version, _, _, _, -, -, -, -, horder, -, -, -, hmanifest, -⟩ :=
    verifyPlatformRelease_ok_iff.1 h
  obtain ⟨_, _, _, _, _, _, d⟩ := Catalog.parsePlatformReleaseManifest_ok_iff.mp hmanifest
  obtain ⟨a, b, hversion, hinstalled⟩ := versionParts_of_compare horder
  refine ⟨a, b, d.sameVersion ▸ hversion, hinstalled, ?_⟩
  unfold compareVersions at horder
  rw [← compareWith_iff hversion hinstalled, horder]
  exact ⟨fun h => by rw [h], fun h => (Except.ok.inj h).symm⟩

/-- The Supervisor accepts an offered release exactly when it fits; it accepts nothing that the API
refuses; the order of two versions is the numeric one exactly when their doubles tell. -/
theorem supervisor_accepts_iff (config : UpdatesConfig) (outside : Outside)
    (numeral : ℚ → List Char) (hempty : outside.parseJson [] = none) :
    (∀ fetch s force now checkedAt release installed chunks, Reachable config outside s →
      (Catalog.latest config outside fetch force now checkedAt s).1.release = some release →
      compareStableVersions release.manifest.version installed = .ok .gt →
      chunks.flatten = requestBody numeral (signedRelease release) →
      outside.parseJson (requestBody numeral (signedRelease release)) =
        some (signedRelease release).reread →
      (Verification.receive outside chunks installed config.repository = .ok release.manifest ↔
        Fits outside numeral config.repository release)) ∧
    (∀ value installed repository m,
      Verification.verifyPlatformRelease outside value installed repository = .ok m →
      ∃ submitted bytes parsed, value.record? = some submitted ∧
        Verification.decodeManifest (field submitted "manifestBase64") = .ok bytes ∧
        outside.parseJson bytes = some parsed ∧
        Catalog.parsePlatformReleaseManifest parsed repository (platformTag m.version) = .ok m) ∧
    (∀ left right a b, versionParts left = some a → versionParts right = some b →
      (compareStableVersions left right = .ok (compareParts a b) ↔ Told a b) ∧
      (compareVersions left right = .ok (compareParts a b) ↔ Told a b)) ∧
    (∀ value installed repository m,
      Verification.verifyPlatformRelease outside value installed repository = .ok m →
      ∃ a b, versionParts m.version = some a ∧ versionParts installed = some b ∧
        (compareParts a b = .gt ↔ Told a b)) := by
  refine ⟨?_, fun _ _ _ _ h => parsed_of_verified h, ?_, fun _ _ _ _ h => newer_of_verified h⟩
  · intro fetch s force now checkedAt release installed chunks hs hlatest hnewer hbody hread
    obtain ⟨bytes, value, hoffered⟩ := offered_of_latest (reachable_kept hs) hlatest
    exact receive_submitted_iff hempty hoffered hnewer hbody hread
  · intro left right a b hleft hright
    exact ⟨compareWith_iff hleft hright _, compareWith_iff hleft hright _⟩

/-! ## A release with white space behind its manifest -/

def sampleDigest : String := "sha256:" ++ String.ofList (List.replicate 64 'a')

def sampleImageOf (name : String) : PlatformReleaseImage :=
  ⟨name, sampleDigest, name ++ "@" ++ sampleDigest⟩

def sampleRepository : String := "kudrle01/initpad"

def sampleManifest : PlatformReleaseManifest where
  version := "0.3.0"
  source := ⟨"https://github.com/kudrle01/initpad", "initpad-v0.3.0",
    String.ofList (List.replicate 40 'c')⟩
  api := sampleImageOf "ghcr.io/kudrle01/initpad-api"
  web := sampleImageOf "ghcr.io/kudrle01/initpad-web"
  supervisor := sampleImageOf "ghcr.io/kudrle01/initpad-supervisor"
  composeSha256 := String.ofList (List.replicate 64 'd')

def PlatformReleaseImage.toValue (image : PlatformReleaseImage) : Value :=
  .obj [("name", .str image.name), ("digest", .str image.digest),
    ("immutableReference", .str image.immutableReference),
    ("platforms", .arr [.str "linux/amd64", .str "linux/arm64"])]

def PlatformReleaseManifest.toValue (m : PlatformReleaseManifest) : Value :=
  .obj [("schemaVersion", .num (.finite 1)), ("component", .str "initpad-platform"),
    ("version", .str m.version),
    ("source", .obj [("repository", .str m.source.repository), ("tag", .str m.source.tag),
      ("commit", .str m.source.commit)]),
    ("images", .obj [("api", m.api.toValue), ("web", m.web.toValue),
      ("supervisor", m.supervisor.toValue)]),
    ("compose", .obj [("file", .str "initpad-release.override.yml"),
      ("sha256", .str m.composeSha256)]),
    ("database", .obj [("migrationMode", .str "expand-contract"),
      ("rollback", .str "image-compatible"), ("backupRequired", .bool true)])]

def sampleConfig : UpdatesConfig where
  enabled := true
  platformChannel := .stable
  githubApiUrl := "https://api.github.com"
  repository := sampleRepository
  cacheSeconds := 900

def sampleEntry : ReleaseEntry where
  tag := "initpad-v0.3.0"
  url := "https://github.com/kudrle01/initpad/releases/tag/initpad-v0.3.0"
  draft := false
  prerelease := false
  publishedAt := none
  assets := [⟨MANIFEST_NAME, "https://api.github.com/assets/1"⟩,
    ⟨BUNDLE_NAME, "https://api.github.com/assets/2"⟩]

def ReleaseEntry.toValue (entry : ReleaseEntry) : Value :=
  .obj [("tag_name", .str entry.tag), ("html_url", .str entry.url), ("draft", .bool entry.draft),
    ("prerelease", .bool entry.prerelease), ("published_at", .null),
    ("assets", .arr (entry.assets.map fun asset =>
      .obj [("name", .str asset.name), ("url", .str asset.url)]))]

/-- The only number is the schema version. -/
def sampleNumeral : ℚ → List Char := fun _ => ['1']

def sampleList : List UInt8 := requestBody sampleNumeral (.arr [sampleEntry.toValue])

def sampleBundle : List UInt8 := requestBody sampleNumeral (.obj [])

def paddedManifest (spaces : ℕ) : List UInt8 :=
  requestBody sampleNumeral sampleManifest.toValue ++ List.replicate spaces 32

def sampleRelease (spaces : ℕ) : VerifiedPlatformRelease where
  manifest := sampleManifest
  manifestBase64 := String.ofList (Base64.encode (paddedManifest spaces))
  bundle := .obj []
  releaseUrl := sampleEntry.url
  publishedAt := none
  verifiedAt := "2026-07-01T00:00:00.000Z"

/-- `JSON.parse` on the texts that are exchanged. -/
def sampleOutside (spaces : ℕ) : Outside where
  parseJson bytes :=
    if bytes = sampleList then some (.arr [sampleEntry.toValue])
    else if bytes = sampleBundle then some (.obj [])
    else if bytes = paddedManifest spaces then some sampleManifest.toValue
    else if bytes = requestBody sampleNumeral (signedRelease (sampleRelease spaces)) then
      some (signedRelease (sampleRelease spaces)).reread
    else none
  parseUrl _ := some ⟨"https:", "https://api.github.com"⟩
  verify _ _ _ := true

def sampleFetch (spaces : ℕ) (url : String) : Except String Download :=
  if url = "https://api.github.com/assets/1" then .ok ⟨200, true, 0, [paddedManifest spaces]⟩
  else if url = "https://api.github.com/assets/2" then .ok ⟨200, true, 0, [sampleBundle]⟩
  else .ok ⟨200, true, 0, [sampleList]⟩

theorem nodup_of_letters {s : List String} {l : List (List Char)} (h : s = l.map String.ofList)
    (hnodup : l.Nodup) : s.Nodup := by
  rw [h]
  exact hnodup.map fun _ _ hsame => String.ofList_injective hsame

theorem lengths_of_letters {s : List String} {l : List (List Char)}
    (h : s = l.map String.ofList) : s.map (·.toList.length) = l.map List.length := by
  rw [h, List.map_map]
  refine List.map_congr_left fun letters _ => ?_
  exact congrArg List.length String.toList_ofList

theorem length_utf8EncodeChar_le (c : Char) : (String.utf8EncodeChar c).length ≤ 4 := by
  rw [String.length_utf8EncodeChar]
  exact Char.utf8Size_le_four c

theorem length_textBytes_le (text : List Char) :
    (JSON.textBytes text).length ≤ 4 * text.length := by
  induction text with
  | nil => rfl
  | cons c text ih =>
    have hchar := length_utf8EncodeChar_le c
    simp only [JSON.textBytes, List.flatMap_cons, List.length_append, List.length_cons] at ih ⊢
    omega

theorem length_jsonChar_le (c : Char) : (Supervisor.jsonChar c).length ≤ 6 := by
  unfold Supervisor.jsonChar
  repeat' split
  all_goals simp

theorem length_quotedChars_le (s : String) :
    (quotedChars s).length ≤ 6 * s.toList.length + 2 := by
  have hchars : ∀ text : List Char,
      (text.flatMap Supervisor.jsonChar).length ≤ 6 * text.length := by
    intro text
    induction text with
    | nil => rfl
    | cons c text ih =>
      have hchar := length_jsonChar_le c
      simp only [List.flatMap_cons, List.length_append, List.length_cons]
      omega
  have htext := hchars s.toList
  simp only [quotedChars, List.length_cons, List.length_append, List.length_nil]
  omega

theorem fetchBounded_whole {url : String} {body : List UInt8} {maximum : ℕ}
    (hfetch : fetch url = .ok ⟨200, true, 0, [body]⟩) (hsize : body.length ≤ maximum) :
    Catalog.fetchBounded fetch url maximum = .ok ⟨200, true, body⟩ := by
  have hread : Catalog.readChunks "platform release response is too large" maximum 0 [body] =
      .ok body :=
    (readChunks_ok_iff (Nat.zero_le _)).mpr ⟨by simp, by simpa using hsize⟩
  simp [Catalog.fetchBounded, hfetch, bind, Except.bind, hread]

/-! ## What a well-formed manifest is read back as -/

structure PlatformReleaseImage.WellFormed (image : PlatformReleaseImage) : Prop where
  noDigest : image.name.toList.contains '@' = false
  noTag : image.name.toList.contains ':' = false
  digest : isDigest image.digest = true
  immutable : isImmutableImage image.immutableReference = true
  reference : image.immutableReference = s!"{image.name}@{image.digest}"

structure PlatformReleaseManifest.WellFormed (repository : String) (m : PlatformReleaseManifest) :
    Prop where
  stable : (parseVersion m.version).isSome = true
  repository : m.source.repository = s!"https://github.com/{repository}"
  tag : m.source.tag = platformTag m.version
  commit : isHexOf 40 m.source.commit.toList = true
  composeSha256 : isHexOf 64 m.composeSha256.toList = true
  api : m.api.WellFormed
  web : m.web.WellFormed
  supervisor : m.supervisor.WellFormed

theorem field_of_mem {fields : List (String × Value)} {expected : List String} {name : String}
    {v : Value} (hnodup : expected.Nodup) (h : (name, v) ∈ fields)
    (hkeys : JSON.keys fields = expected) : field fields name = v := by
  subst hkeys
  induction fields with
  | nil => cases h
  | cons first rest ih =>
    obtain ⟨name', v'⟩ := first
    have hfirst : name' ∉ JSON.keys rest := (List.nodup_cons.mp hnodup).1
    rcases List.mem_cons.mp h with hsame | hrest
    · cases hsame
      simp [field]
    · have hne : name ≠ name' := by
        rintro rfl
        exact hfirst (List.mem_map.mpr ⟨_, hrest, rfl⟩)
      have hlookup := ih hrest (List.nodup_cons.mp hnodup).2
      simpa [field, List.lookup_cons, beq_eq_false_iff_ne.mpr hne] using hlookup

theorem exactKeys_of_keys {fields : List (String × Value)} {expected : List String}
    (h : JSON.keys fields = expected) : exactKeys fields expected = true := by
  rw [exactKeys, h, Bool.and_eq_true, List.all_eq_true]
  exact ⟨beq_self_eq_true _, fun _ hkey => List.contains_iff_mem.mpr hkey⟩

theorem imageKeys_nodup : imageKeys.Nodup :=
  nodup_of_letters (l := [_, _, _, _]) rfl (by decide)

theorem manifestKeys_nodup : manifestKeys.Nodup :=
  nodup_of_letters (l := [_, _, _, _, _, _, _]) rfl (by decide)

theorem sourceKeys_nodup : sourceKeys.Nodup :=
  nodup_of_letters (l := [_, _, _]) rfl (by decide)

theorem imagesKeys_nodup : imagesKeys.Nodup :=
  nodup_of_letters (l := [_, _, _]) rfl (by decide)

theorem composeKeys_nodup : composeKeys.Nodup := nodup_of_letters (l := [_, _]) rfl (by decide)

theorem databaseKeys_nodup : databaseKeys.Nodup :=
  nodup_of_letters (l := [_, _, _]) rfl (by decide)

theorem image_toValue {image : PlatformReleaseImage} (h : image.WellFormed) :
    Catalog.image image.toValue = some image := by
  have hfield {name : String} {v : Value} (hmem : (name, v) ∈ image.toValue.record?.getD []) :
      field (image.toValue.record?.getD []) name = v := field_of_mem imageKeys_nodup hmem rfl
  have hname := hfield (.head _)
  have hdigest := hfield (.tail _ (.head _))
  have hreference := hfield (.tail _ (.tail _ (.head _)))
  have hplatforms := hfield (.tail _ (.tail _ (.tail _ (.head _))))
  have hrecord : image.toValue.record? = some (image.toValue.record?.getD []) := rfl
  have hkeys : exactKeys (image.toValue.record?.getD []) imageKeys = true := exactKeys_of_keys rfl
  have hsame : (image.immutableReference != s!"{image.name}@{image.digest}") = false :=
    bne_eq_false_iff_eq.mpr h.reference
  rw [Catalog.image, hrecord]
  simp only [hname, hdigest, hreference, hplatforms, hkeys, guard, h.noDigest, h.noTag, h.digest,
    h.immutable, hsame, Option.bind_eq_bind, Option.bind_some, if_true]
  simp [isText, includesText]

theorem accepted_toValue {m : PlatformReleaseManifest} {repository : String}
    (h : m.WellFormed repository) : Accepted m.toValue repository m.version m := by
  let source := [("repository", Value.str m.source.repository), ("tag", .str m.source.tag),
    ("commit", .str m.source.commit)]
  let images := [("api", m.api.toValue), ("web", m.web.toValue),
    ("supervisor", m.supervisor.toValue)]
  let compose := [("file", Value.str "initpad-release.override.yml"),
    ("sha256", .str m.composeSha256)]
  let database := [("migrationMode", Value.str "expand-contract"),
    ("rollback", .str "image-compatible"), ("backupRequired", .bool true)]
  have hmanifest {name : String} {v : Value} (hmem : (name, v) ∈ m.toValue.record?.getD []) :
      field (m.toValue.record?.getD []) name = v := field_of_mem manifestKeys_nodup hmem rfl
  exact ⟨m.toValue.record?.getD [], source, images, compose, database, rfl,
    { manifestKeys := exactKeys_of_keys rfl
      hasSource := by rw [hmanifest (.tail _ (.tail _ (.tail _ (.head _))))]; rfl
      hasImages := by rw [hmanifest (.tail _ (.tail _ (.tail _ (.tail _ (.head _)))))]; rfl
      hasCompose := by
        rw [hmanifest (.tail _ (.tail _ (.tail _ (.tail _ (.tail _ (.head _))))))]
        rfl
      hasDatabase := by
        rw [hmanifest (.tail _ (.tail _ (.tail _ (.tail _ (.tail _ (.tail _ (.head _)))))))]
        rfl
      sourceKeys := exactKeys_of_keys rfl
      imagesKeys := exactKeys_of_keys rfl
      composeKeys := exactKeys_of_keys rfl
      databaseKeys := exactKeys_of_keys rfl
      schemaVersion := by
        rw [hmanifest (.head _)]
        exact beq_self_eq_true _
      component := by
        rw [hmanifest (.tail _ (.head _))]
        exact beq_self_eq_true _
      hasVersion := hmanifest (.tail _ (.tail _ (.head _)))
      stable := h.stable
      sameVersion := rfl
      hasRepository := field_of_mem sourceKeys_nodup (.head _) rfl
      sameRepository := h.repository
      hasTag := field_of_mem sourceKeys_nodup (.tail _ (.head _)) rfl
      sameTag := h.tag
      hasCommit := field_of_mem sourceKeys_nodup (.tail _ (.tail _ (.head _))) rfl
      isCommit := h.commit
      file := isTextOf_iff.mpr (field_of_mem composeKeys_nodup (.head _) rfl)
      hasSha256 := field_of_mem composeKeys_nodup (.tail _ (.head _)) rfl
      isSha256 := h.composeSha256
      migrationMode := isTextOf_iff.mpr (field_of_mem databaseKeys_nodup (.head _) rfl)
      rollback := isTextOf_iff.mpr (field_of_mem databaseKeys_nodup (.tail _ (.head _)) rfl)
      backupRequired := by
        rw [field_of_mem databaseKeys_nodup (.tail _ (.tail _ (.head _))) rfl]
        rfl
      api := by
        rw [field_of_mem imagesKeys_nodup (.head _) rfl]
        exact image_toValue h.api
      web := by
        rw [field_of_mem imagesKeys_nodup (.tail _ (.head _)) rfl]
        exact image_toValue h.web
      supervisor := by
        rw [field_of_mem imagesKeys_nodup (.tail _ (.tail _ (.head _))) rfl]
        exact image_toValue h.supervisor }⟩

/-! ## The sample -/

theorem toList_sampleDigest :
    sampleDigest.toList = ['s', 'h', 'a', '2', '5', '6', ':'] ++ List.replicate 64 'a' := by
  rw [sampleDigest, String.toList_append, String.toList_ofList, String.toList_ofList]

theorem sampleDigest_isDigest : isDigest sampleDigest = true := by
  rw [isDigest, toList_sampleDigest, toList_of_letters (rfl : "sha256:" = String.ofList _)]
  decide

/-- `[a-z0-9/.-]`, without the characters that end a name. -/
def isNameLetter (c : Char) : Bool :=
  c != '@' && c != ':' && (c.isAlphanum || ['.', '_', ':', '/', '-'].contains c)

theorem takeWhile_of_all {q : Char → Bool} {l k : List Char} {c : Char} (hl : l.all q = true)
    (hc : q c = false) : (l ++ c :: k).takeWhile q = l ∧ (l ++ c :: k).dropWhile q = c :: k := by
  induction l with
  | nil => simp [hc]
  | cons d l ih =>
    simp only [List.all_cons, Bool.and_eq_true] at hl
    have hrest := ih hl.2
    simp [hl.1, hrest]

theorem wellFormed_sampleImageOf {name : String} {l : List Char} (hname : name = String.ofList l)
    (hne : l.isEmpty = false) (hl : l.all isNameLetter = true) :
    (sampleImageOf name).WellFormed := by
  have hletters := toList_of_letters hname
  have hall : ∀ c ∈ l, isNameLetter c = true := List.all_eq_true.mp hl
  have hreference : (sampleImageOf name).immutableReference.toList =
      l ++ '@' :: sampleDigest.toList := by
    rw [sampleImageOf, String.toList_append, String.toList_append, hletters,
      toList_of_letters (rfl : "@" = String.ofList _)]
    simp
  have hplain : ∀ c, isNameLetter c = true →
      c ≠ '@' ∧ c ≠ ':' ∧ (c.isAlphanum || ['.', '_', ':', '/', '-'].contains c) = true := by
    intro c hc
    simp only [isNameLetter, Bool.and_eq_true, bne_iff_ne] at hc
    exact ⟨hc.1.1, hc.1.2, hc.2⟩
  constructor
  · rw [show (sampleImageOf name).name = name from rfl, hletters]
    refine Bool.eq_false_iff.mpr fun hmem => ?_
    exact (hplain _ (hall _ (List.contains_iff_mem.mp hmem))).1 rfl
  · rw [show (sampleImageOf name).name = name from rfl, hletters]
    refine Bool.eq_false_iff.mpr fun hmem => ?_
    exact (hplain _ (hall _ (List.contains_iff_mem.mp hmem))).2.1 rfl
  · exact sampleDigest_isDigest
  · have hsplit := takeWhile_of_all (q := (· != '@')) (k := sampleDigest.toList) (c := '@')
      (List.all_eq_true.mpr fun c hc => bne_iff_ne.mpr (hplain c (hall c hc)).1) rfl
    rw [isImmutableImage, hreference, hsplit.1, hsplit.2, hne, toList_sampleDigest,
      toList_of_letters (rfl : "._:/-" = String.ofList _),
      toList_of_letters (rfl : "@sha256:" = String.ofList _)]
    have hletter : l.all (fun c => c.isAlphanum || ['.', '_', ':', '/', '-'].contains c) = true :=
      List.all_eq_true.mpr fun c hc => (hplain c (hall c hc)).2.2
    rw [hletter]
    decide
  · rfl

theorem sampleTag : "initpad-v0.3.0" = platformTag "0.3.0" := append_of_letters rfl rfl rfl

theorem sampleManifest_wellFormed : sampleManifest.WellFormed sampleRepository where
  stable := by decide
  repository := append_of_letters (t := "kudrle01/initpad") rfl rfl rfl
  tag := sampleTag
  commit := by
    rw [sampleManifest, String.toList_ofList]
    decide
  composeSha256 := by
    rw [sampleManifest, String.toList_ofList]
    decide
  api := wellFormed_sampleImageOf rfl rfl (by decide)
  web := wellFormed_sampleImageOf rfl rfl (by decide)
  supervisor := wellFormed_sampleImageOf rfl rfl (by decide)

theorem sampleManifest_parses : Catalog.parsePlatformReleaseManifest sampleManifest.toValue
    sampleRepository "initpad-v0.3.0" = .ok sampleManifest := by
  rw [sampleTag]
  exact Catalog.parsePlatformReleaseManifest_ok_iff.mpr (accepted_toValue sampleManifest_wellFormed)

theorem paddedManifest_parses (spaces : ℕ) :
    (sampleOutside spaces).parseJson (paddedManifest spaces) = some sampleManifest.toValue := by
  have hsecond : (paddedManifest spaces)[1]? = some 34 := by rfl
  have hlist : paddedManifest spaces ≠ sampleList := by
    intro h
    have hother : sampleList[1]? = some 123 := by rfl
    rw [h, hother] at hsecond
    cases hsecond
  have hbundle : paddedManifest spaces ≠ sampleBundle := by
    intro h
    have hother : sampleBundle[1]? = some 125 := by rfl
    rw [h, hother] at hsecond
    cases hsecond
  simp only [sampleOutside, hlist, hbundle, if_false, if_true]

theorem sampleBody_parses (spaces : ℕ) : (sampleOutside spaces).parseJson
    (requestBody sampleNumeral (signedRelease (sampleRelease spaces))) =
      some (signedRelease (sampleRelease spaces)).reread := by
  have hthird : (requestBody sampleNumeral (signedRelease (sampleRelease spaces)))[2]? =
      some 118 := by
    rfl
  have hlist : requestBody sampleNumeral (signedRelease (sampleRelease spaces)) ≠ sampleList := by
    intro h
    have hother : sampleList[2]? = some 34 := by rfl
    rw [h, hother] at hthird
    cases hthird
  have hbundle : requestBody sampleNumeral (signedRelease (sampleRelease spaces)) ≠
      sampleBundle := by
    intro h
    have hother : sampleBundle[2]? = none := by rfl
    rw [h, hother] at hthird
    cases hthird
  have hmanifest : requestBody sampleNumeral (signedRelease (sampleRelease spaces)) ≠
      paddedManifest spaces := by
    intro h
    have hother : (paddedManifest spaces)[2]? = some 115 := by rfl
    rw [h, hother] at hthird
    cases hthird
  simp only [sampleOutside, hlist, hbundle, hmanifest, if_false, if_true]

theorem sampleEntry_parses : Catalog.parseEntry sampleEntry.toValue = .ok sampleEntry := by
  rfl

theorem sampleEntry_newest : Catalog.newest sampleConfig [sampleEntry] = some sampleEntry := by
  decide

theorem quoted_of_letters {s : List String} {l : List (List Char)} (h : s = l.map String.ofList) :
    (s.map fun text => (quotedChars text).length).sum ≤
      6 * (l.map List.length).sum + 2 * l.length := by
  subst h
  induction l with
  | nil => rfl
  | cons letters l ih =>
    have hfirst := length_quotedChars_le (String.ofList letters)
    rw [String.toList_ofList] at hfirst
    simp only [List.map_cons, List.sum_cons, List.length_cons] at ih ⊢
    omega

theorem length_image_le (image : PlatformReleaseImage) :
    (JSON.stringify quotedChars sampleNumeral image.toValue).length ≤
      6 * (image.name.toList.length + image.digest.toList.length +
        image.immutableReference.toList.length) + 400 := by
  have hkeys := quoted_of_letters (s := ["name", "digest", "immutableReference", "platforms",
    "linux/amd64", "linux/arm64"]) (l := [_, _, _, _, _, _]) rfl
  have hname := length_quotedChars_le image.name
  have hdigest := length_quotedChars_le image.digest
  have hreference := length_quotedChars_le image.immutableReference
  simp only [List.map_cons, List.map_nil, List.sum_cons, List.sum_nil, List.length_cons,
    List.length_nil] at hkeys
  simp only [PlatformReleaseImage.toValue, JSON.stringify_obj, JSON.stringify_arr,
    JSON.stringify_str, JSON.stringifyFields_cons, JSON.stringifyFields_singleton,
    JSON.stringifyItems_cons, JSON.stringifyItems_singleton, List.length_cons, List.length_append,
    List.length_nil]
  generalize quotedChars = quote at hkeys hname hdigest hreference ⊢
  omega

theorem length_manifest_le (m : PlatformReleaseManifest) :
    (JSON.stringify quotedChars sampleNumeral m.toValue).length ≤
      (JSON.stringify quotedChars sampleNumeral m.api.toValue).length +
      (JSON.stringify quotedChars sampleNumeral m.web.toValue).length +
      (JSON.stringify quotedChars sampleNumeral m.supervisor.toValue).length +
      6 * (m.version.toList.length + m.source.repository.toList.length +
        m.source.tag.toList.length + m.source.commit.toList.length +
        m.composeSha256.toList.length) + 2000 := by
  have hkeys := quoted_of_letters (s := ["schemaVersion", "component", "initpad-platform",
    "version", "source", "images", "compose", "database"])
    (l := [_, _, _, _, _, _, _, _]) rfl
  have hsource := quoted_of_letters (s := ["repository", "tag", "commit", "api", "web",
    "supervisor"]) (l := [_, _, _, _, _, _]) rfl
  have hcompose := quoted_of_letters (s := ["file", "initpad-release.override.yml", "sha256"])
    (l := [_, _, _]) rfl
  have hdatabase := quoted_of_letters (s := ["migrationMode", "expand-contract", "rollback",
    "image-compatible", "backupRequired"]) (l := [_, _, _, _, _]) rfl
  have hversion := length_quotedChars_le m.version
  have hrepository := length_quotedChars_le m.source.repository
  have htag := length_quotedChars_le m.source.tag
  have hcommit := length_quotedChars_le m.source.commit
  have hsha256 := length_quotedChars_le m.composeSha256
  have htrue : "true".toList.length = 4 := congrArg List.length (toList_of_letters rfl)
  simp only [List.map_cons, List.map_nil, List.sum_cons, List.sum_nil, List.length_cons,
    List.length_nil] at hkeys hsource hcompose hdatabase
  simp only [PlatformReleaseManifest.toValue, JSON.stringify_obj, JSON.stringify_str,
    JSON.stringify_num, JSON.stringify_bool, JSON.stringifyFields_cons,
    JSON.stringifyFields_singleton,
    JSON.numberText, sampleNumeral, if_true, List.length_cons, List.length_append, List.length_nil,
    htrue]
  clear htrue
  generalize quotedChars = quote at *
  omega

theorem length_image_of {image : PlatformReleaseImage} (hname : image.name.toList.length ≤ 40)
    (hdigest : image.digest.toList.length = 71)
    (hreference : image.immutableReference.toList.length ≤ 112) :
    (JSON.stringify quotedChars sampleNumeral image.toValue).length ≤ 2000 := by
  have himage := length_image_le image
  omega

theorem length_sampleImage_le {name : String} (hname : name.toList.length ≤ 40) :
    (JSON.stringify quotedChars sampleNumeral (sampleImageOf name).toValue).length ≤ 2000 := by
  have hdigest : sampleDigest.toList.length = 71 := by
    rw [toList_sampleDigest, List.length_append, List.length_replicate]
    rfl
  refine length_image_of hname hdigest ?_
  rw [sampleImageOf, String.toList_append, String.toList_append, List.length_append,
    List.length_append, hdigest, toList_of_letters (rfl : "@" = String.ofList _)]
  exact Nat.add_le_add_right (Nat.add_le_add_right hname 1) 71

theorem length_manifestBytes_le {m : PlatformReleaseManifest}
    (hapi : (JSON.stringify quotedChars sampleNumeral m.api.toValue).length ≤ 2000)
    (hweb : (JSON.stringify quotedChars sampleNumeral m.web.toValue).length ≤ 2000)
    (hsupervisor : (JSON.stringify quotedChars sampleNumeral m.supervisor.toValue).length ≤ 2000)
    (hversion : m.version.toList.length ≤ 64) (hrepository : m.source.repository.toList.length ≤ 64)
    (htag : m.source.tag.toList.length ≤ 64) (hcommit : m.source.commit.toList.length ≤ 64)
    (hsha256 : m.composeSha256.toList.length ≤ 64) :
    (requestBody sampleNumeral m.toValue).length ≤ 48000 := by
  have hmanifest := length_manifest_le m
  have hbytes := length_textBytes_le (JSON.stringify quotedChars sampleNumeral m.toValue)
  rw [requestBody]
  omega

theorem length_sampleBytes_le :
    (requestBody sampleNumeral sampleManifest.toValue).length ≤ 48000 := by
  have hnames := lengths_of_letters (s := ["ghcr.io/kudrle01/initpad-api",
    "ghcr.io/kudrle01/initpad-web", "ghcr.io/kudrle01/initpad-supervisor", "0.3.0",
    "https://github.com/kudrle01/initpad", "initpad-v0.3.0"]) (l := [_, _, _, _, _, _]) rfl
  simp only [List.map_cons, List.map_nil, List.cons.injEq, List.length_cons, List.length_nil]
    at hnames
  obtain ⟨hapi, hweb, hsupervisor, hversion, hrepository, htag, -⟩ := hnames
  refine length_manifestBytes_le (m := sampleManifest) (length_sampleImage_le ?_)
    (length_sampleImage_le ?_) (length_sampleImage_le ?_) (hversion.trans_le (by decide))
    (hrepository.trans_le (by decide)) (htag.trans_le (by decide)) ?_ ?_
  · exact hapi.trans_le (by decide)
  · exact hweb.trans_le (by decide)
  · exact hsupervisor.trans_le (by decide)
  · rw [sampleManifest, String.toList_ofList, List.length_replicate]
    decide
  · rw [sampleManifest, String.toList_ofList, List.length_replicate]

theorem length_sampleList_le : sampleList.length ≤ LIST_LIMIT := by
  have hkeys := quoted_of_letters (s := ["tag_name", "html_url", "draft", "prerelease",
    "published_at", "assets", "name", "url"]) (l := [_, _, _, _, _, _, _, _]) rfl
  have hvalues := quoted_of_letters (s := ["initpad-v0.3.0",
    "https://github.com/kudrle01/initpad/releases/tag/initpad-v0.3.0", MANIFEST_NAME,
    BUNDLE_NAME, "https://api.github.com/assets/1", "https://api.github.com/assets/2"])
    (l := [_, _, _, _, _, _]) rfl
  have hnull : "null".toList.length = 4 := congrArg List.length (toList_of_letters rfl)
  have hfalse : "false".toList.length = 5 := congrArg List.length (toList_of_letters rfl)
  have hlimit : LIST_LIMIT = 524288 := by decide
  simp only [List.map_cons, List.map_nil, List.sum_cons, List.sum_nil, List.length_cons,
    List.length_nil] at hkeys hvalues
  refine (length_textBytes_le _).trans ?_
  simp only [sampleEntry, ReleaseEntry.toValue, List.map_cons, List.map_nil, JSON.stringify_null,
    JSON.stringify_bool, JSON.stringify_str, JSON.stringify_arr, JSON.stringify_obj,
    JSON.stringifyFields_cons, JSON.stringifyFields_singleton, JSON.stringifyItems_cons,
    JSON.stringifyItems_singleton, Bool.false_eq_true, if_false, List.length_cons,
    List.length_append, List.length_nil, hnull, hfalse, hlimit]
  generalize quotedChars = quote at hkeys hvalues ⊢
  omega

theorem length_paddedManifest (spaces : ℕ) :
    (paddedManifest spaces).length =
      (requestBody sampleNumeral sampleManifest.toValue).length + spaces := by
  rw [paddedManifest, List.length_append, List.length_replicate]

theorem sampleBytes_ne : requestBody sampleNumeral sampleManifest.toValue ≠ [] := by
  intro h
  have hhead := congrArg List.head? h
  cases hhead

theorem download_of {candidate : ReleaseEntry} {manifestAsset bundleAsset : ReleaseAsset}
    {bytes bundleBytes : List UInt8} {value bundle : Value} {m : PlatformReleaseManifest}
    {checkedAt : String}
    (hmanifestAsset : candidate.assets.find? (·.name == MANIFEST_NAME) = some manifestAsset)
    (hbundleAsset : candidate.assets.find? (·.name == BUNDLE_NAME) = some bundleAsset)
    (hurl : ∀ url base, Catalog.assertAssetUrl outside url base = .ok ())
    (hmanifest : Catalog.fetchBounded fetch manifestAsset.url ASSET_LIMIT = .ok ⟨200, true, bytes⟩)
    (hbundle : Catalog.fetchBounded fetch bundleAsset.url ASSET_LIMIT =
      .ok ⟨200, true, bundleBytes⟩)
    (hvalue : outside.parseJson bytes = some value)
    (hparsed : outside.parseJson bundleBytes = some bundle)
    (hread : Catalog.parsePlatformReleaseManifest value config.repository candidate.tag = .ok m)
    (hverify : ∀ bundle bytes identity, outside.verify bundle bytes identity = true) :
    Catalog.download config outside fetch checkedAt candidate = .ok ⟨m,
      String.ofList (Base64.encode bytes), bundle, candidate.url, candidate.publishedAt,
      checkedAt⟩ := by
  simp only [Catalog.download, hmanifestAsset, hbundleAsset, Option.elim, hurl, hmanifest, hbundle,
    hvalue, hparsed, hread, hverify, bind, Except.bind, Bool.not_true, Bool.or_self,
    Bool.false_eq_true, if_false, if_true]

theorem latest_of {list : List UInt8} {candidate : ReleaseEntry} {checkedAt : String} {now : ℕ}
    (henabled : config.enabled = true)
    (hlist : Catalog.fetchBounded fetch (Catalog.apiBase config ++ "/repos/" ++ config.repository ++
      "/releases?per_page=20") LIST_LIMIT = .ok ⟨200, true, list⟩)
    (hparsed : Catalog.parseList outside list = .ok [candidate])
    (hnewest : Catalog.newest config [candidate] = some candidate)
    (hdownload : Catalog.download config outside fetch checkedAt candidate = .ok release) :
    (Catalog.latest config outside fetch false now checkedAt {}).1.release = some release := by
  have hrefresh : Catalog.refresh config outside fetch checkedAt =
      .ok (Catalog.found config checkedAt (some release)) := by
    simp only [Catalog.refresh, hlist, hparsed, hnewest, hdownload, bind, Except.bind,
      Bool.not_true, Bool.false_eq_true, if_false]
  simp [Catalog.latest, henabled, Catalog.refreshed, hrefresh, Catalog.found]

theorem sample_offers {spaces : ℕ} (h : spaces ≤ 2000000) :
    (Catalog.latest sampleConfig (sampleOutside spaces) (sampleFetch spaces) false 0
      "2026-07-01T00:00:00.000Z" {}).1.release = some (sampleRelease spaces) := by
  have hsize : (paddedManifest spaces).length ≤ ASSET_LIMIT := by
    have hlimit : ASSET_LIMIT = 2097152 := by decide
    have hbytes := length_sampleBytes_le
    rw [length_paddedManifest, hlimit]
    exact (Nat.add_le_add hbytes h).trans (by decide)
  have hbundle : (sampleOutside spaces).parseJson sampleBundle = some (.obj []) := by
    have hne : sampleBundle ≠ sampleList := by
      intro h
      have hhead := congrArg List.head? h
      cases hhead
    simp only [sampleOutside, hne, if_false, if_true]
  have hlist : (sampleOutside spaces).parseJson sampleList = some (.arr [sampleEntry.toValue]) := by
    simp only [sampleOutside, if_true]
  have hparsed : Catalog.parseList (sampleOutside spaces) sampleList = .ok [sampleEntry] := by
    simp [Catalog.parseList, hlist, sampleEntry_parses, List.mapM_cons, bind, Except.bind, pure,
      Except.pure]
  have hurl : ∀ url base, Catalog.assertAssetUrl (sampleOutside spaces) url base = .ok () := by
    intro url base
    simp [Catalog.assertAssetUrl, sampleOutside]
  have hnames : (MANIFEST_NAME == BUNDLE_NAME) = false :=
    beq_eq_false_iff_ne.mpr (ne_of_letters rfl rfl (by decide))
  have hmanifestAsset : sampleEntry.assets.find? (·.name == MANIFEST_NAME) =
      some ⟨MANIFEST_NAME, "https://api.github.com/assets/1"⟩ := by
    simp [sampleEntry]
  have hbundleAsset : sampleEntry.assets.find? (·.name == BUNDLE_NAME) =
      some ⟨BUNDLE_NAME, "https://api.github.com/assets/2"⟩ := by
    simp [sampleEntry, hnames]
  have hlistSize : sampleList.length ≤ LIST_LIMIT := length_sampleList_le
  have hbundleSize : sampleBundle.length ≤ ASSET_LIMIT := (by decide : 2 ≤ ASSET_LIMIT)
  exact latest_of rfl (fetchBounded_whole rfl hlistSize) hparsed sampleEntry_newest
    (download_of hmanifestAsset hbundleAsset hurl (fetchBounded_whole rfl hsize)
      (fetchBounded_whole rfl hbundleSize) (paddedManifest_parses spaces) hbundle
      sampleManifest_parses fun _ _ _ => rfl)

theorem sampleEmpty_parses (spaces : ℕ) : (sampleOutside spaces).parseJson [] = none := by
  have hlist : [] ≠ sampleList := by
    intro h
    have hhead := congrArg List.head? h
    cases hhead
  have hbundle : [] ≠ sampleBundle := by
    intro h
    have hhead := congrArg List.head? h
    cases hhead
  have hmanifest : [] ≠ paddedManifest spaces := by
    intro h
    have hlength := congrArg List.length h
    have hbytes := List.length_pos_of_ne_nil sampleBytes_ne
    rw [length_paddedManifest, List.length_nil] at hlength
    omega
  have hbody : [] ≠ requestBody sampleNumeral (signedRelease (sampleRelease spaces)) := by
    intro h
    have hhead := congrArg List.head? h
    cases hhead
  simp only [sampleOutside, hlist, hbundle, hmanifest, hbody, if_false]

theorem sample_newer : compareStableVersions sampleManifest.version "0.2.30" = .ok .gt := by
  have hnew : versionParts sampleManifest.version = some [0, 3, 0] := by decide
  have hold : versionParts "0.2.30" = some [0, 2, 30] := by decide
  rw [compareStableVersions, compareVersions_eq hnew hold]
  simp only [List.map_cons, List.map_nil, Double.ofNat_of_lt (show 0 < 2 ^ 53 by decide),
    Double.ofNat_of_lt (show 2 < 2 ^ 53 by decide), Double.ofNat_of_lt (show 3 < 2 ^ 53 by decide),
    Double.ofNat_of_lt (show 30 < 2 ^ 53 by decide)]
  decide

theorem decode_sampleRelease (spaces : ℕ) :
    Base64.decode (sampleRelease spaces).manifestBase64.toList = paddedManifest spaces := by
  rw [sampleRelease, String.toList_ofList, Base64.decode_encode]

theorem spaces_of_fits {spaces : ℕ}
    (h : Fits (sampleOutside spaces) sampleNumeral sampleRepository (sampleRelease spaces)) :
    spaces < 524288 := by
  have hbytes := List.length_pos_of_ne_nil sampleBytes_ne
  have hmanifest := h.manifest
  rw [decode_sampleRelease, length_paddedManifest] at hmanifest
  have hlimit : Verification.MAX_MANIFEST_BYTES = 524288 := by decide
  omega

theorem length_requestBody_le (numeral : ℚ → List Char) (version text : String) :
    (requestBody numeral (.obj [("version", .str version), ("manifestBase64", .str text),
      ("bundle", .obj [])])).length ≤ 24 * version.toList.length + 24 * text.toList.length + 200 := by
  have hkeys : (quotedChars "version").length = 9 ∧ (quotedChars "manifestBase64").length = 16 ∧
      (quotedChars "bundle").length = 8 := by
    decide
  obtain ⟨hversionKey, htextKey, hbundleKey⟩ := hkeys
  have hversion := length_quotedChars_le version
  have htext := length_quotedChars_le text
  refine (length_textBytes_le _).trans ?_
  simp only [JSON.stringify_obj, JSON.stringify_str, JSON.stringifyFields_cons,
    JSON.stringifyFields_singleton, JSON.stringifyFields_nil, List.length_cons, List.length_append,
    List.length_nil, hversionKey, htextKey, hbundleKey]
  omega

theorem length_encoded_le {bytes : List UInt8} (h : bytes.length ≤ 48000) :
    (String.ofList (Base64.encode bytes)).toList.length ≤ 64004 := by
  rw [String.toList_ofList, Base64.length_encode]
  omega

theorem length_unpadded_le : (paddedManifest 0).length ≤ 48000 := by
  rw [length_paddedManifest, Nat.add_zero]
  exact length_sampleBytes_le

theorem sample_fits : Fits (sampleOutside 0) sampleNumeral sampleRepository (sampleRelease 0) where
  manifest := by
    rw [decode_sampleRelease]
    exact length_unpadded_le.trans (by decide)
  body := by
    have hversion : sampleManifest.version.toList.length = 5 :=
      congrArg List.length (toList_of_letters (rfl : "0.3.0" = String.ofList _))
    have htext := length_encoded_le length_unpadded_le
    have hlength := length_requestBody_le sampleNumeral sampleManifest.version
      (String.ofList (Base64.encode (paddedManifest 0)))
    rw [hversion] at hlength
    have hlimit : Verification.MAX_BODY_BYTES = 2097152 := by decide
    refine hlength.trans ?_
    rw [hlimit]
    generalize (String.ofList (Base64.encode (paddedManifest 0))).toList.length = letters at htext ⊢
    omega
  bundle := rfl
  rereads := rfl

/-- Without spaces the release is accepted. -/
theorem sample_accepted : Verification.receive (sampleOutside 0)
    [requestBody sampleNumeral (signedRelease (sampleRelease 0))] "0.2.30" sampleRepository =
      .ok sampleManifest := by
  exact ((supervisor_accepts_iff sampleConfig (sampleOutside 0) sampleNumeral
    (sampleEmpty_parses 0)).1 (sampleFetch 0) {} false 0 _ (sampleRelease 0) "0.2.30" _ .start
      (sample_offers (Nat.zero_le _)) sample_newer (List.append_nil _)
      (sampleBody_parses 0)).mpr sample_fits

/-- A manifest above 512 KiB is offered and refused; and a version above `2 ^ 53` counts as newer
than one that is above it. -/
theorem oversized_refused :
    (Catalog.latest sampleConfig (sampleOutside 524288) (sampleFetch 524288) false 0
        "2026-07-01T00:00:00.000Z" {}).1.release = some (sampleRelease 524288) ∧
      compareStableVersions sampleManifest.version "0.2.30" = .ok .gt ∧
      Verification.receive (sampleOutside 524288)
        [requestBody sampleNumeral (signedRelease (sampleRelease 524288))] "0.2.30"
          sampleRepository ≠ .ok sampleManifest ∧
      versionParts "9007199254740992.1.0" = some [9007199254740992, 1, 0] ∧
      versionParts "9007199254740993.0.0" = some [9007199254740993, 0, 0] ∧
      compareVersions "9007199254740992.1.0" "9007199254740993.0.0" = .ok .gt := by
  have hoffers := sample_offers (show 524288 ≤ 2000000 by omega)
  have hold : versionParts "9007199254740992.1.0" = some [9007199254740992, 1, 0] := by
    decide
  have hnew : versionParts "9007199254740993.0.0" = some [9007199254740993, 0, 0] := by
    decide
  refine ⟨hoffers, sample_newer, ?_, hold, hnew, ?_⟩
  · intro haccepted
    obtain ⟨bytes, value, hoffered⟩ := offered_of_latest (reachable_kept .start) hoffers
    have hfits := (receive_submitted_iff (sampleEmpty_parses _) hoffered sample_newer
      (List.append_nil _) (sampleBody_parses _)).mp haccepted
    exact absurd (spaces_of_fits hfits) (by omega)
  · -- Both numbers round to 2 ^ 53, so the second parts decide.
    have hlow : Double.nearest 9007199254740992 = 2 ^ 53 := by decide
    have hhigh : Double.nearest 9007199254740993 = 2 ^ 53 := by decide
    rw [compareVersions, compareVersions_eq hold hnew]
    simp only [List.map_cons, List.map_nil, Double.ofNat_of_nearest_le hlow.le,
      Double.ofNat_of_nearest_le hhigh.le, hlow, hhigh,
      Double.ofNat_of_lt (show 0 < 2 ^ 53 by decide), Double.ofNat_of_lt (show 1 < 2 ^ 53 by decide)]
    decide

end InitPad.Releases
