import InitPad.Releases.Manifest
import InitPad.Wire.Base64
import Mathlib.Data.List.Sort

/-!
# InitPad.Releases.Catalog

`PlatformReleaseCatalogService`: the list of releases, the choice of the newest one, the download of
its two assets and the result that is kept. What GitHub answers, `JSON.parse` of a text, `new URL`
and the verification of a signature are parameters.
-/

namespace InitPad.Releases

open JSON (Value field)

inductive ReleaseChannel where
  | stable | candidate
  deriving DecidableEq

structure UpdatesConfig where
  enabled : Bool
  platformChannel : ReleaseChannel
  githubApiUrl : String
  repository : String
  cacheSeconds : ℕ

/-- A response; `declared` is its `content-length`, zero when there is none. -/
structure Download where
  status : ℕ
  ok : Bool
  declared : ℕ
  chunks : List (List UInt8)

structure Url where
  protocol : String
  origin : String
  deriving DecidableEq

/-- What a program finds outside: `JSON.parse(bytes.toString('utf8'))`, `new URL` and
`verify(bundle, bytes, …)` for the identity of a certificate. -/
structure Outside where
  parseJson : List UInt8 → Option Value
  parseUrl : String → Option Url
  verify : Value → List UInt8 → String → Bool

def LIST_LIMIT : ℕ := 512 * 1024

def ASSET_LIMIT : ℕ := 2 * 1024 * 1024

def MANIFEST_NAME : String := "initpad-platform-release.json"

def BUNDLE_NAME : String := "initpad-platform-release.json.sigstore.json"

/-- `REVOKED_PLATFORM_RELEASES` -/
def isRevoked (version : String) : Bool := version == "0.2.5"

/-- `certificateIdentityURI` of both programs. -/
def certificateIdentity (repository tag : String) : String :=
  "https://github.com/" ++ repository ++ "/.github/workflows/release-platform.yml@refs/tags/" ++ tag

structure ReleaseAsset where
  name : String
  url : String
  deriving DecidableEq

structure ReleaseEntry where
  tag : String
  url : String
  draft : Bool
  prerelease : Bool
  publishedAt : Option String
  assets : List ReleaseAsset
  deriving DecidableEq

structure VerifiedPlatformRelease where
  manifest : PlatformReleaseManifest
  manifestBase64 : String
  bundle : Value
  releaseUrl : String
  publishedAt : Option String
  verifiedAt : String

structure PlatformCatalogResult where
  enabled : Bool
  channel : ReleaseChannel
  checkedAt : Option String
  stale : Bool
  release : Option VerifiedPlatformRelease
  error : Option String

namespace Catalog

variable (config : UpdatesConfig) (outside : Outside) (fetch : String → Except String Download)

/-- The chunks of a body, as long as their total stays within the limit. -/
def readChunks (tooLarge : String) (maximum total : ℕ) : List (List UInt8) →
    Except String (List UInt8)
  | [] => .ok []
  | chunk :: chunks =>
    if total + chunk.length > maximum then .error tooLarge
    else do
      let rest ← readChunks tooLarge maximum (total + chunk.length) chunks
      .ok (chunk ++ rest)

structure Fetched where
  status : ℕ
  ok : Bool
  body : List UInt8

def fetchBounded (url : String) (maximum : ℕ) : Except String Fetched := do
  let response ← fetch url
  if response.declared > maximum then .error "platform release response is too large"
  else
    let body ← readChunks "platform release response is too large" maximum 0 response.chunks
    .ok ⟨response.status, response.ok, body⟩

def parseAsset (value : Value) : Except String ReleaseAsset :=
  match value.record? with
  | none => .error "platform release catalog asset is invalid"
  | some asset =>
    match field asset "name", field asset "url" with
    | .str name, .str url => .ok ⟨name, url⟩
    | _, _ => .error "platform release catalog asset is invalid"

def parseEntry (value : Value) : Except String ReleaseEntry :=
  match value.record? with
  | none => .error "platform release catalog entry is invalid"
  | some release =>
    match field release "tag_name", field release "html_url", field release "draft",
        field release "prerelease", release.lookup "published_at", field release "assets" with
    | .str tag, .str url, .bool draft, .bool prerelease, some publishedAt, .arr assets =>
      match publishedAt with
      | .null =>
        if assets.length > 100 then .error "platform release catalog entry is invalid"
        else do
          let assets ← assets.mapM parseAsset
          .ok ⟨tag, url, draft, prerelease, none, assets⟩
      | .str text =>
        if assets.length > 100 then .error "platform release catalog entry is invalid"
        else do
          let assets ← assets.mapM parseAsset
          .ok ⟨tag, url, draft, prerelease, some text, assets⟩
      | _ => .error "platform release catalog entry is invalid"
    | _, _, _, _, _, _ => .error "platform release catalog entry is invalid"

def parseList (bytes : List UInt8) : Except String (List ReleaseEntry) :=
  match outside.parseJson bytes with
  | none => .error "platform release catalog is not valid JSON"
  | some (.arr items) =>
    if items.length > 20 then .error "platform release catalog is invalid"
    else items.mapM parseEntry
  | some _ => .error "platform release catalog is invalid"

/-- The filters before the sort. -/
def isCandidate (release : ReleaseEntry) : Bool :=
  !release.draft && (config.platformChannel == .candidate || !release.prerelease) &&
    isPlatformTag release.tag && (parseVersion (versionOfTag release.tag)).isSome &&
    !isRevoked (versionOfTag release.tag)

/-- The comparison that the sort is given keeps `left` before `right`. -/
def keepsBefore (left right : ReleaseEntry) : Bool :=
  match compareStableVersions (versionOfTag right.tag) (versionOfTag left.tag) with
  | .ok .gt => false
  | _ => true

def newest (releases : List ReleaseEntry) : Option ReleaseEntry :=
  ((releases.filter (isCandidate config)).insertionSort fun left right =>
    keepsBefore left right = true).head?

def assertAssetUrl (value apiBase : String) : Except String Unit :=
  match outside.parseUrl value with
  | none => .error "platform release asset URL is invalid"
  | some asset =>
    if asset.protocol != "https:" ||
        some asset.origin != (outside.parseUrl apiBase).map Url.origin then
      .error "platform release asset URL is outside the configured GitHub API"
    else .ok ()

/-- `githubApiUrl.replace(/\/$/, '')` -/
def apiBase : String :=
  if config.githubApiUrl.toList.getLast? = some '/' then
    String.ofList config.githubApiUrl.toList.dropLast
  else config.githubApiUrl

def found (checkedAt : String) (release : Option VerifiedPlatformRelease) :
    PlatformCatalogResult :=
  ⟨true, config.platformChannel, some checkedAt, false, release, none⟩

/-- The part of `refresh` behind the choice of the release. -/
def download (checkedAt : String) (candidate : ReleaseEntry) :
    Except String VerifiedPlatformRelease := do
  let incomplete := "latest platform release is incomplete"
  let manifestAsset ← (candidate.assets.find? (·.name == MANIFEST_NAME)).elim (.error incomplete) .ok
  let bundleAsset ← (candidate.assets.find? (·.name == BUNDLE_NAME)).elim (.error incomplete) .ok
  assertAssetUrl outside manifestAsset.url (apiBase config)
  assertAssetUrl outside bundleAsset.url (apiBase config)
  let manifestResponse ← fetchBounded fetch manifestAsset.url ASSET_LIMIT
  let bundleResponse ← fetchBounded fetch bundleAsset.url ASSET_LIMIT
  if !manifestResponse.ok || !bundleResponse.ok then
    .error "latest platform release assets could not be downloaded"
  else
    match outside.parseJson manifestResponse.body, outside.parseJson bundleResponse.body with
    | some manifestValue, some bundle => do
      let manifest ← parsePlatformReleaseManifest manifestValue config.repository candidate.tag
      if outside.verify bundle manifestResponse.body
          (certificateIdentity config.repository candidate.tag) then
        .ok ⟨manifest, String.ofList (Base64.encode manifestResponse.body), bundle, candidate.url,
          candidate.publishedAt, checkedAt⟩
      else .error "verification failed"
    | _, _ => .error "latest platform release assets are not valid JSON"

def refresh (checkedAt : String) : Except String PlatformCatalogResult := do
  let list ← fetchBounded fetch
    (apiBase config ++ "/repos/" ++ config.repository ++ "/releases?per_page=20") LIST_LIMIT
  if !list.ok then .error s!"platform release catalog returned HTTP {list.status}"
  else
    let releases ← parseList outside list.body
    match newest config releases with
    | none => .ok (found config checkedAt none)
    | some candidate => do
      let release ← download config outside fetch checkedAt candidate
      .ok (found config checkedAt (some release))

structure State where
  cached : Option (ℕ × PlatformCatalogResult) := none
  lastGood : Option PlatformCatalogResult := none

def failed (checkedAt : String) (s : State) : PlatformCatalogResult :=
  match s.lastGood with
  | some lastGood => { lastGood with
      stale := true
      error := some
        "The platform release catalog could not be refreshed; showing the last verified result." }
  | none => ⟨true, config.platformChannel, some checkedAt, false, none,
      some "The platform release catalog is temporarily unavailable."⟩

/-- `this.refresh().catch((error) => this.failed(error))` -/
def refreshed (checkedAt : String) (s : State) : PlatformCatalogResult :=
  match refresh config outside fetch checkedAt with
  | .ok result => result
  | .error _ => failed config checkedAt s

/-- One call of `latest`; calls that meet a refresh in flight get its result. -/
def latest (force : Bool) (now : ℕ) (checkedAt : String) (s : State) :
    PlatformCatalogResult × State :=
  if !config.enabled then (⟨false, config.platformChannel, none, false, none, none⟩, s)
  else
    match s.cached.filter fun cached => !force && decide (cached.1 > now) with
    | some cached => (cached.2, s)
    | none =>
      let result := refreshed config outside fetch checkedAt s
      (result, ⟨some (now + config.cacheSeconds * 1000, result),
        if result.error.isNone then some result else s.lastGood⟩)

end Catalog

end InitPad.Releases
