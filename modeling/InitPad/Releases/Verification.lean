import InitPad.Releases.Catalog

/-!
# InitPad.Releases.Verification

How the API hands a release to the Supervisor and what the Supervisor makes of it: the body of the
request, `readBody`, `decodeManifest` and `verifyPlatformRelease`.
-/

namespace InitPad.Releases

open JSON (Value field exactKeys)

/-- The value that `PlatformUpdatesService.request` gives to `SupervisorClientService.update`. -/
def signedRelease (release : VerifiedPlatformRelease) : Value :=
  .obj [("version", .str release.manifest.version),
    ("manifestBase64", .str release.manifestBase64), ("bundle", release.bundle)]

/-- The characters of `Supervisor.quoted`. -/
def quotedChars (s : String) : List Char := '"' :: (s.toList.flatMap Supervisor.jsonChar ++ ['"'])

section
variable (numeral : ℚ → List Char)

/-- `Buffer.from(JSON.stringify(value))` -/
def requestBody (value : Value) : List UInt8 :=
  JSON.textBytes (JSON.stringify quotedChars numeral value)

end

namespace Verification

def MAX_BODY_BYTES : ℕ := 2 * 1024 * 1024

def MAX_MANIFEST_BYTES : ℕ := 512 * 1024

/-- The loop of `readBody` is the one that reads a download. -/
def readBody (chunks : List (List UInt8)) : Except String (List UInt8) :=
  Catalog.readChunks "Supervisor request body is too large" MAX_BODY_BYTES 0 chunks

def invalidEncoding : String := "Platform release manifest encoding is invalid"

def decodeManifest : Value → Except String (List UInt8)
  | .str value =>
    if value.toList.length == 0 || value.toList.length > (MAX_MANIFEST_BYTES * 4 + 2) / 3 + 4 ||
        !Base64.isEncoding value.toList then
      .error invalidEncoding
    else
      let bytes := Base64.decode value.toList
      if bytes.length == 0 || bytes.length > MAX_MANIFEST_BYTES ||
          Base64.encode bytes != value.toList then
        .error invalidEncoding
      else .ok bytes
  | _ => .error invalidEncoding

variable (outside : Outside)

def verifyPlatformRelease (value : Value) (currentVersion repository : String) :
    Except String PlatformReleaseManifest := do
  let release ← object "Signed platform release is invalid" value
  requireKeys release ["version", "manifestBase64", "bundle"] "Signed platform release"
  match field release "version" with
  | .str version =>
    if (parseVersion version).isNone then .error "Platform release version is invalid"
    else
      let order ← compareVersions version currentVersion
      if order != .gt then .error "Platform release must be newer than the installed version"
      else
        let bytes ← decodeManifest (field release "manifestBase64")
        let _ ← object "Platform release signature bundle is invalid" (field release "bundle")
        match outside.parseJson bytes with
        | none => .error "Platform release manifest is not valid JSON"
        | some parsed =>
          let manifest ← parsePlatformReleaseManifest parsed repository version
          if outside.verify (field release "bundle") bytes
              (certificateIdentity repository (platformTag version)) then
            .ok manifest
          else .error "verification failed"
  | _ => .error "Platform release version is invalid"

/-- The part of `POST /v1/update` that reads a request and verifies its release. -/
def receive (chunks : List (List UInt8)) (currentVersion repository : String) :
    Except String PlatformReleaseManifest := do
  let body ← readBody chunks
  match outside.parseJson body with
  | none => .error "Platform update request is not valid JSON"
  | some release => verifyPlatformRelease outside release currentVersion repository

end Verification

end InitPad.Releases
