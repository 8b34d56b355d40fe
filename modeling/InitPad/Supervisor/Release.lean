/-!
# InitPad.Supervisor.Release

Signed platform releases and the Compose descriptor that is rendered from a manifest. The manifest
keeps the fields that the updater reads; verification is a parameter of the updater.
-/

namespace InitPad.Supervisor

/-- The three images of a release; also the descriptors recorded as `currentImages`. -/
structure PlatformImages where
  api : String
  web : String
  supervisor : String
  deriving DecidableEq

/-- A manifest that `verifyPlatformRelease` returned; `images` holds the immutable references. -/
structure PlatformReleaseManifest where
  version : String
  images : PlatformImages
  composeSha256 : String
  deriving DecidableEq

structure SignedPlatformRelease where
  version : String
  manifestBase64 : String
  bundle : String
  deriving DecidableEq

def hexDigit (n : Nat) : Char := "0123456789abcdef".toList.getD n '0'

/-- One character inside a JSON string. -/
def jsonChar (c : Char) : List Char :=
  if c = '"' then ['\\', '"']
  else if c = '\\' then ['\\', '\\']
  else if c.toNat = 8 then ['\\', 'b']
  else if c.toNat = 9 then ['\\', 't']
  else if c.toNat = 10 then ['\\', 'n']
  else if c.toNat = 12 then ['\\', 'f']
  else if c.toNat = 13 then ['\\', 'r']
  else if c.toNat < 32 then
    ['\\', 'u', '0', '0', hexDigit (c.toNat / 16), hexDigit (c.toNat % 16)]
  else [c]

/-- `JSON.stringify` of a string. -/
def quoted (value : String) : String :=
  String.ofList ('"' :: (value.toList.flatMap jsonChar ++ ['"']))

def renderOverride (manifest : PlatformReleaseManifest) : String :=
  String.intercalate "\n" [
    "services:",
    "  api:",
    s!"    image: {quoted manifest.images.api}",
    "    environment:",
    s!"      INITPAD_PLATFORM_VERSION: {quoted manifest.version}",
    "  web:",
    s!"    image: {quoted manifest.images.web}",
    "  supervisor:",
    s!"    image: {quoted manifest.images.supervisor}",
    "    environment:",
    s!"      INITPAD_PLATFORM_VERSION: {quoted manifest.version}",
    ""]

/-- `0|[1-9]\d*` -/
def isVersionPart (part : List Char) : Bool :=
  part == ['0'] || (!part.isEmpty && part.all Char.isDigit && part.head? != some '0')

/-- `/^(0|[1-9]\d*)\.(0|[1-9]\d*)\.(0|[1-9]\d*)$/` -/
def isVersion (version : String) : Bool :=
  match version.toList.splitOn '.' with
  | [major, minor, patch] => isVersionPart major && isVersionPart minor && isVersionPart patch
  | _ => false

end InitPad.Supervisor
