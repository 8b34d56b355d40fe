import InitPad.AppConfig.Service
import Mathlib.Algebra.Ring.Nat

/-!
# InitPad.AppConfig.Delivery

`parseProjectDelivery` of the Agent, on the JSON value that the API answers a leased deployment job
with.

* `envEntries_eq`: which maps the loop over the variables lets through.
* `parseProjectDelivery_iff`: which maps are delivered, with every variable preserved.
-/

namespace InitPad.AppConfig

/-- A JSON value; the Agent only works with whole numbers. -/
inductive Json where
  | null
  | bool (b : Bool)
  | num (n : Int)
  | str (s : String)
  | arr (items : List Json)
  | obj (fields : List (String × Json))

def Json.field (fields : List (String × Json)) (name : String) : Json :=
  (fields.lookup name).getD .null

/-- The fields of an object; an array or any other value is refused. -/
def Json.requireObject (message : String) : Json → Except String (List (String × Json))
  | .obj fields => .ok fields
  | _ => .error message

def MAX_ENV_VARS : Nat := 128
def MAX_ENV_VALUE_BYTES : Nat := 8 * 1024
def MAX_ENV_TOTAL_BYTES : Nat := 128 * 1024

/-- `20 * 1024 ** 3` -/
def MAX_ARTIFACT_BYTES : Int := 20 * 1024 * 1024 * 1024

/-- `Buffer.byteLength(value)` -/
def byteLength (value : String) : Nat := (value.toList.map Char.utf8Size).sum

/-- `/^[a-f0-9]{64}$/` -/
def isSha256 (value : String) : Bool :=
  value.toList.length == 64 && value.toList.all fun c => c.isDigit || ('a' ≤ c && c ≤ 'f')

/-- `[A-Za-z0-9_-]` -/
def isPathChar (c : Char) : Bool := c.isAlphanum || c == '_' || c == '-'

/-- `/^\/api\/agent\/jobs\/[A-Za-z0-9_-]+\/artifact$/` -/
def isArtifactPath (path : String) : Bool :=
  let start := "/api/agent/jobs/".toList
  let end_ := "/artifact".toList
  let id := (path.toList.drop start.length).take
    (path.toList.length - start.length - end_.length)
  path.toList == start ++ id ++ end_ && !id.isEmpty && id.all isPathChar

structure ArtifactDelivery where
  path : String
  sha256 : String
  sizeBytes : Int
  deriving DecidableEq

structure DockerProjectDelivery where
  artifact : ArtifactDelivery
  envVars : List (String × String)
  deriving DecidableEq

def requiredSafeString (value : Json) (label : String) (pattern : String → Bool) :
    Except String String :=
  match value with
  | .str s =>
    if pattern s then .ok s
    else .error ("Lifecycle payload contains an invalid " ++ label)
  | _ => .error ("Lifecycle payload contains an invalid " ++ label)

/-- The size must be a whole number from one byte to 20 GiB. -/
def artifactSize : Json → Except String Int
  | .num n =>
    if 1 ≤ n ∧ n ≤ MAX_ARTIFACT_BYTES then .ok n
    else .error "Project artifact size is invalid"
  | _ => .error "Project artifact size is invalid"

/-- The loop over the entries of `envVars`, with the bytes and the variables so far. -/
def envEntries : Nat → List (String × String) → List (String × Json) →
    Except String (List (String × String))
  | _, envVars, [] => .ok envVars
  | totalBytes, envVars, (name, .str value) :: rest =>
    if !isKey name || name = "PORT" then
      .error "Project environment config contains an invalid variable"
    else if byteLength value > MAX_ENV_VALUE_BYTES then
      .error ("Project environment variable '" ++ name ++ "' is too large")
    else if totalBytes + (byteLength name + byteLength value) > MAX_ENV_TOTAL_BYTES then
      .error "Project environment config is too large"
    else envEntries (totalBytes + (byteLength name + byteLength value))
      (setEntry envVars name value) rest
  | _, _, _ :: _ => .error "Project environment config contains an invalid variable"

def parseProjectDelivery (value : Json) : Except String DockerProjectDelivery := do
  let input ← value.requireObject "Project delivery material is invalid"
  refuse (input.any fun field => !(["artifact", "envVars"].contains field.1))
    "Project delivery material contains unsupported fields"
  let artifact ← (Json.field input "artifact").requireObject "Project artifact delivery is invalid"
  refuse (artifact.any fun field => !(["path", "sha256", "sizeBytes"].contains field.1))
    "Project artifact delivery contains unsupported fields"
  let sizeBytes ← artifactSize (Json.field artifact "sizeBytes")
  let entries ← (Json.field input "envVars").requireObject "Project environment config is invalid"
  refuse (decide (entries.length > MAX_ENV_VARS)) "Project environment has too many variables"
  let envVars ← envEntries 0 [] entries
  let path ← requiredSafeString (Json.field artifact "path") "artifact path" isArtifactPath
  let sha256 ← requiredSafeString (Json.field artifact "sha256") "artifact digest" isSha256
  return ⟨⟨path, sha256, sizeBytes⟩, envVars⟩

/-- The body of `deliveryForLease`. -/
def DockerProjectDelivery.toJson (delivery : DockerProjectDelivery) : Json :=
  .obj [
    ("artifact", .obj [
      ("path", .str delivery.artifact.path),
      ("sha256", .str delivery.artifact.sha256),
      ("sizeBytes", .num delivery.artifact.sizeBytes)]),
    ("envVars", .obj (delivery.envVars.map fun e => (e.1, .str e.2)))]

/-- The artifact part is one that the Agent accepts. -/
structure ArtifactDelivery.Valid (artifact : ArtifactDelivery) : Prop where
  path : isArtifactPath artifact.path = true
  sha256 : isSha256 artifact.sha256 = true
  sizeBytes : 1 ≤ artifact.sizeBytes ∧ artifact.sizeBytes ≤ MAX_ARTIFACT_BYTES

/-! ## Maps that are let through -/

/-- The bytes of the keys and the values. -/
def totalBytes (envVars : List (String × String)) : Nat :=
  (envVars.map fun e => byteLength e.1 + byteLength e.2).sum

/-- The limits of the Agent. -/
structure Fits (envVars : List (String × String)) : Prop where
  count : envVars.length ≤ MAX_ENV_VARS
  values : ∀ e ∈ envVars, byteLength e.2 ≤ MAX_ENV_VALUE_BYTES
  total : totalBytes envVars ≤ MAX_ENV_TOTAL_BYTES

/-- A map as the API keeps it: variables of the platform are not in it, and no key twice. -/
structure Settled (envVars : List (String × String)) : Prop where
  keys : ∀ e ∈ envVars, isKey e.1 = true ∧ e.1 ≠ "PORT"
  nodup : (envVars.map (·.1)).Nodup

theorem setEntry_of_new {α : Type} {record : List (String × α)} {name : String} (value : α)
    (h : name ∉ record.map (·.1)) : setEntry record name value = record ++ [(name, value)] := by
  rw [setEntry, if_neg]
  intro hany
  obtain ⟨e, he, hname⟩ := List.any_eq_true.mp hany
  exact h (List.mem_map.mpr ⟨e, he, of_decide_eq_true hname⟩)

theorem envEntries_eq {rest : List (String × String)} : ∀ {envVars : List (String × String)}
    {n : Nat}, n ≤ MAX_ENV_TOTAL_BYTES → (∀ e ∈ rest, isKey e.1 = true ∧ e.1 ≠ "PORT") →
      ((envVars ++ rest).map (·.1)).Nodup → ∀ out,
        envEntries n envVars (rest.map fun e => (e.1, .str e.2)) = .ok out ↔
          out = envVars ++ rest ∧ (∀ e ∈ rest, byteLength e.2 ≤ MAX_ENV_VALUE_BYTES) ∧
            n + totalBytes rest ≤ MAX_ENV_TOTAL_BYTES := by
  induction rest with
  | nil =>
    intro envVars n hn _ _ out
    simp [envEntries, totalBytes, hn, eq_comm]
  | cons e rest ih =>
    intro envVars n hn hkeys hnodup out
    obtain ⟨hkey, hport⟩ := hkeys e List.mem_cons_self
    have hnew : e.1 ∉ envVars.map (·.1) := by
      rw [List.map_append, List.map_cons] at hnodup
      exact fun hmem => (List.nodup_append.mp hnodup).2.2 _ hmem _ List.mem_cons_self rfl
    have htotal : totalBytes (e :: rest) = byteLength e.1 + byteLength e.2 + totalBytes rest := rfl
    have hkey' : (!isKey e.1 || decide (e.1 = "PORT")) = false := by simp [hkey, hport]
    simp only [List.map_cons, envEntries, hkey', Bool.false_eq_true, if_false, htotal,
      List.forall_mem_cons]
    by_cases hvalue : byteLength e.2 > MAX_ENV_VALUE_BYTES
    · rw [if_pos hvalue]
      constructor
      · intro h
        cases h
      · intro h
        omega
    · rw [if_neg hvalue]
      by_cases hsum : n + (byteLength e.1 + byteLength e.2) > MAX_ENV_TOTAL_BYTES
      · rw [if_pos hsum]
        constructor
        · intro h
          cases h
        · intro h
          omega
      · rw [if_neg hsum, setEntry_of_new _ hnew, ih (by omega)
          (fun r hr => hkeys r (List.mem_cons_of_mem _ hr)) (by simpa using hnodup)]
        simp only [List.append_assoc, List.singleton_append]
        constructor
        · rintro ⟨hout, hvalues, hle⟩
          exact ⟨hout, ⟨by omega, hvalues⟩, by omega⟩
        · rintro ⟨hout, ⟨-, hvalues⟩, hle⟩
          exact ⟨hout, hvalues, by omega⟩

theorem parseProjectDelivery_toJson {artifact : ArtifactDelivery} (h : artifact.Valid)
    (envVars : List (String × String)) :
    parseProjectDelivery (DockerProjectDelivery.toJson ⟨artifact, envVars⟩) =
      if envVars.length > MAX_ENV_VARS then .error "Project environment has too many variables"
      else (envEntries 0 [] (envVars.map fun e => (e.1, .str e.2))).map fun vars =>
        ⟨artifact, vars⟩ := by
  obtain ⟨path, sha256, sizeBytes⟩ := artifact
  have hpath : requiredSafeString (.str path) "artifact path" isArtifactPath = .ok path :=
    if_pos h.path
  have hsha : requiredSafeString (.str sha256) "artifact digest" isSha256 = .ok sha256 :=
    if_pos h.sha256
  have hsize : artifactSize (.num sizeBytes) = .ok sizeBytes := if_pos h.sizeBytes
  have hparse : parseProjectDelivery
      (DockerProjectDelivery.toJson ⟨⟨path, sha256, sizeBytes⟩, envVars⟩) = (do
        let sizeBytes ← artifactSize (.num sizeBytes)
        refuse (decide ((envVars.map fun e => (e.1, Json.str e.2)).length > MAX_ENV_VARS))
          "Project environment has too many variables"
        let vars ← envEntries 0 [] (envVars.map fun e => (e.1, .str e.2))
        let path ← requiredSafeString (.str path) "artifact path" isArtifactPath
        let sha256 ← requiredSafeString (.str sha256) "artifact digest" isSha256
        return ⟨⟨path, sha256, sizeBytes⟩, vars⟩) := rfl
  rw [hparse, hsize, hpath, hsha, List.length_map]
  by_cases hcount : envVars.length > MAX_ENV_VARS
  · rw [if_pos hcount, refuse, if_pos (decide_eq_true hcount)]
    rfl
  · rw [if_neg hcount, refuse, if_neg (by simpa using hcount)]
    cases envEntries 0 [] (envVars.map fun e => (e.1, .str e.2)) with
    | ok vars => rfl
    | error message => rfl

theorem parseProjectDelivery_iff {artifact : ArtifactDelivery} (h : artifact.Valid)
    {envVars : List (String × String)} (hsettled : Settled envVars) :
    parseProjectDelivery (DockerProjectDelivery.toJson ⟨artifact, envVars⟩) =
      .ok ⟨artifact, envVars⟩ ↔ Fits envVars := by
  have hentries := @envEntries_eq envVars [] 0 (Nat.zero_le _) hsettled.keys hsettled.nodup envVars
  rw [parseProjectDelivery_toJson h]
  by_cases hcount : envVars.length > MAX_ENV_VARS
  · rw [if_pos hcount]
    constructor
    · intro heq
      cases heq
    · intro hfits
      exact absurd hfits.count (by omega)
  · rw [if_neg hcount]
    constructor
    · intro heq
      cases hvars : envEntries 0 [] (envVars.map fun e => (e.1, .str e.2)) with
      | error message =>
        rw [hvars] at heq
        cases heq
      | ok vars =>
        rw [hvars] at heq
        cases heq
        obtain ⟨-, hvalues, htotal⟩ := hentries.mp hvars
        exact ⟨by omega, hvalues, by omega⟩
    · intro hfits
      rw [hentries.mpr ⟨rfl, hfits.values, by have := hfits.total; omega⟩]
      rfl

end InitPad.AppConfig
