import InitPad.Deployment.Types
import InitPad.Gateway.Text
import InitPad.Store.Table

/-!
# InitPad.AppConfig.Service

`AppConfigService`: the variables of an environment, saved one by one and read as a map for a
deployment. The cipher behind `encryptSecret` is a parameter; all that is used of it is that an
encrypted text can be decrypted again.
-/

namespace InitPad.AppConfig

open Store

/-- White space and line ends, as `String.prototype.trim` removes them. -/
def isTrimmed (c : Char) : Bool :=
  ['\t', '\n', '\u000b', '\u000c', '\r', ' ', '\u00a0', '\u1680', '\u2028', '\u2029', '\u202f',
    '\u205f', '\u3000', '\ufeff'].contains c || ('\u2000' ≤ c && c ≤ '\u200a')

/-- `value.trim()` -/
def trim (value : String) : String :=
  String.ofList ((value.toList.dropWhile isTrimmed).reverse.dropWhile isTrimmed).reverse

/-- `/^[A-Z_][A-Z0-9_]*$/`, the `KEY_RE` of the API and the `ENV_KEY_PATTERN` of the Agent -/
def isKey (key : String) : Bool :=
  key.toList.head?.any (fun c => c.isUpper || c == '_') &&
    key.toList.all fun c => c.isUpper || c.isDigit || c == '_'

def RESERVED_KEYS : List String := ["PORT"]

def MAX_VALUE_LENGTH : Nat := 8192

/-- AES-256-GCM under the configured keys, with base64 around it; `encrypt` takes the random `iv`. -/
structure SecretBox where
  encrypt : Nat → String → String
  decrypt : String → Option String
  decrypt_encrypt : ∀ iv plaintext, decrypt (encrypt iv plaintext) = some plaintext

namespace SecretBox

variable (box : SecretBox)

def PREFIX : List Char := "enc:v1:".toList

def encryptSecret (iv : Nat) (plaintext : String) : String :=
  String.ofList (PREFIX ++ (box.encrypt iv plaintext).toList)

def decryptSecret (stored what : String) : Except String String :=
  if !PREFIX.isPrefixOf stored.toList then .ok stored
  else match box.decrypt (String.ofList (stored.toList.drop PREFIX.length)) with
    | some plaintext => .ok plaintext
    | none => .error (what ++ " cannot be decrypted with the configured INITPAD_ENCRYPTION_KEY")

theorem decryptSecret_encryptSecret (iv : Nat) (plaintext what : String) :
    box.decryptSecret (box.encryptSecret iv plaintext) what = .ok plaintext := by
  have hmarked : PREFIX.isPrefixOf (PREFIX ++ (box.encrypt iv plaintext).toList) = true := by
    simp
  simp only [decryptSecret, encryptSecret, String.toList_ofList, hmarked, List.drop_left,
    String.ofList_toList, box.decrypt_encrypt, Bool.not_true, Bool.false_eq_true, if_false]

end SecretBox

structure EnvironmentRow where
  id : Id
  projectId : Id
  name : String
  activeOperationId : Option Id
  configRevision : Nat
  deriving DecidableEq

structure AppConfigVar where
  environmentId : Id
  key : String
  value : String
  isSecret : Bool
  deriving DecidableEq

instance : Keyed EnvironmentRow Id := ⟨EnvironmentRow.id⟩
instance : Keyed AppConfigVar (Id × String) := ⟨fun row => (row.environmentId, row.key)⟩

structure World where
  environments : Table EnvironmentRow
  configVars : Table AppConfigVar

structure ConfigVarSummary where
  key : String
  isSecret : Bool
  value : Option String
  hasValue : Bool
  deriving DecidableEq

/-! ## The service -/

/-- `requireProject(userId, projectId, 'write')` and the cipher. -/
structure AppConfigService where
  requireProject : Id → Id → Except String Unit
  box : SecretBox

def refuse (condition : Bool) (message : String) : Except String Unit :=
  if condition then .error message else .ok ()

def toSummary (row : AppConfigVar) : ConfigVarSummary where
  key := row.key
  isSecret := row.isSecret
  value := if row.isSecret then none else some row.value
  hasValue := decide (0 < row.value.length)

def World.environmentId (w : World) (projectId : Id) (envName : String) : Except String Id :=
  match w.environments.findFirst? fun e => e.projectId = projectId && e.name = envName with
  | some e => .ok e.id
  | none => .error ("Environment '" ++ envName ++ "' not found")

def World.lockConfig (w : World) (environmentId : Id) (envName : String) : Except String World :=
  let free : EnvironmentRow → Bool := fun e => e.id = environmentId && e.activeOperationId.isNone
  if w.environments.count free = 1 then
    .ok { w with environments := w.environments.updateMany free fun e =>
            { e with configRevision := e.configRevision + 1 } }
  else .error ("Environment '" ++ envName ++
    "' is busy. Wait for or cancel its operation before changing config.")

def World.upsertVar (w : World) (row : AppConfigVar) : World :=
  { w with configVars :=
      if (w.configVars.find? (key row)).isSome then
        w.configVars.updateMany (fun r => key r = key row) fun _ => row
      else w.configVars.insert row }

def AppConfigService.upsert (service : AppConfigService) (iv : Nat) (userId projectId : Id)
    (envName key value : String) (isSecret : Bool) (w : World) :
    Except String (ConfigVarSummary × World) := do
  service.requireProject userId projectId
  let normalizedKey := trim key
  refuse (!isKey normalizedKey)
    "Key must match ^[A-Z_][A-Z0-9_]* (uppercase letters, digits and underscore)"
  refuse (RESERVED_KEYS.contains normalizedKey)
    ("'" ++ normalizedKey ++ "' is a reserved platform variable")
  refuse (decide (unitCount value.toList > MAX_VALUE_LENGTH))
    ("Value must be a string up to " ++ toString MAX_VALUE_LENGTH ++ " characters")
  let environmentId ← w.environmentId projectId envName
  let stored := if isSecret then service.box.encryptSecret iv value else value
  let locked ← w.lockConfig environmentId envName
  let row : AppConfigVar := ⟨environmentId, normalizedKey, stored, isSecret⟩
  return (toSummary row, locked.upsertVar row)

def AppConfigService.remove (service : AppConfigService) (userId projectId : Id)
    (envName key : String) (w : World) : Except String World := do
  service.requireProject userId projectId
  let environmentId ← w.environmentId projectId envName
  let locked ← w.lockConfig environmentId envName
  return { locked with configVars := locked.configVars.deleteMany fun r =>
    r.environmentId = environmentId && r.key = key }

/-- `record[key] = value` -/
def setEntry {α : Type} (record : List (String × α)) (key : String) (value : α) :
    List (String × α) :=
  if record.any (·.1 = key) then record.map fun e => if e.1 = key then (key, value) else e
  else record ++ [(key, value)]

def AppConfigService.plaintext (service : AppConfigService) (row : AppConfigVar) :
    Except String String :=
  if row.isSecret then service.box.decryptSecret row.value ("Secret " ++ row.key)
  else .ok row.value

/-- The loop of `configVarsForDeploy` over the rows that the query returned. -/
def AppConfigService.varsOfRows (service : AppConfigService) :
    List (String × String) → List AppConfigVar → Except String (List (String × String))
  | map, [] => .ok map
  | map, row :: rows => do
    let value ← service.plaintext row
    service.varsOfRows (setEntry map row.key value) rows

def AppConfigService.configVarsForDeploy (service : AppConfigService) (rows : List AppConfigVar) :
    Except String (List (String × String)) :=
  service.varsOfRows [] rows

end InitPad.AppConfig
