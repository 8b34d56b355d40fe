import Mathlib.Algebra.Order.Ring.Rat

/-!
# InitPad.Wire.Json

JSON values as a JavaScript program holds them, the text that `JSON.stringify` writes, and the value
that is read back from it. How a string is quoted and how a finite number is spelled are parameters.
-/

namespace JSON

/-- A double that `JSON.parse` can return; a literal that is too large is read as infinity. -/
inductive Number where
  | finite (value : ℚ)
  | negativeZero
  | infinite (negative : Bool)
  deriving DecidableEq

inductive Value where
  | null
  | bool (b : Bool)
  | num (x : Number)
  | str (s : String)
  | arr (items : List Value)
  | obj (fields : List (String × Value))

/-- The fields of `value !== null && typeof value === 'object' && !Array.isArray(value)`. -/
def Value.record? : Value → Option (List (String × Value))
  | .obj fields => some fields
  | _ => none

/-- A field that is not there reads as `null` does: it is of no type that is asked for. -/
def field (fields : List (String × Value)) (name : String) : Value :=
  (fields.lookup name).getD .null

def keys (fields : List (String × Value)) : List String := fields.map Prod.fst

/-- `Object.keys(value).length === keys.length && Object.keys(value).every(key in keys)` -/
def exactKeys (fields : List (String × Value)) (expected : List String) : Bool :=
  (keys fields).length == expected.length && (keys fields).all expected.contains

/-! ## Text -/

section
variable (quote : String → List Char) (numeral : ℚ → List Char)

/-- Infinity has no literal and becomes `null`; the sign of zero is not written. -/
def numberText : Number → List Char
  | .finite value => numeral value
  | .negativeZero => numeral 0
  | .infinite _ => "null".toList

mutual

/-- `JSON.stringify(value)` -/
def stringify : Value → List Char
  | .null => "null".toList
  | .bool b => (if b then "true" else "false").toList
  | .num x => numberText numeral x
  | .str s => quote s
  | .arr items => '[' :: (stringifyItems items ++ [']'])
  | .obj fields => '\x7b' :: (stringifyFields fields ++ ['\x7d'])

def stringifyItems : List Value → List Char
  | [] => []
  | [v] => stringify v
  | v :: items => stringify v ++ ',' :: stringifyItems items

def stringifyFields : List (String × Value) → List Char
  | [] => []
  | [(name, v)] => quote name ++ ':' :: stringify v
  | (name, v) :: fields => quote name ++ ':' :: stringify v ++ ',' :: stringifyFields fields

end

theorem stringify_null : stringify quote numeral .null = "null".toList := rfl

theorem stringify_bool (b : Bool) :
    stringify quote numeral (.bool b) = (if b then "true" else "false").toList := rfl

theorem stringify_num (x : Number) : stringify quote numeral (.num x) = numberText numeral x := rfl

theorem stringify_str (s : String) : stringify quote numeral (.str s) = quote s := rfl

theorem stringify_arr (items : List Value) : stringify quote numeral (.arr items) =
    '[' :: (stringifyItems quote numeral items ++ [']']) := rfl

theorem stringify_obj (fields : List (String × Value)) : stringify quote numeral (.obj fields) =
    '\x7b' :: (stringifyFields quote numeral fields ++ ['\x7d']) := rfl

theorem stringifyItems_singleton (v : Value) :
    stringifyItems quote numeral [v] = stringify quote numeral v := rfl

theorem stringifyItems_cons (v v' : Value) (items : List Value) :
    stringifyItems quote numeral (v :: v' :: items) =
      stringify quote numeral v ++ ',' :: stringifyItems quote numeral (v' :: items) := rfl

theorem stringifyFields_nil : stringifyFields quote numeral [] = [] := rfl

theorem stringifyFields_singleton (name : String) (v : Value) :
    stringifyFields quote numeral [(name, v)] = quote name ++ ':' :: stringify quote numeral v := rfl

theorem stringifyFields_cons (name : String) (v : Value) (field : String × Value)
    (fields : List (String × Value)) : stringifyFields quote numeral ((name, v) :: field :: fields) =
      quote name ++ ':' :: stringify quote numeral v ++
        ',' :: stringifyFields quote numeral (field :: fields) := rfl

end

/-- `JSON.parse(JSON.stringify(x))` -/
def Number.reread : Number → Value
  | .finite value => .num (.finite value)
  | .negativeZero => .num (.finite 0)
  | .infinite _ => .null

mutual

/-- `JSON.parse(JSON.stringify(value))` -/
def Value.reread : Value → Value
  | .null => .null
  | .bool b => .bool b
  | .num x => x.reread
  | .str s => .str s
  | .arr items => .arr (rereadItems items)
  | .obj fields => .obj (rereadFields fields)

def rereadItems : List Value → List Value
  | [] => []
  | v :: items => v.reread :: rereadItems items

def rereadFields : List (String × Value) → List (String × Value)
  | [] => []
  | (name, v) :: fields => (name, v.reread) :: rereadFields fields

end

theorem record?_reread (v : Value) : v.reread.record? = v.record?.map rereadFields := by
  cases v with
  | num x => cases x <;> simp [Value.reread, Number.reread, Value.record?]
  | _ => simp [Value.reread, Value.record?]

theorem rereadItems_eq (items : List Value) : rereadItems items = items.map Value.reread := by
  induction items with
  | nil => rfl
  | cons v items ih => rw [rereadItems, ih, List.map_cons]

mutual

theorem reread_reread : ∀ v : Value, v.reread.reread = v.reread
  | .null => rfl
  | .bool _ => rfl
  | .num x => by cases x <;> rfl
  | .str _ => rfl
  | .arr items => congrArg Value.arr (rereadItems_rereadItems items)
  | .obj fields => congrArg Value.obj (rereadFields_rereadFields fields)

theorem rereadItems_rereadItems : ∀ items, rereadItems (rereadItems items) = rereadItems items
  | [] => rfl
  | v :: items => congrArg₂ List.cons (reread_reread v) (rereadItems_rereadItems items)

theorem rereadFields_rereadFields :
    ∀ fields, rereadFields (rereadFields fields) = rereadFields fields
  | [] => rfl
  | (name, v) :: fields =>
    congrArg₂ List.cons (congrArg (Prod.mk name) (reread_reread v))
      (rereadFields_rereadFields fields)

end

def textBytes (text : List Char) : List UInt8 := text.flatMap String.utf8EncodeChar

end JSON
