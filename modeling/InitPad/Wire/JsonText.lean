import Mathlib.Data.List.Basic

/-!
# InitPad.Wire.JsonText

The grammar of JSON, on the UTF-16 code units of a text. An object keeps its members in the order of
the text, with repeated keys.
-/

namespace JsonText

abbrev Text := List Nat

inductive Json where
  | null
  | bool (b : Bool)
  | number (literal : Text)
  | string (text : Text)
  | array (items : List Json)
  | object (members : List (Text × Json))

def ascii (text : String) : Text := text.toList.map Char.toNat

def isBlank (u : Nat) : Bool := u == 0x20 || u == 0x09 || u == 0x0a || u == 0x0d

def isDigit (u : Nat) : Bool := decide (0x30 ≤ u ∧ u ≤ 0x39)

def skip (text : Text) : Text := text.dropWhile isBlank

def hexDigit? (u : Nat) : Option Nat :=
  if isDigit u then some (u - 0x30)
  else if 0x61 ≤ u ∧ u ≤ 0x66 then some (u - 0x61 + 10)
  else if 0x41 ≤ u ∧ u ≤ 0x46 then some (u - 0x41 + 10)
  else none

def hex4? (a b c d : Nat) : Option Nat := do
  let a ← hexDigit? a
  let b ← hexDigit? b
  let c ← hexDigit? c
  let d ← hexDigit? d
  pure (((a * 16 + b) * 16 + c) * 16 + d)

/-- `\"`, `\\`, `\/`, `\b`, `\f`, `\n`, `\r` and `\t` -/
def escape? (u : Nat) : Option Nat :=
  [(0x22, 0x22), (0x5c, 0x5c), (0x2f, 0x2f), (0x62, 0x08), (0x66, 0x0c), (0x6e, 0x0a),
    (0x72, 0x0d), (0x74, 0x09)].lookup u

/-- The content of a string up to its closing quote, and the rest. -/
def chars? : Text → Option (Text × Text)
  | [] => none
  | 0x22 :: rest => some ([], rest)
  | 0x5c :: 0x75 :: a :: b :: c :: d :: rest => do
    let u ← hex4? a b c d
    let (content, rest) ← chars? rest
    pure (u :: content, rest)
  | 0x5c :: u :: rest => do
    let u ← escape? u
    let (content, rest) ← chars? rest
    pure (u :: content, rest)
  | u :: rest =>
    if u < 0x20 ∨ u = 0x5c then none
    else do
      let (content, rest) ← chars? rest
      pure (u :: content, rest)

def digits? (text : Text) : Option (Text × Text) :=
  match text.span isDigit with
  | ([], _) => none
  | (digits, rest) => some (digits, rest)

def fraction? : Text → Option (Text × Text)
  | 0x2e :: rest => (digits? rest).map fun (digits, rest) => (0x2e :: digits, rest)
  | text => some ([], text)

def sign : Text → Text × Text
  | 0x2b :: rest => ([0x2b], rest)
  | 0x2d :: rest => ([0x2d], rest)
  | text => ([], text)

def exponent? : Text → Option (Text × Text)
  | u :: rest =>
    if u = 0x65 ∨ u = 0x45 then
      (digits? (sign rest).2).map fun (digits, after) => (u :: (sign rest).1 ++ digits, after)
    else some ([], u :: rest)
  | [] => some ([], [])

def number? (text : Text) : Option (Text × Text) := do
  let (minus, text) := if text.head? = some 0x2d then ([0x2d], text.tail) else ([], text)
  let (whole, text) ← digits? text
  if whole.head? = some 0x30 ∧ 1 < whole.length then none
  else
    let (fraction, text) ← fraction? text
    let (exponent, text) ← exponent? text
    pure (minus ++ whole ++ fraction ++ exponent, text)

/-! ## Values -/

def literal? (text : Text) : Option (Json × Text) :=
  if ascii "null" <+: text then some (.null, text.drop 4)
  else if ascii "true" <+: text then some (.bool true, text.drop 4)
  else if ascii "false" <+: text then some (.bool false, text.drop 5)
  else (number? text).map fun (literal, rest) => (.number literal, rest)

mutual

/-- The value that a text starts with, and the rest; every level and every item takes one unit of
fuel, and a code unit of the text. -/
def value? : Nat → Text → Option (Json × Text)
  | 0, _ => none
  | fuel + 1, text =>
    match skip text with
    | 0x22 :: rest => (chars? rest).map fun (content, rest) => (.string content, rest)
    | 0x5b :: rest =>
      match skip rest with
      | 0x5d :: rest => some (.array [], rest)
      | _ => (items? fuel rest).map fun (items, rest) => (.array items, rest)
    | 0x7b :: rest =>
      match skip rest with
      | 0x7d :: rest => some (.object [], rest)
      | _ => (members? fuel rest).map fun (members, rest) => (.object members, rest)
    | text => literal? text

def items? : Nat → Text → Option (List Json × Text)
  | 0, _ => none
  | fuel + 1, text => do
    let (item, rest) ← value? fuel text
    match skip rest with
    | 0x5d :: rest => pure ([item], rest)
    | 0x2c :: rest =>
      let (items, rest) ← items? fuel rest
      pure (item :: items, rest)
    | _ => none

def members? : Nat → Text → Option (List (Text × Json) × Text)
  | 0, _ => none
  | fuel + 1, text =>
    match skip text with
    | 0x22 :: rest => do
      let (key, rest) ← chars? rest
      match skip rest with
      | 0x3a :: rest =>
        let (value, rest) ← value? fuel rest
        match skip rest with
        | 0x7d :: rest => pure ([(key, value)], rest)
        | 0x2c :: rest =>
          let (members, rest) ← members? fuel rest
          pure ((key, value) :: members, rest)
        | _ => none
      | _ => none
    | _ => none

end

/-- A text that is one value, with white space around it. -/
def parse (text : Text) : Option Json :=
  match value? (2 * text.length + 1) text with
  | some (value, rest) => if (skip rest).isEmpty then some value else none
  | none => none

/-! ## Values without white space -/

section Compact

variable {fuel u : Nat} {key text rest after : Text} {value : Json} {items : List Json}
  {members : List (Text × Json)}

theorem value?_string (h : chars? rest = some (text, after)) :
    value? (fuel + 1) (0x22 :: rest) = some (.string text, after) := by
  have hskip : skip (0x22 :: rest) = 0x22 :: rest := rfl
  unfold value?
  rw [hskip]
  change (chars? rest).map _ = _
  rw [h]
  rfl

theorem items?_single (h : value? fuel text = some (value, 0x5d :: after)) :
    items? (fuel + 1) text = some ([value], after) := by
  unfold items?
  rw [h]
  rfl

theorem members?_single (hkey : chars? rest = some (key, 0x3a :: text))
    (hvalue : value? fuel text = some (value, 0x7d :: after)) :
    members? (fuel + 1) (0x22 :: rest) = some ([(key, value)], after) := by
  have hskip : skip (0x22 :: rest) = 0x22 :: rest := rfl
  have hcolon : skip (0x3a :: text) = 0x3a :: text := rfl
  unfold members?
  rw [hskip]
  change (chars? rest).bind _ = _
  rw [hkey]
  change (value? fuel text).bind _ = _
  rw [hvalue]
  rfl

theorem value?_array (hblank : isBlank u = false) (hclose : u ≠ 0x5d)
    (h : items? fuel (u :: rest) = some (items, after)) :
    value? (fuel + 1) (0x5b :: u :: rest) = some (.array items, after) := by
  have hskip : skip (u :: rest) = u :: rest := by
    unfold skip
    rw [List.dropWhile_cons_of_neg (by rw [hblank]; exact Bool.false_ne_true)]
  have hopen : skip (0x5b :: u :: rest) = 0x5b :: u :: rest := rfl
  unfold value?
  simp only [hopen, hskip]
  split
  · rename_i hsame
    exact absurd (List.cons.inj hsame).1 hclose
  · rw [h]
    rfl

theorem value?_object (h : members? fuel (0x22 :: rest) = some (members, after)) :
    value? (fuel + 1) (0x7b :: 0x22 :: rest) = some (.object members, after) := by
  have hskip : skip (0x22 :: rest) = 0x22 :: rest := rfl
  have hopen : skip (0x7b :: 0x22 :: rest) = 0x7b :: 0x22 :: rest := rfl
  unfold value?
  simp only [hopen, hskip, h, Option.map_some]

theorem parse_of_value (h : value? (2 * text.length + 1) text = some (value, [])) :
    parse text = some value := by
  unfold parse
  rw [h]
  rfl

end Compact

def last? (passes : Text → Bool) (members : List (Text × Json)) : Option Json :=
  (members.reverse.find? fun member => passes member.1).map Prod.snd

end JsonText
