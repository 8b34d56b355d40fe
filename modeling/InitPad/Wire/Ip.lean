import Mathlib.Algebra.Ring.Nat
import Mathlib.Data.List.Basic

/-!
# InitPad.Wire.Ip

The textual forms of IP addresses, the networks they are in, and the IPv4 addresses that an IPv6
address embeds. An address is a number of 32 or of 128 bits.
-/

namespace Ip

inductive Address where
  | v4 (value : Nat)
  | v6 (value : Nat)
  deriving DecidableEq

/-! ## Texts -/

def pieces (separator : Char) : List Char → List (List Char)
  | [] => [[]]
  | c :: cs =>
    if c = separator then [] :: pieces separator cs
    else match pieces separator cs with
      | piece :: rest => (c :: piece) :: rest
      | [] => [[c]]

def digit (c : Char) : Nat := c.toNat - '0'.toNat

def isDecimal (c : Char) : Bool := decide ('0'.toNat ≤ c.toNat ∧ c.toNat ≤ '9'.toNat)

def hexDigit? (c : Char) : Option Nat :=
  if isDecimal c then some (digit c)
  else if 'a'.toNat ≤ c.toNat ∧ c.toNat ≤ 'f'.toNat then some (c.toNat - 'a'.toNat + 10)
  else if 'A'.toNat ≤ c.toNat ∧ c.toNat ≤ 'F'.toNat then some (c.toNat - 'A'.toNat + 10)
  else none

/-- A decimal number up to 255 without leading zeros. -/
def octet? (piece : List Char) : Option Nat :=
  let value := piece.foldl (fun n c => n * 10 + digit c) 0
  if piece.all isDecimal && (piece.length == 1 || piece.head?.any (· != '0')) &&
      decide (piece.length ≤ 3 ∧ value ≤ 255) then some value
  else none

def parseV4 (text : List Char) : Option Nat :=
  match (pieces '.' text).map octet? with
  | [some a, some b, some c, some d] => some (a * 2 ^ 24 + b * 2 ^ 16 + c * 2 ^ 8 + d)
  | _ => none

/-- One to four hexadecimal digits. -/
def word? (piece : List Char) : Option Nat :=
  if piece.isEmpty || decide (4 < piece.length) then none
  else piece.foldl (fun n c => n.bind fun n => (hexDigit? c).map (n * 16 + ·)) (some 0)

/-- Words of 16 bits; the last two can be an IPv4 address. -/
def words? : List (List Char) → Option (List Nat)
  | [] => some []
  | [piece] =>
    match parseV4 piece with
    | some value => some [value / 2 ^ 16, value % 2 ^ 16]
    | none => (word? piece).map ([·])
  | piece :: rest => do
    let word ← word? piece
    let words ← words? rest
    pure (word :: words)

/-- The text before and after the first `::`. -/
def splitDouble : List Char → Option (List Char × List Char)
  | [] => none
  | c :: cs =>
    if c = ':' ∧ cs.head? = some ':' then some ([], cs.tail)
    else (splitDouble cs).map fun (before, rest) => (c :: before, rest)

def hexWords? : List (List Char) → Option (List Nat)
  | [] => some []
  | piece :: rest => do
    let word ← word? piece
    let words ← hexWords? rest
    pure (word :: words)

/-- The words of one side of a `::`. -/
def side (text : List Char) : List (List Char) := if text.isEmpty then [] else pieces ':' text

def ofWords (words : List Nat) : Nat := words.foldl (fun n word => n * 2 ^ 16 + word) 0

def parseV6 (text : List Char) : Option Nat :=
  match splitDouble text with
  | none => do
    let words ← words? (pieces ':' text)
    if words.length = 8 then some (ofWords words) else none
  | some (before, rest) => do
    let first ← hexWords? (side before)
    let last ← words? (side rest)
    if first.length + last.length ≤ 7 then
      some (ofWords (first ++ List.replicate (8 - first.length - last.length) 0 ++ last))
    else none

def parse (text : List Char) : Option Address :=
  match parseV4 text with
  | some value => some (.v4 value)
  | none => (parseV6 text).map .v6

/-- The first bits of an address of `width` bits. -/
def leading (width bits value : Nat) : Nat := value / 2 ^ (width - bits)

/-- IPv4 addresses that are not public: of the local host and network, private, shared, link-local,
special, for documentation and benchmarks, multicast and reserved. -/
def NonPublicV4 (a : Nat) : Prop :=
  leading 32 8 a = 0 ∨ leading 32 8 a = 10 ∨ leading 32 8 a = 127 ∨
  leading 32 10 a = 100 * 4 + 1 ∨ leading 32 16 a = 169 * 256 + 254 ∨
  leading 32 12 a = 172 * 16 + 1 ∨ leading 32 16 a = 192 * 256 + 168 ∨
  leading 32 24 a = 192 * 2 ^ 16 ∨ leading 32 24 a = 192 * 2 ^ 16 + 2 ∨
  leading 32 24 a = 192 * 2 ^ 16 + 88 * 256 + 99 ∨ leading 32 15 a = 198 * 128 + 9 ∨
  leading 32 24 a = 198 * 2 ^ 16 + 51 * 256 + 100 ∨ leading 32 24 a = 203 * 2 ^ 16 + 113 ∨
  leading 32 4 a = 14 ∨ leading 32 4 a = 15

/-- IPv6 addresses that are not public: unspecified, loopback and the compatible ones, the local
translation prefix, discard, special purposes, documentation, segment routing, unique local,
link-local, site-local and multicast. -/
def NonPublicV6 (a : Nat) : Prop :=
  leading 128 96 a = 0 ∨ leading 128 48 a = 0x64ff9b0001 ∨ leading 128 64 a = 0x100000000000000 ∨
  leading 128 23 a = 0x100080 ∨ leading 128 32 a = 0x20010db8 ∨ leading 128 20 a = 0x3fff0 ∨
  leading 128 16 a = 0x5f00 ∨ leading 128 7 a = 0x7e ∨ leading 128 10 a = 0x3fa ∨
  leading 128 10 a = 0x3fb ∨ leading 128 8 a = 0xff

/-- `::ffff:0:0:0/96`: the address of an IPv4 node behind a stateless translator. -/
def Translated (a : Nat) : Prop := leading 128 96 a = 0xffff0000

/-- The other forms: mapped `::ffff:0:0/96`, NAT64 `64:ff9b::/96`, 6to4 `2002::/16` and Teredo
`2001::/32`, with the server and the client. -/
inductive Embeds : Nat → Nat → Prop where
  | translated {a : Nat} (h : Translated a) : Embeds a (a % 2 ^ 32)
  | mapped {a : Nat} (h : leading 128 96 a = 0xffff) : Embeds a (a % 2 ^ 32)
  | nat64 {a : Nat} (h : leading 128 96 a = 0x64ff9b0000000000000000) : Embeds a (a % 2 ^ 32)
  | sixToFour {a : Nat} (h : leading 128 16 a = 0x2002) : Embeds a (a / 2 ^ 80 % 2 ^ 32)
  | teredoServer {a : Nat} (h : leading 128 32 a = 0x20010000) : Embeds a (a / 2 ^ 64 % 2 ^ 32)
  | teredoClient {a : Nat} (h : leading 128 32 a = 0x20010000) :
      Embeds a (2 ^ 32 - 1 - a % 2 ^ 32)

/-- No client may connect to the address. -/
def Forbidden : Address → Prop
  | .v4 a => NonPublicV4 a
  | .v6 a => NonPublicV6 a ∨ ∃ e, Embeds a e ∧ NonPublicV4 e

/-! ## What a literal is made of -/

section Literals

variable {separator c : Char} {text piece : List Char} {f : Char → Char}

theorem mem_pieces (h : c ∈ text) : c = separator ∨ ∃ piece ∈ pieces separator text, c ∈ piece := by
  induction text with
  | nil => cases h
  | cons x xs ih =>
    unfold pieces
    split
    · rename_i hx
      rcases List.mem_cons.mp h with rfl | h
      · exact .inl hx
      · exact (ih h).imp_right fun ⟨piece, hpiece, hc⟩ => ⟨piece, List.mem_cons_of_mem _ hpiece, hc⟩
    · split
      · rename_i piece rest hrest
        rcases List.mem_cons.mp h with rfl | h
        · exact .inr ⟨_, List.mem_cons_self, List.mem_cons_self⟩
        · rcases ih h with hsep | ⟨piece', hpiece', hc⟩
          · exact .inl hsep
          · rw [hrest] at hpiece'
            rcases List.mem_cons.mp hpiece' with rfl | hpiece'
            · exact .inr ⟨_, List.mem_cons_self, List.mem_cons_of_mem _ hc⟩
            · exact .inr ⟨piece', List.mem_cons_of_mem _ hpiece', hc⟩
      · rename_i hnil
        rcases List.mem_cons.mp h with rfl | h
        · exact .inr ⟨_, List.mem_cons_self, List.mem_cons_self⟩
        · rcases ih h with hsep | ⟨piece', hpiece', -⟩
          · exact .inl hsep
          · rw [hnil] at hpiece'
            cases hpiece'

theorem pieces_map (hf : ∀ c, f c = separator ↔ c = separator) :
    pieces separator (text.map f) = (pieces separator text).map (List.map f) := by
  induction text with
  | nil => rfl
  | cons x xs ih =>
    simp only [List.map_cons, pieces, hf]
    split
    · rw [ih]
      rfl
    · rw [ih]
      cases pieces separator xs <;> rfl

/-- A character of an IP literal. -/
def isLiteralChar (c : Char) : Bool := (hexDigit? c).isSome || c == '.' || c == ':'

theorem isLiteralChar_of_decimal (h : isDecimal c = true) : isLiteralChar c = true := by
  unfold isLiteralChar hexDigit?
  simp [h]

theorem octet?_decimal {value : Nat} (h : octet? piece = some value) : ∀ c ∈ piece, isDecimal c = true := by
  unfold octet? at h
  dsimp only at h
  split at h
  · rename_i hall
    simp only [Bool.and_eq_true] at hall
    exact List.all_eq_true.mp hall.1.1
  · cases h

theorem parseV4_chars {value : Nat} (h : parseV4 text = some value) :
    ∀ c ∈ text, isLiteralChar c = true := by
  have hall : ∀ piece ∈ pieces '.' text, ∃ n, octet? piece = some n := by
    unfold parseV4 at h
    split at h
    · rename_i a b c d hpieces
      intro piece hpiece
      have hmem := List.mem_map_of_mem (f := octet?) hpiece
      rw [hpieces] at hmem
      simp only [List.mem_cons, List.not_mem_nil, or_false] at hmem
      rcases hmem with hsome | hsome | hsome | hsome <;> exact ⟨_, hsome⟩
    · cases h
  intro c hc
  rcases @mem_pieces '.' _ _ hc with rfl | ⟨piece, hpiece, hc⟩
  · decide
  · obtain ⟨n, hn⟩ := hall piece hpiece
    exact isLiteralChar_of_decimal (octet?_decimal hn c hc)

theorem word?_chars {value : Nat} (h : word? piece = some value) : ∀ c ∈ piece, isLiteralChar c = true := by
  have hfold : ∀ (cs : List Char) (o : Option Nat) (n : Nat),
      cs.foldl (fun n c => n.bind fun n => (hexDigit? c).map (n * 16 + ·)) o = some n →
      o ≠ none ∧ ∀ c ∈ cs, (hexDigit? c).isSome = true := by
    intro cs
    induction cs with
    | nil =>
      intro o n h
      exact ⟨by rw [List.foldl_nil] at h; simp [h], fun c hc => by cases hc⟩
    | cons x xs ih =>
      intro o n h
      obtain ⟨hne, hall⟩ := ih _ _ h
      cases o with
      | none => exact absurd rfl hne
      | some m =>
        cases hx : hexDigit? x with
        | none => simp [hx] at hne
        | some =>
          refine ⟨by simp, fun c hc => ?_⟩
          rcases List.mem_cons.mp hc with rfl | hc
          · simp [hx]
          · exact hall c hc
  unfold word? at h
  split at h
  · cases h
  · intro c hc
    unfold isLiteralChar
    simp [(hfold _ _ _ h).2 c hc]

theorem words?_chars {words : List Nat} {ps : List (List Char)} (h : words? ps = some words) :
    ∀ piece ∈ ps, ∀ c ∈ piece, isLiteralChar c = true := by
  induction ps generalizing words with
  | nil => exact fun piece hpiece => by cases hpiece
  | cons first rest ih =>
    intro piece hpiece
    cases rest with
    | nil =>
      rw [List.mem_singleton.mp hpiece]
      unfold words? at h
      split at h
      · rename_i value hv4
        exact parseV4_chars hv4
      · obtain ⟨value, hword, -⟩ := Option.map_eq_some_iff.mp h
        exact word?_chars hword
    | cons second rest =>
      unfold words? at h
      simp only [Option.bind_eq_bind, Option.bind_eq_some_iff] at h
      obtain ⟨word, hword, words', hwords, -⟩ := h
      rcases List.mem_cons.mp hpiece with rfl | hpiece
      · exact word?_chars hword
      · exact ih hwords piece hpiece

theorem splitDouble_eq {before rest : List Char} (h : splitDouble text = some (before, rest)) :
    text = before ++ ':' :: ':' :: rest := by
  induction text generalizing before with
  | nil => cases h
  | cons x xs ih =>
    unfold splitDouble at h
    split at h
    · rename_i hdouble
      obtain ⟨rfl, hhead⟩ := hdouble
      cases h
      cases xs with
      | nil => cases hhead
      | cons y ys =>
        cases hhead
        rfl
    · obtain ⟨⟨before', rest'⟩, hxs, hsame⟩ := Option.map_eq_some_iff.mp h
      cases hsame
      rw [ih hxs]
      rfl

theorem hexWords?_chars {words : List Nat} {ps : List (List Char)} (h : hexWords? ps = some words) :
    ∀ piece ∈ ps, ∀ c ∈ piece, isLiteralChar c = true := by
  induction ps generalizing words with
  | nil => exact fun piece hpiece => by cases hpiece
  | cons first rest ih =>
    intro piece hpiece
    simp only [hexWords?, Option.bind_eq_bind, Option.bind_eq_some_iff] at h
    obtain ⟨word, hword, words', hwords, -⟩ := h
    rcases List.mem_cons.mp hpiece with rfl | hpiece
    · exact word?_chars hword
    · exact ih hwords piece hpiece

theorem pieces_chars (hall : ∀ piece ∈ pieces ':' text, ∀ c ∈ piece, isLiteralChar c = true) :
    ∀ c ∈ text, isLiteralChar c = true := by
  intro c hc
  rcases @mem_pieces ':' _ _ hc with rfl | ⟨piece, hpiece, hc⟩
  · decide
  · exact hall piece hpiece c hc

theorem side_chars (hall : ∀ piece ∈ side text, ∀ c ∈ piece, isLiteralChar c = true) :
    ∀ c ∈ text, isLiteralChar c = true := by
  unfold side at hall
  cases htext : text with
  | nil => exact fun c hc => by cases hc
  | cons x xs =>
    rw [htext] at hall
    exact pieces_chars hall

theorem parseV6_chars {value : Nat} (h : parseV6 text = some value) :
    ∀ c ∈ text, isLiteralChar c = true := by
  unfold parseV6 at h
  split at h
  · simp only [Option.bind_eq_bind, Option.bind_eq_some_iff] at h
    obtain ⟨words, hwords, -⟩ := h
    exact pieces_chars (words?_chars hwords)
  · rename_i before rest hsplit
    simp only [Option.bind_eq_bind, Option.bind_eq_some_iff] at h
    obtain ⟨first, hfirst, last, hlast, -⟩ := h
    rw [splitDouble_eq hsplit]
    intro c hc
    simp only [List.mem_append, List.mem_cons] at hc
    rcases hc with hc | rfl | rfl | hc
    · exact side_chars (hexWords?_chars hfirst) c hc
    · decide
    · decide
    · exact side_chars (words?_chars hlast) c hc

/-! ## Lower case -/

theorem toLower_cases (c : Char) : c.toLower = c ∨ ∃ n : Fin 128, c = Char.ofNat n := by
  by_cases h : c.toNat < 128
  · exact .inr ⟨⟨c.toNat, h⟩, (Char.ofNat_toNat c).symm⟩
  · refine .inl ?_
    unfold Char.toLower
    rw [dif_neg]
    rintro ⟨-, hhigh⟩
    exact h (Nat.lt_of_le_of_lt (UInt32.le_iff_toNat_le.mp hhigh) (by decide))

theorem hexDigit?_toLower : hexDigit? c.toLower = hexDigit? c := by
  have hall : ∀ n : Fin 128, hexDigit? (Char.ofNat n).toLower = hexDigit? (Char.ofNat n) := by decide
  rcases toLower_cases c with h | ⟨n, rfl⟩
  · rw [h]
  · exact hall n

theorem isDecimal_toLower : isDecimal c.toLower = isDecimal c ∧ (isDecimal c = true → c.toLower = c) := by
  have hall : ∀ n : Fin 128, isDecimal (Char.ofNat n).toLower = isDecimal (Char.ofNat n) ∧
      (isDecimal (Char.ofNat n) = true → (Char.ofNat n).toLower = Char.ofNat n) := by decide
  rcases toLower_cases c with h | ⟨n, rfl⟩
  · rw [h]
    exact ⟨rfl, fun _ => rfl⟩
  · exact hall n

theorem toLower_eq_iff : (c.toLower = '.' ↔ c = '.') ∧ (c.toLower = ':' ↔ c = ':') ∧
    (c.toLower = '%' ↔ c = '%') := by
  have hall : ∀ n : Fin 128, ((Char.ofNat n).toLower = '.' ↔ Char.ofNat n = '.') ∧
      ((Char.ofNat n).toLower = ':' ↔ Char.ofNat n = ':') ∧
      ((Char.ofNat n).toLower = '%' ↔ Char.ofNat n = '%') := by decide
  rcases toLower_cases c with h | ⟨n, rfl⟩
  · rw [h]
    exact ⟨Iff.rfl, Iff.rfl, Iff.rfl⟩
  · exact hall n

theorem octet?_toLower : octet? (piece.map Char.toLower) = octet? piece := by
  have hall : (piece.map Char.toLower).all isDecimal = piece.all isDecimal := by
    rw [List.all_map]
    exact congrArg piece.all (funext fun c => isDecimal_toLower.1)
  cases hdecimal : piece.all isDecimal with
  | false =>
    unfold octet?
    simp only [hall, hdecimal, Bool.false_and, Bool.false_eq_true, if_false]
  | true =>
    have hsame : piece.map Char.toLower = piece := by
      refine (List.map_congr_left fun c hc => ?_).trans (List.map_id piece)
      exact isDecimal_toLower.2 (List.all_eq_true.mp hdecimal c hc)
    rw [hsame]

theorem parseV4_toLower : parseV4 (text.map Char.toLower) = parseV4 text := by
  unfold parseV4
  rw [pieces_map fun c => toLower_eq_iff.1, List.map_map]
  have hoctets : (octet? ∘ List.map Char.toLower) = octet? := funext fun _ => octet?_toLower
  rw [hoctets]

theorem word?_toLower : word? (piece.map Char.toLower) = word? piece := by
  unfold word?
  rw [List.isEmpty_map, List.length_map, List.foldl_map]
  simp only [hexDigit?_toLower]

theorem words?_toLower {ps : List (List Char)} :
    words? (ps.map (List.map Char.toLower)) = words? ps := by
  induction ps with
  | nil => rfl
  | cons first rest ih =>
    cases rest with
    | nil => simp only [List.map_cons, List.map_nil, words?, parseV4_toLower, word?_toLower]
    | cons second rest =>
      simp only [List.map_cons, words?, word?_toLower] at ih ⊢
      rw [ih]

theorem hexWords?_toLower {ps : List (List Char)} :
    hexWords? (ps.map (List.map Char.toLower)) = hexWords? ps := by
  induction ps with
  | nil => rfl
  | cons first rest ih => simp only [List.map_cons, hexWords?, word?_toLower, ih]

theorem splitDouble_toLower : splitDouble (text.map Char.toLower) =
    (splitDouble text).map fun (before, rest) =>
      (before.map Char.toLower, rest.map Char.toLower) := by
  induction text with
  | nil => rfl
  | cons x xs ih =>
    have hhead : (xs.map Char.toLower).head? = some ':' ↔ xs.head? = some ':' := by
      cases xs with
      | nil => simp
      | cons y ys => simp [toLower_eq_iff.2.1]
    simp only [List.map_cons, splitDouble, toLower_eq_iff.2.1, hhead]
    split
    · simp
    · rw [ih, Option.map_map, Option.map_map]
      rfl

theorem side_toLower : side (text.map Char.toLower) = (side text).map (List.map Char.toLower) := by
  unfold side
  rw [List.isEmpty_map, pieces_map fun c => toLower_eq_iff.2.1]
  split <;> rfl

theorem parseV6_toLower : parseV6 (text.map Char.toLower) = parseV6 text := by
  unfold parseV6
  rw [splitDouble_toLower]
  cases splitDouble text with
  | none =>
    simp only [Option.map_none]
    rw [pieces_map fun c => toLower_eq_iff.2.1, words?_toLower]
  | some parts =>
    simp only [Option.map_some, side_toLower, hexWords?_toLower, words?_toLower]

end Literals

end Ip
