import Mathlib.Data.List.Basic
import Mathlib.Data.UInt

/-!
# InitPad.Wire.Base64

Base64 of byte strings, with padding: encoding, a decoder that skips what is no digit, and the
round trip.
-/

namespace Base64

def alphabet : List Char :=
  "ABCDEFGHIJKLMNOPQRSTUVWXYZabcdefghijklmnopqrstuvwxyz0123456789+/".toList

def digit (n : Nat) : Char := alphabet.getD n 'A'

def value? (c : Char) : Option Nat := alphabet.idxOf? c

/-- `buffer.toString('base64')` -/
def encode : List UInt8 → List Char
  | [] => []
  | [a] => [digit (a.toNat / 4), digit (a.toNat % 4 * 16), '=', '=']
  | [a, b] =>
    [digit (a.toNat / 4), digit (a.toNat % 4 * 16 + b.toNat / 16), digit (b.toNat % 16 * 4), '=']
  | a :: b :: c :: rest =>
    digit (a.toNat / 4) :: digit (a.toNat % 4 * 16 + b.toNat / 16) ::
      digit (b.toNat % 16 * 4 + c.toNat / 64) :: digit (c.toNat % 64) :: encode rest

/-- Four digits are three bytes; bits that fill no byte are dropped. -/
def ofDigits : List Nat → List UInt8
  | p :: q :: r :: s :: rest =>
    .ofNat (p * 4 + q / 16) :: .ofNat (q % 16 * 16 + r / 4) :: .ofNat (r % 4 * 64 + s) ::
      ofDigits rest
  | [p, q, r] => [.ofNat (p * 4 + q / 16), .ofNat (q % 16 * 16 + r / 4)]
  | [p, q] => [.ofNat (p * 4 + q / 16)]
  | _ => []

/-- `Buffer.from(value, 'base64')` -/
def decode (text : List Char) : List UInt8 := ofDigits (text.filterMap value?)

/-- `/^[A-Za-z0-9+/]+={0,2}$/` -/
def isEncoding (text : List Char) : Bool :=
  let digits := text.takeWhile fun c => (value? c).isSome
  let padding := text.dropWhile fun c => (value? c).isSome
  !digits.isEmpty && padding.all (· == '=') && padding.length ≤ 2

theorem alphabet_eq : alphabet =
    ['A', 'B', 'C', 'D', 'E', 'F', 'G', 'H', 'I', 'J', 'K', 'L', 'M', 'N', 'O', 'P', 'Q', 'R', 'S',
      'T', 'U', 'V', 'W', 'X', 'Y', 'Z', 'a', 'b', 'c', 'd', 'e', 'f', 'g', 'h', 'i', 'j', 'k', 'l',
      'm', 'n', 'o', 'p', 'q', 'r', 's', 't', 'u', 'v', 'w', 'x', 'y', 'z', '0', '1', '2', '3', '4',
      '5', '6', '7', '8', '9', '+', '/'] :=
  String.toList_ofList

theorem alphabet_nodup : alphabet.Nodup := by
  rw [alphabet_eq]
  refine List.Nodup.of_map Char.toNat ?_
  decide

theorem value?_digit {n : Nat} (h : n < 64) : value? (digit n) = some n := by
  have hlength : n < alphabet.length := by
    rw [alphabet_eq]
    exact h
  have hdigit : digit n = alphabet[n] := by
    unfold digit
    rw [List.getD_eq_getElem?_getD, List.getElem?_eq_getElem hlength, Option.getD_some]
  unfold value?
  rw [List.idxOf?_eq_some_iff]
  refine ⟨hlength, hdigit.symm, fun j hj => ?_⟩
  rw [hdigit, alphabet_nodup.getElem_inj_iff]
  exact Nat.ne_of_lt hj

theorem value?_padding : value? '=' = none := by
  unfold value?
  rw [alphabet_eq]
  decide

theorem ofNat_quarters (a : UInt8) : UInt8.ofNat (a.toNat / 4 * 4 + a.toNat % 4) = a := by
  rw [Nat.div_add_mod' a.toNat 4, UInt8.ofNat_toNat]

theorem ofNat_sixteenths (b : UInt8) : UInt8.ofNat (b.toNat / 16 * 16 + b.toNat % 16) = b := by
  rw [Nat.div_add_mod' b.toNat 16, UInt8.ofNat_toNat]

theorem ofNat_parts (c : UInt8) : UInt8.ofNat (c.toNat / 64 * 64 + c.toNat % 64) = c := by
  rw [Nat.div_add_mod' c.toNat 64, UInt8.ofNat_toNat]

theorem decode_encode (bytes : List UInt8) : decode (encode bytes) = bytes := by
  unfold decode
  induction bytes using encode.induct with
  | case1 => rfl
  | case2 a =>
    have ha := a.toNat_lt
    have hq : (a.toNat % 4 * 16) / 16 = a.toNat % 4 := by omega
    simp only [encode, List.filterMap_cons, value?_padding, List.filterMap_nil,
      value?_digit (show a.toNat / 4 < 64 by omega),
      value?_digit (show a.toNat % 4 * 16 < 64 by omega), ofDigits, hq, ofNat_quarters]
  | case3 a b =>
    have ha := a.toNat_lt
    have hb := b.toNat_lt
    have hq : (a.toNat % 4 * 16 + b.toNat / 16) / 16 = a.toNat % 4 := by omega
    have hr : (a.toNat % 4 * 16 + b.toNat / 16) % 16 = b.toNat / 16 := by omega
    have hs : (b.toNat % 16 * 4) / 4 = b.toNat % 16 := by omega
    simp only [encode, List.filterMap_cons, value?_padding, List.filterMap_nil,
      value?_digit (show a.toNat / 4 < 64 by omega),
      value?_digit (show a.toNat % 4 * 16 + b.toNat / 16 < 64 by omega),
      value?_digit (show b.toNat % 16 * 4 < 64 by omega), ofDigits, hq, hr, hs, ofNat_quarters,
      ofNat_sixteenths]
  | case4 a b c rest ih =>
    have ha := a.toNat_lt
    have hb := b.toNat_lt
    have hc := c.toNat_lt
    have hq : (a.toNat % 4 * 16 + b.toNat / 16) / 16 = a.toNat % 4 := by omega
    have hr : (a.toNat % 4 * 16 + b.toNat / 16) % 16 = b.toNat / 16 := by omega
    have hs : (b.toNat % 16 * 4 + c.toNat / 64) / 4 = b.toNat % 16 := by omega
    have ht : (b.toNat % 16 * 4 + c.toNat / 64) % 4 = c.toNat / 64 := by omega
    simp only [encode, List.filterMap_cons,
      value?_digit (show a.toNat / 4 < 64 by omega),
      value?_digit (show a.toNat % 4 * 16 + b.toNat / 16 < 64 by omega),
      value?_digit (show b.toNat % 16 * 4 + c.toNat / 64 < 64 by omega),
      value?_digit (show c.toNat % 64 < 64 by omega), ofDigits, hq, hr, hs, ht, ih,
      ofNat_quarters, ofNat_sixteenths, ofNat_parts]

theorem length_encode (bytes : List UInt8) :
    (encode bytes).length = 4 * ((bytes.length + 2) / 3) := by
  induction bytes using encode.induct with
  | case1 => rfl
  | case2 a => simp [encode]
  | case3 a b => simp [encode]
  | case4 a b c rest ih =>
    simp only [encode, List.length_cons, ih]
    omega

theorem encode_eq_append (bytes : List UInt8) : ∃ digits padding,
    encode bytes = digits ++ padding ∧ (∀ c ∈ digits, (value? c).isSome = true) ∧
      (bytes ≠ [] → digits ≠ []) ∧ (padding = [] ∨ padding = ['='] ∨ padding = ['=', '=']) := by
  have hsome : ∀ {n : Nat}, n < 64 → (value? (digit n)).isSome = true := by
    intro n hn
    rw [value?_digit hn]
    rfl
  induction bytes using encode.induct with
  | case1 => exact ⟨[], [], rfl, by simp, fun h => absurd rfl h, .inl rfl⟩
  | case2 a =>
    have ha := a.toNat_lt
    refine ⟨[_, _], ['=', '='], rfl, ?_, fun _ => List.cons_ne_nil _ _, .inr (.inr rfl)⟩
    intro c hc
    simp only [List.mem_cons, List.not_mem_nil, or_false] at hc
    rcases hc with rfl | rfl <;> exact hsome (by omega)
  | case3 a b =>
    have ha := a.toNat_lt
    have hb := b.toNat_lt
    refine ⟨[_, _, _], ['='], rfl, ?_, fun _ => List.cons_ne_nil _ _, .inr (.inl rfl)⟩
    intro c hc
    simp only [List.mem_cons, List.not_mem_nil, or_false] at hc
    rcases hc with rfl | rfl | rfl <;> exact hsome (by omega)
  | case4 a b c rest ih =>
    have ha := a.toNat_lt
    have hb := b.toNat_lt
    have hc := c.toNat_lt
    obtain ⟨digits, padding, heq, hdigits, -, hpadding⟩ := ih
    refine ⟨digit (a.toNat / 4) :: digit (a.toNat % 4 * 16 + b.toNat / 16) ::
      digit (b.toNat % 16 * 4 + c.toNat / 64) :: digit (c.toNat % 64) :: digits, padding, ?_, ?_,
      fun _ => List.cons_ne_nil _ _, hpadding⟩
    · rw [encode, heq]
      rfl
    · intro d hd
      simp only [List.mem_cons] at hd
      rcases hd with rfl | rfl | rfl | rfl | hd
      · exact hsome (by omega)
      · exact hsome (by omega)
      · exact hsome (by omega)
      · exact hsome (by omega)
      · exact hdigits d hd

theorem isEncoding_encode {bytes : List UInt8} (h : bytes ≠ []) :
    isEncoding (encode bytes) = true := by
  obtain ⟨digits, padding, heq, hdigits, hne, hpadding⟩ := encode_eq_append bytes
  have hnone : (value? '=').isSome = false := by
    rw [value?_padding]
    rfl
  have htake : padding.takeWhile (fun c => (value? c).isSome) = [] := by
    rcases hpadding with rfl | rfl | rfl
    · rfl
    · simp [hnone]
    · simp [hnone]
  have hdrop : padding.dropWhile (fun c => (value? c).isSome) = padding := by
    rcases hpadding with rfl | rfl | rfl
    · rfl
    · simp [hnone]
    · simp [hnone]
  have hshape : padding.all (· == '=') = true ∧ padding.length ≤ 2 := by
    rcases hpadding with rfl | rfl | rfl <;> decide
  unfold isEncoding
  rw [heq, List.takeWhile_append_of_pos hdigits, List.dropWhile_append_of_pos hdigits, htake,
    hdrop, List.append_nil]
  simp [hne h, hshape.1, hshape.2]

end Base64
