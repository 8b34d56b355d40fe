import InitPad.Wire.Ip
import Mathlib.Data.List.TakeWhile

/-!
# InitPad.Outbound.Policy

The network policy of outbound requests: a host is resolved once, every address of the answer is
checked, and the first of them is the one that the socket is opened to.
-/

namespace InitPad.Outbound

open Ip

abbrev Text := List Char

/-- A url as `URL` has parsed it. -/
structure Url where
  protocol : Text
  username : Text
  password : Text
  hostname : Text
  port : Text
  host : Text
  pathname : Text
  search : Text

structure Runtime where
  toLowerCase : Text → Text
  ascii : ∀ text, (∀ c ∈ text, c.toNat < 128) → toLowerCase text = text.map Char.toLower
  parseUrl : Text → Option Url

def nonPublicV4 : List (String × Nat) :=
  [("0.0.0.0", 8), ("10.0.0.0", 8), ("100.64.0.0", 10), ("127.0.0.0", 8), ("169.254.0.0", 16),
    ("172.16.0.0", 12), ("192.0.0.0", 24), ("192.0.2.0", 24), ("192.88.99.0", 24),
    ("192.168.0.0", 16), ("198.18.0.0", 15), ("198.51.100.0", 24), ("203.0.113.0", 24),
    ("224.0.0.0", 4), ("240.0.0.0", 4)]

def nonPublicV6 : List (String × Nat) :=
  [("::", 96), ("::ffff:0:0", 96), ("64:ff9b::", 96), ("64:ff9b:1::", 48), ("100::", 64),
    ("2001::", 23), ("2001:db8::", 32), ("2002::", 16), ("3fff::", 20), ("5f00::", 16),
    ("fc00::", 7), ("fe80::", 10), ("fec0::", 10), ("ff00::", 8)]

def subnets (rules : List (String × Nat)) : List (Option Address × Nat) :=
  rules.map fun (network, bits) => (parse network.toList, bits)

/-- `blockList.check(address)` -/
def check (rules : List (String × Nat)) (address : Address) : Bool :=
  (subnets rules).any fun (network, bits) =>
    match network, address with
    | some (.v4 network), .v4 a => leading 32 bits a == leading 32 bits network
    | some (.v6 network), .v6 a => leading 128 bits a == leading 128 bits network
    | _, _ => false

/-! ## Addresses -/

def isZoneChar (c : Char) : Bool := c.isAlphanum || c == '-' || c == '.' || c == ':'

/-- `isIPv6(text)`, where a zone can follow the address. -/
def isIPv6 (text : Text) : Bool :=
  let zone := text.dropWhile (· != '%')
  (parseV6 (text.takeWhile (· != '%'))).isSome &&
    (zone.isEmpty || (decide (1 < zone.length) && zone.tail.all isZoneChar))

inductive Family where
  | ipv4
  | ipv6
  deriving DecidableEq

/-- `isIP(text)`, where `none` is its 0. -/
def isIP (text : Text) : Option Family :=
  if (parseV4 text).isSome then some .ipv4 else if isIPv6 text then some .ipv6 else none

/-- White space and line terminators of `String.prototype.trim`. -/
def isSpace (c : Char) : Bool :=
  [0x09, 0x0a, 0x0b, 0x0c, 0x0d, 0x20, 0xa0, 0x1680, 0x2028, 0x2029, 0x202f, 0x205f, 0x3000,
    0xfeff].contains c.toNat || (0x2000 ≤ c.toNat && c.toNat ≤ 0x200a)

def trim (text : Text) : Text := ((text.dropWhile isSpace).reverse.dropWhile isSpace).reverse

/-- `text.replace(/^\[|\]$/g, '')` -/
def withoutBrackets (text : Text) : Text :=
  let opened := if text.head? = some '[' then text.tail else text
  if opened.getLast? = some ']' then opened.dropLast else opened

structure ResolvedAddress where
  address : Text
  family : Family
  deriving DecidableEq

/-- What a resolver gives for a name. -/
inductive Answer where
  | addresses (addresses : List ResolvedAddress)
  | timedOut
  | failed

inductive OutboundError where
  | unsafeDestination
  | timedOut
  | unresolved
  | unclean
  deriving DecidableEq

section Functions

variable (rt : Runtime)

def normalizedHostname (hostname : Text) : Text := withoutBrackets (rt.toLowerCase (trim hostname))

def isPublicInternetAddress (raw : Text) : Bool :=
  let address := normalizedHostname rt raw
  if address.contains '%' then false
  else
    match isIP address with
    | some .ipv4 => (parseV4 address).any fun a => !check nonPublicV4 (.v4 a)
    | some .ipv6 => (parseV6 address).any fun a => !check nonPublicV6 (.v6 a)
    | none => false

def addressesOf (resolver : Text → Answer) (rawHostname : Text) :
    Except OutboundError (List ResolvedAddress) :=
  let hostname := normalizedHostname rt rawHostname
  match isIP hostname with
  | some literalFamily => .ok [⟨hostname, literalFamily⟩]
  | none =>
    match resolver hostname with
    | .addresses addresses => .ok addresses
    | .timedOut => .error .timedOut
    | .failed => .error .unresolved

/-- The address of an answer passes. -/
def isAccepted (a : ResolvedAddress) : Bool :=
  isIP a.address == some a.family && isPublicInternetAddress rt a.address

def resolvePublicInternetHost (resolver : Text → Answer) (rawHostname : Text) :
    Except OutboundError ResolvedAddress := do
  let addresses ← addressesOf rt resolver rawHostname
  match addresses with
  | [] => throw .unsafeDestination
  | first :: rest =>
    if (first :: rest).any fun a => !isAccepted rt a then throw .unsafeDestination else pure first

structure RequestOptions where
  protocol : Text
  hostname : Text
  family : Option Family
  port : Option Text
  path : Text
  host : Text
  servername : Option Text

def isClean (url : Url) : Bool :=
  (url.protocol == "http:".toList || url.protocol == "https:".toList) && url.username.isEmpty &&
    url.password.isEmpty

/-- `boundedHttpGet`, up to the request that it sends. -/
def boundedHttpGet (resolver : Text → Answer) (rawUrl : Text) (publicInternetOnly : Bool) :
    Except OutboundError RequestOptions := do
  match rt.parseUrl rawUrl with
  | none => throw .unclean
  | some url =>
    if !isClean url then throw .unclean
    else
      let requestedHostname := normalizedHostname rt url.hostname
      let (address, family) ←
        if publicInternetOnly then do
          let destination ← resolvePublicInternetHost rt resolver requestedHostname
          pure (destination.address, some destination.family)
        else pure (requestedHostname, isIP requestedHostname)
      pure
        { protocol := url.protocol
          hostname := address
          family := family
          port := if url.port.isEmpty then none else some url.port
          path := url.pathname ++ url.search
          host := url.host
          servername :=
            if url.protocol = "https:".toList ∧ isIP requestedHostname = none then some requestedHostname
            else none }

/-- The address that the client connects to: a literal, or what a lookup of its own answers. -/
def connectAddress (resolver : Text → Answer) (options : RequestOptions) : Option Text :=
  if (isIP options.hostname).isSome then some options.hostname
  else
    match resolver options.hostname with
    | .addresses (first :: _) => some first.address
    | _ => none

/-- The address that a request goes to if its policy is the public internet; the resolver can
answer otherwise at every call. -/
def destination (dns : Nat → Text → Answer) (rawUrl : Text) : Option Text :=
  match boundedHttpGet rt (dns 0) rawUrl true with
  | .ok options => connectAddress (dns 1) options
  | .error _ => none

end Functions

/-! ## The block lists -/

theorem subnets_v4 : subnets nonPublicV4 = [(some (.v4 0), 8), (some (.v4 167772160), 8),
    (some (.v4 1681915904), 10), (some (.v4 2130706432), 8), (some (.v4 2851995648), 16),
    (some (.v4 2886729728), 12), (some (.v4 3221225472), 24), (some (.v4 3221225984), 24),
    (some (.v4 3227017984), 24), (some (.v4 3232235520), 16), (some (.v4 3323068416), 15),
    (some (.v4 3325256704), 24), (some (.v4 3405803776), 24), (some (.v4 3758096384), 4),
    (some (.v4 4026531840), 4)] := by
  decide

theorem subnets_v6 : subnets nonPublicV6 = [(some (.v6 0), 96), (some (.v6 0xffff00000000), 96),
    (some (.v6 0x64ff9b000000000000000000000000), 96),
    (some (.v6 0x64ff9b000100000000000000000000), 48),
    (some (.v6 0x1000000000000000000000000000000), 64),
    (some (.v6 0x20010000000000000000000000000000), 23),
    (some (.v6 0x20010db8000000000000000000000000), 32),
    (some (.v6 0x20020000000000000000000000000000), 16),
    (some (.v6 0x3fff0000000000000000000000000000), 20),
    (some (.v6 0x5f000000000000000000000000000000), 16),
    (some (.v6 0xfc000000000000000000000000000000), 7),
    (some (.v6 0xfe800000000000000000000000000000), 10),
    (some (.v6 0xfec00000000000000000000000000000), 10),
    (some (.v6 0xff000000000000000000000000000000), 8)] := by
  decide

theorem check_v4 {a : Nat} : check nonPublicV4 (.v4 a) = true ↔ NonPublicV4 a := by
  delta check NonPublicV4 leading
  rw [subnets_v4]
  simp only [List.any_cons, List.any_nil, Bool.or_eq_true, beq_iff_eq, Bool.or_false]
  omega

/-- The forms of an embedded address that the block list has. -/
def Listed (a : Nat) : Prop :=
  leading 128 96 a = 0xffff ∨ leading 128 96 a = 0x64ff9b0000000000000000 ∨
    leading 128 16 a = 0x2002

theorem check_v6 {a : Nat} : check nonPublicV6 (.v6 a) = true ↔ NonPublicV6 a ∨ Listed a := by
  delta check NonPublicV6 Listed leading
  rw [subnets_v6]
  simp only [List.any_cons, List.any_nil, Bool.or_eq_true, beq_iff_eq, Bool.or_false]
  omega

/-- What a non-public IPv4 address is behind in a form that the block list lacks. -/
def TranslatedPrivate : Address → Prop
  | .v4 _ => False
  | .v6 a => Translated a ∧ NonPublicV4 (a % 2 ^ 32)

theorem forbidden_iff_v6 {a : Nat} (h : check nonPublicV6 (.v6 a) = false) :
    Forbidden (.v6 a) ↔ TranslatedPrivate (.v6 a) := by
  have hnot : ¬(NonPublicV6 a ∨ Listed a) := by
    rw [← check_v6, h]
    exact Bool.false_ne_true
  obtain ⟨hpublic, hlisted⟩ := not_or.mp hnot
  have hteredo : leading 128 32 a = 0x20010000 → False := by
    intro hteredo
    refine hpublic (.inr (.inr (.inr (.inl ?_))))
    unfold leading at hteredo ⊢
    omega
  constructor
  · rintro (h | ⟨e, hembeds, hprivate⟩)
    · exact absurd h hpublic
    · cases hembeds with
      | translated h => exact ⟨h, hprivate⟩
      | mapped h => exact absurd (.inl h) hlisted
      | nat64 h => exact absurd (.inr (.inl h)) hlisted
      | sixToFour h => exact absurd (.inr (.inr h)) hlisted
      | teredoServer h => exact (hteredo h).elim
      | teredoClient h => exact (hteredo h).elim
  · rintro ⟨htranslated, hprivate⟩
    exact .inr ⟨_, .translated htranslated, hprivate⟩

/-! ## Literals -/

/-- A character of a literal or of its zone. -/
def IsPlain (c : Char) : Prop :=
  33 ≤ c.toNat ∧ c.toNat < 128 ∧ c.toNat ≠ 91 ∧ c.toNat ≠ 93

instance (c : Char) : Decidable (IsPlain c) := inferInstanceAs (Decidable (_ ∧ _ ∧ _ ∧ _))

section Texts

variable {text : Text} {c : Char}

theorem plain_of_hexDigit (h : (hexDigit? c).isSome = true) : IsPlain c := by
  have hzero : '0'.toNat = 48 ∧ '9'.toNat = 57 ∧ 'a'.toNat = 97 ∧ 'f'.toNat = 102 ∧
      'A'.toNat = 65 ∧ 'F'.toNat = 70 := by decide
  unfold hexDigit? isDecimal at h
  unfold IsPlain
  by_cases hdecimal : '0'.toNat ≤ c.toNat ∧ c.toNat ≤ '9'.toNat
  · omega
  by_cases hlower : 'a'.toNat ≤ c.toNat ∧ c.toNat ≤ 'f'.toNat
  · omega
  by_cases hupper : 'A'.toNat ≤ c.toNat ∧ c.toNat ≤ 'F'.toNat
  · omega
  rw [if_neg (by simpa using hdecimal), if_neg hlower, if_neg hupper] at h
  cases h

theorem plain_of_literal (h : isLiteralChar c = true) : IsPlain c := by
  simp only [isLiteralChar, Bool.or_eq_true, beq_iff_eq] at h
  rcases h with (h | rfl) | rfl
  · exact plain_of_hexDigit h
  · decide
  · decide

theorem plain_of_zone (h : isZoneChar c = true) : IsPlain c := by
  simp only [isZoneChar, Bool.or_eq_true, beq_iff_eq] at h
  rcases h with (((h | rfl) | rfl) | rfl)
  · have hbounds : 'A'.val.toNat = 65 ∧ 'Z'.val.toNat = 90 ∧ 'a'.val.toNat = 97 ∧
        'z'.val.toNat = 122 ∧ '0'.val.toNat = 48 ∧ '9'.val.toNat = 57 := by decide
    delta Char.isAlphanum Char.isAlpha Char.isUpper Char.isLower Char.isDigit at h
    simp only [Bool.or_eq_true, Bool.and_eq_true, decide_eq_true_eq, UInt32.le_iff_toNat_le,
      ge_iff_le] at h
    unfold IsPlain Char.toNat
    omega
  · decide
  · decide
  · decide

theorem plain_toLower (h : IsPlain c) : IsPlain c.toLower := by
  have hall : ∀ n : Fin 128, IsPlain (Char.ofNat n) → IsPlain (Char.ofNat n).toLower := by decide
  rw [← Char.ofNat_toNat c] at h ⊢
  rw [Char.ofNat_toNat] at h
  exact hall ⟨c.toNat, h.2.1⟩ (by rw [Char.ofNat_toNat]; exact h)

theorem not_space_of_plain (h : IsPlain c) : isSpace c = false := by
  unfold IsPlain at h
  simp only [isSpace, List.contains_eq_mem, List.mem_cons, List.not_mem_nil, or_false,
    Bool.or_eq_false_iff, decide_eq_false_iff_not, Bool.and_eq_false_iff]
  omega

theorem dropWhile_plain (h : ∀ c ∈ text, IsPlain c) : text.dropWhile isSpace = text := by
  cases text with
  | nil => rfl
  | cons c text =>
    have hspace := not_space_of_plain (h c List.mem_cons_self)
    rw [List.dropWhile_cons, if_neg (by rw [hspace]; exact Bool.false_ne_true)]

theorem trim_plain (h : ∀ c ∈ text, IsPlain c) : trim text = text := by
  unfold trim
  rw [dropWhile_plain h, dropWhile_plain fun c hc => h c (List.mem_reverse.mp hc),
    List.reverse_reverse]

theorem withoutBrackets_plain (h : ∀ c ∈ text, IsPlain c) : withoutBrackets text = text := by
  have hopen : text.head? ≠ some '[' := by
    intro hhead
    exact (h _ (List.mem_of_mem_head? hhead)).2.2.1 rfl
  have hclose : text.getLast? ≠ some ']' := by
    intro hlast
    exact (h _ (List.mem_of_mem_getLast? hlast)).2.2.2 rfl
  unfold withoutBrackets
  rw [if_neg hopen, if_neg hclose]

theorem normalized_plain {rt : Runtime} (h : ∀ c ∈ text, IsPlain c) :
    normalizedHostname rt text = text.map Char.toLower := by
  unfold normalizedHostname
  rw [trim_plain h, rt.ascii text fun c hc => (h c hc).2.1]
  refine withoutBrackets_plain fun c hc => ?_
  obtain ⟨c', hc', rfl⟩ := List.mem_map.mp hc
  exact plain_toLower (h c' hc')

theorem isIPv6_of_no_zone (h : '%' ∉ text) : isIPv6 text = (parseV6 text).isSome := by
  have hall : ∀ c ∈ text, (c != '%') = true := fun c hc =>
    bne_iff_ne.mpr fun hsame => h (hsame ▸ hc)
  have htake : text.takeWhile (· != '%') = text := List.takeWhile_eq_self_iff.mpr hall
  have hdrop : text.dropWhile (· != '%') = [] := List.dropWhile_eq_nil_iff.mpr hall
  unfold isIPv6
  rw [htake, hdrop]
  simp

theorem plain_of_isIP {family : Family} (h : isIP text = some family) : ∀ c ∈ text, IsPlain c := by
  unfold isIP at h
  split at h
  · rename_i hv4
    obtain ⟨value, hvalue⟩ := Option.isSome_iff_exists.mp hv4
    exact fun c hc => plain_of_literal (parseV4_chars hvalue c hc)
  · split at h
    · rename_i hv6
      unfold isIPv6 at hv6
      rw [Bool.and_eq_true] at hv6
      obtain ⟨value, hvalue⟩ := Option.isSome_iff_exists.mp hv6.1
      intro c hc
      rw [← List.takeWhile_append_dropWhile (p := (· != '%')) (l := text)] at hc
      rcases List.mem_append.mp hc with hc | hc
      · exact plain_of_literal (parseV6_chars hvalue c hc)
      · cases hzone : text.dropWhile (· != '%') with
        | nil =>
          rw [hzone] at hc
          cases hc
        | cons first zone =>
          have hfirst : first = '%' := by
            have hhead := List.head?_dropWhile_not (· != '%') text
            rw [hzone] at hhead
            simpa using hhead
          rw [hzone] at hc hv6
          rcases List.mem_cons.mp hc with rfl | hc
          · rw [hfirst]
            decide
          · simp only [List.isEmpty_cons, Bool.false_or, Bool.and_eq_true, List.tail_cons,
              List.all_eq_true] at hv6
            exact plain_of_zone (hv6.2.2 c hc)
    · cases h

end Texts

/-! ## What is accepted -/

section Accepted

variable {rt : Runtime} {resolver : Text → Answer} {rawHostname : Text} {a : ResolvedAddress}

theorem accepted_spec (h : isAccepted rt a = true) : ∃ address, parse a.address = some address ∧
    (Forbidden address ↔ TranslatedPrivate address) := by
  simp only [isAccepted, Bool.and_eq_true, beq_iff_eq] at h
  obtain ⟨hfamily, hpublic⟩ := h
  have hplain := plain_of_isIP hfamily
  unfold isPublicInternetAddress at hpublic
  dsimp only at hpublic
  rw [normalized_plain hplain] at hpublic
  split at hpublic
  · cases hpublic
  · rename_i hzone
    rw [Bool.not_eq_true, List.contains_eq_mem, decide_eq_false_iff_not] at hzone
    have hno : '%' ∉ a.address := fun hmem =>
      hzone (List.mem_map.mpr ⟨'%', hmem, toLower_eq_iff.2.2.mpr rfl⟩)
    have hsame : isIP (a.address.map Char.toLower) = some a.family := by
      rw [← hfamily]
      unfold isIP
      rw [parseV4_toLower, isIPv6_of_no_zone hzone, isIPv6_of_no_zone hno, parseV6_toLower]
    rw [hsame, parseV4_toLower, parseV6_toLower] at hpublic
    unfold isIP at hfamily
    unfold parse
    cases hv4 : parseV4 a.address with
    | some value =>
      rw [hv4] at hfamily hpublic
      rw [← Option.some.inj hfamily] at hpublic
      simp only [Option.any_some, Bool.not_eq_true'] at hpublic
      refine ⟨_, rfl, fun hforbidden => ?_, fun h => h.elim⟩
      rw [check_v4.2 hforbidden] at hpublic
      cases hpublic
    | none =>
      rw [hv4, isIPv6_of_no_zone hno] at hfamily
      cases hv6 : parseV6 a.address with
      | none =>
        rw [hv6] at hfamily
        cases hfamily
      | some value =>
        rw [hv6] at hfamily hpublic
        rw [← Option.some.inj hfamily] at hpublic
        simp only [Option.any_some, Bool.not_eq_true'] at hpublic
        exact ⟨_, rfl, forbidden_iff_v6 hpublic⟩

theorem resolve_iff : resolvePublicInternetHost rt resolver rawHostname = .ok a ↔
    ∃ rest, addressesOf rt resolver rawHostname = .ok (a :: rest) ∧
      ∀ b ∈ a :: rest, isAccepted rt b = true := by
  unfold resolvePublicInternetHost
  cases haddresses : addressesOf rt resolver rawHostname with
  | error x => simp [bind, Except.bind]
  | ok addresses =>
    cases addresses with
    | nil => simp [bind, Except.bind, throw, throwThe, MonadExceptOf.throw]
    | cons first rest =>
      simp only [bind, Except.bind, pure, Except.pure, throw, throwThe, MonadExceptOf.throw]
      by_cases hall : ∀ b ∈ first :: rest, isAccepted rt b = true
      · have hany : ((first :: rest).any fun b => !isAccepted rt b) = false := by
          rw [List.any_eq_false]
          intro b hb
          rw [hall b hb]
          exact Bool.false_ne_true
        rw [if_neg (by rw [hany]; exact Bool.false_ne_true)]
        constructor
        · rintro h
          cases h
          exact ⟨rest, rfl, hall⟩
        · rintro ⟨rest', h, -⟩
          cases h
          rfl
      · have hany : ((first :: rest).any fun b => !isAccepted rt b) = true := by
          rw [List.any_eq_true]
          push Not at hall
          obtain ⟨b, hb, hnot⟩ := hall
          exact ⟨b, hb, by rw [Bool.eq_false_iff.mpr hnot]; rfl⟩
        rw [if_pos hany]
        constructor
        · intro h
          cases h
        · rintro ⟨rest', h, hall'⟩
          cases h
          exact absurd hall' hall

variable {dns : Nat → Text → Answer} {rawUrl target : Text}

theorem destination_resolved {url : Url} (hurl : rt.parseUrl rawUrl = some url)
    (hclean : isClean url = true)
    (h : resolvePublicInternetHost rt (dns 0) (normalizedHostname rt url.hostname) = .ok a)
    (hliteral : isIP a.address = some a.family) : destination rt dns rawUrl = some a.address := by
  have hconnect : ∀ options : RequestOptions, options.hostname = a.address →
      connectAddress (dns 1) options = some a.address := by
    intro options hname
    unfold connectAddress
    rw [hname, hliteral]
    rfl
  unfold destination boundedHttpGet
  rw [hurl]
  dsimp only
  rw [hclean, h]
  exact hconnect _ rfl

theorem destination_refused {url : Url} {x : OutboundError} (hurl : rt.parseUrl rawUrl = some url)
    (hclean : isClean url = true)
    (h : resolvePublicInternetHost rt (dns 0) (normalizedHostname rt url.hostname) = .error x) :
    destination rt dns rawUrl = none := by
  unfold destination boundedHttpGet
  rw [hurl]
  dsimp only
  rw [hclean, h]
  rfl

theorem destination_iff : destination rt dns rawUrl = some target ↔
    ∃ url, rt.parseUrl rawUrl = some url ∧ isClean url = true ∧
      ∃ a, resolvePublicInternetHost rt (dns 0) (normalizedHostname rt url.hostname) = .ok a ∧
        a.address = target := by
  cases hurl : rt.parseUrl rawUrl with
  | none =>
    have hnone : destination rt dns rawUrl = none := by
      unfold destination boundedHttpGet
      rw [hurl]
      rfl
    rw [hnone]
    constructor
    · intro h
      cases h
    · rintro ⟨url, h, -⟩
      cases h
  | some url =>
    cases hclean : isClean url with
    | false =>
      have hnone : destination rt dns rawUrl = none := by
        unfold destination boundedHttpGet
        rw [hurl]
        dsimp only
        rw [hclean]
        rfl
      rw [hnone]
      constructor
      · intro h
        cases h
      · rintro ⟨url', h, hclean', -⟩
        cases h
        rw [hclean] at hclean'
        cases hclean'
    | true =>
      cases hresolve : resolvePublicInternetHost rt (dns 0) (normalizedHostname rt url.hostname) with
      | error x =>
        rw [destination_refused hurl hclean hresolve]
        constructor
        · intro h
          cases h
        · rintro ⟨url', h, -, a, ha, -⟩
          cases h
          rw [hresolve] at ha
          cases ha
      | ok a =>
        obtain ⟨rest, -, hall⟩ := resolve_iff.1 hresolve
        have hliteral : isIP a.address = some a.family := by
          have haccepted := hall a List.mem_cons_self
          simp only [isAccepted, Bool.and_eq_true, beq_iff_eq] at haccepted
          exact haccepted.1
        rw [destination_resolved hurl hclean hresolve hliteral]
        constructor
        · intro h
          exact ⟨url, rfl, hclean, a, hresolve, Option.some.inj h⟩
        · rintro ⟨url', h, -, a', ha, rfl⟩
          cases h
          rw [hresolve] at ha
          cases ha
          rfl

end Accepted

/-! ## The policy -/

def Checked (rt : Runtime) (resolver : Text → Answer) (rawHostname target : Text) : Prop :=
  ∃ addresses a, addressesOf rt resolver rawHostname = .ok addresses ∧ a ∈ addresses ∧
    a.address = target ∧ isPublicInternetAddress rt target = true

/-- The text is the literal of an address that no client may connect to. -/
def IsForbidden (target : Text) : Prop := ∃ address, parse target = some address ∧ Forbidden address

/-- The host has an answer whose addresses all pass, and the first is the IPv4-translated form of a
private one. -/
def PinsTranslated (rt : Runtime) (resolver : Text → Answer) (rawHostname : Text) : Prop :=
  ∃ a rest address, addressesOf rt resolver rawHostname = .ok (a :: rest) ∧
    (∀ b ∈ a :: rest, isAccepted rt b = true) ∧ parse a.address = some address ∧
    TranslatedPrivate address

section Policy

variable {rt : Runtime} {resolver : Text → Answer} {rawHostname : Text}

theorem resolved_iff : (∀ a, resolvePublicInternetHost rt resolver rawHostname = .ok a →
      Checked rt resolver rawHostname a.address ∧ (parse a.address).isSome = true ∧
        ¬ IsForbidden a.address) ↔ ¬ PinsTranslated rt resolver rawHostname := by
  constructor
  · rintro h ⟨a, rest, address, haddresses, hall, hparse, htranslated⟩
    obtain ⟨-, -, hnot⟩ := h a (resolve_iff.2 ⟨rest, haddresses, hall⟩)
    obtain ⟨address', hparse', hiff⟩ := accepted_spec (hall a List.mem_cons_self)
    rw [hparse] at hparse'
    cases hparse'
    exact hnot ⟨address, hparse, hiff.mpr htranslated⟩
  · intro hnot a hresolve
    obtain ⟨rest, haddresses, hall⟩ := resolve_iff.1 hresolve
    have haccepted := hall a List.mem_cons_self
    obtain ⟨address, hparse, hiff⟩ := accepted_spec haccepted
    refine ⟨⟨_, a, haddresses, List.mem_cons_self, rfl, ?_⟩, by rw [hparse]; rfl, ?_⟩
    · simp only [isAccepted, Bool.and_eq_true] at haccepted
      exact haccepted.2
    · rintro ⟨address', hparse', hforbidden⟩
      rw [hparse] at hparse'
      cases hparse'
      exact hnot ⟨a, rest, address, haddresses, hall, hparse, hiff.mp hforbidden⟩

end Policy

/-- A host is resolved to, and a request goes to, an address that was checked and that a client may
connect to, unless a private IPv4 address is behind an IPv4-translated one. -/
theorem outbound_iff (rt : Runtime) (dns : Nat → Text → Answer) :
    (∀ rawHostname, (∀ a, resolvePublicInternetHost rt (dns 0) rawHostname = .ok a →
        Checked rt (dns 0) rawHostname a.address ∧ (parse a.address).isSome = true ∧
          ¬ IsForbidden a.address) ↔ ¬ PinsTranslated rt (dns 0) rawHostname) ∧
      ∀ rawUrl, (∀ target, destination rt dns rawUrl = some target → ∃ url,
          rt.parseUrl rawUrl = some url ∧
            Checked rt (dns 0) (normalizedHostname rt url.hostname) target ∧
              (parse target).isSome = true ∧ ¬ IsForbidden target) ↔
        ∀ url, rt.parseUrl rawUrl = some url → isClean url = true →
          ¬ PinsTranslated rt (dns 0) (normalizedHostname rt url.hostname) := by
  refine ⟨fun rawHostname => resolved_iff, fun rawUrl => ⟨fun h url hurl hclean => ?_, ?_⟩⟩
  · refine resolved_iff.1 fun a hresolve => ?_
    obtain ⟨url', hurl', hchecked, hliteral, hnot⟩ :=
      h a.address (destination_iff.2 ⟨url, hurl, hclean, a, hresolve, rfl⟩)
    rw [hurl] at hurl'
    cases hurl'
    exact ⟨hchecked, hliteral, hnot⟩
  · intro h target hdestination
    obtain ⟨url, hurl, hclean, a, hresolve, rfl⟩ := destination_iff.1 hdestination
    exact ⟨url, hurl, resolved_iff.2 (h url hurl hclean) a hresolve⟩

def sampleRuntime : Runtime where
  toLowerCase text := text.map Char.toLower
  ascii _ _ := rfl
  parseUrl _ := some
    { protocol := "http:".toList
      username := []
      password := []
      hostname := "[::ffff:0:7f00:1]".toList
      port := []
      host := "[::ffff:0:7f00:1]".toList
      pathname := "/".toList
      search := [] }

theorem sample_addresses (resolver : Text → Answer) :
    addressesOf sampleRuntime resolver "::ffff:0:7f00:1".toList =
      .ok [⟨"::ffff:0:7f00:1".toList, .ipv6⟩] := by
  have hsame : normalizedHostname sampleRuntime "::ffff:0:7f00:1".toList =
      "::ffff:0:7f00:1".toList := by
    decide
  have hliteral : isIP "::ffff:0:7f00:1".toList = some .ipv6 := by decide
  unfold addressesOf
  rw [hsame]
  dsimp only
  rw [hliteral]

theorem sample_resolved (resolver : Text → Answer) :
    resolvePublicInternetHost sampleRuntime resolver "::ffff:0:7f00:1".toList =
      .ok ⟨"::ffff:0:7f00:1".toList, .ipv6⟩ :=
  resolve_iff.2 ⟨[], sample_addresses resolver, by decide⟩

theorem sample_destination (dns : Nat → Text → Answer) :
    destination sampleRuntime dns [] = some "::ffff:0:7f00:1".toList :=
  destination_iff.2 ⟨_, rfl, by decide, _, sample_resolved (dns 0), rfl⟩

/-- The loopback address behind `::ffff:0:0:0/96` is connected to. -/
theorem outbound_reaches_private : ¬ ∀ (rt : Runtime) (dns : Nat → Text → Answer) (rawUrl target : Text),
    destination rt dns rawUrl = some target → ¬ IsForbidden target := by
  intro h
  refine h sampleRuntime (fun _ _ => .failed) [] _ (sample_destination _)
    ⟨.v6 0xffff00007f000001, by decide, .inr ⟨0x7f000001, .translated ?_, ?_⟩⟩
  · unfold Translated
    decide
  · unfold NonPublicV4
    decide

end InitPad.Outbound
