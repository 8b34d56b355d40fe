import InitPad.Wire.Utf8

/-!
# InitPad.Workload.Logs

The logs of a container: Docker sends what the container writes in frames, and `demuxLogs` makes one
text of them without control sequences. Texts are lists of UTF-16 code units.
-/

namespace InitPad.Workload

open Utf8

/-- `MAX_LOG_BYTES` -/
def maxLogBytes : Nat := 32 * 1024

/-- The maximal length of `logs` in `AgentJobDiagnosticDto`. -/
def maxDiagnosticLogs : Nat := 32 * 1024

def afterBell : List Nat → Option (List Nat)
  | [] => none
  | c :: cs => if c = 7 then some cs else afterBell cs

/-- The rest of a text after its last `ESC \`. -/
def afterTerminator : List Nat → Option (List Nat)
  | [] => none
  | c :: cs => (afterTerminator cs).or
      (match c, cs with
      | 27, 92 :: rest => some rest
      | _, _ => none)

/-- `ansiOsc`, at the beginning of a text: `[^BEL]*` is greedy, so it stops at the first bell, and
without one it gives back until the last `ESC \`. -/
def afterOsc : List Nat → Option (List Nat)
  | 27 :: 93 :: cs => (afterBell cs).or (afterTerminator cs)
  | _ => none

/-- `ansiCsi`, at the beginning of a text. -/
def afterCsi : List Nat → Option (List Nat)
  | 27 :: 91 :: cs =>
    let parameters := cs.dropWhile fun c => decide (0x30 ≤ c ∧ c ≤ 0x3F)
    match parameters.dropWhile fun c => decide (0x20 ≤ c ∧ c ≤ 0x2F) with
    | c :: rest => if 0x40 ≤ c ∧ c ≤ 0x7E then some rest else none
    | [] => none
  | _ => none

/-- `text.replace(pattern, '')` with a global pattern; every step takes a code unit at least. -/
def removeAll (match_ : List Nat → Option (List Nat)) : Nat → List Nat → List Nat
  | _, [] => []
  | 0, text => text
  | fuel + 1, c :: cs =>
    match match_ (c :: cs) with
    | some rest => removeAll match_ fuel rest
    | none => c :: removeAll match_ fuel cs

def printable (code : Nat) : Bool :=
  code == 9 || code == 10 || code == 13 || (decide (32 ≤ code) && code != 127)

/-- The white space and the line ends of `String.prototype.trim`. -/
def isSpace (code : Nat) : Bool :=
  decide (9 ≤ code ∧ code ≤ 13) || decide (0x2000 ≤ code ∧ code ≤ 0x200A) ||
    [0x20, 0xA0, 0x1680, 0x2028, 0x2029, 0x202F, 0x205F, 0x3000, 0xFEFF].contains code

def trim (text : List Nat) : List Nat :=
  ((text.dropWhile isSpace).reverse.dropWhile isSpace).reverse

/-- What `demuxLogs` makes of the text of the frames. -/
def sanitised (text : List Nat) : List Nat :=
  let withoutOsc := removeAll afterOsc text.length text
  let withoutCsi := removeAll afterCsi withoutOsc.length withoutOsc
  let trimmed := trim (withoutCsi.filter printable)
  trimmed.drop (trimmed.length - maxLogBytes)

def readUInt32BE (a b c d : UInt8) : Nat :=
  a.toNat * 2 ^ 24 + b.toNat * 2 ^ 16 + c.toNat * 2 ^ 8 + d.toNat

/-- The loop over the frames; each of them takes eight bytes at least. -/
def demuxFrames : Nat → List UInt8 → List Nat
  | fuel + 1, _ :: _ :: _ :: _ :: a :: b :: c :: d :: rest =>
    let length := readUInt32BE a b c d
    if rest.length < length then []
    else toText (rest.take length) ++ demuxFrames fuel (rest.drop length)
  | _, _ => []

def demuxLogs (body : List UInt8) : List Nat :=
  let output := demuxFrames body.length body
  sanitised (if output.isEmpty then toText body else output)

inductive LogStream where
  | stdout | stderr
  deriving DecidableEq

def LogStream.byte : LogStream → UInt8
  | .stdout => 1
  | .stderr => 2

/-- A frame of Docker: a part of what the container has written to one of its streams. -/
structure Frame where
  stream : LogStream
  payload : List UInt8
  small : payload.length < 2 ^ 32

def Frame.header (frame : Frame) : List UInt8 :=
  let n := frame.payload.length
  [frame.stream.byte, 0, 0, 0, .ofNat (n / 2 ^ 24), .ofNat (n / 2 ^ 16), .ofNat (n / 2 ^ 8), .ofNat n]

def Frame.bytes (frame : Frame) : List UInt8 := frame.header ++ frame.payload

/-- A code unit that a terminal takes for a command; tabs and line ends are text. -/
def isControl (code : Nat) : Bool :=
  (decide (code < 32) && !([9, 10, 13].contains code)) || code == 127

/-! ## The sanitised text -/

section Sanitised

variable {match_ : List Nat → Option (List Nat)} {text : List Nat} {c fuel : Nat}

theorem mem_removeAll (hmatch : ∀ cs rest, match_ cs = some rest → ∀ c ∈ rest, c ∈ cs)
    (h : c ∈ removeAll match_ fuel text) : c ∈ text := by
  induction fuel generalizing text with
  | zero => cases text <;> exact h
  | succ fuel ih =>
    cases text with
    | nil => exact h
    | cons x xs =>
      unfold removeAll at h
      split at h
      · rename_i rest hrest
        exact hmatch _ _ hrest c (ih h)
      · rcases List.mem_cons.mp h with rfl | h
        · exact List.mem_cons_self
        · exact List.mem_cons_of_mem _ (ih h)

theorem afterBell_subset {cs rest : List Nat} (h : afterBell cs = some rest) :
    ∀ c ∈ rest, c ∈ cs := by
  induction cs with
  | nil => cases h
  | cons x xs ih =>
    unfold afterBell at h
    split at h
    · cases h
      exact fun c hc => List.mem_cons_of_mem _ hc
    · exact fun c hc => List.mem_cons_of_mem _ (ih h c hc)

theorem afterTerminator_subset {cs rest : List Nat} (h : afterTerminator cs = some rest) :
    ∀ c ∈ rest, c ∈ cs := by
  induction cs with
  | nil => cases h
  | cons x xs ih =>
    unfold afterTerminator at h
    rcases Option.or_eq_some_iff.mp h with h | ⟨-, h⟩
    · exact fun c hc => List.mem_cons_of_mem _ (ih h c hc)
    · split at h
      · cases h
        exact fun c hc => List.mem_cons_of_mem _ (List.mem_cons_of_mem _ hc)
      · cases h

theorem afterOsc_subset {cs rest : List Nat} (h : afterOsc cs = some rest) : ∀ c ∈ rest, c ∈ cs := by
  unfold afterOsc at h
  split at h
  · intro c hc
    refine List.mem_cons_of_mem _ (List.mem_cons_of_mem _ ?_)
    rcases Option.or_eq_some_iff.mp h with h | ⟨-, h⟩
    · exact afterBell_subset h c hc
    · exact afterTerminator_subset h c hc
  · cases h

theorem afterCsi_subset {cs rest : List Nat} (h : afterCsi cs = some rest) : ∀ c ∈ rest, c ∈ cs := by
  unfold afterCsi at h
  split at h
  · rename_i cs
    dsimp only at h
    split at h
    · rename_i x rest' hrest
      split at h
      · cases h
        intro c hc
        have hmem : c ∈ (cs.dropWhile fun c => decide (0x30 ≤ c ∧ c ≤ 0x3F)).dropWhile
            fun c => decide (0x20 ≤ c ∧ c ≤ 0x2F) := by
          rw [hrest]
          exact List.mem_cons_of_mem _ hc
        have hin := (List.dropWhile_sublist _).subset ((List.dropWhile_sublist _).subset hmem)
        exact List.mem_cons_of_mem _ (List.mem_cons_of_mem _ hin)
      · cases h
    · cases h
  · cases h

theorem mem_trim (h : c ∈ trim text) : c ∈ text := by
  unfold trim at h
  have hin := (List.dropWhile_sublist _).subset (List.mem_reverse.mp h)
  exact (List.dropWhile_sublist _).subset (List.mem_reverse.mp hin)

theorem mem_sanitised (h : c ∈ sanitised text) : c ∈ text ∧ printable c = true := by
  have hfiltered := List.mem_filter.mp (mem_trim (List.mem_of_mem_drop h))
  have hcsi := mem_removeAll (fun _ _ => afterCsi_subset) hfiltered.1
  exact ⟨mem_removeAll (fun _ _ => afterOsc_subset) hcsi, hfiltered.2⟩

theorem sanitised_eq_nil (h : ∀ c ∈ text, printable c = false) : sanitised text = [] := by
  refine List.eq_nil_iff_forall_not_mem.mpr fun c hc => ?_
  obtain ⟨hmem, hprintable⟩ := mem_sanitised hc
  rw [h c hmem] at hprintable
  cases hprintable

theorem removeAll_eq (h : ∀ cs, (∀ c ∈ cs, c ∈ text) → match_ cs = none) :
    removeAll match_ fuel text = text := by
  induction fuel generalizing text with
  | zero => cases text <;> rfl
  | succ fuel ih =>
    cases text with
    | nil => rfl
    | cons x xs =>
      unfold removeAll
      rw [h _ fun _ hc => hc]
      exact congrArg (x :: ·) (ih fun cs hcs => h cs fun c hc => List.mem_cons_of_mem _ (hcs c hc))

theorem afterOsc_eq_none {cs : List Nat} (h : 27 ∉ cs) : afterOsc cs = none := by
  unfold afterOsc
  split
  · exact absurd List.mem_cons_self h
  · rfl

theorem afterCsi_eq_none {cs : List Nat} (h : 27 ∉ cs) : afterCsi cs = none := by
  unfold afterCsi
  split
  · exact absurd List.mem_cons_self h
  · rfl

theorem count_trim (h : isSpace c = false) : (trim text).count c = text.count c := by
  have hdrop : ∀ l : List Nat, (l.dropWhile isSpace).count c = l.count c := by
    intro l
    induction l with
    | nil => rfl
    | cons x xs ih =>
      rw [List.dropWhile_cons]
      split
      · rename_i hx
        have hne : x ≠ c := by
          rintro rfl
          rw [h] at hx
          cases hx
        rw [ih, List.count_cons_of_ne hne]
      · rfl
  unfold trim
  rw [List.count_reverse, hdrop, List.count_reverse, hdrop]

theorem count_sanitised (hescape : 27 ∉ text) (hlength : text.length ≤ maxLogBytes) :
    (sanitised text).count replacement = text.count replacement := by
  have hsame : ∀ {match_ : List Nat → Option (List Nat)},
      (∀ cs, 27 ∉ cs → match_ cs = none) → ∀ {fuel}, removeAll match_ fuel text = text :=
    fun hmatch => removeAll_eq fun cs hcs => hmatch cs fun hmem => hescape (hcs 27 hmem)
  have htrimmed : (trim (text.filter printable)).length ≤ maxLogBytes := by
    refine Nat.le_trans ?_ hlength
    unfold trim
    rw [List.length_reverse]
    refine Nat.le_trans (List.dropWhile_sublist _).length_le ?_
    rw [List.length_reverse]
    exact Nat.le_trans (List.dropWhile_sublist _).length_le (List.length_filter_le _ _)
  unfold sanitised
  rw [hsame fun _ => afterOsc_eq_none]
  dsimp only
  rw [hsame fun _ => afterCsi_eq_none, Nat.sub_eq_zero_of_le htrimmed, List.drop_zero,
    count_trim (by decide), List.count_filter (by decide)]

theorem length_sanitised_le : (sanitised text).length ≤ maxLogBytes := by
  unfold sanitised
  rw [List.length_drop]
  omega

theorem not_isControl_of_printable (h : printable c = true) : isControl c = false := by
  unfold printable at h
  unfold isControl
  simp only [Bool.or_eq_true, beq_iff_eq, Bool.and_eq_true, decide_eq_true_eq, bne_iff_ne] at h
  rcases h with ((rfl | rfl) | rfl) | ⟨hlow, hnot⟩
  · decide
  · decide
  · decide
  · simp [Nat.not_lt.mpr hlow, hnot]

end Sanitised

/-! ## The loop -/

section Frames

variable {frames : List Frame} {frame : Frame} {rest : List UInt8} {fuel : Nat}

theorem readUInt32BE_length {n : Nat} (h : n < 2 ^ 32) :
    readUInt32BE (.ofNat (n / 2 ^ 24)) (.ofNat (n / 2 ^ 16)) (.ofNat (n / 2 ^ 8)) (.ofNat n) = n := by
  unfold readUInt32BE
  simp only [UInt8.toNat_ofNat']
  omega

theorem demuxFrames_cons :
    demuxFrames (fuel + 1) (frame.bytes ++ rest) = toText frame.payload ++ demuxFrames fuel rest := by
  have hlength := readUInt32BE_length frame.small
  unfold Frame.bytes Frame.header
  simp only [List.cons_append, List.nil_append, demuxFrames, hlength]
  rw [if_neg (by simp), List.take_left, List.drop_left]

theorem demuxFrames_frames (hfuel : frames.length ≤ fuel) :
    demuxFrames fuel (frames.flatMap Frame.bytes) = frames.flatMap fun f => toText f.payload := by
  induction frames generalizing fuel with
  | nil => cases fuel <;> rfl
  | cons frame frames ih =>
    cases fuel with
    | zero => cases hfuel
    | succ fuel =>
      rw [List.flatMap_cons, demuxFrames_cons, ih (Nat.le_of_succ_le_succ hfuel), List.flatMap_cons]

theorem length_le_bytes : frames.length ≤ (frames.flatMap Frame.bytes).length := by
  induction frames with
  | nil => exact Nat.le_refl _
  | cons frame frames ih =>
    rw [List.flatMap_cons, List.length_append, List.length_cons]
    have hheader : 8 ≤ frame.bytes.length := by
      unfold Frame.bytes
      rw [List.length_append]
      exact Nat.le_add_right 8 _
    omega

theorem toText_ascii {bytes : List UInt8} (h : ∀ b ∈ bytes, b.toNat < 0x80) :
    toText bytes = bytes.map UInt8.toNat := by
  induction bytes with
  | nil => rfl
  | cons b bytes ih =>
    have hb : b.toNat < 0x80 := h b List.mem_cons_self
    have hstep : Utf8.step .ready b = ([b.toNat], .ready) := by
      simp only [Utf8.step, Utf8.start]
      rw [if_pos hb]
    have hunits : units b.toNat = [b.toNat] := if_pos (by omega)
    have hrest := ih fun b hb => h b (List.mem_cons_of_mem _ hb)
    unfold toText decode at hrest ⊢
    rw [decodeFrom, hstep, List.flatMap_append, List.flatMap_singleton, hunits, hrest]
    rfl

theorem toText_ne_nil {bytes : List UInt8} (h : bytes ≠ []) : toText bytes ≠ [] := by
  intro hnil
  have hunits : ∀ c, units c ≠ [] := by
    intro c
    unfold units
    split <;> simp
  refine decode_ne_nil h (List.eq_nil_iff_forall_not_mem.mpr fun c hc => hunits c ?_)
  exact List.flatMap_eq_nil_iff.mp hnil c hc

theorem sanitised_headers (h : (frames.flatMap fun f => toText f.payload) = []) :
    sanitised (toText (frames.flatMap Frame.bytes)) = [] ∧ (frames.flatMap (·.payload)) = [] := by
  have hempty : ∀ f ∈ frames, f.payload = [] := by
    intro f hf
    by_contra hne
    exact toText_ne_nil hne (List.flatMap_eq_nil_iff.mp h f hf)
  have hbytes : ∀ b ∈ frames.flatMap Frame.bytes, b.toNat < 3 := by
    intro b hb
    obtain ⟨f, hf, hb⟩ := List.mem_flatMap.mp hb
    unfold Frame.bytes Frame.header at hb
    rw [hempty f hf] at hb
    simp only [List.length_nil, Nat.zero_div, List.append_nil, List.mem_cons, List.not_mem_nil,
      or_false] at hb
    rcases hb with rfl | rfl | rfl | rfl | rfl | rfl | rfl | rfl
    · cases f.stream <;> decide
    all_goals decide
  refine ⟨sanitised_eq_nil fun c hc => ?_, List.flatMap_eq_nil_iff.mpr hempty⟩
  rw [toText_ascii fun b hb => Nat.lt_trans (hbytes b hb) (by decide)] at hc
  obtain ⟨b, hb, rfl⟩ := List.mem_map.mp hc
  have hsmall := hbytes b hb
  simp only [printable, Bool.or_eq_false_iff, beq_eq_false_iff_ne, Bool.and_eq_false_iff,
    decide_eq_false_iff_not]
  omega

theorem demuxLogs_frames : demuxLogs (frames.flatMap Frame.bytes) =
    sanitised (frames.flatMap fun f => toText f.payload) := by
  unfold demuxLogs
  rw [demuxFrames_frames length_le_bytes]
  cases houtput : frames.flatMap fun f => toText f.payload with
  | nil =>
    have hnil : sanitised [] = [] := sanitised_eq_nil fun c hc => by cases hc
    exact (sanitised_headers houtput).1.trans hnil.symm
  | cons => rfl

theorem length_texts_le : (frames.flatMap fun f => toText f.payload).length ≤
    (frames.flatMap (·.payload)).length := by
  induction frames with
  | nil => exact Nat.le_refl _
  | cons frame frames ih =>
    rw [List.flatMap_cons, List.flatMap_cons, List.length_append, List.length_append]
    exact Nat.add_le_add length_toText_le ih

theorem escape_of_toText {bytes : List UInt8} (h : 27 ∈ toText bytes) : 27 ∈ bytes := by
  obtain ⟨c, hc, hunit⟩ := List.mem_flatMap.mp h
  cases mem_units (by decide) hunit
  obtain ⟨b, hb, hvalue⟩ := @mem_decodeFrom .ready _ _ trivial (by decide) hc
  have hsame : b = 27 := UInt8.toNat_inj.mp hvalue
  exact hsame ▸ hb

theorem uncut_of_demuxLogs (hescape : 27 ∉ frames.flatMap (·.payload))
    (hlength : (frames.flatMap (·.payload)).length ≤ maxLogBytes)
    (h : demuxLogs (frames.flatMap Frame.bytes) = sanitised (toText (frames.flatMap (·.payload)))) :
    Uncut (frames.map (·.payload)) := by
  have htexts : 27 ∉ frames.flatMap fun f => toText f.payload := by
    intro hmem
    obtain ⟨f, hf, hmem⟩ := List.mem_flatMap.mp hmem
    exact hescape (List.mem_flatMap.mpr ⟨f, hf, escape_of_toText hmem⟩)
  have hpieces : (frames.flatMap fun f => toText f.payload) =
      ((frames.map (·.payload)).flatMap decode).flatMap units := by
    rw [List.flatMap_map, List.flatMap_assoc]
    rfl
  have hcount := congrArg (·.count replacement) h
  rw [demuxLogs_frames, count_sanitised htexts (Nat.le_trans length_texts_le hlength),
    count_sanitised (fun hmem => hescape (escape_of_toText hmem))
      (Nat.le_trans length_toText_le hlength), hpieces] at hcount
  unfold toText at hcount
  rw [count_units, count_units] at hcount
  exact replaced_decode_flatten_eq hcount.symm

/-- For every way of cutting: the text of the log is made of the characters of the frames, those are
the characters that the container has written just if no frame cuts one, no control character
passes, and the API accepts the length. -/
theorem demuxLogs_iff (frames : List Frame) (chunks : List (List UInt8))
    (hchunks : chunks.flatten = frames.flatMap Frame.bytes) :
    demuxLogs chunks.flatten = sanitised ((frames.flatMap fun f => decode f.payload).flatMap units) ∧
    (frames.flatMap (fun f => decode f.payload) = decode (frames.flatMap (·.payload)) ↔
      Uncut (frames.map (·.payload))) ∧
    (Uncut (frames.map (·.payload)) →
      demuxLogs chunks.flatten = sanitised (toText (frames.flatMap (·.payload)))) ∧
    (27 ∉ frames.flatMap (·.payload) → (frames.flatMap (·.payload)).length ≤ maxLogBytes →
      (demuxLogs chunks.flatten = sanitised (toText (frames.flatMap (·.payload))) ↔
        Uncut (frames.map (·.payload)))) ∧
    (∀ c ∈ demuxLogs chunks.flatten, isControl c = false) ∧
    (demuxLogs chunks.flatten).length ≤ maxDiagnosticLogs := by
  have htext : demuxLogs chunks.flatten =
      sanitised ((frames.flatMap fun f => decode f.payload).flatMap units) := by
    rw [hchunks, demuxLogs_frames, List.flatMap_assoc]
    rfl
  have hpayloads : frames.flatMap (·.payload) = (frames.map (·.payload)).flatten := rfl
  have hdecoded : (frames.flatMap fun f => decode f.payload) =
      (frames.map (·.payload)).flatMap decode := (List.flatMap_map _ _ _).symm
  have hwhole : Uncut (frames.map (·.payload)) →
      demuxLogs chunks.flatten = sanitised (toText (frames.flatMap (·.payload))) := by
    intro huncut
    rw [htext, hpayloads, hdecoded, ← decode_flatten_of_uncut huncut]
    rfl
  refine ⟨htext, ?_, hwhole, fun hescape hlength => ⟨fun h => ?_, hwhole⟩, fun c hc => ?_, ?_⟩
  · rw [hpayloads, hdecoded, eq_comm]
    exact decode_flatten_iff
  · rw [hchunks] at h
    exact uncut_of_demuxLogs hescape hlength h
  · rw [htext] at hc
    exact not_isControl_of_printable (mem_sanitised hc).2
  · rw [htext]
    exact length_sanitised_le

end Frames

/-- A frame on standard output. -/
def outFrame (payload : List UInt8) (small : payload.length < 2 ^ 32) : Frame := ⟨.stdout, payload, small⟩

/-- One frame with the two bytes of `é`. -/
theorem demuxLogs_whole : demuxLogs [[1, 0, 0, 0, 0], [0, 0, 2, 0xC3, 0xA9]].flatten =
    sanitised (toText [0xC3, 0xA9]) :=
  (demuxLogs_iff [outFrame [0xC3, 0xA9] (by decide)] [[1, 0, 0, 0, 0], [0, 0, 2, 0xC3, 0xA9]]
    rfl).2.2.1 (by decide)

/-- The two bytes of `é` in two frames are two replacement characters. -/
theorem demuxLogs_cut : ¬ ∀ frames : List Frame, demuxLogs (frames.flatMap Frame.bytes) =
    sanitised (toText (frames.flatMap (·.payload))) := by
  intro h
  exact absurd (h [outFrame [0xC3] (by decide), outFrame [0xA9] (by decide)]) (by decide)

end InitPad.Workload
