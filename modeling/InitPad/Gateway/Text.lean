/-!
# InitPad.Gateway.Text

`String.prototype.slice(0, n)` counts UTF-16 code units. A pair that the cut divides leaves half a
character, which no reader of the text can decode: it is stored as the replacement character.
-/

namespace InitPad

/-- The UTF-16 code units of a character. -/
def charUnits (c : Char) : Nat := if c.toNat < 0x10000 then 1 else 2

def unitCount (s : List Char) : Nat := s.foldr (fun c n => charUnits c + n) 0

def replacementChar : Char := Char.ofNat 0xFFFD

def takeUnits : Nat → List Char → List Char
  | 0, _ => []
  | _, [] => []
  | n + 1, c :: cs =>
    if charUnits c ≤ n + 1 then c :: takeUnits (n + 1 - charUnits c) cs else [replacementChar]
termination_by structural _ s => s

/-- `s.slice(0, n)` -/
def sliceUnits (n : Nat) (s : String) : String := String.ofList (takeUnits n s.toList)

/-! ## What a cut keeps -/

section Cuts

variable {n : Nat} {s t : List Char}

@[simp] theorem unitCount_nil : unitCount [] = 0 := rfl

@[simp] theorem unitCount_cons (c : Char) (s : List Char) :
    unitCount (c :: s) = charUnits c + unitCount s := rfl

theorem charUnits_pos (c : Char) : 0 < charUnits c := by
  unfold charUnits
  split <;> decide

@[simp] theorem takeUnits_nil (n : Nat) : takeUnits n [] = [] := by cases n <;> rfl

@[simp] theorem takeUnits_zero (s : List Char) : takeUnits 0 s = [] := by cases s <;> rfl

theorem takeUnits_cons (n : Nat) (c : Char) (s : List Char) : takeUnits (n + 1) (c :: s) =
    if charUnits c ≤ n + 1 then c :: takeUnits (n + 1 - charUnits c) s else [replacementChar] := rfl

theorem takeUnits_append (h : unitCount s ≤ n) :
    takeUnits n (s ++ t) = s ++ takeUnits (n - unitCount s) t := by
  induction s generalizing n with
  | nil => rfl
  | cons c s ih =>
    rw [unitCount_cons] at h
    have hpos := charUnits_pos c
    obtain ⟨k, rfl⟩ : ∃ k, n = k + 1 := ⟨n - 1, by omega⟩
    rw [List.cons_append, takeUnits_cons, if_pos (by omega), ih (by omega), unitCount_cons,
      List.cons_append, Nat.sub_sub]

theorem takeUnits_of_le (h : unitCount s ≤ n) : takeUnits n s = s := by
  have happend := takeUnits_append (t := []) h
  simpa using happend

theorem takeUnits_append_full (h : n ≤ unitCount s) : takeUnits n (s ++ t) = takeUnits n s := by
  induction s generalizing n with
  | nil =>
    obtain rfl : n = 0 := by simpa using h
    simp
  | cons c s ih =>
    cases n with
    | zero => simp
    | succ k =>
      rw [unitCount_cons] at h
      rw [List.cons_append, takeUnits_cons, takeUnits_cons, ih (by omega)]

theorem takeUnits_narrow (h : ∀ c ∈ s, charUnits c = 1) : takeUnits n s = s.take n := by
  induction s generalizing n with
  | nil => simp
  | cons c s ih =>
    obtain ⟨hc, hs⟩ := List.forall_mem_cons.mp h
    cases n with
    | zero => rfl
    | succ k => rw [takeUnits_cons, hc, if_pos (by omega), ih hs]; rfl

theorem unitCount_narrow (h : ∀ c ∈ s, charUnits c = 1) : unitCount s = s.length := by
  induction s with
  | nil => rfl
  | cons c s ih =>
    obtain ⟨hc, hs⟩ := List.forall_mem_cons.mp h
    rw [unitCount_cons, hc, ih hs, List.length_cons, Nat.add_comm]

theorem unitCount_append (s t : List Char) : unitCount (s ++ t) = unitCount s + unitCount t := by
  induction s with
  | nil => exact (Nat.zero_add _).symm
  | cons c s ih => rw [List.cons_append, unitCount_cons, ih, unitCount_cons, Nat.add_assoc]

theorem mem_takeUnits {c : Char} (h : c ∈ takeUnits n s) : c ∈ s ∨ c = replacementChar := by
  induction s generalizing n with
  | nil => simp at h
  | cons d s ih =>
    cases n with
    | zero => simp at h
    | succ k =>
      rw [takeUnits_cons] at h
      split at h
      · rcases List.mem_cons.mp h with rfl | h
        · exact .inl List.mem_cons_self
        · exact (ih h).imp_left (List.mem_cons_of_mem _)
      · exact .inr (List.mem_singleton.mp h)

end Cuts

section Phrases

variable {α : Type} {x : α} {phrase text rest : List α}

theorem infix_of_separated (hx : x ∉ phrase) (h : phrase <:+: text ++ x :: rest) :
    phrase <:+: text ∨ phrase <:+: rest := by
  obtain ⟨before, after, h⟩ := h
  rw [List.append_assoc] at h
  rcases List.append_eq_append_iff.mp h with ⟨mid, htext, hmid⟩ | ⟨mid, _, hmid⟩
  · rcases List.append_eq_append_iff.mp hmid with ⟨mid', hmid', _⟩ | ⟨mid', hphrase, htail⟩
    · exact .inl ⟨before, mid', by rw [htext, hmid', List.append_assoc]⟩
    · cases mid' with
      | nil => exact .inl ⟨before, [], by rw [htext, hphrase, List.append_nil, List.append_nil]⟩
      | cons y mid' =>
        obtain rfl := (List.cons.inj htail).1
        exact absurd (hphrase ▸ List.mem_append_right _ List.mem_cons_self) hx
  · cases mid with
    | nil =>
      cases phrase with
      | nil => exact .inl List.nil_infix
      | cons y phrase =>
        obtain rfl := (List.cons.inj hmid).1
        exact absurd List.mem_cons_self hx
    | cons y mid =>
      exact .inr ⟨mid, after, by rw [List.append_assoc]; exact (List.cons.inj hmid).2.symm⟩

end Phrases

/-! ## Letters

Texts are compared letter by letter: a literal is `String.ofList` of its letters by definition,
while evaluating its bytes is slow. -/

theorem toList_of_letters {s : String} {l : List Char} (h : s = String.ofList l) : s.toList = l := by
  rw [h, String.toList_ofList]

theorem ne_of_letters {s t : String} {l k : List Char} (hs : s = String.ofList l)
    (ht : t = String.ofList k) (hne : l ≠ k) : s ≠ t := by
  rw [hs, ht]
  exact fun hsame => hne (String.ofList_injective hsame)

theorem append_of_letters {s t u : String} {l k : List Char} (hs : s = String.ofList l)
    (ht : t = String.ofList k) (hu : u = String.ofList (l ++ k)) : u = s ++ t := by
  rw [hs, ht, hu, String.ofList_append]

end InitPad
