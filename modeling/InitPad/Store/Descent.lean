import InitPad.Store.Totals

/-!
# InitPad.Store.Descent

How a table comes from an earlier one. `t.Descends R N t'` says that every row of `t'` was a row of
`t`, turned by `R`, or is a new one with `N`; `t.Survives R t'` says that every row of `t` is still
there, turned by `R`. A step of a program is described by the two relations once; that the rows
keep a property, their keys or their identity follows from them.
-/

namespace Store

namespace Table

variable {α κ : Type} [Keyed α κ]

def Descends (R : α → α → Prop) (N : α → Prop) (t t' : Table α) : Prop :=
  ∀ r' ∈ t'.rows, (∃ r ∈ t.rows, R r r') ∨ N r'

def Survives (R : α → α → Prop) (t t' : Table α) : Prop :=
  ∀ r ∈ t.rows, ∃ r' ∈ t'.rows, R r r'

variable {R R' : α → α → Prop} {N N' : α → Prop} {t t' t'' : Table α}

omit [Keyed α κ]

theorem descends_refl (hR : ∀ r, R r r) : t.Descends R N t :=
  fun r hr => .inl ⟨r, hr, hR r⟩

theorem survives_refl (hR : ∀ r, R r r) : t.Survives R t := fun r hr => ⟨r, hr, hR r⟩

theorem descends_updateMany {p : α → Bool} {d : α → α} (hR : ∀ r, R r r)
    (hd : ∀ r ∈ t.rows, p r = true → R r (d r)) : t.Descends R N (t.updateMany p d) := by
  intro r' hr'
  obtain ⟨r, hr, rfl⟩ := mem_updateMany.mp hr'
  refine .inl ⟨r, hr, ?_⟩
  split
  · rename_i hp
    exact hd r hr hp
  · exact hR r

theorem survives_updateMany {p : α → Bool} {d : α → α} (hR : ∀ r, R r r)
    (hd : ∀ r ∈ t.rows, p r = true → R r (d r)) : t.Survives R (t.updateMany p d) := by
  intro r hr
  refine ⟨_, mem_updateMany.mpr ⟨r, hr, rfl⟩, ?_⟩
  split
  · rename_i hp
    exact hd r hr hp
  · exact hR r

theorem Descends.insert {r : α} (h : t.Descends R N t') (hN : N r) :
    t.Descends R N (t'.insert r) := by
  intro r' hr'
  rcases mem_insert.mp hr' with hr' | rfl
  · exact h r' hr'
  · exact .inr hN

theorem Survives.insert (h : t.Survives R t') (r : α) : t.Survives R (t'.insert r) := by
  intro r₀ hr₀
  obtain ⟨r', hr', hturn⟩ := h r₀ hr₀
  exact ⟨r', mem_insert.mpr (.inl hr'), hturn⟩

theorem descends_deleteMany (hR : ∀ r, R r r) (p : α → Bool) :
    t.Descends R N (t.deleteMany p) :=
  fun r hr => .inl ⟨r, (mem_deleteMany.mp hr).1, hR r⟩

theorem Descends.forall {P : α → Prop} (h : t.Descends R N t') (hP : ∀ r ∈ t.rows, P r)
    (hR : ∀ r r', P r → R r r' → P r') (hN : ∀ r, N r → P r) : ∀ r ∈ t'.rows, P r := by
  intro r' hr'
  rcases h r' hr' with ⟨r, hr, hturn⟩ | hnew
  · exact hR r r' (hP r hr) hturn
  · exact hN r' hnew

theorem mem_of_updateMany {p : α → Bool} {d : α → α} {r : α} (hr : r ∈ t.rows) :
    (if p r then d r else r) ∈ (t.updateMany p d).rows := mem_updateMany.mpr ⟨r, hr, rfl⟩

end Table

namespace Table

variable {α κ : Type} [Keyed α κ] {t : Table α}

theorem Unique.deleteMany (h : t.Unique) (p : α → Bool) : (t.deleteMany p).Unique := by
  have hsub : (t.deleteMany p).keys.Sublist t.keys := List.Sublist.map key List.filter_sublist
  exact List.Nodup.sublist hsub h

theorem Unique.eq_of_key [DecidableEq κ] (h : t.Unique) {r r' : α} (hr : r ∈ t.rows)
    (hr' : r' ∈ t.rows) (hk : key r = key r') : r = r' := by
  have hfind := h.find?_of_mem hr
  have hfind' := h.find?_of_mem hr'
  rw [hk] at hfind
  exact Option.some.inj (hfind.symm.trans hfind')

theorem Unique.eq_of_updateMany [DecidableEq κ] (h : t.Unique) {p : α → Bool} {d : α → α}
    {r r' : α} (hr' : r' ∈ (t.updateMany p d).rows) (hd : ∀ r, key (d r) = key r) (hr : r ∈ t.rows)
    (hp : p r = true) (hk : key r' = key r) : r' = d r := by
  have hmem : d r ∈ (t.updateMany p d).rows := by
    have hturned := mem_of_updateMany (p := p) (d := d) hr
    rwa [if_pos hp] at hturned
  exact (h.updateMany p hd).eq_of_key hr' hmem (hk.trans (hd r).symm)

end Table

namespace Table

variable {α : Type} [Keyed α Nat] {t : Table α} {drawn drawn' : Nat}

/-- The rows have different keys, which were drawn before `drawn`. -/
structure Issued (drawn : Nat) (t : Table α) : Prop where
  unique : t.Unique
  lt : ∀ r ∈ t.rows, key r < drawn

namespace Issued

theorem mono (h : t.Issued drawn) (hle : drawn ≤ drawn') : t.Issued drawn' :=
  ⟨h.unique, fun r hr => Nat.lt_of_lt_of_le (h.lt r hr) hle⟩

theorem updateMany (h : t.Issued drawn) (p : α → Bool) {d : α → α} (hd : ∀ r, key (d r) = key r) :
    (t.updateMany p d).Issued drawn := by
  refine ⟨h.unique.updateMany p hd, fun r' hr' => ?_⟩
  obtain ⟨r, hr, rfl⟩ := mem_updateMany.mp hr'
  split
  · rw [hd]
    exact h.lt r hr
  · exact h.lt r hr

theorem deleteMany (h : t.Issued drawn) (p : α → Bool) : (t.deleteMany p).Issued drawn :=
  ⟨h.unique.deleteMany p, fun r hr => h.lt r (mem_deleteMany.mp hr).1⟩

theorem insert (h : t.Issued drawn) {r : α} (hr : key r = drawn) :
    (t.insert r).Issued (drawn + 1) := by
  constructor
  case unique =>
    refine h.unique.insert fun hmem => ?_
    obtain ⟨r', hr', hkey⟩ := List.mem_map.mp hmem
    have hlt := h.lt r' hr'
    omega
  case lt =>
    intro r' hr'
    rcases mem_insert.mp hr' with hold | rfl
    · have hlt := h.lt r' hold
      omega
    · omega

end Issued

end Table

end Store
