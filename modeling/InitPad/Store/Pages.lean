import Mathlib.Data.List.Sort

/-!
# InitPad.Store.Pages

Reading rows page by page in the order of their keys, each page behind the last key of the one
before. A page that is not full is the last one; otherwise it holds every row up to its last key.
-/

namespace Store

variable {α κ : Type} [LinearOrder κ] (f : α → κ)

/-- The rows behind the cursor, in order; none stands for the start. -/
def behind (rows : List α) (cursor : Option κ) : List α :=
  (rows.filter fun r => cursor.all (· < f r)).insertionSort fun a b => f a ≤ f b

def page (rows : List α) (cursor : Option κ) (size : Nat) : List α :=
  (behind f rows cursor).take size

variable {f} {rows : List α} {cursor : Option κ} {size : Nat} {r : α}

theorem mem_behind : r ∈ behind f rows cursor ↔ r ∈ rows ∧ cursor.all (· < f r) = true := by
  simp [behind, List.mem_filter]

theorem mem_of_mem_page (h : r ∈ page f rows cursor size) : r ∈ rows :=
  (mem_behind.mp (List.mem_of_mem_take h)).1

theorem behind_ordered : (behind f rows cursor).Pairwise fun a b => f a ≤ f b := by
  have htotal : Std.Total fun a b => f a ≤ f b := ⟨fun a b => le_total (f a) (f b)⟩
  have htrans : IsTrans α fun a b => f a ≤ f b := ⟨fun _ _ _ => le_trans⟩
  exact List.pairwise_insertionSort _ _

theorem mem_page (hunique : (rows.map f).Nodup) (hr : r ∈ rows)
    (hafter : cursor.all (· < f r) = true)
    (hcovered : (page f rows cursor size).length < size ∨
      ∃ last, (page f rows cursor size).getLast? = some last ∧ f r ≤ f last) :
    r ∈ page f rows cursor size := by
  have hmem : r ∈ behind f rows cursor := mem_behind.2 ⟨hr, hafter⟩
  rw [← List.take_append_drop size (behind f rows cursor)] at hmem
  rcases List.mem_append.mp hmem with hpage | hrest
  · exact hpage
  rcases hcovered with hshort | ⟨last, hlast, hle⟩
  · have hnone : (behind f rows cursor).drop size = [] := by
      refine List.drop_eq_nil_of_le ?_
      rw [page, List.length_take] at hshort
      omega
    rw [hnone] at hrest
    cases hrest
  · have hin : last ∈ page f rows cursor size := List.mem_of_getLast? hlast
    have hordered : (behind f rows cursor).Pairwise fun a b => f a ≤ f b := behind_ordered
    rw [← List.take_append_drop size (behind f rows cursor)] at hordered
    have hge := (List.pairwise_append.mp hordered).2.2 last hin r hrest
    have hsame : r = last :=
      List.inj_on_of_nodup_map hunique hr (mem_of_mem_page hin) (le_antisymm hle hge)
    rw [hsame]
    exact hin

end Store
