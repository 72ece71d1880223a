import PortableSearch.Text.Ascending
import Mathlib.Data.List.Sort
import Mathlib.Data.String.Basic

/-! Texts as a set: their order is that of their code points, so that lists of the same texts give
one list, whatever their order and however often they have a text. -/
namespace PortableSearch.Text

/-- The numbers of the characters of a text. -/
def codePoints (s : String) : List Nat := s.toList.map Char.toNat

/-- Each text comes after those before it by the first code point in which they differ; a text comes
after its own beginnings. -/
def IsAscending (texts : List String) : Prop :=
  texts.Pairwise fun s t => codePoints s < codePoints t

theorem codePoints_lt {s t : String} (less : s < t) : codePoints s < codePoints t :=
  List.map_lt (fun _ _ => UInt32.lt_iff_toNat_lt.mp) (String.lt_iff_toList_lt.mp less)

theorem pairwise_insertAscending (s : String) {ts : List String} (sorted : ts.Pairwise (· < ·)) :
    (insertAscending s ts).Pairwise (· < ·) := by
  induction ts with
  | nil => exact List.pairwise_singleton _ s
  | cons t ts ih =>
    obtain ⟨least, rest⟩ := List.pairwise_cons.mp sorted
    rw [insertAscending]
    split
    next less =>
      refine List.pairwise_cons.mpr ⟨List.forall_mem_cons.mpr ⟨less, fun u inside => ?_⟩, sorted⟩
      exact lt_trans less (least u inside)
    next notLess =>
      split
      next => exact sorted
      next other =>
        have greater : t < s := lt_of_le_of_ne (not_lt.mp notLess) (Ne.symm other)
        refine List.pairwise_cons.mpr ⟨fun u inside => ?_, ih rest⟩
        rcases mem_insertAscending.mp inside with rfl | there
        · exact greater
        · exact least u there

theorem pairwise_ascending (texts : List String) : (ascending texts).Pairwise (· < ·) := by
  induction texts with
  | nil => exact .nil
  | cons s texts ih => exact pairwise_insertAscending s ih

theorem isAscending_ascending (texts : List String) : IsAscending (ascending texts) :=
  (pairwise_ascending texts).imp codePoints_lt

/-- Only which texts there are counts. -/
theorem ascending_congr {texts texts' : List String} (same : ∀ t, t ∈ texts ↔ t ∈ texts') :
    ascending texts = ascending texts' := by
  refine (pairwise_ascending texts).eq_of_mem_iff (pairwise_ascending texts') fun t => ?_
  rw [mem_ascending, mem_ascending, same]

end PortableSearch.Text
