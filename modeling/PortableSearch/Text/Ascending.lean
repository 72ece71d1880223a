/-! Texts as a set: each once, in ascending order of code points. -/
namespace PortableSearch.Text

/-- Puts a text into its place among ascending texts, unless it is there. -/
def insertAscending (s : String) : List String → List String
  | [] => [s]
  | t :: ts =>
    if s < t then s :: t :: ts
    else if s = t then t :: ts
    else t :: insertAscending s ts

/-- The texts in ascending order, each once. -/
def ascending (texts : List String) : List String := texts.foldr insertAscending []

theorem mem_insertAscending {s t : String} {ts : List String} :
    t ∈ insertAscending s ts ↔ t = s ∨ t ∈ ts := by
  induction ts with
  | nil => simp [insertAscending]
  | cons u us ih =>
    unfold insertAscending
    split
    · simp
    · split
      · next h => simp [h]
      · simp only [List.mem_cons, ih]; grind

theorem mem_ascending {t : String} {texts : List String} : t ∈ ascending texts ↔ t ∈ texts := by
  induction texts with
  | nil => simp [ascending]
  | cons s ss ih =>
    rw [ascending, List.foldr_cons, mem_insertAscending, List.mem_cons]
    exact or_congr_right ih

end PortableSearch.Text
