import Mathlib.Data.List.DropRight
import Deadwood.Text.Blank

/-!
# What trimming leaves

A trimmed text is a piece of the text with nothing but white space on either side of it, and has no
white space at its own ends. It is empty iff all of the text is white space.
-/

namespace Deadwood.Text

/-- A text without the white space at its two ends. -/
structure Trims (s core : String) : Prop where
  exists_ends : ∃ front back, s.toList = front ++ core.toList ++ back ∧
    (∀ c ∈ front, isBlank c = true) ∧ ∀ c ∈ back, isBlank c = true
  head : ∀ c ∈ core.toList.head?, isBlank c = false
  last : ∀ c ∈ core.toList.getLast?, isBlank c = false

theorem trimList_eq_rdropWhile {α : Type} (p : α → Bool) (cs : List α) :
    trimList p cs = (cs.dropWhile p).rdropWhile p := rfl

theorem trims_trim (s : String) : Trims s (trim s) := by
  have htrim : (trim s).toList = (s.toList.dropWhile isBlank).rdropWhile isBlank := by
    rw [trim, String.toList_ofList, trimList_eq_rdropWhile]
  refine ⟨?_, ?_, ?_⟩
  · refine ⟨s.toList.takeWhile isBlank, (s.toList.dropWhile isBlank).rtakeWhile isBlank, ?_, ?_, ?_⟩
    · rw [htrim, List.append_assoc, List.rdropWhile_append_rtakeWhile,
        List.takeWhile_append_dropWhile]
    · intro c hc
      exact List.mem_takeWhile_imp hc
    · intro c hc
      exact List.mem_rtakeWhile_imp hc
  · intro c hc
    -- what stands at the front is not touched at the end
    obtain ⟨back, hback⟩ := List.rdropWhile_prefix isBlank (s.toList.dropWhile isBlank)
    have hhead := List.head?_dropWhile_not isBlank s.toList
    rw [htrim] at hc
    rw [← hback, List.head?_append, hc] at hhead
    exact hhead
  · intro c hc
    have hhead := List.head?_dropWhile_not isBlank (s.toList.dropWhile isBlank).reverse
    rw [htrim, List.rdropWhile, List.getLast?_reverse] at hc
    rw [hc] at hhead
    exact hhead

/-- A trimmed text is empty iff all of the text is white space. -/
theorem Trims.eq_empty_iff {s core : String} (h : Trims s core) :
    core = "" ↔ ∀ c ∈ s.toList, isBlank c = true := by
  obtain ⟨front, back, hs, hfront, hback⟩ := h.exists_ends
  constructor
  · rintro rfl
    intro c hc
    rw [hs, String.toList_empty, List.append_nil] at hc
    exact (List.mem_append.mp hc).elim (hfront c) (hback c)
  · intro hblank
    rw [← String.toList_inj]
    cases hcore : core.toList with
    | nil => rfl
    | cons c rest =>
      have hc : c ∈ s.toList := by
        rw [hs, hcore]
        simp
      have hhead := h.head c (by rw [hcore]; rfl)
      rw [hblank c hc] at hhead
      cases hhead

end Deadwood.Text
