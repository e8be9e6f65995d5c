import DataGrid.Text.Split
import Mathlib.Data.List.Basic
import Mathlib.Tactic.Lemma

namespace DataGrid.Text

variable {separates : Char → Bool} {cs piece : List Char}

def IsPiece (separates : Char → Bool) (cs piece : List Char) : Prop :=
  ∃ front back, cs = front ++ (piece ++ back) ∧ (∀ c ∈ piece, separates c = false) ∧
    (∀ c ∈ front.getLast?, separates c = true) ∧ ∀ c ∈ back.head?, separates c = true

lemma isPiece_of_mem_split {front : List Char} (hfront : ∀ c ∈ front, separates c = false)
    (h : piece ∈ split separates (front ++ cs)) : IsPiece separates (front ++ cs) piece := by
  -- what was passed since the last separator is carried along as `front`
  induction cs generalizing front with
  | nil =>
    rw [List.append_nil] at h ⊢
    rw [split_of_none hfront, List.mem_singleton] at h
    subst h
    exact ⟨[], [], by simp, hfront, by simp, by simp⟩
  | cons c cs ih =>
    cases hc : separates c with
    | false =>
      have hlonger : ∀ c' ∈ front ++ [c], separates c' = false :=
        List.forall_mem_append.mpr ⟨hfront, List.forall_mem_singleton.mpr hc⟩
      rw [List.append_cons] at h ⊢
      exact ih hlonger h
    | true =>
      rw [split_append front cs hc, split_of_none hfront, List.singleton_append, List.mem_cons] at h
      obtain rfl | hlater := h
      · exact ⟨[], c :: cs, rfl, hfront, by simp, by simpa using hc⟩
      · obtain ⟨before, back, hcs, hpiece, hbefore, hback⟩ : IsPiece separates cs piece :=
          ih (List.forall_mem_nil _) hlater
        refine ⟨front ++ c :: before, back, by rw [hcs]; simp, hpiece, fun s hs => ?_, hback⟩
        rw [List.getLast?_append, List.getLast?_cons] at hs
        cases hlast : before.getLast? with
        | none =>
          obtain rfl : c = s := by simpa [hlast] using hs
          exact hc
        | some s' =>
          obtain rfl : s' = s := by simpa [hlast] using hs
          exact hbefore s' hlast

lemma mem_split_of_isPiece (h : IsPiece separates cs piece) : piece ∈ split separates cs := by
  obtain ⟨front, back, rfl, hpiece, hfront, hback⟩ := h
  have hfirst : piece ∈ split separates (piece ++ back) := by
    cases back with
    | nil =>
      rw [List.append_nil, split_of_none hpiece]
      exact List.mem_singleton_self piece
    | cons c back =>
      rw [split_append piece back (hback c rfl), split_of_none hpiece]
      exact List.mem_cons_self
  obtain rfl | ⟨before, c, rfl⟩ := List.eq_nil_or_concat' front
  · exact hfirst
  · rw [List.append_assoc, List.singleton_append, split_append before _ (hfront c (by simp))]
    exact List.mem_append_right _ hfirst

lemma mem_split_iff : piece ∈ split separates cs ↔ IsPiece separates cs piece := by
  refine ⟨fun h => ?_, mem_split_of_isPiece⟩
  rw [← List.nil_append cs] at h ⊢
  exact isPiece_of_mem_split (by simp) h

/-- Pieces without the separator are those of one text only, the one that they make with separators between them. -/
lemma split_eq_iff {separator : Char} {pieces : List (List Char)} :
    split (· == separator) cs = pieces ↔
      pieces ≠ [] ∧ (∀ piece ∈ pieces, separator ∉ piece) ∧ [separator].intercalate pieces = cs := by
  constructor
  · rintro rfl
    refine ⟨split_ne_nil _ cs, fun piece hpiece hmem => ?_, ?_⟩
    · obtain ⟨front, back, -, hnone, -⟩ := mem_split_iff.mp hpiece
      exact absurd (hnone separator hmem) (by simp)
    · rw [split_eq_splitOnP]
      exact List.intercalate_splitOn separator
  · rintro ⟨hne, hnone, rfl⟩
    rw [split_eq_splitOnP]
    exact List.splitOn_intercalate separator hnone hne

end DataGrid.Text
