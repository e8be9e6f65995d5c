import DataGrid.Grid.Column
import DataGrid.Proofs.Trimming

namespace DataGrid

namespace Comparison

variable {c c' : Comparison}

lemma isTrimmed_suffix (c : Comparison) : Text.IsTrimmed c.suffix := by
  cases c <;> exact ⟨rfl, rfl⟩

lemma suffix_ne_nil (c : Comparison) : c.suffix ≠ [] := by
  cases c <;> exact List.cons_ne_nil _ _

lemma mem_inOrder (c : Comparison) : c ∈ inOrder := by
  cases c <;> decide

lemma eq_of_suffix (h : c.suffix <:+ c'.suffix) : c = c' := by
  revert h
  cases c <;> cases c' <;> decide

lemma eq_of_append_suffix {front front' : List Char} (h : front ++ c.suffix = front' ++ c'.suffix) :
    front = front' ∧ c = c' := by
  have hc : c.suffix <:+ front ++ c.suffix := List.suffix_append _ _
  have hc' : c'.suffix <:+ front ++ c.suffix := h ▸ List.suffix_append _ _
  obtain rfl : c = c' := by
    rcases List.suffix_or_suffix_of_suffix hc hc' with hs | hs
    · exact eq_of_suffix hs
    · exact (eq_of_suffix hs).symm
  exact ⟨List.append_cancel_right h, rfl⟩

end Comparison

namespace Column

variable {text : String} {c : Comparison}

lemma ofSuffix?_eq_some_iff {cs : List Char} {column : Column} :
    ofSuffix? cs c = some column ↔
      ∃ front, cs = front ++ c.suffix ∧ ⟨String.ofList (Text.trimRight front), some c⟩ = column := by
  simp only [ofSuffix?, Option.map_eq_some_iff, Text.dropSuffix?_eq_some_iff]

lemma ofMapping_of_suffix {front : List Char} (h : (Text.trim text).toList = front ++ c.suffix) :
    ofMapping text = ⟨String.ofList (Text.trimRight front), some c⟩ := by
  cases hfound : Comparison.inOrder.findSome? (ofSuffix? (Text.trim text).toList) with
  | none =>
    have hnone := List.findSome?_eq_none_iff.mp hfound c c.mem_inOrder
    cases hnone.symm.trans (ofSuffix?_eq_some_iff.mpr ⟨front, h, rfl⟩)
  | some column =>
    obtain ⟨c', -, hc'⟩ := List.exists_of_findSome?_eq_some hfound
    obtain ⟨front', hfront', rfl⟩ := ofSuffix?_eq_some_iff.mp hc'
    obtain ⟨rfl, rfl⟩ := Comparison.eq_of_append_suffix (h.symm.trans hfront')
    rw [ofMapping, hfound, Option.getD_some]

lemma ofMapping_of_no_suffix (h : ∀ c : Comparison, ¬c.suffix <:+ (Text.trim text).toList) :
    ofMapping text = ⟨Text.trim text, none⟩ := by
  have hnone : Comparison.inOrder.findSome? (ofSuffix? (Text.trim text).toList) = none := by
    apply List.findSome?_eq_none_iff.mpr
    intro c _
    apply Option.eq_none_iff_forall_ne_some.mpr
    intro column hcolumn
    obtain ⟨front, hfront, -⟩ := ofSuffix?_eq_some_iff.mp hcolumn
    exact h c ⟨front, hfront.symm⟩
  rw [ofMapping, hnone, Option.getD_none]

def mapping (column : Column) (gap : String) : String :=
  match column.comparison with
  | none => column.path
  | some c => column.path ++ gap ++ String.ofList c.suffix

lemma toList_mapping (path gap : String) (c : Comparison) :
    (mapping ⟨path, some c⟩ gap).toList = path.toList ++ gap.toList ++ c.suffix := by
  rw [mapping, String.toList_append, String.toList_append, String.toList_ofList]

lemma ofMapping_mapping {path before gap after : String} (c : Comparison) (hpath : Text.IsTrimmed path.toList)
    (hbefore : Text.isBlankText before = true) (hgap : Text.isBlankText gap = true)
    (hafter : Text.isBlankText after = true) :
    ofMapping (before ++ mapping ⟨path, some c⟩ gap ++ after) = ⟨path, some c⟩ := by
  -- behind an empty path the gap is at the start, and trimmed away there
  have htrim : (Text.trim (before ++ mapping ⟨path, some c⟩ gap ++ after)).toList =
      Text.trimLeft (path.toList ++ gap.toList) ++ c.suffix := by
    rw [Text.toList_trim, String.toList_append, String.toList_append, toList_mapping, List.append_assoc,
      Text.trim_between (List.all_eq_true.mp hbefore) (List.all_eq_true.mp hafter),
      c.isTrimmed_suffix.trimLeft_ending, c.isTrimmed_suffix.trimRight_ending c.suffix_ne_nil]
  have hread : Text.trimRight (Text.trimLeft (path.toList ++ gap.toList)) = path.toList := by
    have hblanks := Text.trim_between (List.forall_mem_nil _) (List.all_eq_true.mp hgap) path.toList
    rwa [List.nil_append, hpath.1, hpath.2] at hblanks
  rw [ofMapping_of_suffix htrim, hread, String.ofList_toList]

lemma mapping_ofMapping (text : String) :
    Text.IsTrimmed (ofMapping text).path.toList ∧
      ∃ gap, Text.isBlankText gap = true ∧ (ofMapping text).mapping gap = Text.trim text := by
  have htrimmed := Text.isTrimmed_toList_trim text
  by_cases h : ∃ c : Comparison, c.suffix <:+ (Text.trim text).toList
  · obtain ⟨c, front, hfront⟩ := h
    rw [ofMapping_of_suffix hfront.symm]
    have hboth : Text.trimLeft front ++ c.suffix = front ++ c.suffix := by
      rw [← c.isTrimmed_suffix.trimLeft_ending, hfront]
      exact htrimmed.1
    have hleft : Text.trimLeft front = front := List.append_cancel_right hboth
    obtain ⟨blanks, hblanks, hsplit⟩ := Text.exists_eq_trimRight_append front
    refine ⟨?_, String.ofList blanks, ?_, ?_⟩
    · rw [String.toList_ofList, ← hleft]
      exact Text.isTrimmed_trimmed front
    · simpa [Text.isBlankText] using hblanks
    · apply String.toList_injective
      rw [toList_mapping, String.toList_ofList, String.toList_ofList, ← hsplit, hfront]
  · rw [ofMapping_of_no_suffix (not_exists.mp h)]
    exact ⟨htrimmed, "", rfl, rfl⟩

/-- A path with a comparison behind it is read as these two, whatever the path ends in and whatever blanks stand between
them and around them, and a mapping that ends in no comparison is a path as a whole. So no path has blanks around it,
and a column gives its mapping back but for blanks around it and in front of the comparison. -/
theorem mapping_split_without_loss (path before gap after text : String) (c : Comparison) :
    (Text.IsTrimmed path.toList → Text.isBlankText before = true → Text.isBlankText gap = true →
      Text.isBlankText after = true → ofMapping (before ++ mapping ⟨path, some c⟩ gap ++ after) = ⟨path, some c⟩) ∧
    ((∀ c : Comparison, ¬c.suffix <:+ (Text.trim text).toList) → ofMapping text = ⟨Text.trim text, none⟩) ∧
    Text.IsTrimmed (ofMapping text).path.toList ∧
    ∃ gap, Text.isBlankText gap = true ∧ (ofMapping text).mapping gap = Text.trim text :=
  ⟨ofMapping_mapping c, ofMapping_of_no_suffix, mapping_ofMapping text⟩

theorem path_ending_in_less_split :
    ofMapping "\u3000 size<\t >=\n" = ⟨"size<", some .gte⟩ ∧ ofMapping " size >= 10 " = ⟨"size >= 10", none⟩ := by
  have hpath : Text.IsTrimmed "size<".toList := ⟨by decide, by decide⟩
  have hbefore : Text.isBlankText "\u3000 " = true := by decide
  have hgap : Text.isBlankText "\t " = true := by decide
  have hafter : Text.isBlankText "\n" = true := by decide
  have hend : ∀ c : Comparison, ¬c.suffix <:+ (Text.trim " size >= 10 ").toList := by
    intro c
    cases c <;> decide
  obtain ⟨hread, hwhole, -⟩ := mapping_split_without_loss "size<" "\u3000 " "\t " "\n" " size >= 10 " .gte
  exact ⟨hread hpath hbefore hgap hafter, hwhole hend⟩

end Column

end DataGrid
