import DataGrid.Text.Blank
import Mathlib.Data.List.DropRight
import Mathlib.Tactic.Lemma

namespace DataGrid.Text

def IsTrimmed (cs : List Char) : Prop := trimLeft cs = cs ∧ trimRight cs = cs

lemma trimRight_concat {c : Char} (h : isBlank c = false) (cs : List Char) : trimRight (cs ++ [c]) = cs ++ [c] :=
  List.rdropWhile_concat_neg isBlank cs c (by simp [h])

lemma trimLeft_cons {c : Char} (h : isBlank c = false) (cs : List Char) : trimLeft (c :: cs) = c :: cs := by
  simp [trimLeft, h]

lemma isTrimmed_of_ends {first last : Char} (hf : isBlank first = false) (hl : isBlank last = false) (cs : List Char) :
    IsTrimmed (first :: (cs ++ [last])) :=
  ⟨trimLeft_cons hf _, trimRight_concat hl (first :: cs)⟩

lemma isTrimmed_of_no_blank {cs : List Char} (h : ∀ c ∈ cs, isBlank c = false) : IsTrimmed cs := by
  constructor
  · cases cs with
    | nil => rfl
    | cons c cs => exact trimLeft_cons (h c List.mem_cons_self) cs
  · exact List.rdropWhile_eq_self_iff.mpr fun hne => by simp [h _ (List.getLast_mem hne)]

lemma isTrimmed_trimmed (cs : List Char) : IsTrimmed (trimRight (trimLeft cs)) := by
  refine ⟨?_, List.rdropWhile_idempotent isBlank _⟩
  obtain ⟨tail, htail⟩ := List.rdropWhile_prefix isBlank (trimLeft cs)
  cases hc : trimRight (trimLeft cs) with
  | nil => rfl
  | cons c rest =>
    refine trimLeft_cons ?_ rest
    have hcons : cs.dropWhile isBlank = c :: (rest ++ tail) := by
      rw [← List.cons_append, ← hc]
      exact htail.symm
    have hhead := List.head_dropWhile_not isBlank (l := cs) (by simp [hcons])
    simpa [hcons] using hhead

lemma IsTrimmed.cons {c : Char} {cs : List Char} (h : IsTrimmed cs) (hc : isBlank c = false) : IsTrimmed (c :: cs) := by
  refine ⟨trimLeft_cons hc cs, List.rdropWhile_eq_self_iff.mpr fun hne => ?_⟩
  cases cs with
  | nil => simp [hc]
  | cons c' cs =>
    rw [List.getLast_cons (List.cons_ne_nil c' cs)]
    exact List.rdropWhile_eq_self_iff.mp h.2 (List.cons_ne_nil c' cs)

lemma IsTrimmed.head {c : Char} {cs : List Char} (h : IsTrimmed (c :: cs)) : isBlank c = false := by
  have hself : (c :: cs).dropWhile isBlank = c :: cs := h.1
  have hhead := List.head_dropWhile_not isBlank (l := c :: cs) (by simp [hself])
  simpa [hself] using hhead

lemma trimRight_append {blanks : List Char} (h : ∀ c ∈ blanks, isBlank c = true) (cs : List Char) :
    trimRight (cs ++ blanks) = trimRight cs := by
  rw [trimRight, List.reverse_append, List.dropWhile_append_of_pos (by simpa using h), trimRight]

lemma trimLeft_append {blanks : List Char} (h : ∀ c ∈ blanks, isBlank c = true) (cs : List Char) :
    trimLeft (blanks ++ cs) = trimLeft cs :=
  List.dropWhile_append_of_pos h

lemma exists_eq_trimRight_append (cs : List Char) :
    ∃ blanks, (∀ c ∈ blanks, isBlank c = true) ∧ cs = trimRight cs ++ blanks :=
  ⟨cs.rtakeWhile isBlank, fun _ => List.mem_rtakeWhile_imp, List.rdropWhile_append_rtakeWhile.symm⟩

lemma IsTrimmed.trimLeft_ending {ending : List Char} (h : IsTrimmed ending) (front : List Char) :
    trimLeft (front ++ ending) = trimLeft front ++ ending := by
  rw [trimLeft, List.dropWhile_append]
  split
  case isTrue hempty =>
    have hfront : trimLeft front = [] := List.isEmpty_iff.mp hempty
    rw [hfront]
    exact h.1
  case isFalse => rfl

lemma IsTrimmed.trimRight_ending {ending : List Char} (h : IsTrimmed ending) (hne : ending ≠ []) (front : List Char) :
    trimRight (front ++ ending) = front ++ ending := by
  apply List.rdropWhile_eq_self_iff.mpr
  intro hboth
  rw [List.getLast_append_of_ne_nil hboth hne]
  exact List.rdropWhile_eq_self_iff.mp h.2 hne

lemma trim_between {front back : List Char} (hfront : ∀ c ∈ front, isBlank c = true)
    (hback : ∀ c ∈ back, isBlank c = true) (cs : List Char) :
    trimRight (trimLeft (front ++ (cs ++ back))) = trimRight (trimLeft cs) := by
  rw [trimLeft_append hfront, trimLeft, List.dropWhile_append]
  split
  case isTrue hempty =>
    have hcs : trimLeft cs = [] := List.isEmpty_iff.mp hempty
    rw [hcs, List.dropWhile_eq_nil_iff.mpr hback]
  case isFalse => exact trimRight_append hback _

lemma exists_eq_between (cs : List Char) : ∃ front back, (∀ c ∈ front, isBlank c = true) ∧
    (∀ c ∈ back, isBlank c = true) ∧ cs = front ++ (trimRight (trimLeft cs) ++ back) := by
  obtain ⟨back, hback, hright⟩ := exists_eq_trimRight_append (trimLeft cs)
  refine ⟨cs.takeWhile isBlank, back, fun _ => List.mem_takeWhile_imp, hback, ?_⟩
  rw [← hright]
  exact List.takeWhile_append_dropWhile.symm

lemma toList_trim (s : String) : (trim s).toList = trimRight (trimLeft s.toList) := String.toList_ofList

lemma isTrimmed_toList_trim (s : String) : IsTrimmed (trim s).toList := by
  rw [toList_trim]
  exact isTrimmed_trimmed s.toList

lemma toList_trim_eq_nil_iff (s : String) : (trim s).toList = [] ↔ isBlankText s = true := by
  rw [toList_trim, isBlankText, List.all_eq_true]
  constructor
  · intro hnil
    have hleft : trimLeft s.toList = [] := by
      have hblank : ∀ c ∈ trimLeft s.toList, isBlank c = true := List.rdropWhile_eq_nil_iff.mp hnil
      exact (List.dropWhile_idempotent isBlank s.toList).symm.trans (List.dropWhile_eq_nil_iff.mpr hblank)
    exact List.dropWhile_eq_nil_iff.mp hleft
  · intro hblank
    rw [show trimLeft s.toList = [] from List.dropWhile_eq_nil_iff.mpr hblank]
    rfl

lemma trim_of_isTrimmed {s : String} (h : IsTrimmed s.toList) : trim s = s := by
  rw [trim, h.1, h.2, String.ofList_toList]

lemma trim_ofList {cs : List Char} (h : IsTrimmed cs) : trim (String.ofList cs) = String.ofList cs :=
  trim_of_isTrimmed (by simpa using h)

end DataGrid.Text
