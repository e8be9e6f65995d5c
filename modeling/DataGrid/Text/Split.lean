namespace DataGrid.Text

def split (separates : Char → Bool) : List Char → List (List Char)
  | [] => [[]]
  | c :: cs =>
    if separates c then [] :: split separates cs
    else match split separates cs with
      | [] => [[c]]
      | piece :: pieces => (c :: piece) :: pieces

theorem split_eq_splitOnP (separates : Char → Bool) (cs : List Char) : split separates cs = cs.splitOnP separates := by
  induction cs with
  | nil => rfl
  | cons c cs ih =>
    obtain ⟨piece, pieces, hpieces⟩ := List.exists_cons_of_ne_nil (List.splitOnP_ne_nil separates cs)
    rw [split, List.splitOnP_cons_eq_if_modifyHead, ih, hpieces]
    rfl

theorem split_ne_nil (separates : Char → Bool) (cs : List Char) : split separates cs ≠ [] := by
  rw [split_eq_splitOnP]
  exact List.splitOnP_ne_nil separates cs

theorem split_append {separates : Char → Bool} (front back : List Char) {c : Char} (h : separates c = true) :
    split separates (front ++ c :: back) = split separates front ++ split separates back := by
  simp only [split_eq_splitOnP]
  exact List.splitOnP_append_cons front back h

theorem split_of_none {separates : Char → Bool} {cs : List Char} (h : ∀ c ∈ cs, separates c = false) :
    split separates cs = [cs] := by
  rw [split_eq_splitOnP, List.splitOnP_eq_singleton h]

def cutAt (separator : Char) (cs : List Char) : List Char × Option (List Char) :=
  match cs.dropWhile (· != separator) with
  | [] => (cs, none)
  | _ :: rest => (cs.takeWhile (· != separator), some rest)

theorem cutAt_append {separator : Char} {front : List Char} (h : separator ∉ front) (back : List Char) :
    cutAt separator (front ++ separator :: back) = (front, some back) := by
  have hpass : ∀ c ∈ front, (c != separator) = true := fun c hc => bne_iff_ne.mpr fun he => h (he ▸ hc)
  rw [cutAt, List.dropWhile_append_of_pos hpass, List.takeWhile_append_of_pos hpass,
    List.dropWhile_cons_of_neg (by simp), List.takeWhile_cons_of_neg (by simp), List.append_nil]

def dropSuffix? (suffix cs : List Char) : Option (List Char) :=
  if suffix.isSuffixOf cs then some (cs.take (cs.length - suffix.length)) else none

theorem dropSuffix?_eq_some_iff {suffix cs front : List Char} :
    dropSuffix? suffix cs = some front ↔ cs = front ++ suffix := by
  rw [dropSuffix?, Option.ite_none_right_eq_some, List.isSuffixOf_iff_suffix, Option.some_inj]
  constructor
  · rintro ⟨hsuffix, rfl⟩
    exact (List.suffix_iff_eq_append.mp hsuffix).symm
  · rintro rfl
    exact ⟨List.suffix_append front suffix, by simp⟩

end DataGrid.Text
