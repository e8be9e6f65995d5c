import DataGrid.Proofs.Refusal
import DataGrid.Proofs.Trimming

namespace DataGrid.Search

variable {maxLength : Nat} {source words : String}

def silent (text : Option String) : Bool := text.all Text.isBlankText

/-- What is left of a text that is trimmed, cut to a length and trimmed again. -/
structure CutFrom (maxLength : Nat) (source words : String) : Prop where
  ne_empty : words ≠ ""
  trimmed : Text.IsTrimmed words.toList
  length_le : words.length ≤ maxLength
  starts : words.toList <+: (Text.trim source).toList
  blanks_up_to_cut : ∃ blanks, (∀ c ∈ blanks, Text.isBlank c = true) ∧
    (Text.trim source).toList.take maxLength = words.toList ++ blanks
  fixed : sanitize maxLength words = some words

lemma sanitize_eq_some_iff : sanitize maxLength source = some words ↔
    words ≠ "" ∧ Text.trimRight ((Text.trim source).toList.take maxLength) = words.toList := by
  rw [sanitize, ← Text.toList_trim, ne_eq, ← String.toList_eq_nil_iff]
  generalize Text.trimRight ((Text.trim source).toList.take maxLength) = cut
  cases cut with
  | nil =>
    constructor
    · rintro ⟨⟩
    · rintro ⟨hne, h⟩
      exact absurd h.symm hne
  | cons c cs =>
    constructor
    · intro h
      obtain rfl : String.ofList (c :: cs) = words := Option.some.inj h
      rw [String.toList_ofList]
      exact ⟨List.cons_ne_nil c cs, rfl⟩
    · rintro ⟨-, h⟩
      exact congrArg some (String.ext (String.toList_ofList.trans h))

lemma cutFrom_of_sanitize (h : sanitize maxLength source = some words) : CutFrom maxLength source words := by
  obtain ⟨hne, hcut⟩ := sanitize_eq_some_iff.mp h
  obtain ⟨blanks, hblanks, htake⟩ := Text.exists_eq_trimRight_append ((Text.trim source).toList.take maxLength)
  rw [hcut] at htake
  have hprefix : words.toList <+: (Text.trim source).toList.take maxLength := htake ▸ List.prefix_append _ _
  have hstarts : words.toList <+: (Text.trim source).toList := hprefix.trans (List.take_prefix _ _)
  have hlength : words.toList.length ≤ maxLength := hprefix.length_le.trans (List.length_take_le _ _)
  have htrimmed : Text.IsTrimmed words.toList := by
    refine ⟨?_, hcut ▸ List.rdropWhile_idempotent Text.isBlank _⟩
    cases hw : words.toList with
    | nil => rfl
    | cons c cs =>
      -- the first character is that of the trimmed text
      rw [hw] at hstarts
      obtain ⟨rest, hrest⟩ := hstarts
      have hsource := Text.isTrimmed_toList_trim source
      rw [← hrest, List.cons_append] at hsource
      exact Text.trimLeft_cons hsource.head cs
  refine ⟨hne, htrimmed, hlength, hstarts, ⟨blanks, hblanks, htake⟩, sanitize_eq_some_iff.mpr ⟨hne, ?_⟩⟩
  rw [Text.trim_of_isTrimmed htrimmed, List.take_of_length_le hlength, htrimmed.2]

lemma speaks_eq (hpos : maxLength ≠ 0) (words : String) : speaks maxLength words = !Text.isBlankText words := by
  cases hw : (Text.trim words).toList with
  | nil => rw [speaks, hw, (Text.toList_trim_eq_nil_iff words).mp hw, List.take_nil, List.any_nil, Bool.not_true]
  | cons c cs =>
    have hspeaks : Text.isBlankText words ≠ true := fun hblank => by
      rw [(Text.toList_trim_eq_nil_iff words).mpr hblank] at hw
      cases hw
    obtain ⟨n, rfl⟩ := Nat.exists_eq_succ_of_ne_zero hpos
    have hc : Text.isBlank c = false := Text.IsTrimmed.head (hw ▸ Text.isTrimmed_toList_trim words)
    rw [speaks, hw, List.take_succ_cons, List.any_cons, hc, Bool.not_false, Bool.true_or, Bool.eq_false_iff.mpr hspeaks,
      Bool.not_false]

lemma isSome_bind_sanitize (hpos : maxLength ≠ 0) (text : Option String) :
    (text.bind (sanitize maxLength)).isSome = !silent text := by
  cases text with
  | none => rfl
  | some words => rw [Option.bind_some, isSome_sanitize, speaks_eq hpos, silent, Option.all_some]

def spoken (plain : Option Json) (tree : Tree) : Option String :=
  let simple := plain.map Json.param
  if (tree.predicate.isSome ∧ ¬silent tree.search) ∨ silent simple then tree.search else simple

lemma token_eq (hpos : maxLength ≠ 0) (plain : Option Json) (tree : Tree) :
    token plain tree maxLength = (spoken plain tree).bind (sanitize maxLength) := by
  have hplain := isSome_bind_sanitize hpos (plain.map Json.param)
  have htree := isSome_bind_sanitize hpos tree.search
  have hbind : (plain.bind fun value => sanitize maxLength value.param) =
      (plain.map Json.param).bind (sanitize maxLength) := by cases plain <;> rfl
  rw [token, spoken, hbind, htree]
  cases hs : silent (plain.map Json.param) with
  | true =>
    have hnone : (plain.map Json.param).bind (sanitize maxLength) = none :=
      Option.not_isSome_iff_eq_none.mp (by simp [hplain, hs])
    simp [hnone]
  | false =>
    obtain ⟨words, hwords⟩ := Option.isSome_iff_exists.mp (hplain.trans (by rw [hs, Bool.not_false]))
    simp [hwords, apply_ite (Option.bind · (sanitize maxLength))]

lemma silent_spoken (plain : Option Json) (tree : Tree) :
    silent (spoken plain tree) = true ↔ silent (plain.map Json.param) ∧ silent tree.search := by
  rw [spoken]
  split
  case isTrue htaken =>
    rcases htaken with ⟨-, hspeaks⟩ | hsilent
    · exact ⟨fun h => absurd h hspeaks, And.right⟩
    · exact ⟨fun h => ⟨hsilent, h⟩, And.right⟩
  case isFalse hleft =>
    exact ⟨fun h => absurd (.inr h) hleft, And.left⟩

lemma token_zero (plain : Option Json) (tree : Tree) : token plain tree 0 = none := by
  have hplain : plain.any (fun value => speaks 0 value.param) = false := by cases plain <;> rfl
  have htree : tree.search.any (speaks 0) = false := by cases tree.search <;> rfl
  rw [← Option.not_isSome_iff_eq_none, isSome_token, hplain, htree]
  exact Bool.false_ne_true

/-- A request searches for nothing exactly if words may have no length or neither filter has a text that is
not blank. Else it searches for what trimming and cutting leave of one text, the advanced filter's if that
has conditions too or if there is no other: words without blanks around them, as many as the text starts
with and the length allows, which trimming and cutting change no further. -/
theorem token_of_texts (plain : Option Json) (tree : Tree) (maxLength : Nat) :
    let simple := plain.map Json.param
    (token plain tree maxLength = none ↔ maxLength = 0 ∨ (silent simple ∧ silent tree.search)) ∧
    ∀ words, token plain tree maxLength = some words → ∃ source,
      (if (tree.predicate.isSome ∧ ¬silent tree.search) ∨ silent simple then tree.search else simple) = some source ∧
        sanitize maxLength source = some words ∧ CutFrom maxLength source words := by
  intro simple
  by_cases hpos : maxLength = 0
  · subst hpos
    rw [token_zero]
    exact ⟨iff_of_true rfl (.inl rfl), fun words h => by cases h⟩
  · rw [token_eq hpos]
    refine ⟨?_, fun words h => ?_⟩
    · rw [← Option.not_isSome_iff_eq_none, isSome_bind_sanitize hpos, Bool.not_eq_true', Bool.not_eq_false, silent_spoken,
        or_iff_right hpos]
    · obtain ⟨source, hsource, hwords⟩ := Option.bind_eq_some_iff.mp h
      exact ⟨source, hsource, hwords, cutFrom_of_sanitize hwords⟩

end DataGrid.Search
