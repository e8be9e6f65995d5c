import DataGrid.Proofs.IntegerWidth
import DataGrid.Proofs.Pieces

namespace DataGrid

namespace Text

variable {cs : List Char}

/-- A longest stretch of letters and numbers in a text. -/
def IsRun (cs run : List Char) : Prop :=
  ∃ front back, cs = front ++ (run ++ back) ∧ run ≠ [] ∧ (∀ c ∈ run, isAlphanumeric c = true) ∧
    (∀ c ∈ front.getLast?, isAlphanumeric c = false) ∧ ∀ c ∈ back.head?, isAlphanumeric c = false

lemma isRun_iff {run : List Char} : IsRun cs run ↔ run ≠ [] ∧ IsPiece (fun c => !isAlphanumeric c) cs run := by
  simp only [IsRun, IsPiece, Bool.not_eq_true', Bool.not_eq_false']
  constructor
  · rintro ⟨front, back, hcs, hne, hrest⟩
    exact ⟨hne, front, back, hcs, hrest⟩
  · rintro ⟨hne, front, back, hcs, hrest⟩
    exact ⟨front, back, hcs, hne, hrest⟩

lemma mem_words_iff {s : String} {word : List Char} : word ∈ words s ↔ ∃ run, IsRun s.toList run ∧ lower run = word := by
  simp only [words, List.mem_map, List.mem_filter, mem_split_iff, isRun_iff, Bool.not_eq_true', List.isEmpty_eq_false_iff]
  simp only [and_comm]

lemma words_append (s t : String) : words (s ++ " " ++ t) = words s ++ words t := by
  have hseam : (s ++ " " ++ t).toList = s.toList ++ ' ' :: t.toList := by simp
  have hblank : (!isAlphanumeric ' ') = true := by decide
  rw [words, hseam, split_append s.toList t.toList hblank, List.filter_append, List.map_append]
  rfl

lemma words_of_no_letter {s : String} (h : ∀ c ∈ s.toList, isAlphanumeric c = false) : words s = [] := by
  refine List.eq_nil_iff_forall_not_mem.mpr fun word hword => ?_
  obtain ⟨run, ⟨front, back, hs, hne, hletters, -⟩, -⟩ := mem_words_iff.mp hword
  obtain ⟨c, hc⟩ := List.exists_mem_of_ne_nil run hne
  have hmem : c ∈ s.toList := by simp [hs, hc]
  exact Bool.false_ne_true ((h c hmem).symm.trans (hletters c hc))

end Text

namespace Bson

inductive StandsIn (v : Bson) : Bson → Prop
  | self : StandsIn v v
  | item {items : List Bson} {w : Bson} : w ∈ items → StandsIn v w → StandsIn v (array items)
  | field {fields : List (String × Bson)} {name : String} {w : Bson} :
      (name, w) ∈ fields → StandsIn v w → StandsIn v (document fields)

lemma mem_strings_iff (v : Bson) {s : String} : s ∈ v.strings ↔ (string s).StandsIn v := by
  induction v using nestedInduction with
  | array items ih =>
    rw [strings, stringsOfItems_eq, List.mem_flatMap]
    constructor
    · rintro ⟨w, hw, hs⟩
      exact .item hw ((ih w hw).mp hs)
    · rintro (_ | ⟨hw, hs⟩)
      exact ⟨_, hw, (ih _ hw).mpr hs⟩
  | document fields ih =>
    rw [strings, stringsOfFields_eq, List.mem_flatMap]
    constructor
    · rintro ⟨⟨name, w⟩, hw, hs⟩
      exact .field hw ((ih _ hw).mp hs)
    · rintro (_ | _ | ⟨hw, hs⟩)
      exact ⟨_, hw, (ih _ hw).mpr hs⟩
  | scalar v hv =>
    cases v with
    | string u =>
      rw [strings, List.mem_singleton]
      exact ⟨fun h => h ▸ .self, fun h => by cases h; rfl⟩
    | array _ | document _ => cases hv
    | _ => exact iff_of_false List.not_mem_nil (by rintro ⟨⟩)

end Bson

namespace Document

variable {d : Document} {s t : String}

lemma hasWord_iff : d.hasWord s = true ↔ ∃ u ∈ Bson.stringsOfFields d, ∃ word ∈ Text.words u, word ∈ Text.words s := by
  simp only [hasWord, List.any_eq_true, List.contains_iff_mem]

lemma hasWord_of_strings {d' : Document} (h : Bson.stringsOfFields d ⊆ Bson.stringsOfFields d')
    (hd : d.hasWord s = true) : d'.hasWord s = true := by
  obtain ⟨u, hu, hshared⟩ := hasWord_iff.mp hd
  exact hasWord_iff.mpr ⟨u, h hu, hshared⟩

lemma strings_subset_add (front back : Document) (field : String × Bson) :
    Bson.stringsOfFields (front ++ back) ⊆ Bson.stringsOfFields (front ++ field :: back) := by
  simp only [Bson.stringsOfFields_eq, List.flatMap_append, List.flatMap_cons]
  intro u hu
  simp only [List.mem_append] at hu ⊢
  exact hu.imp_right .inr

def SharesWord (d : Document) (s : String) : Prop :=
  ∃ u, (Bson.string u).StandsIn (.document d) ∧ ∃ asked run,
    Text.IsRun s.toList asked ∧ Text.IsRun u.toList run ∧ Text.lower asked = Text.lower run

lemma hasWord_iff_shares : d.hasWord s = true ↔ d.SharesWord s := by
  have hstrings : Bson.stringsOfFields d = (Bson.document d).strings := by rw [Bson.strings]
  rw [hasWord_iff, hstrings]
  constructor
  · rintro ⟨u, hu, word, hword, hasked⟩
    obtain ⟨run, hrun, rfl⟩ := Text.mem_words_iff.mp hword
    obtain ⟨asked, hasked, hlower⟩ := Text.mem_words_iff.mp hasked
    exact ⟨u, (Bson.mem_strings_iff _).mp hu, asked, run, hasked, hrun, hlower⟩
  · rintro ⟨u, hu, asked, run, hasked, hrun, hlower⟩
    exact ⟨u, (Bson.mem_strings_iff _).mpr hu, Text.lower run, Text.mem_words_iff.mpr ⟨run, hrun, rfl⟩,
      Text.mem_words_iff.mpr ⟨asked, hasked, hlower⟩⟩

/-- A document is found by a search exactly if a longest stretch of letters and numbers in the search and one in a string
of the document, at any depth of lists and documents, are the same in lower case. So two searches that are put
together with a blank between them find what either of them finds, a search without letters and numbers finds
nothing, and a document that has a field more is found by all searches that found it before. -/
theorem word_shared (d : Document) (s t : String) :
    (d.hasWord s = true ↔ d.SharesWord s) ∧
    d.hasWord (s ++ " " ++ t) = (d.hasWord s || d.hasWord t) ∧
    ((∀ c ∈ s.toList, Text.isAlphanumeric c = false) → d.hasWord s = false) ∧
    ∀ front back field, d = front ++ back → d.hasWord s = true → hasWord (front ++ field :: back) s = true := by
  refine ⟨hasWord_iff_shares, ?_, fun h => ?_, ?_⟩
  · rw [Bool.eq_iff_iff, Bool.or_eq_true, hasWord_iff, hasWord_iff, hasWord_iff, Text.words_append]
    simp only [List.mem_append, and_or_left, exists_or]
  · rw [Bool.eq_false_iff, ne_eq, hasWord_iff, Text.words_of_no_letter h]
    simp
  · rintro front back field rfl
    exact hasWord_of_strings (strings_subset_add front back field)

theorem final_sigma_shared :
    let d : Document := [("notes", .array [.int32 7, .document [("title", .string "On ΟΔΟΣ-7")]])]
    d.SharesWord "(οδος)" ∧ d.hasWord ("?!" ++ " " ++ "(οδος)") = true ∧ d.hasWord "?!" = false ∧
      hasWord (("title", .string "Paths") :: d) "(οδος)" = true := by
  intro d
  have hfound : d.hasWord "(οδος)" = true := rfl
  obtain ⟨hshares, -, -, hadded⟩ := word_shared d "(οδος)" ""
  obtain ⟨-, hjoined, hsilent, -⟩ := word_shared d "?!" "(οδος)"
  have hmarks : ∀ c ∈ "?!".toList, Text.isAlphanumeric c = false :=
    List.forall_mem_cons.mpr ⟨by decide, List.forall_mem_singleton.mpr (by decide)⟩
  have hnone : d.hasWord "?!" = false := hsilent hmarks
  refine ⟨hshares.mp hfound, ?_, hnone, hadded [] d ("title", .string "Paths") rfl hfound⟩
  rw [hjoined, hnone, hfound]
  rfl

end Document

end DataGrid
