import DataGrid.Proofs.LastEntry
import DataGrid.Proofs.Trimming
import Mathlib.Data.List.Forall2
import Mathlib.Data.String.Basic

namespace DataGrid.Params

def letter (c : Char) : Char := if c == '-' then '_' else c.toLower

def isStroke (c : Char) : Bool := c == '-' || c == '_'

def SameLetter (c d : Char) : Prop := c.toLower = d.toLower ∨ (isStroke c = true ∧ isStroke d = true)

def SameName (name other : String) : Prop :=
  ∃ front core back front' core' back', name.toList = front ++ (core ++ back) ∧
    other.toList = front' ++ (core' ++ back') ∧ (∀ c ∈ front ++ back ++ front' ++ back', Text.isBlank c = true) ∧
    List.Forall₂ SameLetter core core'

lemma toNat_toLower (c : Char) : c.toLower.toNat = if 65 ≤ c.toNat ∧ c.toNat ≤ 90 then c.toNat + 32 else c.toNat := by
  unfold Char.toLower
  split
  case isTrue h =>
    have hcapital : 65 ≤ c.toNat ∧ c.toNat ≤ 90 := by simpa [UInt32.le_iff_toNat_le] using h
    rw [if_pos hcapital]
    change (c.val + 32).toNat = c.toNat + 32
    rw [UInt32.toNat_add]
    change (c.toNat + 32) % 2 ^ 32 = c.toNat + 32
    omega
  case isFalse h =>
    have hsmall : ¬(65 ≤ c.toNat ∧ c.toNat ≤ 90) := by simpa [UInt32.le_iff_toNat_le] using h
    rw [if_neg hsmall]

lemma toNat_letter (c : Char) : (letter c).toNat =
    if c.toNat = 45 then 95 else if 65 ≤ c.toNat ∧ c.toNat ≤ 90 then c.toNat + 32 else c.toNat := by
  rw [letter]
  by_cases h : c = '-'
  · subst h
    rfl
  · have hnat : c.toNat ≠ 45 := fun he => h (Char.toNat_inj.mp he)
    rw [if_neg (by simpa using h), if_neg hnat, toNat_toLower]

lemma letter_letter (c : Char) : letter (letter c) = letter c := by
  rw [← Char.toNat_inj, toNat_letter (letter c), toNat_letter c]
  split_ifs <;> omega

lemma letter_toLower (c : Char) : letter c.toLower = letter c := by
  rw [← Char.toNat_inj, toNat_letter, toNat_letter, toNat_toLower]
  split_ifs <;> omega

lemma isBlank_letter (c : Char) : Text.isBlank (letter c) = Text.isBlank c := by
  rw [Bool.eq_iff_iff]
  simp only [Text.isBlank, toNat_letter, Bool.or_eq_true, Bool.and_eq_true, decide_eq_true_eq, beq_iff_eq]
  split_ifs <;> omega

lemma letter_eq_iff (c d : Char) : letter c = letter d ↔ SameLetter c d := by
  have hstroke : ∀ c, isStroke c = true ↔ c.toNat = 45 ∨ c.toNat = 95 := by
    intro c
    simp [isStroke, ← Char.toNat_inj]
  rw [SameLetter, hstroke, hstroke, ← Char.toNat_inj, ← Char.toNat_inj, toNat_letter, toNat_letter, toNat_toLower,
    toNat_toLower]
  split_ifs <;> omega

lemma normalize_eq (name : String) :
    normalize name = String.ofList (Text.trimRight (Text.trimLeft (name.toList.map letter))) := by
  have hblank : Text.isBlank ∘ letter = Text.isBlank := funext isBlank_letter
  have htrim : Text.trimRight (Text.trimLeft (name.toList.map letter)) =
      (Text.trimRight (Text.trimLeft name.toList)).map letter := by
    simp only [Text.trimRight, Text.trimLeft, List.dropWhile_map, ← List.map_reverse, hblank]
  rw [normalize, Text.toList_trim, htrim]
  rfl

lemma normalize_normalize (name : String) : normalize (normalize name) = normalize name := by
  have htrimmed : Text.IsTrimmed (normalize name).toList := by
    rw [normalize_eq, String.toList_ofList]
    exact Text.isTrimmed_trimmed _
  have hletters : (normalize name).toList.map letter = (normalize name).toList := by
    rw [normalize, String.toList_ofList, List.map_map]
    exact List.map_congr_left fun c _ => letter_letter c
  rw [normalize_eq (normalize name), hletters, htrimmed.1, htrimmed.2, String.ofList_toList]

lemma normalize_asciiLower (name : String) : normalize (Text.asciiLower name) = normalize name := by
  rw [normalize_eq, normalize_eq, Text.asciiLower, String.toList_ofList, List.map_map]
  have hletters : letter ∘ Char.toLower = letter := funext letter_toLower
  rw [hletters]

lemma map_letter_eq_iff (cs ds : List Char) : cs.map letter = ds.map letter ↔ List.Forall₂ SameLetter cs ds := by
  rw [← List.forall₂_eq_eq_eq, List.forall₂_map_left_iff, List.forall₂_map_right_iff]
  simp only [letter_eq_iff]

lemma normalize_between {front core back : List Char} {name : String} (hname : name.toList = front ++ (core ++ back))
    (hfront : ∀ c ∈ front, Text.isBlank c = true) (hback : ∀ c ∈ back, Text.isBlank c = true) :
    normalize name = String.ofList (Text.trimRight (Text.trimLeft (core.map letter))) := by
  have hblank : ∀ cs : List Char, (∀ c ∈ cs, Text.isBlank c = true) → ∀ c ∈ cs.map letter, Text.isBlank c = true := by
    intro cs hcs c hc
    obtain ⟨c', hc', rfl⟩ := List.mem_map.mp hc
    rw [isBlank_letter]
    exact hcs c' hc'
  rw [normalize_eq, hname, List.map_append, List.map_append, Text.trim_between (hblank front hfront) (hblank back hback)]

lemma normalize_eq_iff (name other : String) : normalize name = normalize other ↔ SameName name other := by
  constructor
  · intro h
    obtain ⟨front, back, hfront, hback, hname⟩ := Text.exists_eq_between name.toList
    obtain ⟨front', back', hfront', hback', hother⟩ := Text.exists_eq_between other.toList
    refine ⟨front, _, back, front', _, back', hname, hother, ?_, (map_letter_eq_iff _ _).mp ?_⟩
    · simp only [List.mem_append]
      rintro c (((hc | hc) | hc) | hc)
      · exact hfront c hc
      · exact hback c hc
      · exact hfront' c hc
      · exact hback' c hc
    · rw [← Text.toList_trim, ← Text.toList_trim]
      exact String.ofList_injective h
  · rintro ⟨front, core, back, front', core', back', hname, hother, hblanks, hcore⟩
    simp only [List.mem_append] at hblanks
    rw [normalize_between hname (fun c hc => hblanks c (by simp [hc])) fun c hc => hblanks c (by simp [hc]),
      normalize_between hother (fun c hc => hblanks c (by simp [hc])) fun c hc => hblanks c (by simp [hc]),
      (map_letter_eq_iff core core').mpr hcore]

structure Ordered (p : Params) : Prop where
  sorted : (Fields.names p.entries).Pairwise (· < ·)
  normal : ∀ name ∈ Fields.names p.entries, normalize name = name

lemma mem_names_insertSorted (name value : String) (entries : List (String × String)) (other : String) :
    other ∈ Fields.names (insertSorted name value entries) ↔ other = name ∨ other ∈ Fields.names entries := by
  induction entries with
  | nil => simp [insertSorted, Fields.names]
  | cons entry entries ih =>
    obtain ⟨k, v⟩ := entry
    simp only [Fields.names] at ih
    by_cases hlt : name < k
    · simp [insertSorted, Fields.names, hlt]
    · by_cases hk : k = name
      · simp [insertSorted, Fields.names, hk]
      · simp [insertSorted, Fields.names, hlt, hk, ih, or_left_comm]

lemma sorted_insertSorted {entries : List (String × String)} (h : (Fields.names entries).Pairwise (· < ·))
    (name value : String) : (Fields.names (insertSorted name value entries)).Pairwise (· < ·) := by
  induction entries with
  | nil => simp [insertSorted, Fields.names]
  | cons entry entries ih =>
    obtain ⟨k, v⟩ := entry
    obtain ⟨hk, hsorted⟩ := List.pairwise_cons.mp h
    by_cases hlt : name < k
    · -- the new name comes before all others
      rw [insertSorted, if_pos hlt]
      refine List.pairwise_cons.mpr ⟨fun other hother => ?_, h⟩
      rcases List.mem_cons.mp hother with rfl | hrest
      · exact hlt
      · exact hlt.trans (hk other hrest)
    · by_cases he : k = name
      · rw [insertSorted, if_neg hlt, if_pos he, ← he]
        exact h
      · rw [insertSorted, if_neg hlt, if_neg he]
        refine List.pairwise_cons.mpr ⟨fun other hother => ?_, ih hsorted⟩
        rcases (mem_names_insertSorted name value entries other).mp hother with rfl | hrest
        · exact lt_of_le_of_ne (not_lt.mp hlt) he
        · exact hk other hrest

lemma Ordered.empty : empty.Ordered := ⟨List.Pairwise.nil, by simp [Params.empty, Fields.names]⟩

lemma Ordered.insert {p : Params} (h : p.Ordered) (name value : String) : (p.insert name value).Ordered := by
  refine ⟨sorted_insertSorted h.sorted (normalize name) value, fun other hother => ?_⟩
  rcases (mem_names_insertSorted (normalize name) value p.entries other).mp hother with rfl | hold
  · exact normalize_normalize name
  · exact h.normal other hold

lemma Ordered.insertAll {p : Params} (h : p.Ordered) (pairs : List (String × String)) : (p.insertAll pairs).Ordered := by
  induction pairs generalizing p with
  | nil => exact h
  | cons pair pairs ih => exact ih (h.insert pair.1 pair.2)

lemma get?_insertAll_entries {q : Params} (h : q.Ordered) (p : Params) (name : String) :
    (p.insertAll q.entries).get? name = (q.get? name).or (p.get? name) := by
  -- names that are kept are normal, so that looking for one needs no normalising
  have hkept : last? (valueIf fun k => normalize k = normalize name) q.entries =
      last? (valueIf (· = normalize name)) q.entries := by
    refine last?_congr fun entry hentry => ?_
    rw [valueIf, valueIf, h.normal entry.1 (List.mem_map_of_mem hentry)]
  rw [get?_insertAll, hkept, Fields.last?_eq_lookup (h.sorted.imp fun hlt => hlt.ne)]
  rfl

end DataGrid.Params
