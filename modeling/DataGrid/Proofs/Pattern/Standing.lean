import DataGrid.Proofs.Pattern.Blocks
import DataGrid.Proofs.Pattern.Literal

namespace DataGrid.Pattern

def Stands (atStart atEnd : Bool) (wanted cs : List Char) : Prop :=
  ∃ start found rest, cs = start ++ (found ++ rest) ∧ found.map Text.fold = wanted.map Text.fold ∧
    (atStart = true → start = []) ∧ (atEnd = true → rest = [])

namespace Stands

variable {wanted cs : List Char}

lemma anywhere_iff : Stands false false wanted cs ↔ wanted.map Text.fold <:+: cs.map Text.fold := by
  simp only [Stands, List.IsInfix, Bool.false_eq_true, false_implies, and_true]
  constructor
  · rintro ⟨start, found, rest, rfl, hf⟩
    exact ⟨start.map Text.fold, rest.map Text.fold, by simp [hf]⟩
  · rintro ⟨_, _, h⟩
    obtain ⟨front, rest, rfl, hfront, -⟩ := List.map_eq_append_iff.mp h.symm
    obtain ⟨start, found, rfl, -, hf⟩ := List.map_eq_append_iff.mp hfront
    exact ⟨start, found, rest, List.append_assoc start found rest, hf⟩

lemma atStart_iff : Stands true false wanted cs ↔ wanted.map Text.fold <+: cs.map Text.fold := by
  simp only [Stands, List.IsPrefix, Bool.false_eq_true, false_implies, forall_const, and_true]
  constructor
  · rintro ⟨start, found, rest, rfl, hf, rfl⟩
    exact ⟨rest.map Text.fold, by simp [hf]⟩
  · rintro ⟨_, h⟩
    obtain ⟨found, rest, rfl, hf, -⟩ := List.map_eq_append_iff.mp h.symm
    exact ⟨[], found, rest, rfl, hf, rfl⟩

lemma atEnd_iff : Stands false true wanted cs ↔ wanted.map Text.fold <:+ cs.map Text.fold := by
  simp only [Stands, List.IsSuffix, Bool.false_eq_true, false_implies, forall_const, true_and]
  constructor
  · rintro ⟨start, found, rest, rfl, hf, rfl⟩
    exact ⟨start.map Text.fold, by simp [hf]⟩
  · rintro ⟨_, h⟩
    obtain ⟨start, found, rfl, -, hf⟩ := List.map_eq_append_iff.mp h.symm
    exact ⟨start, found, [], by simp, hf, rfl⟩

end Stands

lemma all_folded_iff {wanted : List Char} {before : Option Char} {found rest : List Char} :
    Reading.all (readings (wanted.map (char true))) before found rest ↔
      found.map Text.fold = wanted.map Text.fold := by
  induction wanted generalizing before found with
  | nil => simp [readings, Reading.all, Reading.nothing]
  | cons w wanted ih =>
    simp only [List.map_cons, readings, Reading.all, reading, Reading.andThen, Reading.one, ih, if_pos, beq_iff_eq]
    constructor
    · rintro ⟨_, back, rfl, ⟨c, rfl, hc⟩, hback⟩
      simp [hc, hback]
    · intro hfound
      obtain ⟨c, back, rfl, hc, hback⟩ := List.map_eq_cons_iff.mp hfound
      exact ⟨[c], back, rfl, ⟨c, rfl, hc⟩, hback⟩

lemma reading_quoted_iff {atStart atEnd : Bool} {wanted : List Char} {before : Option Char} {found rest : List Char} :
    (seq (quoted atStart atEnd wanted)).reading before found rest ↔ found.map Text.fold = wanted.map Text.fold ∧
      (atStart = true → before = none) ∧ (atEnd = true → rest = []) := by
  have hstart : ∀ before found rest, Reading.all (readings (if atStart then [.place .textStart] else []))
      before found rest ↔ found = [] ∧ (atStart = true → before = none) := by
    intro before found rest
    cases atStart <;> simp [readings, Reading.all, reading, Reading.andThen_nothing, Reading.nothing, Place.holds]
  have hend : ∀ before found rest, Reading.all (readings (if atEnd then [.place .textEnd] else []))
      before found rest ↔ found = [] ∧ (atEnd = true → rest = []) := by
    intro before found rest
    cases atEnd <;> simp [readings, Reading.all, reading, Reading.andThen_nothing, Reading.nothing, Place.holds]
  rw [reading, quoted, readings_append, readings_append, Reading.all_append, Reading.all_append]
  simp only [Reading.andThen, hstart, hend, all_folded_iff]
  constructor
  · rintro ⟨_, _, rfl, ⟨rfl, hs⟩, found, _, rfl, hfound, rfl, he⟩
    exact ⟨by simpa using hfound, hs, he⟩
  · rintro ⟨hfound, hs, he⟩
    exact ⟨[], found, rfl, ⟨rfl, hs⟩, found, [], by simp, hfound, rfl, he⟩

lemma findsIn_quoted_iff (atStart atEnd : Bool) (wanted : List Char) (s : String) :
    (seq (quoted atStart atEnd wanted)).program.findsIn s = true ↔ Stands atStart atEnd wanted s.toList := by
  simp only [findsIn_iff_reading, reading_quoted_iff, Stands, List.getLast?_eq_none_iff]

def IsQuotation (k : String × Bool) : Prop :=
  k.2 = true ∧ ∃ atStart atEnd cs, k.1.toList = quotation atStart atEnd cs

lemma fault_of_quotation {k : String × Bool} {fault : Fault} (hk : IsQuotation k)
    (h : parse k.2 k.1 = .error fault) : fault = .size := by
  obtain ⟨hfold, atStart, atEnd, cs, hsource⟩ := hk
  rw [hfold, ← String.ofList_toList (s := k.1), hsource, parse_quotation] at h
  split at h
  · cases h
  · exact (Except.error.inj h).symm

end DataGrid.Pattern
