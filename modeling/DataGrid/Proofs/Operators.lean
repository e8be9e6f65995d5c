import DataGrid.Proofs.Filtering
import DataGrid.Proofs.Matchers
import DataGrid.Proofs.Pattern.Standing
import DataGrid.Query.Operator

namespace DataGrid

namespace Bson

def HasString (property : String → Prop) (actual : Option Bson) : Prop :=
  ∃ s, property s ∧ (actual = some (.string s) ∨ ∃ items, actual = some (.array items) ∧ .string s ∈ items)

lemma stringMatches_iff {p : Pattern.Program} {value : Bson} :
    stringMatches p value = true ↔ ∃ s, p.findsIn s = true ∧ value = .string s := by
  cases value <;> simp [stringMatches]

lemma fieldMatches_iff {p : Pattern.Program} {actual : Option Bson} :
    fieldMatches p actual = true ↔ HasString (fun s => p.findsIn s = true) actual := by
  cases actual with
  | none => simp [fieldMatches, HasString]
  | some value =>
    cases value with
    | array items =>
      simp only [fieldMatches, List.any_eq_true, stringMatches_iff, HasString, Option.some.injEq, array.injEq,
        reduceCtorEq, false_or, exists_eq_left']
      constructor
      · rintro ⟨_, hmem, s, hs, rfl⟩
        exact ⟨s, hs, hmem⟩
      · rintro ⟨s, hs, hmem⟩
        exact ⟨_, hmem, s, hs, rfl⟩
    | _ => simp [fieldMatches, stringMatches_iff, HasString]

end Bson

namespace Operator

open Bson

def Equals (wanted : Bson) (actual : Option Bson) : Prop :=
  match wanted with
  | .array items => ∃ item ∈ items, fieldEquals actual item = true
  | value => fieldEquals actual value = true

def folded (s : String) : List Char := s.toList.map Text.fold

def Asks (op : Operator) (wanted : Bson) (actual : Option Bson) : Prop :=
  match op with
  | eq => Equals wanted actual
  | neq => ¬Equals wanted actual
  | gt => fieldCompares (· == .gt) actual wanted = true
  | gte => fieldCompares (· != .lt) actual wanted = true
  | lt => fieldCompares (· == .lt) actual wanted = true
  | lte => fieldCompares (· != .gt) actual wanted = true
  | like => HasString (fun s => folded wanted.literal <:+: folded s) actual
  | starts => HasString (fun s => folded wanted.literal <+: folded s) actual
  | ends => HasString (fun s => folded wanted.literal <:+ folded s) actual
  | filled => ¬Absent actual ∧ ¬fieldEquals actual wanted = true
  | notFilled => Absent actual ∨ fieldEquals actual wanted = true
  | between =>
    match bounds? wanted with
    | some (low, high) => fieldCompares (· != .lt) actual low = true ∧ fieldCompares (· != .gt) actual high = true
    | none => Equals wanted actual
  | notBetween =>
    match bounds? wanted with
    | some (low, high) => fieldCompares (· != .gt) actual low = true ∨ fieldCompares (· != .lt) actual high = true
    | none => ¬Equals wanted actual

lemma passes_eq (r : Relation) : r.passes = match r with
    | .eq => (· == .eq)
    | .ne => (· != .eq)
    | .gt => (· == .gt)
    | .gte => (· != .lt)
    | .lt => (· == .lt)
    | .lte => (· != .gt) := by
  cases r <;> funext o <;> cases o <;> rfl

variable {m : Matcher} {d : Document} {path : String} {wanted : Bson}

lemma meets_equality_iff {table : PatternTable} :
    (equality path wanted).meets table d = true ↔ Equals wanted (d.lookup path) := by
  cases wanted <;> simp [equality, Predicate.meets, Relation.holds, Equals]

lemma meets_inequality_iff {table : PatternTable} :
    (inequality path wanted).meets table d = true ↔ ¬Equals wanted (d.lookup path) := by
  cases wanted <;> simp [inequality, Predicate.meets, Relation.holds, Equals]

lemma meets_quotation_iff (atStart atEnd : Bool) (cs : List Char) {source : String}
    (hsource : source.toList = Pattern.quotation atStart atEnd cs) (hm : m.Covers [(source, true)]) :
    (Predicate.regex path source true).meets m.pattern? d = true ↔
      HasString (fun s => Pattern.Stands atStart atEnd cs s.toList) (d.lookup path) := by
  obtain ⟨program, hparse, hheld⟩ := hm _ (List.mem_singleton_self _)
  rw [← String.ofList_toList (s := source), hsource, Pattern.parse_quotation] at hparse
  split at hparse
  · obtain rfl := Except.ok.inj hparse
    simp only [Predicate.meets, hheld, Option.any_some, fieldMatches_iff, Pattern.findsIn_quoted_iff]
  · cases hparse

lemma toList_quoted (value : Bson) : (quoted value).toList = Pattern.escapeChars value.literal.toList := by
  rw [quoted, Pattern.escape, String.toList_ofList]

lemma patterns_equality (path : String) (wanted : Bson) : (equality path wanted).patterns = [] := by
  cases wanted <;> rfl

lemma patterns_inequality (path : String) (wanted : Bson) : (inequality path wanted).patterns = [] := by
  cases wanted <;> rfl

lemma patterns_predicate (op : Operator) (path : String) (wanted : Bson) :
    ∀ k ∈ (op.predicate path wanted).patterns, Pattern.IsQuotation k := by
  have hquotation : ∀ (atStart atEnd : Bool) (source : String),
      source.toList = Pattern.quotation atStart atEnd wanted.literal.toList →
      ∀ k ∈ (Predicate.regex path source true).patterns, Pattern.IsQuotation k := by
    intro atStart atEnd source hsource k hk
    obtain rfl := List.mem_singleton.mp hk
    exact ⟨rfl, atStart, atEnd, _, hsource⟩
  cases op with
  | like => exact hquotation false false _ (by simp [toList_quoted, Pattern.quotation])
  | starts => exact hquotation true false _ (by simp [toList_quoted, Pattern.quotation])
  | ends => exact hquotation false true _ (by simp [toList_quoted, Pattern.quotation])
  | eq => simp [predicate, patterns_equality]
  | neq => simp [predicate, patterns_inequality]
  | between =>
    rw [predicate]
    cases bounds? wanted <;> simp [patterns_equality, Predicate.patterns, Predicate.patternsOf]
  | notBetween =>
    rw [predicate]
    cases bounds? wanted <;> simp [patterns_inequality, Predicate.patterns, Predicate.patternsOf]
  | _ => simp [predicate, Predicate.patterns, Predicate.patternsOf]

lemma meets_predicate_iff (op : Operator) (hm : m.Covers (op.predicate path wanted).patterns) :
    (op.predicate path wanted).meets m.pattern? d = true ↔ op.Asks wanted (d.lookup path) := by
  cases op with
  | eq => exact meets_equality_iff
  | neq => exact meets_inequality_iff
  | gt | gte | lt | lte => simp [predicate, Predicate.meets, Relation.holds, passes_eq, Asks]
  | like =>
    rw [predicate,
      meets_quotation_iff false false wanted.literal.toList (by simp [toList_quoted, Pattern.quotation]) hm]
    simp only [Pattern.Stands.anywhere_iff, Asks, folded]
  | starts =>
    rw [predicate,
      meets_quotation_iff true false wanted.literal.toList (by simp [toList_quoted, Pattern.quotation]) hm]
    simp only [Pattern.Stands.atStart_iff, Asks, folded]
  | ends =>
    rw [predicate,
      meets_quotation_iff false true wanted.literal.toList (by simp [toList_quoted, Pattern.quotation]) hm]
    simp only [Pattern.Stands.atEnd_iff, Asks, folded]
  | filled =>
    simp [predicate, Predicate.meets, Predicate.meetsAll, Relation.holds, Asks, ← fieldIsNull_iff]
  | notFilled =>
    simp [predicate, Predicate.meets, Predicate.meetsSome, Relation.holds, Asks, ← fieldIsNull_iff]
  | between =>
    simp only [predicate, Asks]
    cases hb : bounds? wanted with
    | some bounds => simp [Predicate.meets, Predicate.meetsAll, Relation.holds, passes_eq]
    | none => exact meets_equality_iff
  | notBetween =>
    simp only [predicate, Asks]
    cases hb : bounds? wanted with
    | some bounds => simp [Predicate.meets, Predicate.meetsSome, Relation.holds, passes_eq]
    | none => exact meets_inequality_iff

end Operator

end DataGrid
