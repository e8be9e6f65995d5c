import DataGrid.Proofs.Operators
import DataGrid.Proofs.Pattern.Size

namespace DataGrid

namespace Matcher

lemma compile_regex (field source : String) (fold : Bool) : compile (.regex field source fold) =
    match Pattern.parse fold source with
    | .ok program => .ok ⟨[((source, fold), program)]⟩
    | .error fault => .error (invalidPattern source fault) := rfl

end Matcher

namespace Operator

open Bson

def textual : List Operator := [like, starts, ends]

/-- A text stands in a string where an operator looks for it, character by character up to case. -/
def Finds (op : Operator) (wanted s : String) : Prop :=
  match op with
  | like => folded wanted <:+: folded s
  | starts => folded wanted <+: folded s
  | ends => folded wanted <:+ folded s
  | _ => False

instance (op : Operator) (wanted s : String) : Decidable (op.Finds wanted s) :=
  match op with
  | like => inferInstanceAs (Decidable (folded wanted <:+: folded s))
  | starts => inferInstanceAs (Decidable (folded wanted <+: folded s))
  | ends => inferInstanceAs (Decidable (folded wanted <:+ folded s))
  | eq | neq | gt | lt | gte | lte | filled | notFilled | between | notBetween => inferInstanceAs (Decidable False)

variable {op : Operator} {path : String} {wanted : Bson}

lemma finds_self (hop : op ∈ textual) (s : String) : op.Finds s s := by
  obtain rfl | rfl | rfl : op = like ∨ op = starts ∨ op = ends := by simpa [textual] using hop
  · exact List.infix_rfl
  · exact List.prefix_rfl
  · exact List.suffix_rfl

lemma Finds.mem_folded {text s : String} {c : Char} (h : op.Finds text s) (hc : c ∈ folded text) :
    c ∈ folded s := by
  cases op with
  | like => exact List.IsInfix.mem hc h
  | starts => exact List.IsPrefix.mem hc h
  | ends => exact List.IsSuffix.mem hc h
  | _ => exact h.elim

lemma asks_iff_finds (hop : op ∈ textual) {actual : Option Bson} :
    op.Asks wanted actual ↔ HasString (op.Finds wanted.literal) actual := by
  obtain rfl | rfl | rfl : op = like ∨ op = starts ∨ op = ends := by simpa [textual] using hop
  all_goals rfl

def patternOf (op : Operator) (text : String) : Pattern := .seq (Pattern.quoted (op == starts) (op == ends) text.toList)

lemma fits_patternOf (op : Operator) {text : String} (h : text.length ≤ 14000) : (op.patternOf text).fits = true :=
  Pattern.fits_quoted _ _ (by rwa [String.length_toList])

def sourceOf (op : Operator) (text : String) : String :=
  String.ofList (Pattern.quotation (op == starts) (op == ends) text.toList)

lemma read_sourceOf (op : Operator) (text : String) : Pattern.read true (op.sourceOf text) = .ok (op.patternOf text) :=
  Pattern.read_quotation _ _ _

lemma parse_sourceOf (op : Operator) (text : String) : Pattern.parse true (op.sourceOf text) =
    if (op.patternOf text).fits then .ok (op.patternOf text).program else .error .size :=
  Pattern.parse_quotation _ _ _

lemma predicate_of_textual (hop : op ∈ textual) (path : String) (wanted : Bson) :
    op.predicate path wanted = .regex path (op.sourceOf wanted.literal) true := by
  have hsource : ∀ source : String,
      source.toList = Pattern.quotation (op == starts) (op == ends) wanted.literal.toList →
      Predicate.regex path source true = .regex path (op.sourceOf wanted.literal) true := by
    intro source h
    rw [sourceOf, ← h, String.ofList_toList]
  obtain rfl | rfl | rfl : op = like ∨ op = starts ∨ op = ends := by simpa [textual] using hop
  all_goals exact hsource _ (by simp [toList_quoted, Pattern.quotation])

lemma compile_textual (hop : op ∈ textual) (path : String) (wanted : Bson) :
    Matcher.compile (op.predicate path wanted) =
      if (op.patternOf wanted.literal).fits then
        .ok ⟨[((op.sourceOf wanted.literal, true), (op.patternOf wanted.literal).program)]⟩
      else .error (Matcher.invalidPattern (op.sourceOf wanted.literal) .size) := by
  rw [predicate_of_textual hop, Matcher.compile_regex, parse_sourceOf]
  cases (op.patternOf wanted.literal).fits <;> rfl

lemma admits_textual_iff (hop : op ∈ textual) {m : Matcher} (hm : Matcher.compile (op.predicate path wanted) = .ok m)
    (d : Document) : m.admits (op.predicate path wanted) d = true ↔
      HasString (op.Finds wanted.literal) (d.lookup path) := by
  rw [Matcher.admits, meets_predicate_iff op (Matcher.covers_of_compile hm), asks_iff_finds hop]

lemma exists_compile_textual (hop : op ∈ textual) (path : String) (wanted : Bson)
    (hshort : wanted.literal.length ≤ 14000) : ∃ m, Matcher.compile (op.predicate path wanted) = .ok m := by
  rw [compile_textual hop, if_pos (fits_patternOf op hshort)]
  exact ⟨_, rfl⟩

lemma error_of_textual (hop : op ∈ textual) {e : StoreError}
    (h : Matcher.compile (op.predicate path wanted) = .error e) :
    e = Matcher.invalidPattern (op.sourceOf wanted.literal) .size := by
  rw [compile_textual hop] at h
  split at h
  · cases h
  · exact (Except.error.inj h).symm

/-- What such an operator makes of a value is one pattern, and it can always be read. Unless it is too
large, as it is for no text of 14000 characters, there is a matcher for it, which lets pass what holds the
text of the value, at the start or at the end if the operator says so, and nothing else. -/
theorem text_found_literally (op : Operator) (hop : op ∈ textual) (path : String) (wanted : Bson) :
    let p := op.predicate path wanted
    let source := op.sourceOf wanted.literal
    let pattern := op.patternOf wanted.literal
    p = .regex path source true ∧ Pattern.read true source = .ok pattern ∧
      (wanted.literal.length ≤ 14000 → pattern.fits = true) ∧
      (pattern.fits = true → ∃ m, Matcher.compile p = .ok m ∧
        ∀ d, m.admits p d = true ↔ HasString (op.Finds wanted.literal) (d.lookup path)) ∧
      (pattern.fits = false → Matcher.compile p = .error (Matcher.invalidPattern source .size)) := by
  intro p source pattern
  have hcompile := compile_textual hop path wanted
  refine ⟨predicate_of_textual hop path wanted, read_sourceOf op _, fits_patternOf op, ?_, ?_⟩
  · intro hfits
    rw [if_pos hfits] at hcompile
    exact ⟨_, hcompile, admits_textual_iff hop hcompile⟩
  · intro hlarge
    rwa [if_neg (Bool.not_eq_true _ ▸ hlarge)] at hcompile

theorem found_at_start_of_title :
    let p := starts.predicate "title" (.string "a.b*\nß")
    starts ∈ textual ∧ ∃ m, Matcher.compile p = .ok m ∧
      m.admits p [("title", .array [.int32 1, .string "A.B*\nẞ and more"])] = true ∧
      m.admits p [("title", .string "axbb\nß")] = false := by
  intro p
  have hop : starts ∈ textual := by decide
  obtain ⟨-, -, hfits, hmatcher, -⟩ := text_found_literally starts hop "title" (.string "a.b*\nß")
  obtain ⟨m, hm, hadmits⟩ := hmatcher (hfits (by decide))
  refine ⟨hop, m, hm, (hadmits _).mpr ?_, Bool.eq_false_iff.mpr fun h => ?_⟩
  · refine ⟨"A.B*\nẞ and more", ?_, .inr ⟨[.int32 1, .string "A.B*\nẞ and more"], rfl, by simp⟩⟩
    change starts.Finds "a.b*\nß" _
    decide
  · obtain ⟨s, hs, hstring | ⟨items, hitems, -⟩⟩ := (hadmits _).mp h
    · have hlookup : Document.lookup [("title", .string "axbb\nß")] "title" = some (.string "axbb\nß") := rfl
      rw [hlookup, Option.some.injEq, string.injEq] at hstring
      subst hstring
      change starts.Finds "a.b*\nß" _ at hs
      revert hs
      decide
    · cases hitems

end Operator

end DataGrid
