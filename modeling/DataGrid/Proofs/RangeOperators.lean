import DataGrid.Proofs.TextOperators

namespace DataGrid

namespace Bson

variable {a bound : Bson} {o : Ordering}

lemma isArray_of_compare? (h : compare? a bound = some o) : bound.isArray = false := by
  cases bound with
  | array items => cases a <;> cases h
  | _ => rfl

lemma fieldCompares_of_not_array (passes : Ordering → Bool) (ha : a.isArray = false) (bound : Bson) :
    fieldCompares passes (some a) bound = (compare? a bound).any passes := by
  cases a with
  | array items => cases ha
  | _ => rfl

lemma fieldEquals_of_compare? (ha : a.isArray = false) (h : compare? a bound = some o) :
    fieldEquals (some a) bound = (o == .eq) := by
  have hequal : fieldEquals (some a) bound = equalValue a bound := by
    cases a with
    | array items => cases ha
    | _ => rfl
  rw [hequal, equalValue, h]

end Bson

namespace Operator

open Bson

variable {op : Operator} {path : String} {wanted a bound : Bson} {d : Document} {o : Ordering}

lemma patterns_of_not_textual (hop : op ∉ textual) : (op.predicate path wanted).patterns = [] := by
  cases op with
  | like | starts | ends => exact absurd (by decide) hop
  | eq => exact patterns_equality path wanted
  | neq => exact patterns_inequality path wanted
  | between =>
    rw [predicate]
    cases bounds? wanted with
    | some bounds => rfl
    | none => exact patterns_equality path wanted
  | notBetween =>
    rw [predicate]
    cases bounds? wanted with
    | some bounds => rfl
    | none => exact patterns_inequality path wanted
  | _ => rfl

lemma exists_compile_of_not_textual (hop : op ∉ textual) (path : String) (wanted : Bson) :
    ∃ m, Matcher.compile (op.predicate path wanted) = .ok m := by
  cases hm : Matcher.compile (op.predicate path wanted) with
  | ok m => exact ⟨m, rfl⟩
  | error e =>
    obtain ⟨k, hk, -⟩ := Matcher.error_of_collect _ hm
    rw [patterns_of_not_textual hop] at hk
    cases hk

lemma holds_predicate_iff (hop : op ∉ textual) :
    (op.predicate path wanted).holds d = true ↔ op.Asks wanted (d.lookup path) := by
  obtain ⟨m, hm⟩ := exists_compile_of_not_textual hop path wanted
  rw [← Matcher.admits_of_compile hm]
  exact meets_predicate_iff op (Matcher.covers_of_compile hm)

lemma equals_of_compare? (ha : a.isArray = false) (h : compare? a bound = some o) :
    Equals bound (some a) ↔ o = .eq := by
  have hequal : Equals bound (some a) ↔ fieldEquals (some a) bound = true := by
    cases bound with
    | array items => cases isArray_of_compare? h
    | _ => rfl
  rw [hequal, fieldEquals_of_compare? ha h, beq_iff_eq]

def passing : Operator → List Ordering
  | eq => [.eq]
  | lt => [.lt]
  | gt => [.gt]
  | lte => [.lt, .eq]
  | gte => [.gt, .eq]
  | _ => []

lemma asks_iff_passing (hop : op ∈ [eq, lt, gt, lte, gte]) (ha : a.isArray = false) (h : compare? a bound = some o) :
    op.Asks bound (some a) ↔ o ∈ op.passing := by
  simp only [List.mem_cons, List.not_mem_nil, or_false] at hop
  rcases hop with rfl | rfl | rfl | rfl | rfl
  · exact (equals_of_compare? ha h).trans List.mem_singleton.symm
  all_goals
    simp only [Asks, fieldCompares_of_not_array _ ha, h, Option.any_some, passing]
    cases o <;> decide

lemma holds_iff_passing (hop : op ∈ [eq, lt, gt, lte, gte]) (hfield : d.lookup path = some a)
    (ha : a.isArray = false) (h : compare? a bound = some o) :
    (op.predicate path bound).holds d = true ↔ o ∈ op.passing := by
  have htextual : ∀ op ∈ [eq, lt, gt, lte, gte], op ∉ textual := by decide
  rw [holds_predicate_iff (htextual op hop), hfield]
  exact asks_iff_passing hop ha h

lemma not_holds_of_incomparable (hop : op ∈ [lte, gte])
    (h : ∀ a, d.lookup path = some a → a.isArray = false ∧ compare? a bound = none) :
    ¬(op.predicate path bound).holds d = true := by
  have hnone : ∀ passes, fieldCompares passes (d.lookup path) bound = false := by
    intro passes
    cases hfield : d.lookup path with
    | none => rfl
    | some a =>
      obtain ⟨ha, hincomparable⟩ := h a hfield
      rw [fieldCompares_of_not_array passes ha, hincomparable, Option.any_none]
  have htextual : ∀ op ∈ [lte, gte], op ∉ textual := by decide
  rw [holds_predicate_iff (htextual op hop)]
  simp only [List.mem_cons, List.not_mem_nil, or_false] at hop
  rcases hop with rfl | rfl <;> simp [Asks, hnone]

lemma holds_between_iff (path : String) (low high : Bson) (rest : List Bson) (d : Document) :
    (between.predicate path (array (low :: high :: rest))).holds d = true ↔
      (gte.predicate path low).holds d = true ∧ (lte.predicate path high).holds d = true := by
  simp [predicate, bounds?, Predicate.holds, Predicate.meets, Predicate.meetsAll]

lemma holds_notBetween_iff (path : String) (low high : Bson) (rest : List Bson) (d : Document) :
    (notBetween.predicate path (array (low :: high :: rest))).holds d = true ↔
      (lte.predicate path low).holds d = true ∨ (gte.predicate path high).holds d = true := by
  simp [predicate, bounds?, Predicate.holds, Predicate.meets, Predicate.meetsSome]

lemma passes_range_or_opposite (o o' : Ordering) :
    ((o ∈ gte.passing ∧ o' ∈ lte.passing) ∨ (o ∈ lte.passing ∨ o' ∈ gte.passing)) ∧
      ((o ∈ gte.passing ∧ o' ∈ lte.passing) ∧ (o ∈ lte.passing ∨ o' ∈ gte.passing) ↔
        (o ≠ .lt ∧ o' ≠ .gt) ∧ (o = .eq ∨ o' = .eq)) := by
  cases o <;> cases o' <;> decide

lemma existsUnique_passing (o : Ordering) : ∃! op, op ∈ [lt, eq, gt] ∧ o ∈ op.passing := by
  have hexists : ∃ op ∈ [lt, eq, gt], o ∈ op.passing := by cases o <;> decide
  have hunique : ∀ op ∈ [lt, eq, gt], ∀ op' ∈ [lt, eq, gt], o ∈ op.passing → o ∈ op'.passing → op' = op := by
    cases o <;> decide
  obtain ⟨op, hop, ho⟩ := hexists
  exact ⟨op, ⟨hop, ho⟩, fun op' h => hunique op hop op' h.1 ho h.2⟩

lemma passing_orEqual (o : Ordering) : (o ∈ gte.passing ↔ o ∈ gt.passing ∨ o ∈ eq.passing) ∧
    (o ∈ lte.passing ↔ o ∈ lt.passing ∨ o ∈ eq.passing) := by
  cases o <;> decide

lemma bounds?_eq_none (h : ∀ low high rest, wanted ≠ array (low :: high :: rest)) : bounds? wanted = none := by
  unfold bounds?
  split
  case h_1 low high rest => exact absurd rfl (h low high rest)
  case h_2 => rfl

/-- A range is met by what meets both of its bounds, and its opposite by what meets one of them from outside. A
value that compares with both bounds meets one of the two, and both exactly if it keeps to the bounds and equals
one; a value that compares with neither, or none at all, meets neither. Next to a single bound it meets one of
three operators. Without two bounds a range is an equality, and its opposite is its complement. -/
theorem ranges_meet_at_bounds (field : String) (d : Document) :
    let met (op : Operator) (wanted : Bson) : Prop := (op.predicate field wanted).holds d = true
    (∀ op ∉ textual, ∀ wanted, ∃ m, Matcher.compile (op.predicate field wanted) = .ok m ∧
      (m.admits (op.predicate field wanted) d = true ↔ met op wanted)) ∧
    (∀ low high rest,
      let range := array (low :: high :: rest)
      (met between range ↔ met gte low ∧ met lte high) ∧
      (met notBetween range ↔ met lte low ∨ met gte high) ∧
      (∀ a o o', d.lookup field = some a → a.isArray = false → compare? a low = some o → compare? a high = some o' →
        (met between range ∨ met notBetween range) ∧
        (met between range ∧ met notBetween range ↔ (o ≠ .lt ∧ o' ≠ .gt) ∧ (o = .eq ∨ o' = .eq))) ∧
      ((∀ a, d.lookup field = some a → a.isArray = false ∧ compare? a low = none ∧ compare? a high = none) →
        ¬met between range ∧ ¬met notBetween range)) ∧
    (∀ a bound o, d.lookup field = some a → a.isArray = false → compare? a bound = some o →
      (met lt bound ↔ o = .lt) ∧ (met eq bound ↔ o = .eq) ∧ (met gt bound ↔ o = .gt) ∧
      (∃! op, op ∈ [lt, eq, gt] ∧ met op bound) ∧
      (met gte bound ↔ met gt bound ∨ met eq bound) ∧ (met lte bound ↔ met lt bound ∨ met eq bound)) ∧
    ∀ wanted, (∀ low high rest, wanted ≠ array (low :: high :: rest)) →
      (met between wanted ↔ met eq wanted) ∧ (met notBetween wanted ↔ met neq wanted) ∧
      (met notBetween wanted ↔ ¬met between wanted) := by
  intro met
  refine ⟨fun op hop wanted => ?_, fun low high rest => ?_, fun a bound o hfield ha ho => ?_, fun wanted hwanted => ?_⟩
  · obtain ⟨m, hm⟩ := exists_compile_of_not_textual hop field wanted
    exact ⟨m, hm, by rw [Matcher.admits_of_compile hm]⟩
  · intro range
    have hbetween : met between range ↔ met gte low ∧ met lte high := holds_between_iff field low high rest d
    have hopposite : met notBetween range ↔ met lte low ∨ met gte high := holds_notBetween_iff field low high rest d
    refine ⟨hbetween, hopposite, fun a o o' hfield ha ho ho' => ?_, fun h => ?_⟩
    · have hlow : ∀ op ∈ [lte, gte], (met op low ↔ o ∈ op.passing) :=
        fun op hop => holds_iff_passing (List.mem_append_right [eq, lt, gt] hop) hfield ha ho
      have hhigh : ∀ op ∈ [lte, gte], (met op high ↔ o' ∈ op.passing) :=
        fun op hop => holds_iff_passing (List.mem_append_right [eq, lt, gt] hop) hfield ha ho'
      rw [hbetween, hopposite, hlow gte (by decide), hlow lte (by decide), hhigh gte (by decide), hhigh lte (by decide)]
      exact passes_range_or_opposite o o'
    · have hlow : ∀ op ∈ [lte, gte], ¬met op low := fun op hop =>
        not_holds_of_incomparable hop fun a hfield => ⟨(h a hfield).1, (h a hfield).2.1⟩
      have hhigh : ∀ op ∈ [lte, gte], ¬met op high := fun op hop =>
        not_holds_of_incomparable hop fun a hfield => ⟨(h a hfield).1, (h a hfield).2.2⟩
      rw [hbetween, hopposite, not_or]
      exact ⟨fun hboth => hlow gte (by decide) hboth.1, hlow lte (by decide), hhigh gte (by decide)⟩
  · have hbound : ∀ op ∈ [eq, lt, gt, lte, gte], (met op bound ↔ o ∈ op.passing) :=
      fun op hop => holds_iff_passing hop hfield ha ho
    have hone : (∃! op, op ∈ [lt, eq, gt] ∧ met op bound) ↔ ∃! op, op ∈ [lt, eq, gt] ∧ o ∈ op.passing := by
      have hsub : ∀ op ∈ [lt, eq, gt], op ∈ [eq, lt, gt, lte, gte] := by decide
      exact existsUnique_congr fun op => and_congr_right fun hop => hbound op (hsub op hop)
    rw [hone, hbound lt (by decide), hbound eq (by decide), hbound gt (by decide), hbound gte (by decide),
      hbound lte (by decide)]
    exact ⟨List.mem_singleton, List.mem_singleton, List.mem_singleton, existsUnique_passing o, passing_orEqual o⟩
  · have hmet : ∀ op ∈ [eq, neq, between, notBetween], (met op wanted ↔ op.Asks wanted (d.lookup field)) := by
      have htextual : ∀ op ∈ [eq, neq, between, notBetween], op ∉ textual := by decide
      exact fun op hop => holds_predicate_iff (htextual op hop)
    rw [hmet eq (by decide), hmet neq (by decide), hmet between (by decide), hmet notBetween (by decide)]
    simp only [Asks, bounds?_eq_none hwanted, and_self, iff_self]

theorem five_on_lower_bound :
    let range : Bson := .array [.int64 5, .int32 9]
    let single : Bson := .array [.int64 5]
    let met (op : Operator) (wanted : Bson) (d : Document) : Prop := (op.predicate "views" wanted).holds d = true
    (met between range [("views", .int32 5)] ∧ met notBetween range [("views", .int32 5)]) ∧
      (met between single [("views", .int32 5)] ∧ ¬met notBetween single [("views", .int32 5)]) ∧
      ¬met between range [] ∧ ¬met notBetween range [] := by
  intro range single met
  obtain ⟨-, hranges, -, hsingles⟩ := ranges_meet_at_bounds "views" [("views", .int32 5)]
  obtain ⟨-, -, hfive, -⟩ := hranges (.int64 5) (.int32 9) []
  obtain ⟨-, -, -, hmissing⟩ := (ranges_meet_at_bounds "views" []).2.1 (.int64 5) (.int32 9) []
  obtain ⟨hequality, -, hcomplement⟩ := hsingles single (by simp [single])
  have hsingle : met between single [("views", .int32 5)] := hequality.mpr (by decide)
  have hfield : Document.lookup [("views", .int32 5)] "views" = some (.int32 5) := rfl
  have hboth := (hfive _ .eq .lt hfield rfl rfl rfl).2.mpr (by decide)
  have habsent : Document.lookup [] "views" = none := rfl
  exact ⟨hboth, ⟨hsingle, fun h => hcomplement.mp h hsingle⟩, hmissing (by simp [habsent])⟩

end Operator

end DataGrid
