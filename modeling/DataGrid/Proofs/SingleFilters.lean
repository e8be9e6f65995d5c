import DataGrid.Proofs.NullFilters

namespace DataGrid

namespace Json

def item? : Json → Nat → Option Json
  | array items, i => items[i]?
  | _, _ => none

def itemAt? (value : Json) (place : List Nat) : Option Json := place.foldlM item? value

end Json

namespace Bson

def item? : Bson → Nat → Option Bson
  | array items, i => items[i]?
  | _, _ => none

def itemAt? (value : Bson) (place : List Nat) : Option Bson := place.foldlM item? value

def dated (s : String) : Bson := (Instant.parse? s).elim (.string s) fun t => .dateTime t.millis

lemma coerceDates_string (s : String) : coerceDates (.string s) = dated s := by
  rw [coerceDates, dated]
  cases Instant.parse? s <;> rfl

lemma item?_dated (s : String) (i : Nat) : (dated s).item? i = none := by
  rw [dated]
  cases Instant.parse? s <;> rfl

lemma item?_coerceDates (value : Json) (i : Nat) :
    (coerceDates (ofJson value)).item? i = (value.item? i).map fun item => coerceDates (ofJson item) := by
  cases value with
  | array items => rw [ofJson, coerceDates, coerceItems_ofItems, item?, Json.item?, List.getElem?_map]
  | string s =>
    rw [ofJson, coerceDates_string, item?_dated]
    rfl
  | int n =>
    rw [ofJson, ofInt]
    split <;> rfl
  | _ => rfl

lemma itemAt?_coerceDates (value : Json) (place : List Nat) :
    (coerceDates (ofJson value)).itemAt? place = (value.itemAt? place).map fun item => coerceDates (ofJson item) := by
  induction place generalizing value with
  | nil => rfl
  | cons i place ih =>
    rw [itemAt?, Json.itemAt?, List.foldlM_cons, List.foldlM_cons, item?_coerceDates]
    cases value.item? i with
    | none => rfl
    | some item => exact ih item

lemma coerceDates_ne_array {value : Json} (h : ∀ items, value ≠ .array items) (items : List Bson) :
    coerceDates (ofJson value) ≠ .array items := by
  cases value with
  | array values => exact absurd rfl (h values)
  | string s =>
    rw [ofJson, coerceDates_string, dated]
    cases Instant.parse? s <;> simp
  | int n =>
    rw [ofJson, ofInt]
    split <;> simp [coerceDates]
  | _ => simp [ofJson, coerceDates]

end Bson

open Bson

lemma Operator.equality_of_ne_array {wanted : Bson} (h : ∀ items, wanted ≠ .array items) (field : String) :
    equality field wanted = .eq field wanted := by
  cases wanted with
  | array items => exact absurd rfl (h items)
  | _ => rfl

def Comparison.operator : Comparison → Operator
  | gt => .gt
  | gte => .gte
  | lt => .lt
  | lte => .lte

lemma Comparison.predicate_eq (comparison : Comparison) (field : String) (wanted : Bson) :
    comparison.predicate field wanted = comparison.operator.predicate field wanted := by
  cases comparison <;> rfl

namespace Column

def operatorFor (column : Column) : Json → Operator
  | .array _ => .eq
  | _ => column.comparison.elim .eq Comparison.operator

lemma operatorFor_of_ne_array (column : Column) {value : Json} (h : ∀ items, value ≠ .array items) :
    column.operatorFor value = column.comparison.elim .eq Comparison.operator := by
  cases value with
  | array items => exact absurd rfl (h items)
  | _ => rfl

lemma compared_eq (column : Column) {wanted : Bson} (h : ∀ items, wanted ≠ .array items) :
    (match column.comparison with
      | some comparison => comparison.predicate column.path wanted
      | none => .eq column.path wanted) =
      (column.comparison.elim .eq Comparison.operator).predicate column.path wanted := by
  cases column.comparison with
  | none => exact (Operator.equality_of_ne_array h column.path).symm
  | some comparison => exact comparison.predicate_eq column.path wanted

end Column

namespace Config

variable {c : Config} {query : Query} {column : String} {found : Column} {value : Json}

lemma plainPredicate_eq (found : Column) (hnull : value ≠ .null) (hmark : value ≠ .string notNullMark) :
    plainPredicate found value = (found.operatorFor value).predicate found.path (coerceDates (.ofJson value)) := by
  by_cases hlist : ∃ items, value = .array items
  · obtain ⟨items, rfl⟩ := hlist
    rfl
  · have hne : ∀ items, value ≠ .array items := fun items he => hlist ⟨items, he⟩
    have hstring : value.string? ≠ some notNullMark := by
      cases value with
      | string s => simpa [Json.string?] using hmark
      | _ => simp [Json.string?]
    rw [found.operatorFor_of_ne_array hne, ← found.compared_eq (coerceDates_ne_array hne)]
    unfold plainPredicate
    split
    · exact absurd rfl hnull
    · exact absurd rfl (hne _)
    · exact if_neg hstring

lemma plainFilter_unknown (hcolumn : c.filterColumn? column = none) (hk : column ≠ searchKey) :
    c.plainFilter query [(column, value)] = .error (.filterColumn column c.name) := by
  rw [plainFilter, plainParts, if_neg hk, plainPart, filterColumn, hcolumn]
  rfl

lemma advancedTree_unknown (hcolumn : c.filterColumn? column = none) (hk : column ≠ searchKey) (op : Operator) :
    c.advancedTree query [[⟨column, op, value⟩]] = .error (.filterColumn column c.name) := by
  rw [advancedTree, treeParts, groupParts, if_neg hk, advancedPart, filterColumn, hcolumn]
  rfl

/-- A plain filter on a column, for any value but null and the mark for not null, is the advanced filter of one
condition with the operator that the column stands for, on the same path and with the same dates. Either refuses
a column that the grid does not list, save that of the search, which neither looks up. -/
theorem single_filters_agree (c : Config) (query query' : Query) (column : String) (value : Json)
    (hnull : value ≠ .null) (hmark : value ≠ .string "__not_null__") :
    let plain := c.plainFilter query [(column, value)]
    let advanced (op : Operator) := c.advancedTree query' [[⟨column, op, value⟩]]
    let wanted := coerceDates (.ofJson value)
    (∀ found, c.filterColumn? column = some found → c.override? column = none →
      let op := found.operatorFor value
      plain = (advanced op).map Tree.predicate ∧
        (column ≠ searchKey → plain = .ok (some (op.predicate found.path wanted)))) ∧
    (c.filterColumn? column = none → column ≠ searchKey →
      plain = .error (.filterColumn column c.name) ∧ ∀ op, advanced op = .error (.filterColumn column c.name)) ∧
    (column = searchKey → plain = .ok none ∧ ∀ op, advanced op = .ok ⟨none, some value.param⟩) ∧
    ∀ place s, value.itemAt? place = some (.string s) →
      wanted.itemAt? place = some ((Instant.parse? s).elim (.string s) fun t => .dateTime t.millis) := by
  intro plain advanced wanted
  refine ⟨fun found hcolumn ho => ?_, fun hcolumn hk => ?_, ?_, fun place s hs => ?_⟩
  · by_cases hk : column = searchKey
    · subst hk
      exact ⟨rfl, fun hk => absurd rfl hk⟩
    · have hplain : plain = .ok (some ((found.operatorFor value).predicate found.path wanted)) := by
        rw [← plainPredicate_eq found hnull hmark]
        exact plainFilter_single hcolumn ho hk value
      refine ⟨?_, fun _ => hplain⟩
      rw [hplain]
      exact (congrArg (Except.map Tree.predicate) (advancedTree_single hcolumn ho hk value)).symm
  · exact ⟨plainFilter_unknown hcolumn hk, advancedTree_unknown hcolumn hk⟩
  · rintro rfl
    exact ⟨rfl, fun op => advancedTree_search value⟩
  · have hitem := itemAt?_coerceDates value place
    rw [hs, Option.map_some, ofJson, coerceDates_string] at hitem
    exact hitem

theorem days_compared_or_listed :
    let c := (Config.new "Articles" "articles").withFilterColumn "since" "released >="
    let plain (value : Json) := c.plainFilter (.on "articles") [("since", value)]
    let advanced (op : Operator) (value : Json) := c.advancedTree (.on "articles") [[⟨"since", op, value⟩]]
    let days : Json := .array [.string "May", .array [.string "2024-03-01"]]
    c.filterColumn? "since" = some ⟨"released", some .gte⟩ ∧ c.override? "since" = none ∧
      plain (.string "2024-03-01") = (advanced .gte (.string "2024-03-01")).map Tree.predicate ∧
      plain days = (advanced .eq days).map Tree.predicate ∧
      (coerceDates (.ofJson days)).itemAt? [1, 0] = some (.dateTime 1709251200000) := by
  intro c plain advanced days
  have hcolumn : c.filterColumn? "since" = some ⟨"released", some .gte⟩ := by decide
  obtain ⟨hday, -⟩ :=
    single_filters_agree c (.on "articles") (.on "articles") "since" (.string "2024-03-01") (by simp) (by simp)
  obtain ⟨hdays, -, -, hdate⟩ :=
    single_filters_agree c (.on "articles") (.on "articles") "since" days (by simp [days]) (by simp [days])
  refine ⟨hcolumn, rfl, (hday _ hcolumn rfl).1, (hdays _ hcolumn rfl).1, ?_⟩
  have hparsed : Instant.parse? "2024-03-01" = some ⟨1709251200, 0⟩ := by decide
  rw [hdate [1, 0] "2024-03-01" rfl, hparsed]
  rfl

/-- The column of the search need not be listed. -/
theorem search_column_not_refused :
    let c := Config.new "Articles" "articles"
    c.filterColumn? searchKey = none ∧
      c.plainFilter (.on "articles") [(searchKey, .string "rust")] = .ok none ∧
      c.advancedTree (.on "articles") [[⟨searchKey, .eq, .string "rust"⟩]] = .ok ⟨none, some "rust"⟩ :=
  ⟨rfl, rfl, rfl⟩

end Config

end DataGrid
