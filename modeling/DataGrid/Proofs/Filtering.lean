import DataGrid.Filter.Plain
import DataGrid.Filter.Words
import DataGrid.Proofs.Matching

namespace DataGrid

namespace Bson

def Absent (actual : Option Bson) : Prop := actual = none ∨ actual = some .null

lemma fieldIsNull_iff {actual : Option Bson} : fieldIsNull actual = true ↔ Absent actual := by
  cases actual with
  | none => simp [fieldIsNull, Absent]
  | some value => cases value <;> simp [fieldIsNull, Absent, isNull]

lemma coerceItems_ofItems (items : List Json) :
    coerceItems (ofItems items) = items.map fun item => coerceDates (ofJson item) := by
  induction items with
  | nil => rfl
  | cons item items ih => rw [ofItems, coerceItems, ih, List.map_cons]

end Bson

namespace Column

/-- A field stands in a column's comparison, or else in equality, to a value. -/
def Compares (column : Column) (wanted : Bson) (actual : Option Bson) : Prop :=
  match column.comparison with
  | none => Bson.fieldEquals actual wanted = true
  | some comparison => Bson.fieldCompares comparison.relation.passes actual wanted = true

def Asks (column : Column) (value : Json) (actual : Option Bson) : Prop :=
  match value with
  | .null => Bson.Absent actual
  | .array items => ∃ item ∈ items, Bson.fieldEquals actual (Bson.coerceDates (Bson.ofJson item)) = true
  | .string s =>
    if s = "__not_null__" then ¬Bson.Absent actual
    else column.Compares (Bson.coerceDates (.string s)) actual
  | value => column.Compares (Bson.coerceDates (Bson.ofJson value)) actual

lemma meets_comparison_iff {table : PatternTable} {d : Document} (column : Column) (wanted : Bson) :
    (match column.comparison with
      | some comparison => comparison.predicate column.path wanted
      | none => .eq column.path wanted).meets table d = true ↔ column.Compares wanted (d.lookup column.path) := by
  cases hc : column.comparison with
  | none => simp [Compares, hc, Predicate.meets, Relation.holds]
  | some comparison => cases comparison <;> simp [Compares, hc, Predicate.meets, Relation.holds, Comparison.predicate,
      Comparison.relation]

lemma meets_plainPredicate_iff {table : PatternTable} {d : Document} (column : Column) (value : Json) :
    (Config.plainPredicate column value).meets table d = true ↔ column.Asks value (d.lookup column.path) := by
  cases value with
  | null => rw [Config.plainPredicate, Predicate.meets, Bson.fieldIsNull_iff, Asks]
  | array items =>
    rw [Config.plainPredicate, Predicate.meets, Bson.coerceItems_ofItems, List.any_map, List.any_eq_true, Asks]
    rfl
  | string s =>
    by_cases hs : s = notNullMark
    · subst hs
      simp [Config.plainPredicate, Json.string?, Predicate.meets, Asks, notNullMark, ← Bson.fieldIsNull_iff]
    · have hne : (Json.string s).string? ≠ some notNullMark := by simpa [Json.string?] using hs
      rw [Config.plainPredicate, if_neg hne, Asks, if_neg (show ¬s = "__not_null__" from hs)]
      · exact column.meets_comparison_iff _
      all_goals simp
  | _ =>
    rw [Config.plainPredicate, if_neg (by simp [Json.string?]), Asks]
    · exact column.meets_comparison_iff _
    all_goals simp

end Column

namespace Config

variable {c : Config} {query : Query}

lemma filterColumn_ok_iff {column : String} {found : Column} :
    c.filterColumn column = .ok found ↔ c.filterColumn? column = some found := by
  cases hc : c.filterColumn? column <;> simp [filterColumn, hc]

lemma map_filterColumn_ok_iff {column : String} {f : Column → Predicate} {p : Predicate} :
    (c.filterColumn column).map f = .ok p ↔ ∃ found, c.filterColumn? column = some found ∧ f found = p := by
  simp only [Outcome.map_ok_iff, filterColumn_ok_iff]

def ownOr (c : Config) (query : Query) (column : String) (value : Bson) (path : String) (op : Option Operator)
    (usual : Predicate) : Option Predicate :=
  match c.override? column with
  | some override => override query value path op
  | none => some usual

lemma plainPart_eq (column : String) (value : Json) :
    c.plainPart query column value = (c.filterColumn column).map fun found =>
      c.ownOr query column (.ofJson value) found.path none (plainPredicate found value) := by
  simp only [plainPart, ownOr]
  cases c.filterColumn column with
  | error e => rfl
  | ok found => cases c.override? column <;> rfl

lemma advancedPart_eq (condition : Condition) :
    c.advancedPart query condition = (c.filterColumn condition.column).map fun found =>
      c.ownOr query condition.column (Bson.coerceDates (.ofJson condition.value)) found.path (some condition.operator)
        (condition.operator.predicate found.path (Bson.coerceDates (.ofJson condition.value))) := by
  simp only [advancedPart, ownOr]
  cases c.filterColumn condition.column with
  | error e => rfl
  | ok found => cases c.override? condition.column <;> rfl

lemma searchPart_eq (words path : String) : c.searchPart query words path =
    c.ownOr query path (.string words) path (some .like) (Operator.like.predicate path (.string words)) := rfl

lemma ownOr_of_no_override {column : String} (ho : c.override? column = none) (value : Bson) (path : String)
    (op : Option Operator) (usual : Predicate) : c.ownOr query column value path op usual = some usual := by
  rw [ownOr, ho]

lemma override?_of_single {column column' : String} {own override : Override} (h : c.overrides = [(column, own)])
    (hl : c.override? column' = some override) : column' = column ∧ override = own := by
  rw [override?, h, List.lookup_eq_some_iff] at hl
  obtain ⟨front, back, he, -⟩ := hl
  have hmem : (column', override) ∈ [(column, own)] := he ▸ List.mem_append_right front List.mem_cons_self
  simpa using hmem

lemma plainPart_of_no_override {column : String} (ho : c.override? column = none) (value : Json) :
    c.plainPart query column value =
      ((c.filterColumn column).map fun found => plainPredicate found value).map some := by
  simp only [plainPart_eq, ownOr_of_no_override ho]
  cases c.filterColumn column <;> rfl

lemma advancedPart_of_no_override {condition : Condition} (ho : c.override? condition.column = none) :
    c.advancedPart query condition = ((c.filterColumn condition.column).map fun found =>
      condition.operator.predicate found.path (Bson.coerceDates (Bson.ofJson condition.value))).map some := by
  simp only [advancedPart_eq, ownOr_of_no_override ho]
  cases c.filterColumn condition.column <;> rfl

lemma plainParts_eq (filter : List (String × Json)) :
    c.plainParts query filter = ((filter.filter fun entry => entry.1 ≠ searchKey).mapM
      fun entry => c.plainPart query entry.1 entry.2).map fun parts => parts.flatMap Option.toList := by
  induction filter with
  | nil => rfl
  | cons entry filter ih =>
    obtain ⟨column, value⟩ := entry
    by_cases hk : column = searchKey
    · simp [plainParts, hk, ih]
    · rw [plainParts, if_neg hk, ih, List.filter_cons_of_pos (by simpa using hk), List.mapM_cons]
      cases c.plainPart query column value with
      | error e => rfl
      | ok part =>
        cases (filter.filter fun entry => entry.1 ≠ searchKey).mapM fun entry =>
          c.plainPart query entry.1 entry.2 <;> rfl

def lastWords (conditions : List Condition) : Option String :=
  (conditions.filter fun condition => condition.column = searchKey).getLast?.map fun condition =>
    condition.value.param

lemma lastWords_append (conditions later : List Condition) :
    lastWords (conditions ++ later) = (lastWords later <|> lastWords conditions) := by
  simp only [lastWords, List.filter_append, List.getLast?_append]
  cases (later.filter fun condition => condition.column = searchKey).getLast? <;> simp

lemma groupParts_eq (group : List Condition) :
    c.groupParts query group = ((group.filter fun condition => condition.column ≠ searchKey).mapM
      (c.advancedPart query)).map fun parts => (parts.flatMap Option.toList, lastWords group) := by
  induction group with
  | nil => rfl
  | cons condition group ih =>
    by_cases hk : condition.column = searchKey
    · rw [groupParts, if_pos hk, ih, List.filter_cons_of_neg (by simpa using hk)]
      have hw : lastWords (condition :: group) = (lastWords group <|> some condition.value.param) := by
        simpa [lastWords, hk] using lastWords_append [condition] group
      cases (group.filter fun condition => condition.column ≠ searchKey).mapM (c.advancedPart query) with
      | error e => rfl
      | ok parts => simp [Except.map, hw, bind, Except.bind, pure, Except.pure]
    · have hw : lastWords (condition :: group) = lastWords group := by simp [lastWords, hk]
      rw [groupParts, if_neg hk, ih, List.filter_cons_of_pos (by simpa using hk), List.mapM_cons, hw]
      cases c.advancedPart query condition with
      | error e => rfl
      | ok part =>
        cases (group.filter fun condition => condition.column ≠ searchKey).mapM (c.advancedPart query) <;> rfl

lemma treeParts_eq (groups : List (List Condition)) :
    c.treeParts query groups = (groups.mapM (c.groupParts query)).map fun found =>
      ((found.filter fun g => !g.1.isEmpty).map fun g => .anyOf g.1, lastWords groups.flatten) := by
  induction groups with
  | nil => rfl
  | cons group groups ih =>
    rw [treeParts, ih, List.mapM_cons, List.flatten_cons, lastWords_append]
    cases hg : c.groupParts query group with
    | error e => rfl
    | ok found =>
      have hw : found.2 = lastWords group := by
        rw [groupParts_eq] at hg
        obtain ⟨_, _, rfl⟩ := Outcome.map_ok_iff.mp hg
        rfl
      cases groups.mapM (c.groupParts query) with
      | error e => rfl
      | ok others =>
        cases he : found.1.isEmpty <;> simp [Except.map, bind, Except.bind, pure, Except.pure, hw, he]

lemma plainFilter_eq (filter : List (String × Json)) :
    c.plainFilter query filter = (c.plainParts query filter).map Predicate.allOf? := by
  rw [plainFilter]
  cases c.plainParts query filter with
  | error e => rfl
  | ok parts => cases parts <;> rfl

lemma advancedTree_eq (groups : List (List Condition)) : c.advancedTree query groups =
    (c.treeParts query groups).map fun found => ⟨Predicate.allOf? found.1, found.2⟩ := by
  rw [advancedTree]
  cases c.treeParts query groups <;> rfl

/-- Every own condition of a grid makes the same of a value with any query before it. -/
def OverridesQueryless (c : Config) : Prop :=
  ∀ column override, c.override? column = some override → ∀ query query' value field op,
    override query value field op = override query' value field op

lemma ownOr_congr (ho : c.OverridesQueryless) (query query' : Query) (column : String) (value : Bson) (path : String)
    (op : Option Operator) (usual : Predicate) :
    c.ownOr query column value path op usual = c.ownOr query' column value path op usual := by
  rw [ownOr, ownOr]
  cases hc : c.override? column with
  | none => rfl
  | some override => exact ho column override hc query query' value path op

lemma plainFilter_congr (ho : c.OverridesQueryless) (query query' : Query) (filter : List (String × Json)) :
    c.plainFilter query filter = c.plainFilter query' filter := by
  simp only [plainFilter_eq, plainParts_eq, plainPart_eq, ownOr_congr ho query query']

lemma advancedTree_congr (ho : c.OverridesQueryless) (query query' : Query) (groups : List (List Condition)) :
    c.advancedTree query groups = c.advancedTree query' groups := by
  have hpart : c.advancedPart query = c.advancedPart query' := by
    funext condition
    simp only [advancedPart_eq, ownOr_congr ho query query']
  have hgroup : c.groupParts query = c.groupParts query' := by
    funext group
    rw [groupParts_eq, groupParts_eq, hpart]
  rw [advancedTree_eq, advancedTree_eq, treeParts_eq, treeParts_eq, hgroup]

end Config

end DataGrid
