import DataGrid.Proofs.Compilation
import DataGrid.Proofs.Filtering
import Mathlib.Data.List.TakeWhile

namespace DataGrid

namespace Search

def speaks (maxLength : Nat) (words : String) : Bool :=
  ((Text.trim words).toList.take maxLength).any fun c => !Text.isBlank c

lemma isEmpty_trimRight (cs : List Char) : (Text.trimRight cs).isEmpty = cs.all Text.isBlank := by
  rw [Bool.eq_iff_iff]
  simp [Text.trimRight, List.dropWhile_eq_nil_iff]

lemma isSome_sanitize (maxLength : Nat) (words : String) :
    (sanitize maxLength words).isSome = speaks maxLength words := by
  rw [sanitize, speaks, Text.trim, String.toList_ofList, isEmpty_trimRight, ← List.not_all_eq_any_not]
  split <;> simp_all

lemma isSome_token (plain : Option Json) (tree : Tree) (maxLength : Nat) :
    (token plain tree maxLength).isSome =
      (plain.any (fun value => speaks maxLength value.param) || tree.search.any (speaks maxLength)) := by
  have hplain : (plain.bind fun value => sanitize maxLength value.param).isSome =
      plain.any fun value => speaks maxLength value.param := by
    cases plain <;> simp [isSome_sanitize]
  have htree : (tree.search.bind (sanitize maxLength)).isSome = tree.search.any (speaks maxLength) := by
    cases tree.search <;> simp [isSome_sanitize]
  rw [← hplain, ← htree]
  unfold token
  generalize (plain.bind fun value => sanitize maxLength value.param) = plain
  generalize tree.search.bind (sanitize maxLength) = advanced
  cases tree.predicate.isSome <;> cases plain <;> cases advanced <;> rfl

end Search

namespace Schema

def unknownColumn (s : Schema) (column : String) : Bool :=
  column ≠ searchKey && (s.filterColumns.lookup column).isNone

def orderRefusal (s : Schema) (order : Option Order) : Option Error :=
  (order.filter fun o => (s.orderColumns.lookup o.key).isNone).map fun o => .orderColumn o.key s.name

def filterRefusal (s : Schema) (filter : List (String × Json)) : Option Error :=
  (filter.find? fun entry => s.unknownColumn entry.1).map fun entry => .filterColumn entry.1 s.name

def conditionRefusal (s : Schema) (groups : List (List Condition)) : Option Error :=
  (groups.flatten.find? fun condition => s.unknownColumn condition.column).map fun condition =>
    .filterColumn condition.column s.name

def searchRefusal (s : Schema) (filter : List (String × Json)) (groups : List (List Condition)) : Option Error :=
  if s.searchableColumns = [] ∧
      ((filter.lookup searchKey).any (fun value => Search.speaks s.settings.maxSearchLength value.param) ∨
        (Config.lastWords groups.flatten).any (Search.speaks s.settings.maxSearchLength))
  then some (.searchableColumn s.name) else none

def restrictRefusal (s : Schema) (filter : List (String × Json)) (groups : List (List Condition)) : Option Error :=
  s.filterRefusal filter <|> s.conditionRefusal groups <|> s.searchRefusal filter groups

def refusal (s : Schema) (r : Request) : Option Error :=
  s.orderRefusal r.orderBy <|> match r.advancedFilter with
    | .error e => some e
    | .ok groups => s.restrictRefusal r.filter groups

end Schema

namespace Config

open Outcome

variable {c : Config} {query : Query}

lemma failure?_filterColumn (column : String) : failure? (c.filterColumn column) =
    if (c.filterColumns.lookup column).isNone then some (.filterColumn column c.name) else none := by
  rw [filterColumn, filterColumn?]
  cases c.filterColumns.lookup column <;> rfl

lemma failure?_plainPart (column : String) (value : Json) :
    failure? (c.plainPart query column value) = failure? (c.filterColumn column) := by
  rw [plainPart_eq, failure?_map]

lemma failure?_advancedPart (condition : Condition) :
    failure? (c.advancedPart query condition) = failure? (c.filterColumn condition.column) := by
  rw [advancedPart_eq, failure?_map]

lemma findSome?_filterColumn {α : Type} (column : α → String) (xs : List α) :
    ((xs.filter fun x => column x ≠ searchKey).findSome? fun x => failure? (c.filterColumn (column x))) =
      (xs.find? fun x => c.unknownColumn (column x)).map fun x => .filterColumn (column x) c.name := by
  induction xs with
  | nil => rfl
  | cons x xs ih =>
    by_cases hk : column x = searchKey
    · rw [List.filter_cons_of_neg (by simpa using hk), ih,
        List.find?_cons_of_neg (by simp [Schema.unknownColumn, hk])]
    · rw [List.filter_cons_of_pos (by simpa using hk), List.findSome?_cons, failure?_filterColumn, ih]
      cases hl : c.filterColumns.lookup (column x) with
      | none => rw [List.find?_cons_of_pos (by simp [Schema.unknownColumn, hk, hl])]; rfl
      | some found => rw [List.find?_cons_of_neg (by simp [Schema.unknownColumn, hl])]; rfl

lemma failure?_plainFilter (filter : List (String × Json)) :
    failure? (c.plainFilter query filter) = c.filterRefusal filter := by
  rw [plainFilter_eq, failure?_map, plainParts_eq, failure?_map, failure?_mapM]
  simp only [failure?_plainPart]
  exact findSome?_filterColumn Prod.fst filter

lemma failure?_groupParts (group : List Condition) : failure? (c.groupParts query group) =
    (group.find? fun condition => c.unknownColumn condition.column).map fun condition =>
      .filterColumn condition.column c.name := by
  rw [groupParts_eq, failure?_map, failure?_mapM]
  simp only [failure?_advancedPart]
  exact findSome?_filterColumn Condition.column group

lemma failure?_advancedTree (groups : List (List Condition)) :
    failure? (c.advancedTree query groups) = c.conditionRefusal groups := by
  rw [advancedTree_eq, failure?_map, treeParts_eq, failure?_map, failure?_mapM, Schema.conditionRefusal,
    List.find?_flatten, List.map_findSome?]
  simp only [failure?_groupParts, Function.comp_def]

lemma search_of_advancedTree {groups : List (List Condition)} {tree : Tree}
    (h : c.advancedTree query groups = .ok tree) : tree.search = lastWords groups.flatten := by
  rw [advancedTree_eq, treeParts_eq] at h
  obtain ⟨_, hparts, rfl⟩ := map_ok_iff.mp h
  obtain ⟨_, _, rfl⟩ := map_ok_iff.mp hparts
  rfl

lemma failure?_searched (words : Option String) : failure? (c.searched query words) =
    if c.searchableColumns = [] ∧ words.isSome then some (.searchableColumn c.name) else none := by
  cases words with
  | none => simp [searched]
  | some words =>
    rw [searched, searchPredicates]
    cases c.searchableColumns <;> simp

lemma failure?_searched_words {filter : List (String × Json)} {groups : List (List Condition)} {tree : Tree}
    (h : tree.search = lastWords groups.flatten) :
    failure? (c.searched query (c.words filter tree)) = c.searchRefusal filter groups := by
  rw [failure?_searched, words, Search.isSome_token, h, Schema.searchRefusal]
  simp only [Bool.or_eq_true]

lemma failure?_restrict (filter : List (String × Json)) (groups : List (List Condition)) :
    failure? (c.restrict filter groups query) = c.restrictRefusal filter groups := by
  rw [restrict_eq, failure?_map, restrictions, failure?_bind, failure?_plainFilter, Schema.restrictRefusal]
  intro plain _
  rw [failure?_bind, failure?_advancedTree]
  intro tree htree
  rw [failure?_bind fun _ _ => failure?_pure _, failure?_searched_words (search_of_advancedTree htree)]
  cases c.searchRefusal filter groups <;> rfl

lemma failure?_countQueryFor {filter : List (String × Json)} {groups : List (List Condition)}
    (h : c.restrictRefusal filter groups = none) : failure? (c.countQueryFor filter groups query) = none := by
  rw [countQueryFor]
  split
  · rw [failure?_bind fun _ _ => failure?_pure _, failure?_restrict, h]
    rfl
  · rfl

lemma failure?_resolveOrder (r : Request) : failure? (c.resolveOrder r) = c.orderRefusal r.orderBy := by
  rw [resolveOrder]
  cases r.orderBy with
  | none => rfl
  | some o =>
    simp only [Order.resolve, orderColumn?]
    cases hl : c.orderColumns.lookup o.key <;> simp [Schema.orderRefusal, Option.filter, hl]

lemma failure?_compile (r : Request) : failure? (c.compile r) = c.refusal r := by
  rw [compile, failure?_bind, failure?_resolveOrder, Schema.refusal]
  intro order _
  cases hg : r.advancedFilter with
  | error e => rfl
  | ok groups =>
    -- what follows a restriction that went well goes well
    have hlater : ∀ query, c.restrict r.filter groups { Query.on c.collection with order } = .ok query →
        failure? (c.countQueryFor r.filter groups query >>= fun found =>
          pure (Compiled.mk (query.paginate (offset r.page r.limit) r.limit) found.1 found.2)) = none := by
      intro query hquery
      have hnone : c.restrictRefusal r.filter groups = none := by rw [← failure?_restrict, hquery]; rfl
      rw [failure?_bind fun _ _ => failure?_pure _, failure?_countQueryFor hnone]
      rfl
    change failure? (c.restrict r.filter groups { Query.on c.collection with order } >>= _) =
      c.restrictRefusal r.filter groups
    rw [failure?_bind hlater, failure?_restrict]
    cases c.restrictRefusal r.filter groups <;> rfl

lemma exists_compile_iff {r : Request} : (∃ q, c.compile r = .ok q) ↔ c.orderRefusal r.orderBy = none ∧
    ∃ groups, r.advancedFilter = .ok groups ∧ c.restrictRefusal r.filter groups = none := by
  have hrefusal : (∃ q, c.compile r = .ok q) ↔ c.refusal r = none := by
    rw [← failure?_compile]
    cases c.compile r <;> simp
  rw [hrefusal, Schema.refusal, Option.orElse_eq_orElse, Option.orElse_eq_or, Option.or_eq_none_iff]
  cases r.advancedFilter <;> simp

lemma malformed_of_advancedFilter (r : Request) :
    (∃ groups, r.advancedFilter = .ok groups) ∨ ∃ why, r.advancedFilter = .error (.malformedCondition why) := by
  rw [Request.advancedFilter]
  split
  case h_1 groups _ =>
    cases groups.mapM Condition.groupOfJson with
    | error why => exact .inr ⟨why, rfl⟩
    | ok found => exact .inl ⟨found, rfl⟩
  case h_2 => exact .inl ⟨[], rfl⟩

/-- A grid refuses a request for its first fault: an order that is not allowed, an advanced filter that
cannot be read, a plain filter and then a condition on a column that is not allowed, a search without
columns to search. A request without a fault compiles. What the grid has of its own conditions and ways
to count changes nothing of that, and filters fail with one query as with any other. -/
theorem compile_refusal (c : Config) (r : Request) :
    (match c.refusal r with
      | some e => c.compile r = .error e
      | none => ∃ q, c.compile r = .ok q) ∧
    ((∃ groups, r.advancedFilter = .ok groups) ∨ ∃ why, r.advancedFilter = .error (.malformedCondition why)) ∧
    (∀ overrides countQuery, failure? ({ c with overrides, countQuery }.compile r) = failure? (c.compile r)) ∧
    ∀ filter groups query query',
      failure? (c.restrict filter groups query) = failure? (c.restrict filter groups query') := by
  refine ⟨?_, malformed_of_advancedFilter r, fun overrides countQuery => ?_, fun filter groups query query' => ?_⟩
  · rw [← failure?_compile]
    cases c.compile r with
    | error e => rfl
    | ok q => exact ⟨q, rfl⟩
  · rw [failure?_compile, failure?_compile]
  · rw [failure?_restrict, failure?_restrict]

end Config

end DataGrid
