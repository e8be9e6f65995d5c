import DataGrid.Proofs.Compilation
import DataGrid.Proofs.Filtering
import DataGrid.Proofs.Pages
import DataGrid.Proofs.Requests

/-! No request makes a query look at a field that its grid does not allow: what a query names are paths
of filter columns, searchable columns, and for the order a path of an order column. -/

namespace DataGrid

namespace Predicate

mutual

def leaves : Predicate → List Predicate
  | and parts => leavesOf parts
  | or parts => leavesOf parts
  | p => [p]

def leavesOf : List Predicate → List Predicate
  | [] => []
  | p :: ps => p.leaves ++ leavesOf ps

end

def field? : Predicate → Option String
  | compare _ field _ => some field
  | isIn field _ => some field
  | notIn field _ => some field
  | regex field _ _ => some field
  | isNull field => some field
  | notNull field => some field
  | and _ => none
  | or _ => none
  | text _ => none

lemma leavesOf_eq (ps : List Predicate) : leavesOf ps = ps.flatMap leaves := by
  induction ps with
  | nil => rfl
  | cons p ps ih => rw [leavesOf, ih, List.flatMap_cons]

def accepts (table : PatternTable) : Predicate → Option Bson → Bool
  | compare r _ v, actual => r.holds actual v
  | isIn _ values, actual => values.any (Bson.fieldEquals actual)
  | notIn _ values, actual => !values.any (Bson.fieldEquals actual)
  | regex _ source fold, actual => (table source fold).any fun p => Bson.fieldMatches p actual
  | isNull _, actual => Bson.fieldIsNull actual
  | notNull _, actual => !Bson.fieldIsNull actual
  | _, _ => false

section Fields

variable {table : PatternTable} {d d' : Document}

lemma meets_field {leaf : Predicate} {path : String} (h : leaf.field? = some path) :
    leaf.meets table d = leaf.accepts table (d.lookup path) := by
  cases leaf <;> cases h <;> rfl

mutual

theorem meets_eq_of_accepts (hwords : ∀ search, d.hasWord search = d'.hasWord search) : ∀ p : Predicate,
    (∀ leaf ∈ p.leaves, ∀ path, leaf.field? = some path →
      leaf.accepts table (d.lookup path) = leaf.accepts table (d'.lookup path)) →
    p.meets table d = p.meets table d'
  | .and parts, h => by
    rw [meets, meets]
    exact meetsAll_eq_of_accepts hwords parts (by rwa [leaves] at h)
  | .or parts, h => by
    rw [meets, meets]
    exact meetsSome_eq_of_accepts hwords parts (by rwa [leaves] at h)
  | .text search, _ => hwords search
  | .compare .., h | .isIn .., h | .notIn .., h | .regex .., h | .isNull _, h | .notNull _, h => by
    rw [meets_field rfl, meets_field rfl]
    exact h _ (List.mem_singleton_self _) _ rfl

theorem meetsAll_eq_of_accepts (hwords : ∀ search, d.hasWord search = d'.hasWord search) : ∀ ps : List Predicate,
    (∀ leaf ∈ leavesOf ps, ∀ path, leaf.field? = some path →
      leaf.accepts table (d.lookup path) = leaf.accepts table (d'.lookup path)) →
    meetsAll table d ps = meetsAll table d' ps
  | [], _ => rfl
  | p :: ps, h => by
    rw [leavesOf, List.forall_mem_append] at h
    rw [meetsAll, meetsAll, meets_eq_of_accepts hwords p h.1, meetsAll_eq_of_accepts hwords ps h.2]

theorem meetsSome_eq_of_accepts (hwords : ∀ search, d.hasWord search = d'.hasWord search) : ∀ ps : List Predicate,
    (∀ leaf ∈ leavesOf ps, ∀ path, leaf.field? = some path →
      leaf.accepts table (d.lookup path) = leaf.accepts table (d'.lookup path)) →
    meetsSome table d ps = meetsSome table d' ps
  | [], _ => rfl
  | p :: ps, h => by
    rw [leavesOf, List.forall_mem_append] at h
    rw [meetsSome, meetsSome, meets_eq_of_accepts hwords p h.1, meetsSome_eq_of_accepts hwords ps h.2]

end

end Fields

variable {P : Predicate → Prop} {ps : List Predicate}

lemma forall_leavesOf_iff : (∀ leaf ∈ leavesOf ps, P leaf) ↔ ∀ p ∈ ps, ∀ leaf ∈ p.leaves, P leaf := by
  rw [leavesOf_eq, List.forall_mem_flatMap]

lemma forall_leaves_allOf_iff : (∀ leaf ∈ (allOf ps).leaves, P leaf) ↔ ∀ p ∈ ps, ∀ leaf ∈ p.leaves, P leaf := by
  unfold allOf
  split
  · rw [List.forall_mem_singleton]
  · rw [leaves, forall_leavesOf_iff]

lemma forall_leaves_anyOf_iff : (∀ leaf ∈ (anyOf ps).leaves, P leaf) ↔ ∀ p ∈ ps, ∀ leaf ∈ p.leaves, P leaf := by
  unfold anyOf
  split
  · rw [List.forall_mem_singleton]
  · rw [leaves, forall_leavesOf_iff]

lemma forall_leaves_allOf?_iff :
    (∀ p ∈ (allOf? ps).toList, ∀ leaf ∈ p.leaves, P leaf) ↔ ∀ p ∈ ps, ∀ leaf ∈ p.leaves, P leaf := by
  cases ps with
  | nil => rfl
  | cons p ps => rw [allOf?_cons, Option.toList_some, List.forall_mem_singleton, forall_leaves_allOf_iff]

def IsAbout (field : String) (p : Predicate) : Prop := ∀ leaf ∈ p.leaves, leaf.field? = some field

end Predicate

open Predicate

lemma isAbout_plainPredicate (column : Column) (value : Json) :
    (Config.plainPredicate column value).IsAbout column.path := by
  unfold Config.plainPredicate
  split
  · simp [IsAbout, leaves, field?]
  · simp [IsAbout, leaves, field?]
  · split
    · simp [IsAbout, leaves, field?]
    · cases column.comparison <;> simp [IsAbout, leaves, field?, Comparison.predicate]

lemma Operator.isAbout_predicate (op : Operator) (path : String) (value : Bson) :
    (op.predicate path value).IsAbout path := by
  have hequality : (equality path value).IsAbout path := by cases value <;> simp [equality, IsAbout, leaves, field?]
  have hinequality : (inequality path value).IsAbout path := by
    cases value <;> simp [inequality, IsAbout, leaves, field?]
  cases op with
  | eq => exact hequality
  | neq => exact hinequality
  | between =>
    rw [predicate]
    cases bounds? value with
    | none => exact hequality
    | some bounds => simp [IsAbout, leaves, leavesOf, field?]
  | notBetween =>
    rw [predicate]
    cases bounds? value with
    | none => exact hinequality
    | some bounds => simp [IsAbout, leaves, leavesOf, field?]
  | _ => simp [predicate, IsAbout, leaves, leavesOf, field?]

def Override.Confined (override : Override) : Prop :=
  ∀ query value field operator p, override query value field operator = some p → p.IsAbout field

namespace Config

/-- What a grid lets a query look at, in a search for some words: the path of a filter column, a
searchable column, or the text index for the words, if the grid uses it. -/
inductive Allows (c : Config) (words : Option String) (leaf : Predicate) : Prop
  | filtered {column : String} {found : Column} (registered : c.filterColumn? column = some found)
      (named : leaf.field? = some found.path)
  | searched {path : String} (searchable : path ∈ c.searchableColumns) (named : leaf.field? = some path)
  | text {s : String} (indexed : c.settings.textSearch = true) (asked : words = some s) (same : leaf = .text s)

structure Confines (c : Config) (words : Option String) (q : Query) : Prop where
  collection : q.collection = c.collection
  conditions : ∀ p ∈ q.conditions, ∀ leaf ∈ p.leaves, c.Allows words leaf
  order : ∀ o, q.order = some o → ∃ column, c.orderColumn? column = some o.key

variable {c : Config} {query : Query} {words : Option String}

def OverridesConfined (c : Config) : Prop :=
  ∀ column override, c.override? column = some override → override.Confined

lemma isAbout_ownOr (ho : c.OverridesConfined) {column path : String} {value : Bson} {op : Option Operator}
    {usual p : Predicate} (hu : usual.IsAbout path) (h : c.ownOr query column value path op usual = some p) :
    p.IsAbout path := by
  rw [ownOr] at h
  cases hc : c.override? column with
  | some override =>
    rw [hc] at h
    exact ho column override hc _ _ _ _ p h
  | none =>
    rw [hc] at h
    obtain rfl := Option.some.inj h
    exact hu

lemma allows_of_plainFilter (ho : c.OverridesConfined) {filter : List (String × Json)} {plain : Option Predicate}
    (h : c.plainFilter query filter = .ok plain) : ∀ p ∈ plain.toList, ∀ leaf ∈ p.leaves, c.Allows words leaf := by
  rw [plainFilter_eq, plainParts_eq] at h
  obtain ⟨_, hparts, rfl⟩ := Outcome.map_ok_iff.mp h
  obtain ⟨options, hoptions, rfl⟩ := Outcome.map_ok_iff.mp hparts
  refine forall_leaves_allOf?_iff.mpr fun p hp leaf hleaf => ?_
  obtain ⟨option, hoption, hp⟩ := List.mem_flatMap.mp hp
  obtain ⟨entry, -, hpart⟩ := Outcome.exists_of_mem_mapM hoptions hoption
  rw [plainPart_eq] at hpart
  obtain ⟨found, hfound, hown⟩ := Outcome.map_ok_iff.mp hpart
  have habout : p.IsAbout found.path :=
    isAbout_ownOr ho (isAbout_plainPredicate found entry.2) (hown.trans (Option.mem_toList.mp hp))
  exact .filtered (filterColumn_ok_iff.mp hfound) (habout leaf hleaf)

lemma allows_of_groupParts (ho : c.OverridesConfined) {group : List Condition} {found : List Predicate × Option String}
    (h : c.groupParts query group = .ok found) : ∀ p ∈ found.1, ∀ leaf ∈ p.leaves, c.Allows words leaf := by
  rw [groupParts_eq] at h
  obtain ⟨options, hoptions, rfl⟩ := Outcome.map_ok_iff.mp h
  intro p hp leaf hleaf
  obtain ⟨option, hoption, hp⟩ := List.mem_flatMap.mp hp
  obtain ⟨condition, -, hpart⟩ := Outcome.exists_of_mem_mapM hoptions hoption
  rw [advancedPart_eq] at hpart
  obtain ⟨found, hfound, hown⟩ := Outcome.map_ok_iff.mp hpart
  have habout : p.IsAbout found.path :=
    isAbout_ownOr ho (condition.operator.isAbout_predicate _ _) (hown.trans (Option.mem_toList.mp hp))
  exact .filtered (filterColumn_ok_iff.mp hfound) (habout leaf hleaf)

lemma allows_of_advancedTree (ho : c.OverridesConfined) {groups : List (List Condition)} {tree : Tree}
    (h : c.advancedTree query groups = .ok tree) :
    ∀ p ∈ tree.predicate.toList, ∀ leaf ∈ p.leaves, c.Allows words leaf := by
  rw [advancedTree_eq, treeParts_eq] at h
  obtain ⟨_, hparts, rfl⟩ := Outcome.map_ok_iff.mp h
  obtain ⟨found, hfound, rfl⟩ := Outcome.map_ok_iff.mp hparts
  refine forall_leaves_allOf?_iff.mpr (List.forall_mem_map.mpr fun g hg => forall_leaves_anyOf_iff.mpr ?_)
  obtain ⟨group, -, hgroup⟩ := Outcome.exists_of_mem_mapM hfound (List.mem_filter.mp hg).1
  exact allows_of_groupParts ho hgroup

lemma allows_of_searched (ho : c.OverridesConfined) {search : List Predicate}
    (h : c.searched query words = .ok search) : ∀ p ∈ search, ∀ leaf ∈ p.leaves, c.Allows words leaf := by
  cases words with
  | none =>
    obtain rfl := Except.ok.inj h
    simp
  | some s =>
    rw [searched, searchPredicates] at h
    split at h
    case isTrue => cases h
    case isFalse =>
      obtain rfl := Except.ok.inj h
      refine List.forall_mem_append.mpr ⟨?_, ?_⟩
      · split
        case isTrue ht => simp [leaves, Allows.text ht rfl rfl]
        case isFalse => simp
      · split
        case isTrue => simp
        case isFalse =>
          refine List.forall_mem_singleton.mpr (forall_leaves_anyOf_iff.mpr fun p hp leaf hleaf => ?_)
          obtain ⟨path, hpath, hpart⟩ := List.mem_filterMap.mp hp
          rw [searchPart_eq] at hpart
          exact .searched hpath (isAbout_ownOr ho (Operator.isAbout_predicate _ _ _) hpart leaf hleaf)

lemma key_of_resolveOrder {r : Request} {order : Option Order} (h : c.resolveOrder r = .ok order) :
    ∀ o, order = some o → ∃ column, c.orderColumn? column = some o.key := by
  rintro o rfl
  rw [resolveOrder] at h
  split at h
  · cases h
  case h_2 asked _ =>
    obtain ⟨resolved, hresolved, hsome⟩ := Outcome.map_ok_iff.mp h
    obtain rfl := Option.some.inj hsome
    rw [Order.resolve] at hresolved
    split at hresolved
    case h_1 path hpath =>
      obtain rfl := Except.ok.inj hresolved
      exact ⟨asked.key, hpath⟩
    case h_2 => cases hresolved

/-- Where a grid's own conditions are about the fields that they are made for, a compiled query and the
counting query that is derived of it are on the grid's collection and look only at what the grid allows,
whatever the request says: the words are those of the request's search. -/
theorem compiled_confined (c : Config) (r : Request) (q : Compiled) (ho : c.OverridesConfined)
    (h : c.compile r = .ok q) :
    ∃ groups plain tree search, r.advancedFilter = .ok groups ∧
      c.Stages r.filter groups { Query.on c.collection with order := q.query.order } plain tree search ∧
      let words := Search.token (r.filter.lookup searchKey) tree c.settings.maxSearchLength
      c.Confines words q.query ∧ (c.countQuery = none → c.Confines words q.count) := by
  obtain ⟨order, groups, query, horder, hgroups, hr, hn, hq⟩ := compile_ok_iff.mp h
  obtain ⟨plain, tree, search, hst, hquery⟩ := restrict_ok_iff.mp hr
  obtain rfl : q.query.order = order := by rw [hq, hquery]; rfl
  have hconditions : q.query.conditions = plain.toList ++ (tree.predicate.toList ++ search) := by
    rw [hq, hquery]
    rfl
  have hallows : ∀ p ∈ q.query.conditions, ∀ leaf ∈ p.leaves, c.Allows (c.words r.filter tree) leaf := by
    rw [hconditions]
    simp only [List.forall_mem_append]
    exact ⟨allows_of_plainFilter ho hst.plain_ok, allows_of_advancedTree ho hst.tree_ok,
      allows_of_searched ho hst.search_ok⟩
  refine ⟨groups, plain, tree, search, hgroups, hst, ?_, fun hc => ?_⟩
  · exact ⟨collection_of_compile h, hallows, key_of_resolveOrder horder⟩
  · obtain ⟨hcollection, hsame⟩ := derived_count hc h
    have hunordered : q.count.order = none := by
      simp only [countQueryFor, hc, Except.ok.injEq, Prod.mk.injEq] at hn
      rw [← hn.1]
      rfl
    refine ⟨hcollection.trans (collection_of_compile h), ?_, by simp [hunordered]⟩
    rwa [hsame]

theorem confined_search :
    let own : Override := fun _ value field _ => some (.and [.notNull field, .eq field value])
    let c := (((((Config.new "Articles" "articles").withFilterColumn "rating" "stats.rating>=").withFilterColumn
      "state" "meta.state").withOverride "state" own).withSearchableColumn "title").withOrderColumn "title" "meta.title"
    let indexed := c.withSettings { Settings.default with textSearch := true, maxSearchLength := 4 }
    let r := Request.build (.ofList [("search", "Lean"), ("orderby", "+title")])
      [.filter "rating" (.int 4), .filter "state" (.string "draft")]
    ∃ q words, indexed.OverridesConfined ∧ indexed.compile r = .ok q ∧ q.query.conditions ≠ [] ∧ indexed.Confines words q.query ∧
      indexed.Confines words q.count := by
  intro own c indexed r
  have ho : indexed.OverridesConfined := by
    intro column override hlookup query value field operator p hp
    obtain ⟨-, rfl⟩ := override?_of_single rfl hlookup
    obtain rfl := Option.some.inj hp
    simp [Predicate.IsAbout, Predicate.leaves, Predicate.leavesOf, Predicate.field?]
  have hfilter : r.filter = [("__search__", .string "Lean"), ("rating", .int 4), ("state", .string "draft")] := rfl
  have hwords : indexed.words [("__search__", .string "Lean"), ("rating", .int 4), ("state", .string "draft")]
      ⟨none, none⟩ = some "Lean" := rfl
  have hstages : indexed.Stages r.filter [] { Query.on "articles" with order := some ⟨"meta.title", .asc⟩ }
      (some (.and [.compare .gte "stats.rating" (.int64 4),
        .and [.notNull "meta.state", .eq "meta.state" (.string "draft")]]))
      ⟨none, none⟩ [.text "Lean", .regex "title" "Lean" true] := by
    rw [hfilter]
    refine ⟨rfl, rfl, ?_⟩
    rw [hwords]
    rfl
  have hq := compile_of_stages rfl rfl rfl hstages
  obtain ⟨groups, plain, tree, search, -, -, hquery, hcount⟩ := compiled_confined indexed r _ ho hq
  exact ⟨_, _, ho, hq, List.cons_ne_nil _ _, hquery, hcount rfl⟩

end Config

end DataGrid
