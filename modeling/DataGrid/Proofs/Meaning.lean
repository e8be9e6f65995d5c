import DataGrid.Proofs.Compilation
import DataGrid.Proofs.Operators
import DataGrid.Proofs.Pattern.Size
import DataGrid.Proofs.Requests

namespace DataGrid.Config

def GroupHolds (c : Config) (group : List Condition) (d : Document) : Prop :=
  ∃ condition ∈ group, condition.column ≠ searchKey ∧ ∃ found, c.filterColumn? condition.column = some found ∧
    condition.operator.Asks (Bson.coerceDates (Bson.ofJson condition.value)) (d.lookup found.path)

/-- What a request asks of a document: every plain filter, some condition of every group that has one,
and the words of the search in some searchable column, and in the text index if the grid uses it. -/
structure Asks (c : Config) (filter : List (String × Json)) (groups : List (List Condition)) (words : Option String)
    (d : Document) : Prop where
  plain : ∀ entry ∈ filter, entry.1 ≠ searchKey → ∃ found, c.filterColumn? entry.1 = some found ∧
    found.Asks entry.2 (d.lookup found.path)
  advanced : ∀ group ∈ groups, (∃ condition ∈ group, condition.column ≠ searchKey) → c.GroupHolds group d
  searched : ∀ s, words = some s → (∃ path ∈ c.searchableColumns, Operator.like.Asks (.string s) (d.lookup path)) ∧
    (c.settings.textSearch = true → d.hasWord s = true)

variable {c : Config} {query : Query} {m : Matcher} {d : Document}

lemma override?_eq_none (ho : c.overrides = []) (column : String) : c.override? column = none := by
  simp [override?, ho]

lemma advancedPart_of_no_overrides (ho : c.overrides = []) (condition : Condition) :
    c.advancedPart query condition = ((c.filterColumn condition.column).map fun found =>
      condition.operator.predicate found.path (Bson.coerceDates (Bson.ofJson condition.value))).map some :=
  advancedPart_of_no_override (override?_eq_none ho condition.column)

lemma plainFilter_ok (ho : c.overrides = []) {filter : List (String × Json)} {plain : Option Predicate}
    (h : c.plainFilter query filter = .ok plain) : ∃ parts, plain = Predicate.allOf? parts ∧
      ((filter.filter fun entry => entry.1 ≠ searchKey).mapM fun entry =>
        (c.filterColumn entry.1).map fun found => plainPredicate found entry.2) = .ok parts := by
  simp only [plainFilter_eq, plainParts_eq, plainPart_of_no_override (override?_eq_none ho _), Outcome.mapM_some] at h
  obtain ⟨parts, hparts, rfl⟩ := Outcome.map_ok_iff.mp h
  exact ⟨parts, rfl, hparts⟩

lemma groupParts_ok (ho : c.overrides = []) {group : List Condition} {found : List Predicate × Option String}
    (h : c.groupParts query group = .ok found) :
    ((group.filter fun condition => condition.column ≠ searchKey).mapM fun condition =>
      (c.filterColumn condition.column).map fun found =>
        condition.operator.predicate found.path (Bson.coerceDates (Bson.ofJson condition.value))) = .ok found.1 := by
  rw [← Outcome.mapM_some]
  simp only [groupParts_eq, funext (advancedPart_of_no_overrides ho)] at h
  obtain ⟨options, hoptions, rfl⟩ := Outcome.map_ok_iff.mp h
  rw [hoptions]
  rfl

lemma advancedTree_ok {groups : List (List Condition)} {tree : Tree} (h : c.advancedTree query groups = .ok tree) :
    ∃ found, groups.mapM (c.groupParts query) = .ok found ∧
      tree.predicate = Predicate.allOf? ((found.filter fun g => !g.1.isEmpty).map fun g => .anyOf g.1) := by
  rw [advancedTree_eq, treeParts_eq] at h
  obtain ⟨_, hparts, rfl⟩ := Outcome.map_ok_iff.mp h
  obtain ⟨found, hfound, rfl⟩ := Outcome.map_ok_iff.mp hparts
  exact ⟨found, hfound, rfl⟩

lemma searched_ok (ho : c.overrides = []) {s : String} {search : List Predicate}
    (h : c.searched query (some s) = .ok search) :
    search = (if c.settings.textSearch then [.text s] else []) ++
      [.anyOf (c.searchableColumns.map fun path => Operator.like.predicate path (.string s))] := by
  have hparts : c.searchableColumns.filterMap (c.searchPart query s) =
      c.searchableColumns.map fun path => Operator.like.predicate path (.string s) := by
    rw [← List.filterMap_eq_map]
    refine List.filterMap_congr fun path _ => ?_
    rw [searchPart, override?_eq_none ho]
    rfl
  rw [searched, searchPredicates, hparts] at h
  split at h
  case isTrue => cases h
  case isFalse hne =>
    simp only [List.isEmpty_map, if_neg hne] at h
    exact (Except.ok.inj h).symm

lemma plain_iff (ho : c.overrides = []) {filter : List (String × Json)} {plain : Option Predicate}
    (h : c.plainFilter query filter = .ok plain) : (∀ p ∈ plain.toList, p.meets m.pattern? d = true) ↔
      ∀ entry ∈ filter, entry.1 ≠ searchKey → ∃ found, c.filterColumn? entry.1 = some found ∧
        found.Asks entry.2 (d.lookup found.path) := by
  obtain ⟨parts, rfl, hparts⟩ := plainFilter_ok ho h
  rw [Predicate.meets_allOf?_iff, Outcome.forall_mapM_iff hparts]
  simp only [map_filterColumn_ok_iff, List.mem_filter, decide_eq_true_eq, and_imp]
  refine forall₃_congr fun entry _ _ => ?_
  constructor
  · rintro ⟨_, ⟨found, hfound, rfl⟩, hmet⟩
    exact ⟨found, hfound, (found.meets_plainPredicate_iff entry.2).mp hmet⟩
  · rintro ⟨found, hfound, hasks⟩
    exact ⟨_, ⟨found, hfound, rfl⟩, (found.meets_plainPredicate_iff entry.2).mpr hasks⟩

lemma group_nil_iff (ho : c.overrides = []) {group : List Condition} {found : List Predicate × Option String}
    (h : c.groupParts query group = .ok found) :
    found.1 = [] ↔ ¬∃ condition ∈ group, condition.column ≠ searchKey := by
  rw [Outcome.eq_nil_iff_of_mapM (groupParts_ok ho h), List.filter_eq_nil_iff]
  simp

lemma isSome_predicate_iff (ho : c.overrides = []) {groups : List (List Condition)} {tree : Tree}
    (h : c.advancedTree query groups = .ok tree) :
    tree.predicate.isSome = true ↔ ∃ condition ∈ groups.flatten, condition.column ≠ searchKey := by
  obtain ⟨found, hfound, hpredicate⟩ := advancedTree_ok h
  have hsome : tree.predicate.isSome = true ↔ ∃ g ∈ found, g.1 ≠ [] := by
    rw [hpredicate, Predicate.isSome_allOf?, ne_eq, List.map_eq_nil_iff, List.filter_eq_nil_iff]
    simp
  rw [hsome]
  constructor
  · rintro ⟨g, hg, hne⟩
    obtain ⟨group, hmem, hok⟩ := Outcome.exists_of_mem_mapM hfound hg
    obtain ⟨condition, hc, hk⟩ := not_not.mp (mt (group_nil_iff ho hok).mpr hne)
    exact ⟨condition, List.mem_flatten_of_mem hmem hc, hk⟩
  · rintro ⟨condition, hc, hk⟩
    obtain ⟨group, hmem, hc⟩ := List.mem_flatten.mp hc
    obtain ⟨g, hg, hok⟩ := Outcome.exists_of_mapM_ok hfound hmem
    exact ⟨g, hg, fun hnil => (group_nil_iff ho hok).mp hnil ⟨condition, hc, hk⟩⟩

lemma group_iff (ho : c.overrides = []) {group : List Condition} {found : List Predicate × Option String}
    (h : c.groupParts query group = .ok found) (hm : ∀ p ∈ found.1, m.Covers p.patterns) :
    (∃ p ∈ found.1, p.meets m.pattern? d = true) ↔ c.GroupHolds group d := by
  have hparts := groupParts_ok ho h
  constructor
  · rintro ⟨p, hp, hmet⟩
    obtain ⟨condition, hc, hok⟩ := Outcome.exists_of_mem_mapM hparts hp
    obtain ⟨place, hplace, rfl⟩ := map_filterColumn_ok_iff.mp hok
    obtain ⟨hmem, hk⟩ := List.mem_filter.mp hc
    exact ⟨condition, hmem, of_decide_eq_true hk, place, hplace, (Operator.meets_predicate_iff _ (hm _ hp)).mp hmet⟩
  · rintro ⟨condition, hmem, hk, place, hplace, hasks⟩
    obtain ⟨p, hp, hok⟩ := Outcome.exists_of_mapM_ok hparts (List.mem_filter.mpr ⟨hmem, decide_eq_true hk⟩)
    obtain ⟨place', hplace', rfl⟩ := map_filterColumn_ok_iff.mp hok
    obtain rfl : place = place' := Option.some.inj (hplace.symm.trans hplace')
    exact ⟨_, hp, (Operator.meets_predicate_iff _ (hm _ hp)).mpr hasks⟩

lemma advanced_iff (ho : c.overrides = []) {groups : List (List Condition)} {tree : Tree}
    (h : c.advancedTree query groups = .ok tree) (hm : ∀ p ∈ tree.predicate.toList, m.Covers p.patterns) :
    (∀ p ∈ tree.predicate.toList, p.meets m.pattern? d = true) ↔
      ∀ group ∈ groups, (∃ condition ∈ group, condition.column ≠ searchKey) → c.GroupHolds group d := by
  obtain ⟨found, hfound, hpredicate⟩ := advancedTree_ok h
  rw [hpredicate] at hm ⊢
  have hgroups : ∀ g ∈ found, ∀ p ∈ g.1, m.Covers p.patterns := by
    intro g hg p hp
    have hne : (!g.1.isEmpty) = true := by simpa using List.ne_nil_of_mem hp
    have hany : m.Covers (Predicate.anyOf g.1).patterns :=
      Predicate.forall_patterns_allOf?_iff.mp hm _ (List.mem_map_of_mem (List.mem_filter.mpr ⟨hg, hne⟩))
    exact Predicate.forall_patterns_anyOf_iff.mp hany p hp
  have hmet : (∀ p ∈ (found.filter fun g => !g.1.isEmpty).map fun g => Predicate.anyOf g.1,
      p.meets m.pattern? d = true) ↔
      ∀ g ∈ found, g.1 ≠ [] → ∃ p ∈ g.1, p.meets m.pattern? d = true := by
    simp only [List.forall_mem_map, List.mem_filter, Bool.not_eq_true', List.isEmpty_eq_false_iff, and_imp,
      Predicate.meets_anyOf_iff]
  -- a group without parts is left out of the condition, and such a group is all search
  have hgroup : ∀ group g, g ∈ found → c.groupParts query group = .ok g →
      ((g.1 ≠ [] → ∃ p ∈ g.1, p.meets m.pattern? d = true) ↔
        ((∃ condition ∈ group, condition.column ≠ searchKey) → c.GroupHolds group d)) := by
    intro group g hg hok
    rw [group_iff ho hok (hgroups g hg), ne_eq, group_nil_iff ho hok, not_not]
  rw [Predicate.meets_allOf?_iff, hmet]
  constructor
  · intro hall group hmem
    obtain ⟨g, hg, hok⟩ := Outcome.exists_of_mapM_ok hfound hmem
    exact (hgroup group g hg hok).mp (hall g hg)
  · intro hall g hg
    obtain ⟨group, hmem, hok⟩ := Outcome.exists_of_mem_mapM hfound hg
    exact (hgroup group g hg hok).mpr (hall group hmem)

lemma search_iff (ho : c.overrides = []) {words : Option String} {search : List Predicate}
    (h : c.searched query words = .ok search) (hm : ∀ p ∈ search, m.Covers p.patterns) :
    (∀ p ∈ search, p.meets m.pattern? d = true) ↔ ∀ s, words = some s →
      (∃ path ∈ c.searchableColumns, Operator.like.Asks (.string s) (d.lookup path)) ∧
        (c.settings.textSearch = true → d.hasWord s = true) := by
  cases words with
  | none =>
    obtain rfl := Except.ok.inj h
    simp
  | some s =>
    obtain rfl := searched_ok ho h
    have hcovers := hm _ (List.mem_append_right _ (List.mem_singleton_self _))
    have hlikes := List.forall_mem_map.mp (Predicate.forall_patterns_anyOf_iff.mp hcovers)
    have hcolumns : (∃ p ∈ c.searchableColumns.map fun path => Operator.like.predicate path (.string s),
        p.meets m.pattern? d = true) ↔
          ∃ path ∈ c.searchableColumns, Operator.like.Asks (.string s) (d.lookup path) := by
      simp only [List.mem_map, exists_exists_and_eq_and]
      exact exists_congr fun path => and_congr_right fun hp => Operator.meets_predicate_iff _ (hlikes path hp)
    have htext : (∀ p ∈ if c.settings.textSearch then [Predicate.text s] else [], p.meets m.pattern? d = true) ↔
        (c.settings.textSearch = true → d.hasWord s = true) := by
      cases c.settings.textSearch <;> simp [Predicate.meets]
    rw [List.forall_mem_append, List.forall_mem_singleton, Predicate.meets_anyOf_iff, hcolumns, htext]
    simp only [Option.some.injEq, forall_eq', and_comm]

lemma conditions_iff (ho : c.overrides = []) {filter : List (String × Json)} {groups : List (List Condition)}
    {plain : Option Predicate} {tree : Tree} {search : List Predicate}
    (h : c.Stages filter groups query plain tree search)
    (hm : ∀ p ∈ plain.toList ++ (tree.predicate.toList ++ search), m.Covers p.patterns) :
    (∀ p ∈ plain.toList ++ (tree.predicate.toList ++ search), p.meets m.pattern? d = true) ↔
      c.Asks filter groups (c.words filter tree) d := by
  simp only [List.forall_mem_append] at hm ⊢
  rw [plain_iff ho h.plain_ok, advanced_iff ho h.tree_ok hm.2.1, search_iff ho h.search_ok hm.2.2]
  exact ⟨fun ⟨hplain, hadvanced, hsearched⟩ => ⟨hplain, hadvanced, hsearched⟩,
    fun ⟨hplain, hadvanced, hsearched⟩ => ⟨hplain, hadvanced, hsearched⟩⟩

lemma patterns_plainPredicate (column : Column) (value : Json) : (plainPredicate column value).patterns = [] := by
  unfold plainPredicate
  split
  · rfl
  · rfl
  · split
    · rfl
    · cases column.comparison <;> rfl

structure EveryPattern (c : Config) (groups : List (List Condition)) (words : Option String)
    (P : String × Bool → Prop) : Prop where
  advanced : ∀ group ∈ groups, ∀ condition ∈ group, condition.column ≠ searchKey →
    ∀ found, c.filterColumn? condition.column = some found →
      ∀ k ∈ (condition.operator.predicate found.path (Bson.coerceDates (Bson.ofJson condition.value))).patterns, P k
  searched : ∀ s, words = some s → ∀ path ∈ c.searchableColumns,
    ∀ k ∈ (Operator.like.predicate path (.string s)).patterns, P k

variable {P : String × Bool → Prop}

lemma group_patterns_iff (ho : c.overrides = []) {group : List Condition} {found : List Predicate × Option String}
    (h : c.groupParts query group = .ok found) : (∀ p ∈ found.1, ∀ k ∈ p.patterns, P k) ↔
      ∀ condition ∈ group, condition.column ≠ searchKey → ∀ place, c.filterColumn? condition.column = some place →
        ∀ k ∈ (condition.operator.predicate place.path (Bson.coerceDates (Bson.ofJson condition.value))).patterns,
          P k := by
  have hparts := groupParts_ok ho h
  constructor
  · intro hall condition hmem hk place hplace
    obtain ⟨p, hp, hok⟩ := Outcome.exists_of_mapM_ok hparts (List.mem_filter.mpr ⟨hmem, decide_eq_true hk⟩)
    obtain ⟨place', hplace', rfl⟩ := map_filterColumn_ok_iff.mp hok
    obtain rfl : place = place' := Option.some.inj (hplace.symm.trans hplace')
    exact hall _ hp
  · intro hall p hp
    obtain ⟨condition, hc, hok⟩ := Outcome.exists_of_mem_mapM hparts hp
    obtain ⟨place, hplace, rfl⟩ := map_filterColumn_ok_iff.mp hok
    obtain ⟨hmem, hk⟩ := List.mem_filter.mp hc
    exact hall condition hmem (of_decide_eq_true hk) place hplace

lemma advanced_patterns_iff (ho : c.overrides = []) {groups : List (List Condition)} {tree : Tree}
    (h : c.advancedTree query groups = .ok tree) : (∀ p ∈ tree.predicate.toList, ∀ k ∈ p.patterns, P k) ↔
      ∀ group ∈ groups, ∀ condition ∈ group, condition.column ≠ searchKey →
        ∀ found, c.filterColumn? condition.column = some found →
          ∀ k ∈ (condition.operator.predicate found.path (Bson.coerceDates (Bson.ofJson condition.value))).patterns,
            P k := by
  obtain ⟨found, hfound, hpredicate⟩ := advancedTree_ok h
  rw [hpredicate, Predicate.forall_patterns_allOf?_iff]
  simp only [List.forall_mem_map, Predicate.forall_patterns_anyOf_iff]
  constructor
  · intro hall group hmem
    obtain ⟨g, hg, hok⟩ := Outcome.exists_of_mapM_ok hfound hmem
    refine (group_patterns_iff ho hok).mp fun p hp => hall g (List.mem_filter.mpr ⟨hg, ?_⟩) p hp
    simpa using List.ne_nil_of_mem hp
  · intro hall g hg
    obtain ⟨group, hmem, hok⟩ := Outcome.exists_of_mem_mapM hfound (List.mem_filter.mp hg).1
    exact (group_patterns_iff ho hok).mpr (hall group hmem)

lemma search_patterns_iff (ho : c.overrides = []) {words : Option String} {search : List Predicate}
    (h : c.searched query words = .ok search) : (∀ p ∈ search, ∀ k ∈ p.patterns, P k) ↔
      ∀ s, words = some s → ∀ path ∈ c.searchableColumns,
        ∀ k ∈ (Operator.like.predicate path (.string s)).patterns, P k := by
  cases words with
  | none =>
    obtain rfl := Except.ok.inj h
    simp
  | some s =>
    obtain rfl := searched_ok ho h
    have htext : ∀ p ∈ if c.settings.textSearch then [Predicate.text s] else [], ∀ k ∈ p.patterns, P k := by
      cases c.settings.textSearch <;> simp [Predicate.patterns]
    rw [List.forall_mem_append, List.forall_mem_singleton, Predicate.forall_patterns_anyOf_iff, List.forall_mem_map,
      and_iff_right htext]
    simp only [Option.some.injEq, forall_eq']

lemma patterns_iff (ho : c.overrides = []) {filter : List (String × Json)} {groups : List (List Condition)}
    {plain : Option Predicate} {tree : Tree} {search : List Predicate}
    (h : c.Stages filter groups query plain tree search) :
    (∀ p ∈ plain.toList ++ (tree.predicate.toList ++ search), ∀ k ∈ p.patterns, P k) ↔
      c.EveryPattern groups (c.words filter tree) P := by
  have hplain : ∀ p ∈ plain.toList, ∀ k ∈ p.patterns, P k := by
    obtain ⟨parts, rfl, hparts⟩ := plainFilter_ok ho h.plain_ok
    refine Predicate.forall_patterns_allOf?_iff.mpr fun p hp => ?_
    obtain ⟨entry, -, hok⟩ := Outcome.exists_of_mem_mapM hparts hp
    obtain ⟨found, -, rfl⟩ := map_filterColumn_ok_iff.mp hok
    simp [patterns_plainPredicate]
  simp only [List.forall_mem_append]
  rw [advanced_patterns_iff ho h.tree_ok, search_patterns_iff ho h.search_ok]
  exact ⟨fun ⟨_, hadvanced, hsearched⟩ => ⟨hadvanced, hsearched⟩,
    fun ⟨hadvanced, hsearched⟩ => ⟨hplain, hadvanced, hsearched⟩⟩

lemma patterns_of_stages (ho : c.overrides = []) {filter : List (String × Json)} {groups : List (List Condition)}
    {plain : Option Predicate} {tree : Tree} {search : List Predicate}
    (h : c.Stages filter groups query plain tree search) :
    ∀ p ∈ plain.toList ++ (tree.predicate.toList ++ search), ∀ k ∈ p.patterns, Pattern.IsQuotation k := by
  refine (patterns_iff ho h).mpr ⟨?_, ?_⟩
  · exact fun _ _ _ _ _ _ _ => Operator.patterns_predicate _ _ _
  · exact fun _ _ _ _ => Operator.patterns_predicate _ _ _

lemma advancedTree_of_no_overrides (ho : c.overrides = []) (query query' : Query) (groups : List (List Condition)) :
    c.advancedTree query groups = c.advancedTree query' groups :=
  advancedTree_congr (fun column _ h => by simp [override?_eq_none ho column] at h) query query' groups

/-- What a compiled query lets pass under a matcher for its filter is what the request asks for; a query
without a filter lets everything pass, and so does its request. Only an escaped text that is too large
keeps a filter from having a matcher. -/
theorem compiled_meaning (c : Config) (r : Request) (q : Compiled) (ho : c.overrides = [])
    (h : c.compile r = .ok q) :
    ∃ groups tree, r.advancedFilter = .ok groups ∧ (∀ query, c.advancedTree query groups = .ok tree) ∧
      let words := Search.token (r.filter.lookup searchKey) tree c.settings.maxSearchLength
      (q.query.filter = none → ∀ d, c.Asks r.filter groups words d) ∧
      ∀ p, q.query.filter = some p →
        (∀ m, Matcher.compile p = .ok m → ∀ d, m.admits p d = true ↔ c.Asks r.filter groups words d) ∧
        ∀ e, Matcher.compile p = .error e → ∃ source, e = Matcher.invalidPattern source .size := by
  obtain ⟨order, groups, query, -, hgroups, hr, -, hq⟩ := compile_ok_iff.mp h
  obtain ⟨plain, tree, search, hst, hquery⟩ := restrict_ok_iff.mp hr
  have hfilter : q.query.filter = Predicate.allOf? (plain.toList ++ (tree.predicate.toList ++ search)) := by
    rw [Query.filter_eq, hq, hquery]
    rfl
  refine ⟨groups, tree, hgroups, fun query => (advancedTree_of_no_overrides ho _ _ groups).trans hst.tree_ok, ?_⟩
  cases hc : plain.toList ++ (tree.predicate.toList ++ search) with
  | nil =>
    rw [hfilter, hc]
    refine ⟨fun _ d => ?_, by simp⟩
    exact (conditions_iff (m := ⟨[]⟩) ho hst (by simp [hc])).mp (by simp [hc])
  | cons first rest =>
    rw [hfilter, hc, Predicate.allOf?_cons, ← hc]
    refine ⟨by simp, fun p hp => ?_⟩
    obtain rfl := Option.some.inj hp
    refine ⟨fun m hm d => ?_, fun e he => ?_⟩
    · have hcovers := Predicate.forall_patterns_allOf_iff.mp (Matcher.covers_of_compile hm)
      rw [Matcher.admits, Predicate.meets_allOf_iff]
      exact conditions_iff ho hst hcovers
    · obtain ⟨k, hk, fault, hfault, rfl⟩ := Matcher.error_of_collect _ he
      have hquotation := Predicate.forall_patterns_allOf_iff.mpr (patterns_of_stages ho hst) k hk
      exact ⟨k.1, by rw [Pattern.fault_of_quotation hquotation hfault]⟩

theorem meaning_of_rated_search :
    let c := ((Config.new "Articles" "articles").withFilterColumn "rating" "rating>=").withSearchableColumn "title"
    let r := Request.build (.ofList [("search", "Lean")]) [.filter "rating" (.int 4)]
    let p : Predicate := .and [.compare .gte "rating" (.int64 4), .regex "title" "Lean" true]
    ∃ m, Matcher.compile p = .ok m ∧ ∀ d, m.admits p d = true ↔ c.Asks r.filter [] (some "Lean") d := by
  intro c r p
  let elements := Pattern.quoted false false "Lean".toList
  have hfits : (Pattern.seq elements).fits = true := Pattern.fits_quoted false false (by decide)
  have hparse := Pattern.parse_quotation false false "Lean".toList
  rw [if_pos hfits] at hparse
  have hcompile : Matcher.compile p = .ok ⟨[(("Lean", true), (Pattern.seq elements).program)]⟩ := by
    change ((Matcher.mk []).add "Lean" true >>= fun m => .ok m) = _
    rw [Matcher.add, show "Lean" = String.ofList (Pattern.quotation false false "Lean".toList) from rfl, hparse]
    rfl
  have hq : c.compile r = .ok ⟨⟨"articles", [.compare .gte "rating" (.int64 4), .regex "title" "Lean" true], none,
      some 0, some 10⟩, ⟨"articles", [.compare .gte "rating" (.int64 4), .regex "title" "Lean" true], none, none,
      none⟩, false⟩ := by
    dsimp only [c, r]
    exact rfl
  obtain ⟨groups, tree, hgroups, htree, -, hmeaning⟩ := compiled_meaning c r _ rfl hq
  obtain rfl : [] = groups := Except.ok.inj hgroups
  obtain rfl : ⟨none, none⟩ = tree := Except.ok.inj (htree (.on "articles"))
  exact ⟨_, hcompile, (hmeaning p rfl).1 _ hcompile⟩

end DataGrid.Config
