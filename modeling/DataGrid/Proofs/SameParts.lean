import DataGrid.Proofs.Refusal
import DataGrid.Proofs.TextIndex

namespace DataGrid

lemma Query.Readable.exists_matcher {q : Query} (h : q.Readable) :
    ∃ m : Matcher, ∀ p ∈ q.conditions, m.Covers p.patterns := by
  cases hm : Matcher.compile (.allOf q.conditions) with
  | ok m => exact ⟨m, Predicate.forall_patterns_allOf_iff.mp (Matcher.covers_of_compile hm)⟩
  | error e =>
    obtain ⟨k, hk, fault, hfault, -⟩ := Matcher.error_of_collect _ hm
    obtain ⟨p, hp, hk⟩ := Predicate.mem_patterns_allOf_iff.mp hk
    obtain ⟨program, hprogram⟩ := h p hp k hk
    cases hprogram.symm.trans hfault

namespace Config

variable {c : Config} {filter filter' : List (String × Json)} {groups groups' : List (List Condition)}

structure SameParts (filter filter' : List (String × Json)) (groups groups' : List (List Condition)) : Prop where
  entries : ∀ entry, entry ∈ filter ↔ entry ∈ filter'
  search : filter.lookup searchKey = filter'.lookup searchKey
  left : ∀ group ∈ groups, ∃ group' ∈ groups', ∀ condition, condition ∈ group ↔ condition ∈ group'
  right : ∀ group' ∈ groups', ∃ group ∈ groups, ∀ condition, condition ∈ group' ↔ condition ∈ group
  words : lastWords groups.flatten = lastWords groups'.flatten

namespace SameParts

lemma symm (h : SameParts filter filter' groups groups') : SameParts filter' filter groups' groups :=
  ⟨fun entry => (h.entries entry).symm, h.search.symm, h.right, h.left, h.words.symm⟩

lemma mem_flatten (h : SameParts filter filter' groups groups') {condition : Condition}
    (hc : condition ∈ groups.flatten) : condition ∈ groups'.flatten := by
  obtain ⟨group, hgroup, hmem⟩ := List.mem_flatten.mp hc
  obtain ⟨group', hgroup', hsame⟩ := h.left group hgroup
  exact List.mem_flatten_of_mem hgroup' ((hsame condition).mp hmem)

lemma restrictRefusal (h : SameParts filter filter' groups groups') (hnone : c.restrictRefusal filter groups = none) :
    c.restrictRefusal filter' groups' = none := by
  have hsearch : c.searchRefusal filter' groups' = c.searchRefusal filter groups := by
    rw [Schema.searchRefusal, Schema.searchRefusal, h.search, h.words]
  simp only [Schema.restrictRefusal, Schema.filterRefusal, Schema.conditionRefusal, hsearch, Option.orElse_eq_orElse,
    Option.orElse_eq_or, Option.or_eq_none_iff, Option.map_eq_none_iff, List.find?_eq_none] at hnone ⊢
  obtain ⟨hfilter, hconditions, hwords⟩ := hnone
  refine ⟨fun entry hentry => ?_, fun condition hcondition => ?_, hwords⟩
  · exact hfilter entry ((h.entries entry).mpr hentry)
  · exact hconditions condition (h.symm.mem_flatten hcondition)

lemma asks {words : Option String} {d : Document} (h : SameParts filter filter' groups groups')
    (ha : c.Asks filter groups words d) : c.Asks filter' groups' words d := by
  refine ⟨fun entry hentry => ha.plain entry ((h.entries entry).mpr hentry), ?_, ha.searched⟩
  intro group' hgroup' hsome
  obtain ⟨group, hgroup, hsame⟩ := h.right group' hgroup'
  simp only [GroupHolds, hsame] at hsome ⊢
  exact ha.advanced group hgroup hsome

lemma everyPattern {words : Option String} {P : String × Bool → Prop} (h : SameParts filter filter' groups groups')
    (hp : c.EveryPattern groups words P) : c.EveryPattern groups' words P := by
  refine ⟨fun group' hgroup' condition hcondition => ?_, hp.searched⟩
  obtain ⟨group, hgroup, hsame⟩ := h.right group' hgroup'
  exact hp.advanced group hgroup condition ((hsame condition).mp hcondition)

lemma words_eq (h : SameParts filter filter' groups groups') (ho : c.overrides = []) {query query' : Query}
    {tree tree' : Tree} (ht : c.advancedTree query groups = .ok tree)
    (ht' : c.advancedTree query' groups' = .ok tree') : c.words filter tree = c.words filter' tree' := by
  have hsome : tree.predicate.isSome = tree'.predicate.isSome := by
    rw [Bool.eq_iff_iff, isSome_predicate_iff ho ht, isSome_predicate_iff ho ht']
    exact exists_congr fun condition => and_congr_left fun _ => ⟨h.mem_flatten, h.symm.mem_flatten⟩
  have hsearch : tree.search = tree'.search := by
    rw [search_of_advancedTree ht, search_of_advancedTree ht', h.words]
  rw [Config.words, Config.words, Search.token, Search.token, h.search, hsome, hsearch]

end SameParts

lemma holds_iff_asks (ho : c.overrides = []) {query q : Query} {plain : Option Predicate} {tree : Tree}
    {search : List Predicate} (h : c.Stages filter groups query plain tree search)
    (hq : q.conditions = plain.toList ++ (tree.predicate.toList ++ search)) (hread : q.Readable) (d : Document) :
    (q.conditions.all fun p => p.holds d) = true ↔ c.Asks filter groups (c.words filter tree) d := by
  obtain ⟨m, hm⟩ := hread.exists_matcher
  have hmeets : (∀ p ∈ q.conditions, p.holds d = true) ↔ ∀ p ∈ q.conditions, p.meets m.pattern? d = true :=
    forall₂_congr fun p hp => by rw [(hm p hp).meets_eq d]
  rw [List.all_eq_true, hmeets, hq]
  exact conditions_iff ho h (hq ▸ hm)

lemma matching_of_sameParts (h : SameParts filter filter' groups groups') (ho : c.overrides = [])
    {query query' q q' : Query} {plain plain' : Option Predicate} {tree tree' : Tree} {search search' : List Predicate}
    (hst : c.Stages filter groups query plain tree search) (hst' : c.Stages filter' groups' query' plain' tree' search')
    (hq : q.conditions = plain.toList ++ (tree.predicate.toList ++ search))
    (hq' : q'.conditions = plain'.toList ++ (tree'.predicate.toList ++ search'))
    (hcollection : q'.collection = q.collection) {s : MemoryStore} {documents : List Document}
    (hm : s.matching q = .ok documents) : s.matching q' = .ok documents := by
  have hwords := h.words_eq ho hst.tree_ok hst'.tree_ok
  have hread : q.Readable → q'.Readable := by
    intro hread
    rw [Query.Readable, hq, patterns_iff ho hst, hwords] at hread
    rw [Query.Readable, hq', patterns_iff ho hst']
    exact h.everyPattern hread
  have hunindexed : s.Unindexed q' → s.Unindexed q := by
    simp only [MemoryStore.Unindexed, Query.usesText, hq, hq', usesText_of_stages ho hst, usesText_of_stages ho hst',
      hwords, hcollection]
    exact id
  obtain ⟨hindexed, hknown⟩ := MemoryStore.exists_matching_iff.mp ⟨documents, hm⟩
  obtain ⟨documents', hm'⟩ : ∃ documents', s.matching q' = .ok documents' :=
    MemoryStore.exists_matching_iff.mpr ⟨mt hunindexed hindexed, hcollection ▸ hknown.imp_right hread⟩
  rw [hm', MemoryStore.matching_holds hm, MemoryStore.matching_holds hm', hcollection]
  congr 1
  cases hl : s.collections.lookup q.collection with
  | none => simp [MemoryStore.collection_of_lookup hl]
  | some known =>
    have hr : q.Readable := MemoryStore.readable_of_matching hl hm
    refine List.filter_congr fun d _ => ?_
    rw [Bool.eq_iff_iff, holds_iff_asks ho hst hq hr, holds_iff_asks ho hst' hq' (hread hr), hwords]
    exact ⟨h.symm.asks, h.asks⟩

end Config

end DataGrid
