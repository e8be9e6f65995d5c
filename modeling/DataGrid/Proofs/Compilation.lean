import DataGrid.Compiled
import DataGrid.Proofs.Outcome

/-! What a successful compilation went through: the three stages of a restriction, and the two
queries that come of it. -/

namespace DataGrid

namespace Query

@[simp] lemma requireAll_requireAll (q : Query) (ps ps' : List Predicate) :
    (q.requireAll ps).requireAll ps' = q.requireAll (ps ++ ps') := by
  simp [requireAll]

end Query

namespace Config

def words (c : Config) (filter : List (String × Json)) (tree : Tree) : Option String :=
  Search.token (filter.lookup searchKey) tree c.settings.maxSearchLength

def searched (c : Config) (query : Query) : Option String → Except Error (List Predicate)
  | none => .ok []
  | some words => c.searchPredicates query words

structure Stages (c : Config) (filter : List (String × Json)) (groups : List (List Condition)) (query : Query)
    (plain : Option Predicate) (tree : Tree) (search : List Predicate) : Prop where
  plain_ok : c.plainFilter query filter = .ok plain
  tree_ok : c.advancedTree (query.requireAll plain.toList) groups = .ok tree
  search_ok : c.searched (query.requireAll (plain.toList ++ tree.predicate.toList)) (c.words filter tree) = .ok search

def restrictions (c : Config) (filter : List (String × Json)) (groups : List (List Condition)) (query : Query) :
    Except Error (List Predicate) := do
  let plain ← c.plainFilter query filter
  let tree ← c.advancedTree (query.requireAll plain.toList) groups
  let search ← c.searched (query.requireAll (plain.toList ++ tree.predicate.toList)) (c.words filter tree)
  return plain.toList ++ (tree.predicate.toList ++ search)

lemma restrict_eq (c : Config) (filter : List (String × Json)) (groups : List (List Condition)) (query : Query) :
    c.restrict filter groups query = (c.restrictions filter groups query).map query.requireAll := by
  rw [restrict, restrictions]
  cases c.plainFilter query filter with
  | error e => rfl
  | ok plain =>
    dsimp only [bind, Except.bind]
    cases c.advancedTree (query.requireAll plain.toList) groups with
    | error e => rfl
    | ok tree =>
      change (match c.words filter tree with | none => _ | some words => _) =
        Except.map _ (c.searched _ (c.words filter tree) >>= _)
      cases c.words filter tree with
      | none => simp [searched, Except.map, bind, Except.bind, pure, Except.pure]
      | some words =>
        simp only [searched, Query.requireAll_requireAll]
        cases c.searchPredicates (query.requireAll (plain.toList ++ tree.predicate.toList)) words with
        | error e => rfl
        | ok search => simp [Except.map, bind, Except.bind, pure, Except.pure]

lemma restrict_ok_iff {c : Config} {filter : List (String × Json)} {groups : List (List Condition)}
    {query q : Query} :
    c.restrict filter groups query = .ok q ↔ ∃ plain tree search,
      c.Stages filter groups query plain tree search ∧
        q = query.requireAll (plain.toList ++ (tree.predicate.toList ++ search)) := by
  simp only [restrict_eq, restrictions, Outcome.bind_ok_iff, Outcome.map_ok_iff, Outcome.pure_ok_iff]
  constructor
  · rintro ⟨_, ⟨plain, hp, tree, ht, search, hs, rfl⟩, rfl⟩
    exact ⟨plain, tree, search, ⟨hp, ht, hs⟩, rfl⟩
  · rintro ⟨plain, tree, search, ⟨hp, ht, hs⟩, rfl⟩
    exact ⟨_, ⟨plain, hp, tree, ht, search, hs, rfl⟩, rfl⟩

lemma compile_ok_iff {c : Config} {r : Request} {q : Compiled} :
    c.compile r = .ok q ↔ ∃ order groups query,
      c.resolveOrder r = .ok order ∧ r.advancedFilter = .ok groups ∧
      c.restrict r.filter groups { Query.on c.collection with order } = .ok query ∧
      c.countQueryFor r.filter groups query = .ok (q.count, q.countsFirst) ∧
      q.query = query.paginate (offset r.page r.limit) r.limit := by
  simp only [compile, Outcome.bind_ok_iff, Outcome.pure_ok_iff]
  constructor
  · rintro ⟨order, ho, groups, hg, query, hq, ⟨count, first⟩, hc, rfl⟩
    exact ⟨order, groups, query, ho, hg, hq, hc, rfl⟩
  · rintro ⟨order, groups, query, ho, hg, hq, hc, hp⟩
    obtain ⟨page, count, first⟩ := q
    obtain rfl : page = _ := hp
    exact ⟨order, ho, groups, hg, query, hq, _, hc, rfl⟩

lemma compile_of_stages {c : Config} {r : Request} {order : Option Order} {groups : List (List Condition)}
    {plain : Option Predicate} {tree : Tree} {search : List Predicate} (hc : c.countQuery = none)
    (ho : c.resolveOrder r = .ok order) (hg : r.advancedFilter = .ok groups)
    (hst : c.Stages r.filter groups { Query.on c.collection with order } plain tree search) :
    let conditions := plain.toList ++ (tree.predicate.toList ++ search)
    c.compile r = .ok ⟨⟨c.collection, conditions, order, some (offset r.page r.limit), some r.limit⟩,
      ⟨c.collection, conditions, none, none, none⟩, false⟩ := by
  refine compile_ok_iff.mpr ⟨order, groups, _, ho, hg, restrict_ok_iff.mpr ⟨plain, tree, search, hst, rfl⟩, ?_, ?_⟩
  · rw [countQueryFor, hc]
    rfl
  · rfl

lemma stages_of_compile {c : Config} {r : Request} {q : Compiled} (h : c.compile r = .ok q) :
    ∃ order groups plain tree search, c.resolveOrder r = .ok order ∧ r.advancedFilter = .ok groups ∧
      c.Stages r.filter groups { Query.on c.collection with order } plain tree search ∧
      q.query = ⟨c.collection, plain.toList ++ (tree.predicate.toList ++ search), order,
        some (offset r.page r.limit), some r.limit⟩ := by
  obtain ⟨order, groups, query, horder, hgroups, hr, -, hq⟩ := compile_ok_iff.mp h
  obtain ⟨plain, tree, search, hst, rfl⟩ := restrict_ok_iff.mp hr
  exact ⟨order, groups, plain, tree, search, horder, hgroups, hst, hq⟩

lemma countsFirst_of_compile {c : Config} {r : Request} {q : Compiled} (h : c.compile r = .ok q) :
    q.countsFirst = c.countQuery.isSome := by
  obtain ⟨_, _, query, _, _, _, hc, _⟩ := compile_ok_iff.mp h
  cases hb : c.countQuery with
  | none => simp_all [countQueryFor]
  | some build =>
    simp only [countQueryFor, hb, Outcome.bind_ok_iff, Outcome.pure_ok_iff, Prod.mk.injEq] at hc
    obtain ⟨_, _, _, hf⟩ := hc
    simp [← hf]

end Config

end DataGrid
