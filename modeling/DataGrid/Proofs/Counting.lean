import DataGrid.Proofs.Calls
import DataGrid.Proofs.Filtering
import DataGrid.Proofs.Matchers
import DataGrid.Proofs.Requests

namespace DataGrid

namespace Config

variable {c : Config}

lemma searched_congr (ho : c.OverridesQueryless) (query query' : Query) (words : Option String) :
    c.searched query words = c.searched query' words := by
  cases words with
  | none => rfl
  | some words =>
    have hpart : c.searchPart query words = c.searchPart query' words := by
      funext path
      rw [searchPart_eq, searchPart_eq, ownOr_congr ho query query']
    rw [searched, searched, searchPredicates, searchPredicates, hpart]

lemma restrictions_congr (ho : c.OverridesQueryless) (query query' : Query) (filter : List (String × Json))
    (groups : List (List Condition)) : c.restrictions filter groups query = c.restrictions filter groups query' := by
  rw [restrictions, restrictions, plainFilter_congr ho query query']
  cases c.plainFilter query' filter with
  | error e => rfl
  | ok plain =>
    change (c.advancedTree (query.requireAll plain.toList) groups >>= _) =
      (c.advancedTree (query'.requireAll plain.toList) groups >>= _)
    rw [advancedTree_congr ho _ (query'.requireAll plain.toList)]
    cases c.advancedTree (query'.requireAll plain.toList) groups with
    | error e => rfl
    | ok tree =>
      change (c.searched (query.requireAll _) _ >>= _) = (c.searched (query'.requireAll _) _ >>= _)
      rw [searched_congr ho _ (query'.requireAll (plain.toList ++ tree.predicate.toList))]

lemma restrictions_withCountQuery (build : Schema → Query) (filter : List (String × Json))
    (groups : List (List Condition)) (query : Query) :
    (c.withCountQuery build).restrictions filter groups query = c.restrictions filter groups query := by
  have hplain : (c.withCountQuery build).plainFilter = c.plainFilter := by
    funext query filter
    simp only [plainFilter_eq, plainParts_eq, plainPart_eq]
    rfl
  have htree : (c.withCountQuery build).advancedTree = c.advancedTree := by
    funext query groups
    simp only [advancedTree_eq, treeParts_eq, funext groupParts_eq, funext advancedPart_eq]
    rfl
  rw [restrictions, restrictions, hplain, htree]
  rfl

lemma conditions_of_compile {r : Request} {q : Compiled} (ho : c.OverridesQueryless) (h : c.compile r = .ok q) :
    ∃ groups, r.advancedFilter = .ok groups ∧
      c.restrictions r.filter groups (.on c.collection) = .ok q.query.conditions := by
  obtain ⟨_, groups, _, -, hgroups, hr, -, hq⟩ := compile_ok_iff.mp h
  rw [restrict_eq, restrictions_congr ho _ (.on c.collection)] at hr
  obtain ⟨conditions, hconditions, hquery⟩ := Outcome.map_ok_iff.mp hr
  obtain rfl : q.query.conditions = conditions := by
    rw [hq, ← hquery]
    exact List.nil_append conditions
  exact ⟨groups, hgroups, hconditions⟩

lemma count_of_compile {build : Schema → Query} {r : Request} {q : Compiled} (hc : c.countQuery = some build)
    (ho : c.OverridesQueryless) (h : c.compile r = .ok q) :
    ∃ groups, r.advancedFilter = .ok groups ∧
      c.restrictions r.filter groups (.on c.collection) = .ok q.query.conditions ∧
      q.count = ((build c.toSchema).requireAll q.query.conditions).unordered ∧ q.countsFirst = true := by
  obtain ⟨groups, hgroups, hconditions⟩ := conditions_of_compile ho h
  obtain ⟨_, groups', _, -, hgroups', -, hn, -⟩ := compile_ok_iff.mp h
  obtain rfl : groups = groups' := Except.ok.inj (hgroups.symm.trans hgroups')
  simp only [countQueryFor, hc, Outcome.bind_ok_iff, Outcome.pure_ok_iff, Prod.mk.injEq] at hn
  obtain ⟨count, hcount, hunordered, hfirst⟩ := hn
  rw [restrict_eq, restrictions_congr ho _ (.on c.collection), hconditions] at hcount
  obtain rfl := Except.ok.inj hcount
  exact ⟨groups, hgroups, hconditions, hunordered.symm, hfirst.symm⟩

lemma conditions_of_alike {build build' : Schema → Query} {r r' : Request} {q q' : Compiled}
    (hc : c.countQuery = some build) (ho : c.OverridesQueryless) (hr : r.AsksAlike r') (h : c.compile r = .ok q)
    (h' : (c.withCountQuery build').compile r' = .ok q') : q'.query.conditions = q.query.conditions := by
  obtain ⟨groups, hgroups, hconditions, -, -⟩ := count_of_compile hc ho h
  obtain ⟨groups', hgroups', hconditions', -, -⟩ := count_of_compile (c := c.withCountQuery build') rfl ho h'
  obtain rfl : groups' = groups := by
    rw [hr.advancedFilter_eq, hgroups] at hgroups'
    exact (Except.ok.inj hgroups').symm
  rw [restrictions_withCountQuery, hr.filter_eq] at hconditions'
  exact Except.ok.inj (hconditions'.symm.trans hconditions)

lemma total_of_getData {build : Schema → Query} {s : MemoryStore} {r after : Request} {q : Compiled} {found : Found}
    (hc : c.countQuery = some build) (ho : c.OverridesQueryless) (h : c.compile r = .ok q)
    (hd : c.getData s.store r = some (.ok found, after)) :
    found.total = (s.collection (build c.toSchema).collection).documents.countP fun d =>
      ((build c.toSchema).conditions ++ q.query.conditions).all fun p => p.holds d := by
  obtain ⟨_, -, -, hcount, -⟩ := count_of_compile hc ho h
  obtain ⟨q', documents, total, hq, -, hn, rfl, -⟩ := getData_ok_iff.mp hd
  obtain rfl : q' = q := Except.ok.inj (hq.symm.trans h)
  obtain ⟨counted, hm, rfl⟩ := Outcome.map_ok_iff.mp hn
  rw [MemoryStore.matching_holds hm, ← List.countP_eq_length_filter, hcount]
  rfl

/-- A grid's own counting query keeps its collection, is not ordered, and comes under the conditions of
the page query behind its own; the total is the number of documents that meet them all. Neither the page,
the limit and the order of the request nor a window of the counting query changes it. -/
theorem custom_count_reconciled (c : Config) (build : Schema → Query) (r : Request) (q : Compiled)
    (hc : c.countQuery = some build) (ho : c.OverridesQueryless) (h : c.compile r = .ok q) :
    let base := build c.toSchema
    q.count.collection = base.collection ∧ q.count.conditions = base.conditions ++ q.query.conditions ∧
    q.count.order = none ∧ q.countsFirst = true ∧
    ∀ (s : MemoryStore) (found : Found) (after : Request), c.getData s.store r = some (.ok found, after) →
      (found.total = (s.collection base.collection).documents.countP fun d =>
        (base.conditions.all fun p => p.holds d) && q.query.conditions.all fun p => p.holds d) ∧
      ∀ (build' : Schema → Query) (r' : Request) (found' : Found) (after' : Request),
        (build' c.toSchema).collection = base.collection → (build' c.toSchema).conditions = base.conditions →
        r.AsksAlike r' → (c.withCountQuery build').getData s.store r' = some (.ok found', after') →
        found'.total = found.total := by
  obtain ⟨_, -, -, hcount, hfirst⟩ := count_of_compile hc ho h
  refine ⟨by rw [hcount]; rfl, by rw [hcount]; rfl, by rw [hcount]; rfl, hfirst, fun s found after hd => ⟨?_, ?_⟩⟩
  · rw [total_of_getData hc ho h hd]
    simp only [List.all_append]
  · intro build' r' found' after' hcollection hconditions hr hd'
    obtain ⟨q', _, _, hq', -⟩ := getData_ok_iff.mp hd'
    have hsame : q'.query.conditions = q.query.conditions := conditions_of_alike hc ho hr h hq'
    have htotal := total_of_getData (c := c.withCountQuery build') rfl ho hq' hd'
    change found'.total = (s.collection (build' c.toSchema).collection).documents.countP (fun d =>
      ((build' c.toSchema).conditions ++ q'.query.conditions).all fun p => p.holds d) at htotal
    rw [htotal, hcollection, hconditions, hsame, total_of_getData hc ho h hd]

theorem count_of_published_drafts :
    let s : MemoryStore := ⟨[("articles", ⟨[], false⟩), ("archive",
      ⟨[[("status", .string "draft"), ("published", .bool true)], [("status", .string "draft")]], false⟩)]⟩
    let build (_ : Schema) : Query := ⟨"archive", [.notNull "published"], some ⟨"status", .asc⟩, some 1, some 0⟩
    let build' (_ : Schema) : Query := ⟨"archive", [.notNull "published"], none, none, some 5⟩
    let own : Override := fun _ value field _ => some (.eq field value)
    let c := (((Config.new "Articles" "articles").withFilterColumn "status" "status").withOverride "status" own
      ).withCountQuery build
    let r := Request.build .empty [.filter "status" (.string "draft")]
    let r' := Request.build (.ofList [("page", "2"), ("limit", "3")]) [.filter "status" (.string "draft")]
    ∃ q, c.compile r = .ok q ∧ q.count.conditions = [.notNull "published", .eq "status" (.string "draft")] ∧
      c.OverridesQueryless ∧ r.AsksAlike r' ∧ ∀ found after,
        (c.withCountQuery build').getData s.store r' = some (.ok found, after) → found.total = 1 := by
  intro s build build' own c r r'
  have ho : c.OverridesQueryless := by
    intro column override hlookup query query' value field op
    obtain ⟨-, rfl⟩ := override?_of_single rfl hlookup
    rfl
  have hr : r.AsksAlike r' := ⟨by decide, rfl⟩
  let q : Compiled := ⟨⟨"articles", [.eq "status" (.string "draft")], none, some 0, some 10⟩,
    ⟨"archive", [.notNull "published", .eq "status" (.string "draft")], none, some 1, some 0⟩, true⟩
  have hq : c.compile r = .ok q := by
    dsimp only [c, r, q]
    exact rfl
  obtain ⟨-, hconditions, -, -, htotal⟩ := custom_count_reconciled c build r q rfl ho hq
  have hd : c.getData s.store r = some (.ok ⟨[], 1, "%Y-%m-%d %H:%M:%S"⟩, r.setTotal 1) :=
    getData_ok_iff.mpr ⟨q, [], 1, hq, rfl, rfl, rfl, rfl⟩
  exact ⟨q, hq, hconditions, ho, hr, fun found after hd' => (htotal s _ _ hd).2 build' r' found after rfl rfl hr hd'⟩

end Config

end DataGrid
