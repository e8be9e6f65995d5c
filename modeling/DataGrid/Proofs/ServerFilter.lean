import DataGrid.Proofs.Calls
import DataGrid.Proofs.Filtering
import DataGrid.Proofs.HeaderParams
import DataGrid.Proofs.Matchers
import DataGrid.Proofs.Requests

namespace DataGrid

namespace Config

lemma asks_of_restrict {c : Config} {filter : List (String × Json)} {groups : List (List Condition)} {query q : Query}
    (h : c.restrict filter groups query = .ok q) {column : String} {value : Json} (hm : (column, value) ∈ filter)
    (hk : column ≠ searchKey) (ho : c.override? column = none) :
    ∃ found, c.filterColumn? column = some found ∧ ∀ table d, Predicate.meetsAll table d q.conditions = true →
      found.Asks value (d.lookup found.path) := by
  obtain ⟨plain, tree, search, hst, rfl⟩ := restrict_ok_iff.mp h
  obtain ⟨parts, hp, rfl⟩ := Outcome.map_ok_iff.mp (plainFilter_eq filter ▸ hst.plain_ok)
  rw [plainParts_eq] at hp
  obtain ⟨options, hopts, rfl⟩ := Outcome.map_ok_iff.mp hp
  have hentry : (column, value) ∈ filter.filter fun entry => entry.1 ≠ searchKey :=
    List.mem_filter.mpr ⟨hm, by simpa using hk⟩
  obtain ⟨part, hpart, hok⟩ := Outcome.exists_of_mapM_ok hopts hentry
  rw [plainPart_of_no_override ho] at hok
  obtain ⟨_, hplace, rfl⟩ := Outcome.map_ok_iff.mp hok
  obtain ⟨found, hfound, rfl⟩ := map_filterColumn_ok_iff.mp hplace
  refine ⟨found, hfound, fun table d hd => ?_⟩
  rw [Predicate.meetsAll_iff] at hd
  have hplain : ∀ p ∈ (Predicate.allOf? (options.flatMap Option.toList)).toList, p.meets table d = true := fun p hp =>
    hd p (List.mem_append_right _ (List.mem_append_left _ hp))
  have hmet : (plainPredicate found value).meets table d = true :=
    Predicate.meets_allOf?_iff.mp hplain _ (List.mem_flatMap.mpr ⟨_, hpart, by simp⟩)
  exact (Column.meets_plainPredicate_iff found value).mp hmet

lemma restricts_of_compile {c : Config} {r : Request} {q : Compiled} (h : c.compile r = .ok q) :
    (∃ groups base query, c.restrict r.filter groups base = .ok query ∧ q.query.conditions = query.conditions) ∧
    ∃ groups base query, c.restrict r.filter groups base = .ok query ∧ q.count.conditions = query.conditions := by
  obtain ⟨order, groups, query, _, _, hr, hn, hq⟩ := compile_ok_iff.mp h
  refine ⟨⟨groups, _, query, hr, by rw [hq]; rfl⟩, ?_⟩
  cases hc : c.countQuery with
  | none =>
    simp only [countQueryFor, hc, Except.ok.injEq, Prod.mk.injEq] at hn
    exact ⟨groups, _, query, hr, by rw [← hn.1]; rfl⟩
  | some build =>
    simp only [countQueryFor, hc, Outcome.bind_ok_iff, Outcome.pure_ok_iff, Prod.mk.injEq] at hn
    obtain ⟨count, hcount, hn, -⟩ := hn
    exact ⟨groups, _, count, hcount, by rw [← hn]; rfl⟩

/-- The last filter that the server adds on a column holds of every document of the page and of every
document that the total counts, be the counting query derived or the grid's own. -/
theorem added_filter_holds (c : Config) (s : MemoryStore) (params : Params) (before later : List Request.Step)
    (column : String) (value : Json) (found : Found) (after : Request)
    (hs : column ≠ "search") (hk : column ≠ "__search__") (ho : c.override? column = none)
    (hl : ∀ v, .filter column v ∉ later)
    (h : c.getData s.store (.build params (before ++ .filter column value :: later)) = some (.ok found, after)) :
    ∃ (place : Column) (q : Compiled) (counted : List Document),
      c.filterColumn? column = some place ∧
      (∀ d ∈ found.documents, place.Asks value (d.lookup place.path)) ∧
      c.compile (.build params (before ++ .filter column value :: later)) = .ok q ∧
      s.matching q.count = .ok counted ∧ counted.length = found.total ∧
      counted.Sublist (s.collection q.count.collection).documents ∧
      ∀ d ∈ counted, place.Asks value (d.lookup place.path) := by
  obtain ⟨q, documents, total, hq, hf, hn, rfl, -⟩ := getData_ok_iff.mp h
  obtain ⟨matching, hm, hwindow⟩ := MemoryStore.find_ok_iff.mp hf
  obtain ⟨counted, hc, rfl⟩ := Outcome.map_ok_iff.mp hn
  have hmem := Request.mem_filter_of_added params before later value hs hk hl
  obtain ⟨⟨_, _, query, hr, hconditions⟩, _, _, count, hr', hconditions'⟩ := restricts_of_compile hq
  obtain ⟨place, hplace, hpage⟩ := asks_of_restrict hr hmem hk ho
  obtain ⟨place', hplace', hcount⟩ := asks_of_restrict hr' hmem hk ho
  obtain rfl : place = place' := Option.some.inj (hplace.symm.trans hplace')
  refine ⟨place, q, counted, hplace, fun d hd => ?_, hq, hc, rfl, MemoryStore.matching_sublist hc, fun d hd => ?_⟩
  · obtain ⟨table, rfl⟩ := MemoryStore.matching_ok hm
    have hd := (List.mem_filter.mp (Query.mem_of_mem_window hwindow hd)).2
    exact hpage table d (hconditions ▸ hd)
  · obtain ⟨table, rfl⟩ := MemoryStore.matching_ok hc
    have hd := (List.mem_filter.mp hd).2
    exact hcount table d (hconditions' ▸ hd)

theorem review_filter_holds :
    let s : MemoryStore := ⟨[("articles",
      ⟨[[("_id", .int32 1), ("status", .string "draft")], [("_id", .int32 2), ("status", .string "review")]], false⟩)]⟩
    let c := ((Config.new "Articles" "articles").withFilterColumn "status" "status").withOverride "rating"
      fun _ _ _ _ => some (.or [.and []])
    ∃ (place : Column) (q : Compiled) (counted : List Document), c.filterColumn? "status" = some place ∧
      place.Asks (.string "review") (some (.string "review")) ∧ s.matching q.count = .ok counted ∧ counted.length = 1 ∧
      ∀ d ∈ counted, place.Asks (.string "review") (d.lookup place.path) := by
  intro s c
  let params : Params := .ofList [("filter", "\x7b\"status\":\"draft\"\x7d")]
  let r := Request.build params [.total 2, .filter "status" (.string "review"), .limit 5]
  have hsent : r.jsonParam? "filter" = some (.object [("status", .string "draft")]) := by
    have hparam : r.params.get? "filter" = some (Json.object [("status", .string "draft")]).compact := rfl
    exact Request.jsonParam?_compact hparam (by decide) (by decide) (by decide)
  have hfilter : r.filter = [("status", .string "review")] := by
    simp only [Request.filter, Request.sentFilter, Params.filterName, hsent]
    rfl
  have hq : c.compile r = .ok ⟨⟨"articles", [.eq "status" (.string "review")], none, some 0, some 5⟩,
      ⟨"articles", [.eq "status" (.string "review")], none, none, none⟩, false⟩ := by
    refine compile_ok_iff.mpr ⟨none, [], _, ?_, ?_, by rw [hfilter]; rfl, rfl, ?_⟩
    all_goals
      dsimp only [c, r, params]
      exact rfl
  obtain ⟨place, q, counted, hplace, hpage, -, hm, hlen, -, hcounted⟩ := added_filter_holds c s params [.total 2]
    [.limit 5] "status" (.string "review") ⟨[[("_id", .int32 2), ("status", .string "review")]], 1, "%Y-%m-%d %H:%M:%S"⟩
    (r.setTotal 1) (by decide) (by decide) rfl (by simp) (getData_ok_iff.mpr ⟨_, _, 1, hq, rfl, rfl, rfl, rfl⟩)
  obtain rfl : ⟨"status", none⟩ = place := Option.some.inj hplace
  exact ⟨_, q, counted, hplace, hpage _ (List.mem_singleton_self _), hm, hlen, hcounted⟩

end Config

end DataGrid
