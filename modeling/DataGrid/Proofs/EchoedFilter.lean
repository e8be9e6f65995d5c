import DataGrid.Envelope
import DataGrid.Proofs.HeaderParams

namespace DataGrid.Request

lemma outerName_ne_searchKey (column : String) : outerName column ≠ searchKey := by
  unfold outerName
  split
  case isTrue => decide
  case isFalse h => exact h

def ofFilter (members : List (String × Json)) : Request := new (.ofList [("filter", (Json.object members).compact)])

lemma filter_ofFilter (members : List (String × Json)) :
    (ofFilter members).filter = (ofFilter members).sentFilter ∧
      (ofFilter members).params.get? Params.filterName = some (Json.object members).compact := by
  have hone : (ofFilter members).params = Params.empty.insert Params.filterName (Json.object members).compact := rfl
  refine ⟨filter_of_unsearched ?_ rfl, ?_⟩
  · rw [hone]
    exact Params.get?_insert_of_ne _ (by decide) _
  · rw [hone]
    exact Params.get?_insert_self _ _ _

/-- The filter that an answer echoes has the entries of the request's filter in their order, each under the name that
clients know it by, which is never the inner name of the search. A request whose only parameter is its text has
the filter of the first. -/
theorem echoed_filter_sent_back (params : Params) (steps : List Step) (hs : ∀ step ∈ steps, step.Fits)
    (hn : (Json.object (build params steps).filter).Every Json.IsNoDouble)
    (hd : (Json.object (build params steps).filter).depth < 128) :
    let r := build params steps
    let echoed := r.publicFilter
    (∀ items, (Envelope.assemble r items).filter = echoed) ∧
    echoed.length = r.filter.length ∧ (echoed = r.filter.map fun entry => (outerName entry.1, entry.2)) ∧
    searchKey ∉ Fields.names echoed ∧
    (ofFilter echoed).filter = r.filter := by
  intro r echoed
  have hf : r.Fits := (Fits.new params).after hs
  have hmap : echoed = r.outward id := hf.publicFilter_eq
  refine ⟨fun _ => rfl, by rw [hmap, outward, List.length_map], hmap, fun hmem => ?_, ?_⟩
  · rw [hmap, Fields.names, outward, List.map_map] at hmem
    obtain ⟨entry, -, hname⟩ := List.mem_map.mp hmem
    exact outerName_ne_searchKey entry.1 hname
  · obtain ⟨hfilter, hsent⟩ := filter_ofFilter (r.outward id)
    rw [hmap, hfilter, hf.sentFilter_of_outward keepsText_id hn hd hsent]
    exact r.filter.map_id

theorem echoed_filter_of_server_search :
    let status : Json := .array [.string "draft", .string "review"]
    let words : Json := .array [.string "Lean", .int 4]
    let r := build (.ofList [("Filter", "\x7b\"search\":\"rust\",\"status\":[\"draft\",\"review\"]\x7d"),
      ("search", "Lean")]) [.filter "__search__" words]
    r.filter = [("__search__", words), ("status", status)] ∧ r.publicFilter = [("search", words), ("status", status)] ∧
      (ofFilter [("search", words), ("status", status)]).filter = r.filter := by
  intro status words r
  have hfilter : r.filter = [("__search__", words), ("status", status)] := by
    have hraw : r.params.get? Params.filterName =
        some (Json.object [("search", .string "rust"), ("status", status)]).compact := rfl
    have hjson := jsonParam?_compact hraw (by decide) (by decide) (by decide)
    rw [filter, sentFilter, hjson]
    rfl
  have hs : ∀ step ∈ [Step.filter "__search__" words], step.Fits := by
    simp [words, Step.Fits, Json.Every, Json.EveryItem, Json.Fits, Count.most]
  have hn : (Json.object r.filter).Every Json.IsNoDouble := by
    rw [hfilter]
    decide
  have hd : (Json.object r.filter).depth < 128 := by
    rw [hfilter]
    decide
  obtain ⟨-, -, hmap, -, hback⟩ := echoed_filter_sent_back _ _ hs hn hd
  have hechoed : r.publicFilter = [("search", words), ("status", status)] := by
    rw [hmap, hfilter]
    rfl
  exact ⟨hfilter, hechoed, hechoed ▸ hback⟩

end DataGrid.Request
