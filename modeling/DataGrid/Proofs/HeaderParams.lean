import DataGrid.Proofs.Compilation
import DataGrid.Proofs.Filtering
import DataGrid.Proofs.Json.RoundTrip
import DataGrid.Proofs.Requests
import Mathlib.Data.List.Nodup

/-! The parameters of a request for a header ask for the same again: a request that is made of them has
the page, the limit, the order and the advanced filter of the first, and its filter up to lists, which
come back as texts. -/

namespace DataGrid

namespace Params

def insert? (p : Params) (name : String) (value : Option String) : Params := value.elim p (p.insert name)

lemma get?_insert?_self (p : Params) (name : String) (value : Option String) :
    (p.insert? name value).get? name = value.or (p.get? name) := by
  cases value with
  | none => rfl
  | some value => exact get?_insert_self p name value

lemma get?_insert?_of_ne (p : Params) {other name : String} (h : normalize other ≠ normalize name)
    (value : Option String) : (p.insert? name value).get? other = p.get? other := by
  cases value with
  | none => rfl
  | some value => exact get?_insert_of_ne p h value

end Params

namespace Json

lemma param_flattened (v : Json) : (Request.flattened v).param = v.param := by
  cases v <;> simp [Request.flattened, param]

lemma flattened_flattened (v : Json) : Request.flattened (Request.flattened v) = Request.flattened v := by
  cases v <;> rfl

lemma flattened_of_not_array {v : Json} (h : v.array? = none) : Request.flattened v = v := by
  cases v with
  | array items => cases h
  | _ => rfl

lemma Every.flattened {P : Json → Prop} {v : Json} (h : v.Every P) (hs : ∀ s, P (.string s)) :
    (Request.flattened v).Every P := by
  cases v with
  | array items => exact hs _
  | _ => exact h

lemma depth_flattened_le (v : Json) : (Request.flattened v).depth ≤ v.depth := by
  cases v with
  | array items => exact Nat.zero_le _
  | _ => exact Nat.le_refl _

lemma depthMembers_map_le {f : String → String} {g : Json → Json} (h : ∀ v, (g v).depth ≤ v.depth)
    (members : List (String × Json)) :
    depthMembers (members.map fun member => (f member.1, g member.2)) ≤ depthMembers members := by
  induction members with
  | nil => exact Nat.le_refl _
  | cons member members ih =>
    have hv := h member.2
    simp only [List.map_cons, depthMembers]
    omega

end Json

namespace Order

lemma key_of_parse? {raw : String} {o : Order} (h : parse? raw = some o) :
    o.key.toList ≠ [] ∧ Text.IsTrimmed o.key.toList := by
  simp only [parse?] at h
  split_ifs at h with hempty
  obtain rfl := Option.some.inj h
  rw [String.toList_ofList]
  exact ⟨by simpa using hempty, Text.isTrimmed_trimmed _⟩

lemma parse?_signed (direction : Direction) {column : List Char} (hne : column ≠ []) (ht : Text.IsTrimmed column) :
    parse? (String.ofList (direction.sign :: column)) = some ⟨String.ofList column, direction⟩ := by
  have hsign : Text.IsTrimmed (direction.sign :: column) := ht.cons (by cases direction <;> rfl)
  rw [parse?, String.toList_ofList, hsign.1, hsign.2]
  cases direction <;> simp [Direction.sign, ht.1, ht.2, hne]

lemma parse?_of_parse? {raw : String} {o : Order} (h : parse? raw = some o) :
    parse? (String.ofList (o.direction.sign :: o.key.toList)) = some o := by
  obtain ⟨hne, ht⟩ := key_of_parse? h
  rw [parse?_signed o.direction hne ht, String.ofList_toList]

end Order

namespace Request

variable {r : Request}

lemma innerName_ne_search (column : String) : innerName column ≠ Params.searchName := by
  unfold innerName
  split
  case isTrue => decide
  case isFalse h => exact h

lemma innerName_outerName {column : String} (h : column ≠ Params.searchName) : innerName (outerName column) = column := by
  unfold outerName
  split
  case isTrue hk => rw [innerName, if_pos rfl, hk]
  case isFalse => rw [innerName, if_neg h]

def Step.Fits : Step → Prop
  | defaultLimit n => n ≤ Count.most
  | limit n => n ≤ Count.most
  | filter _ value => value.Every Json.Fits
  | total _ => True

structure Fits (r : Request) : Prop where
  default_le : r.defaultLimit ≤ Count.most
  override_le : ∀ n, r.limitOverride = some n → n ≤ Count.most
  added : ∀ entry ∈ r.addedFilters, entry.1 ≠ Params.searchName ∧ entry.2.Every Json.Fits

lemma Fits.new (params : Params) : (new params).Fits :=
  ⟨by simp only [Request.new]; decide, by simp [Request.new], by simp [Request.new]⟩

lemma Fits.step (h : r.Fits) {step : Step} (hs : step.Fits) : (step.apply r).Fits := by
  obtain ⟨hd, ho, ha⟩ := h
  have hone : 1 ≤ Count.most := by decide
  cases step with
  | defaultLimit n => exact ⟨Nat.max_le.mpr ⟨hs, hone⟩, ho, ha⟩
  | limit n =>
    refine ⟨hd, fun m hm => ?_, ha⟩
    obtain rfl : max n 1 = m := by simpa [Step.apply, setLimit] using hm
    exact Nat.max_le.mpr ⟨hs, hone⟩
  | filter column value =>
    refine ⟨hd, ho, fun entry he => ?_⟩
    rcases Fields.mem_of_mem_insert he with rfl | hm
    · exact ⟨innerName_ne_search column, hs⟩
    · exact ha entry hm
  | total n => exact ⟨hd, ho, ha⟩

lemma Fits.after (h : r.Fits) {steps : List Step} (hs : ∀ step ∈ steps, step.Fits) :
    (r.after steps).Fits := by
  induction steps generalizing r with
  | nil => exact h
  | cons step steps ih =>
    obtain ⟨hstep, hsteps⟩ := List.forall_mem_cons.mp hs
    exact ih (h.step hstep) hsteps

/-! ### The numbers -/

lemma Fits.limit_le (h : r.Fits) : r.limit ≤ Count.most := by
  rw [limit]
  cases ho : r.limitOverride with
  | some n => exact h.override_le n ho
  | none =>
    cases hl : r.positiveParam? Params.limitName with
    | some n => exact (positiveParam?_bounds hl).2
    | none => exact h.default_le

/-! ### The filter -/

lemma nodup_names_filter (r : Request) : (Fields.names r.filter).Nodup := by
  refine Fields.nodup_names_insertAll ?_ r.addedFilters
  have hsent : (Fields.names r.sentFilter).Nodup := by
    unfold sentFilter
    split
    · exact Fields.nodup_names_ofList _
    · exact List.nodup_nil
  unfold withSearch
  split
  · exact hsent
  · split
    · exact hsent
    · exact Fields.nodup_names_insert hsent _ _

lemma fits_of_jsonParam? {name : String} {v : Json} (h : r.jsonParam? name = some v) : v.Every Json.Fits := by
  simp only [jsonParam?, Option.bind_eq_bind, Option.bind_eq_some_iff] at h
  obtain ⟨text, -, hread⟩ := h
  split at hread
  · cases hread
  · exact Json.fits_of_parse? hread

lemma mem_sentFilter {entry : String × Json} (h : entry ∈ r.sentFilter) :
    entry.1 ≠ Params.searchName ∧ entry.2.Every Json.Fits := by
  unfold sentFilter at h
  split at h
  case h_1 members hm =>
    obtain ⟨member, hmember, rfl⟩ := List.mem_map.mp (Fields.mem_of_mem_ofList h)
    exact ⟨innerName_ne_search member.1, Json.everyMember_iff.mp (fits_of_jsonParam? hm).2 member hmember⟩
  case h_2 => cases h

lemma Fits.mem_filter (h : r.Fits) {entry : String × Json} (he : entry ∈ r.filter) :
    entry.1 ≠ Params.searchName ∧ entry.2.Every Json.Fits := by
  rcases Fields.mem_of_mem_insertAll he with hs | ha
  · unfold withSearch at hs
    split at hs
    · exact mem_sentFilter hs
    · split at hs
      · exact mem_sentFilter hs
      · rcases Fields.mem_of_mem_insert hs with rfl | hm
        · exact ⟨show searchKey ≠ Params.searchName by decide, trivial⟩
        · exact mem_sentFilter hm
  · exact h.added entry ha

def outward (r : Request) (f : Json → Json) : List (String × Json) :=
  r.filter.map fun entry => (outerName entry.1, f entry.2)

lemma Fits.nodup_outward (h : r.Fits) (f : Json → Json) : (Fields.names (r.outward f)).Nodup := by
  have hnames : Fields.names (r.outward f) = (Fields.names r.filter).map outerName := by
    simp [outward, Fields.names, Function.comp_def]
  rw [hnames]
  refine List.Nodup.map_on (fun name hname name' hname' heq => ?_) r.nodup_names_filter
  obtain ⟨entry, he, rfl⟩ := List.mem_map.mp hname
  obtain ⟨entry', he', rfl⟩ := List.mem_map.mp hname'
  rw [← innerName_outerName (h.mem_filter he).1, heq, innerName_outerName (h.mem_filter he').1]

lemma Fits.publicFilter_eq (h : r.Fits) : r.publicFilter = r.outward id :=
  Fields.ofList_of_nodup (h.nodup_outward id)

def carried (r : Request) : List (String × Json) := r.publicFilter.map fun entry => (entry.1, flattened entry.2)

lemma Fits.carried_eq (h : r.Fits) : r.carried = r.outward flattened := by
  rw [carried, h.publicFilter_eq, outward, List.map_map]
  rfl

/-- A change of values that keeps them such that their text can be read back. -/
structure KeepsText (f : Json → Json) : Prop where
  fits : ∀ v : Json, v.Every Json.Fits → (f v).Every Json.Fits
  noDouble : ∀ v : Json, v.Every Json.IsNoDouble → (f v).Every Json.IsNoDouble
  depth : ∀ v : Json, (f v).depth ≤ v.depth

lemma keepsText_id : KeepsText id := ⟨fun _ h => h, fun _ h => h, fun _ => le_rfl⟩

lemma keepsText_flattened : KeepsText flattened :=
  ⟨fun _ h => h.flattened fun _ => trivial, fun _ h => h.flattened (by rintro _ _ ⟨⟩), Json.depth_flattened_le⟩

variable {f : Json → Json}

lemma every_outward {P : Json → Prop} (hf : ∀ v : Json, v.Every P → (f v).Every P)
    (hm : ∀ entry ∈ r.filter, entry.2.Every P) : Json.EveryMember P (r.outward f) :=
  Json.everyMember_iff.mpr (List.forall_mem_map.mpr fun entry he => hf entry.2 (hm entry he))

lemma Fits.fits_outward (h : r.Fits) (hf : KeepsText f) : (Json.object (r.outward f)).Every Json.Fits :=
  ⟨h.nodup_outward f, every_outward hf.fits fun _ he => (h.mem_filter he).2⟩

lemma noDouble_outward (hf : KeepsText f) (hn : (Json.object r.filter).Every Json.IsNoDouble) :
    (Json.object (r.outward f)).Every Json.IsNoDouble :=
  ⟨by rintro _ ⟨⟩, every_outward hf.noDouble (Json.everyMember_iff.mp hn.2)⟩

lemma depth_outward_le (hf : KeepsText f) : (Json.object (r.outward f)).depth ≤ (Json.object r.filter).depth :=
  Nat.succ_le_succ (Json.depthMembers_map_le hf.depth r.filter)

lemma Fits.rename_outward (h : r.Fits) :
    Fields.rename innerName (r.outward f) = r.filter.map fun entry => (entry.1, f entry.2) := by
  have hback : ((r.outward f).map fun entry => (innerName entry.1, entry.2)) =
      r.filter.map fun entry => (entry.1, f entry.2) := by
    rw [outward, List.map_map]
    refine List.map_congr_left fun entry he => ?_
    simp [innerName_outerName (h.mem_filter he).1]
  have hnames : Fields.names (r.filter.map fun entry => (entry.1, f entry.2)) = Fields.names r.filter := by
    simp [Fields.names, Function.comp_def]
  rw [Fields.rename, hback, Fields.ofList_of_nodup (hnames ▸ r.nodup_names_filter)]

/-! ### What stands in the parameters -/

structure Asks (r : Request) (p : Params) : Prop where
  page : p.get? Params.pageName = some (toString r.page)
  limit : p.get? Params.limitName = some (toString r.limit)
  filter : p.get? Params.filterName = if r.carried.isEmpty then none else some (Json.object r.carried).compact
  search : p.get? Params.searchName = none
  advanced : p.get? Params.advancedName = r.params.get? Params.advancedName
  order : p.get? Params.orderName = r.orderBy.map fun o => String.ofList (o.direction.sign :: o.key.toList)

lemma headerParams_eq (r : Request) : r.headerParams =
    ((((Params.empty.insert Params.pageName (toString r.page)).insert Params.limitName (toString r.limit)).insert?
      Params.filterName (if r.carried.isEmpty then none else some (Json.object r.carried).compact)).insert?
      Params.advancedName (r.params.get? Params.advancedName)).insert?
      Params.orderName (r.orderBy.map fun o => String.ofList (o.direction.sign :: o.key.toList)) := by
  rw [headerParams, ← carried]
  cases r.orderBy <;> cases r.params.get? Params.advancedName <;> cases r.carried.isEmpty <;> rfl

lemma asks_headerParams (r : Request) : r.Asks r.headerParams := by
  have hempty : ∀ name, Params.empty.get? name = none := fun _ => rfl
  rw [headerParams_eq]
  constructor <;> simp (disch := decide) only [Params.get?_insert_self, Params.get?_insert?_self,
    Params.get?_insert_of_ne, Params.get?_insert?_of_ne, hempty, Option.or_none]

/-! ### What is read of them again -/

def rebuilt (r : Request) : Request := new r.headerParams

lemma asks_rebuilt (r : Request) : r.Asks r.rebuilt.params := r.asks_headerParams

lemma fits_rebuilt (r : Request) : r.rebuilt.Fits := .new r.headerParams

lemma rebuilt_page (r : Request) : r.rebuilt.page = r.page := by
  obtain ⟨hpos, hmost⟩ := r.page_bounds
  rw [page, positiveParam?_toString r.asks_rebuilt.page hpos hmost, Option.getD_some]

lemma Fits.rebuilt_limit (h : r.Fits) (hp : r.Proper) : r.rebuilt.limit = r.limit := by
  have hread := positiveParam?_toString r.asks_rebuilt.limit hp.limit_pos h.limit_le
  have hoverride : r.rebuilt.limitOverride = none := rfl
  rw [limit, hoverride, hread]
  rfl

lemma rebuilt_orderBy (r : Request) : r.rebuilt.orderBy = r.orderBy := by
  have hsigned : r.rebuilt.params.get? Params.orderName =
      r.orderBy.map fun o => String.ofList (o.direction.sign :: o.key.toList) :=
    r.asks_rebuilt.order
  rw [orderBy, hsigned]
  cases ho : r.orderBy with
  | none => rfl
  | some o =>
    obtain ⟨raw, -, hraw⟩ := Option.bind_eq_some_iff.mp ho
    rw [Option.map_some, Option.bind_some, Order.parse?_of_parse? hraw]

lemma rebuilt_advancedFilter (r : Request) : r.rebuilt.advancedFilter = r.advancedFilter := by
  have hraw : r.rebuilt.params.get? Params.advancedName = r.params.get? Params.advancedName :=
    r.asks_rebuilt.advanced
  simp only [advancedFilter, jsonParam?, hraw]

lemma jsonParam?_written {name : String} {v : Json} (h : r.params.get? name = some v.compact)
    (ht : Text.IsTrimmed v.written) (hne : v.written ≠ []) (hf : v.Every Json.Fits) (hn : v.Every Json.IsNoDouble)
    (hd : v.depth < 128) : r.jsonParam? name = some v := by
  have htrim : Text.trim v.compact = v.compact := Text.trim_ofList ht
  have hempty : v.compact ≠ "" := by
    rw [Json.compact, ne_eq, String.ext_iff, String.toList_ofList]
    exact hne
  simp [jsonParam?, h, htrim, hempty, Json.parse?_compact hf hn hd]

lemma jsonParam?_compact {name : String} {members : List (String × Json)}
    (h : r.params.get? name = some (Json.object members).compact) (hf : (Json.object members).Every Json.Fits)
    (hn : (Json.object members).Every Json.IsNoDouble) (hd : (Json.object members).depth < 128) :
    r.jsonParam? name = some (.object members) := by
  have hwritten : (Json.object members).written = '\x7b' :: (Json.writtenMembers members ++ ['\x7d']) := by
    rw [Json.written]
  refine jsonParam?_written h ?_ ?_ hf hn hd
  · exact hwritten ▸ Text.isTrimmed_of_ends rfl rfl _
  · exact hwritten ▸ List.cons_ne_nil _ _

lemma jsonParam?_compact_array {name : String} {items : List Json}
    (h : r.params.get? name = some (Json.array items).compact) (hf : (Json.array items).Every Json.Fits)
    (hn : (Json.array items).Every Json.IsNoDouble) (hd : (Json.array items).depth < 128) :
    r.jsonParam? name = some (.array items) := by
  have hwritten : (Json.array items).written = '[' :: (Json.writtenItems items ++ [']']) := by
    rw [Json.written]
  refine jsonParam?_written h ?_ ?_ hf hn hd
  · exact hwritten ▸ Text.isTrimmed_of_ends rfl rfl _
  · exact hwritten ▸ List.cons_ne_nil _ _

lemma filter_of_unsearched (hsearch : r.params.get? Params.searchName = none) (hadded : r.addedFilters = []) :
    r.filter = r.sentFilter := by
  rw [filter, withSearch, hsearch, hadded]
  rfl

lemma sentFilter_of_unsent (h : r.params.get? Params.filterName = none) : r.sentFilter = [] := by
  have hnone : r.jsonParam? Params.filterName = none := by simp [jsonParam?, h]
  rw [sentFilter, hnone]

lemma Fits.sentFilter_of_outward {r' : Request} (h : r.Fits) (hf : KeepsText f)
    (hn : (Json.object r.filter).Every Json.IsNoDouble) (hd : (Json.object r.filter).depth < 128)
    (hsent : r'.params.get? Params.filterName = some (Json.object (r.outward f)).compact) :
    r'.sentFilter = r.filter.map fun entry => (entry.1, f entry.2) := by
  have hdepth : (Json.object (r.outward f)).depth < 128 := (depth_outward_le hf).trans_lt hd
  have hread := jsonParam?_compact hsent (h.fits_outward hf) (noDouble_outward hf hn) hdepth
  rw [sentFilter, hread, ← h.rename_outward]

lemma Fits.rebuilt_filter (h : r.Fits) (hn : (Json.object r.filter).Every Json.IsNoDouble)
    (hd : (Json.object r.filter).depth < 128) :
    r.rebuilt.filter = r.filter.map fun entry => (entry.1, flattened entry.2) := by
  have hasks := r.asks_rebuilt
  rw [filter_of_unsearched hasks.search rfl]
  cases hc : r.carried.isEmpty with
  | true =>
    have hunsent : r.rebuilt.params.get? Params.filterName = none := by
      simpa [hc] using hasks.filter
    have hnil : r.filter = [] := by simpa [h.carried_eq, outward] using hc
    rw [sentFilter_of_unsent hunsent, hnil]
    rfl
  | false =>
    have hsent : r.rebuilt.params.get? Params.filterName = some (Json.object (r.outward flattened)).compact := by
      rw [← h.carried_eq]
      simpa [hc] using hasks.filter
    exact h.sentFilter_of_outward keepsText_flattened hn hd hsent

lemma Fits.rebuilt_headerParams (h : r.Fits) (hp : r.Proper) (hn : (Json.object r.filter).Every Json.IsNoDouble)
    (hd : (Json.object r.filter).depth < 128) : r.rebuilt.headerParams = r.headerParams := by
  have hcarried : r.rebuilt.carried = r.carried := by
    rw [r.fits_rebuilt.carried_eq, h.carried_eq, outward, outward, h.rebuilt_filter hn hd, List.map_map]
    simp [Function.comp_def, Json.flattened_flattened]
  have hraw : r.rebuilt.params.get? Params.advancedName = r.params.get? Params.advancedName :=
    r.asks_rebuilt.advanced
  rw [headerParams_eq, rebuilt_page, h.rebuilt_limit hp, hcarried, hraw, rebuilt_orderBy,
    ← headerParams_eq]

end Request

/-! ### What a grid makes of them -/

namespace Config

variable {c : Config} {filter filter' : List (String × Json)}

lemma restrict_congr (hplain : ∀ query, c.plainFilter query filter = c.plainFilter query filter')
    (hwords : ∀ tree, c.words filter tree = c.words filter' tree) : c.restrict filter = c.restrict filter' := by
  funext groups query
  simp only [restrict_eq, restrictions, hplain, hwords]

lemma plainFilter_flattened (h : ∀ entry ∈ filter, entry.1 ≠ searchKey → entry.2.array? = none) (query : Query) :
    c.plainFilter query (filter.map fun entry => (entry.1, Request.flattened entry.2)) = c.plainFilter query filter := by
  have hsame : (filter.map fun entry => (entry.1, Request.flattened entry.2)).filter (fun entry => entry.1 ≠ searchKey) =
      filter.filter fun entry => entry.1 ≠ searchKey := by
    rw [List.filter_map]
    refine (List.map_congr_left fun entry he => ?_).trans (List.map_id _)
    obtain ⟨hmem, hk⟩ := List.mem_filter.mp he
    rw [Json.flattened_of_not_array (h entry hmem (by simpa using hk))]
    rfl
  rw [plainFilter_eq, plainFilter_eq, plainParts_eq, plainParts_eq, hsame]

lemma words_flattened (tree : Tree) :
    c.words (filter.map fun entry => (entry.1, Request.flattened entry.2)) tree = c.words filter tree := by
  have hlookup : (filter.map fun entry => (entry.1, Request.flattened entry.2)).lookup searchKey =
      (filter.lookup searchKey).map Request.flattened := Fields.lookup_map _ _ _
  simp only [words, hlookup, Search.token, Option.bind_map, Function.comp_def, Json.param_flattened]

lemma restrict_flattened (h : ∀ entry ∈ filter, entry.1 ≠ searchKey → entry.2.array? = none) :
    c.restrict (filter.map fun entry => (entry.1, Request.flattened entry.2)) = c.restrict filter :=
  restrict_congr (plainFilter_flattened h) words_flattened

lemma compile_rebuilt (c : Config) {r : Request} (h : r.Fits) (hp : r.Proper)
    (hn : (Json.object r.filter).Every Json.IsNoDouble) (hd : (Json.object r.filter).depth < 128)
    (hl : ∀ entry ∈ r.filter, entry.1 ≠ searchKey → entry.2.array? = none) :
    c.compile r.rebuilt = c.compile r := by
  simp only [compile, resolveOrder, countQueryFor, r.rebuilt_orderBy, r.rebuilt_advancedFilter, h.rebuilt_filter hn hd,
    restrict_flattened hl, r.rebuilt_page, h.rebuilt_limit hp]

end Config

namespace Request

/-- The parameters that a request gives for a header rebuild it: whatever was sent and whatever calls
followed, they ask for the same page by the same limit in the same order under the same advanced filter,
and for the same plain filter but that a list is its text. They give themselves again, and where no list
but one of search words is asked for, every grid compiles both requests to the same. -/
theorem headerParams_rebuild (params : Params) (steps : List Step) (hs : ∀ step ∈ steps, step.Fits)
    (hn : (Json.object (build params steps).filter).Every Json.IsNoDouble)
    (hd : (Json.object (build params steps).filter).depth < 128) :
    let r := build params steps
    let r' := new r.headerParams
    r'.page = r.page ∧ r'.limit = r.limit ∧ r'.orderBy = r.orderBy ∧ r'.advancedFilter = r.advancedFilter ∧
    (r'.filter = r.filter.map fun entry => (entry.1, flattened entry.2)) ∧ r'.headerParams = r.headerParams ∧
    ((∀ entry ∈ r.filter, entry.1 ≠ searchKey → entry.2.array? = none) → ∀ c : Config, c.compile r' = c.compile r) := by
  intro r r'
  have hf : r.Fits := (Fits.new params).after hs
  have hp : r.Proper := .build params steps
  exact ⟨r.rebuilt_page, hf.rebuilt_limit hp, r.rebuilt_orderBy, r.rebuilt_advancedFilter, hf.rebuilt_filter hn hd,
    hf.rebuilt_headerParams hp hn hd, fun hl c => c.compile_rebuilt hf hp hn hd hl⟩

theorem headerParams_of_signed_order :
    let r := build (.ofList [("Filter", "\x7b\"status\":\"draft\"\x7d"), ("orderby", " +-title "), ("page", "+2"),
      ("limit", "many"), ("search", "Rust")]) [.filter "search" (.array [.string "Lean", .int 4]), .defaultLimit 25]
    let r' := new r.headerParams
    r'.page = 2 ∧ r'.limit = 25 ∧ r'.orderBy = some ⟨"-title", .asc⟩ ∧
    r'.filter = [("status", .string "draft"), ("__search__", .string "Lean,4")] ∧
    ∀ c : Config, c.compile r' = c.compile r := by
  intro r r'
  have hfilter : r.filter = [("status", .string "draft"), ("__search__", .array [.string "Lean", .int 4])] := by
    have hraw : r.params.get? Params.filterName = some (Json.object [("status", .string "draft")]).compact := rfl
    have hjson := jsonParam?_compact hraw (by decide) (by decide) (by decide)
    rw [filter, sentFilter, hjson]
    rfl
  have hs : ∀ step ∈ [Step.filter "search" (.array [.string "Lean", .int 4]), .defaultLimit 25], step.Fits := by
    simp [Step.Fits, Json.Every, Json.EveryItem, Json.Fits, Count.most]
  have hn : (Json.object r.filter).Every Json.IsNoDouble := by
    rw [hfilter]
    decide
  have hd : (Json.object r.filter).depth < 128 := by
    rw [hfilter]
    decide
  have hl : ∀ entry ∈ r.filter, entry.1 ≠ searchKey → entry.2.array? = none := by
    rw [hfilter]
    simp [Json.array?, searchKey]
  obtain ⟨hpage, hlimit, horder, -, hfilter', -, hcompile⟩ := headerParams_rebuild _ _ hs hn hd
  refine ⟨hpage.trans rfl, hlimit.trans rfl, horder.trans rfl, hfilter'.trans ?_, hcompile hl⟩
  rw [hfilter]
  rfl

end Request

end DataGrid
