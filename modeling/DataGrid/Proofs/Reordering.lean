import DataGrid.Proofs.HeaderParams
import DataGrid.Proofs.PageRange
import DataGrid.Proofs.SameParts
import Mathlib.Data.List.Perm.Basic

namespace DataGrid

section Lists

variable {α : Type} {p : α → Bool} {xs ys : List α}

lemma filter_of_countP_le_one (h : xs.countP p ≤ 1) : xs.filter p = [] ∨ ∃ x, xs.filter p = [x] := by
  rw [List.countP_eq_length_filter] at h
  cases hf : xs.filter p with
  | nil => exact .inl rfl
  | cons x rest =>
    rw [hf, List.length_cons] at h
    exact .inr ⟨x, by rw [List.eq_nil_of_length_eq_zero (by omega : rest.length = 0)]⟩

lemma filter_eq_of_perm (hperm : xs.Perm ys) (h : xs.countP p ≤ 1) : xs.filter p = ys.filter p := by
  have hfilter := hperm.filter p
  rcases filter_of_countP_le_one h with hnil | ⟨x, hx⟩
  · rw [hnil] at hfilter ⊢
    exact hfilter.nil_eq
  · rw [hx] at hfilter ⊢
    exact (List.perm_singleton.mp hfilter.symm).symm

lemma eq_of_countP_le_one (h : xs.countP p ≤ 1) {x y : α} (hx : x ∈ xs) (hy : y ∈ xs) (hpx : p x = true)
    (hpy : p y = true) : x = y := by
  have hx' : x ∈ xs.filter p := List.mem_filter.mpr ⟨hx, hpx⟩
  have hy' : y ∈ xs.filter p := List.mem_filter.mpr ⟨hy, hpy⟩
  rcases filter_of_countP_le_one h with hnil | ⟨z, hz⟩
  · simp [hnil] at hx'
  · rw [hz, List.mem_singleton] at hx' hy'
    exact hx'.trans hy'.symm

end Lists

namespace Outcome

variable {ε α β : Type} {f : α → Except ε β} {xs xs' : List α} {ys : List β}

lemma mapM_ok_of_perm (hp : xs.Perm xs') (h : xs.mapM f = .ok ys) : ∃ ys', xs'.mapM f = .ok ys' ∧ ys.Perm ys' := by
  obtain ⟨ys', hys', hperm⟩ := List.perm_comp_forall₂ hp.symm (mapM_ok_iff_forall₂.mp h)
  exact ⟨ys', mapM_ok_iff_forall₂.mpr hys', hperm.symm⟩

lemma mapM_ok_of_forall₂ {R : α → α → Prop} {S : β → β → Prop}
    (hstep : ∀ x x' y, R x x' → f x = .ok y → ∃ y', f x' = .ok y' ∧ S y y') (hr : List.Forall₂ R xs xs')
    (h : xs.mapM f = .ok ys) : ∃ ys', xs'.mapM f = .ok ys' ∧ List.Forall₂ S ys ys' := by
  induction hr generalizing ys with
  | nil =>
    obtain rfl : [] = ys := by simpa using h
    exact ⟨[], rfl, .nil⟩
  | cons hx _ ih =>
    obtain ⟨y, rest, hy, hrest, rfl⟩ := mapM_cons_ok_iff.mp h
    obtain ⟨y', hy', hs⟩ := hstep _ _ y hx hy
    obtain ⟨rest', hrest', hss⟩ := ih hrest
    exact ⟨y' :: rest', mapM_cons_ok_iff.mpr ⟨y', rest', hy', hrest', rfl⟩, .cons hs hss⟩

end Outcome

namespace Fields

variable {α : Type} {fields fields' : List (String × α)}

lemma lookup_eq_some_iff_mem (h : (names fields).Nodup) {name : String} {x : α} :
    fields.lookup name = some x ↔ (name, x) ∈ fields := by
  induction fields with
  | nil => simp
  | cons field fields ih =>
    obtain ⟨k, v⟩ := field
    obtain ⟨hk, hf⟩ := List.nodup_cons.mp h
    by_cases he : name = k
    · subst he
      have hout : (name, x) ∉ fields := fun hm => hk (List.mem_map.mpr ⟨_, hm, rfl⟩)
      simp [hout, eq_comm]
    · simp [List.lookup_cons, beq_false_of_ne he, ih hf, he]

lemma mem_names_iff {name : String} : name ∈ names fields ↔ (fields.lookup name).isSome = true := by
  rw [Option.isSome_iff_ne_none, ne_eq, List.lookup_eq_none_iff]
  simp [names]

lemma lookup_eq_of_perm (hp : fields.Perm fields') (h : (names fields).Nodup) (name : String) :
    fields.lookup name = fields'.lookup name := by
  have h' : (names fields').Nodup := (hp.map Prod.fst).nodup_iff.mp h
  apply Option.ext
  intro x
  rw [lookup_eq_some_iff_mem h, lookup_eq_some_iff_mem h', hp.mem_iff]

end Fields

def Json.Shuffled : Json → Json → Prop
  | .array items, .array items' => items.Perm items'
  | v, v' => v = v'

lemma Json.Shuffled.symm {v v' : Json} (h : v.Shuffled v') : v'.Shuffled v := by
  cases v <;> cases v' <;> simp_all [Shuffled, List.perm_comm]

lemma Json.Shuffled.groupOfJson {v v' : Json} (h : v.Shuffled v') {group : List Condition}
    (hg : Condition.groupOfJson v = .ok group) :
    ∃ group', Condition.groupOfJson v' = .ok group' ∧ group.Perm group' := by
  cases v with
  | array items =>
    cases v' with
    | array items' => exact Outcome.mapM_ok_of_perm h hg
    | _ => cases h
  | _ => cases hg

namespace Request

variable {r r' : Request}

def sentMembers (r : Request) : List (String × Json) :=
  match r.jsonParam? Params.filterName with
  | some (.object members) => members
  | _ => []

def sentGroups (r : Request) : List Json :=
  match r.jsonParam? Params.advancedName with
  | some (.array groups) => groups
  | _ => []

lemma sentFilter_eq (r : Request) : r.sentFilter = Fields.rename innerName r.sentMembers := by
  rw [sentFilter, sentMembers]
  cases r.jsonParam? Params.filterName with
  | none => rfl
  | some v => cases v <;> rfl

lemma advancedFilter_ok_iff {groups : List (List Condition)} :
    r.advancedFilter = .ok groups ↔ r.sentGroups.mapM Condition.groupOfJson = .ok groups := by
  have hsent : r.advancedFilter = (r.sentGroups.mapM Condition.groupOfJson).mapError .malformedCondition := by
    rw [advancedFilter, sentGroups]
    cases r.jsonParam? Params.advancedName with
    | none => rfl
    | some v => cases v <;> rfl
  rw [hsent]
  cases r.sentGroups.mapM Condition.groupOfJson <;> simp

lemma nodup_sentMembers (r : Request) : (Fields.names r.sentMembers).Nodup := by
  unfold sentMembers
  split
  case h_1 members hm => exact (fits_of_jsonParam? hm).1
  case h_2 => exact List.nodup_nil

lemma sentMembers_of_unsent (h : r.params.get? Params.filterName = none) : r.sentMembers = [] := by
  rw [sentMembers, jsonParam?, h]
  rfl

lemma sentGroups_of_compact {groups : List Json}
    (h : r.params.get? Params.advancedName = some (Json.array groups).compact)
    (hf : (Json.array groups).Every Json.Fits) (hn : (Json.array groups).Every Json.IsNoDouble)
    (hd : (Json.array groups).depth < 128) : r.sentGroups = groups := by
  rw [sentGroups, jsonParam?_compact_array h hf hn hd]

/-- Two requests with the same entries in the filter, sent and added, and the same groups of the same
conditions, each in any order; all else that a grid reads is the same. -/
structure Reorders (r r' : Request) : Prop where
  params : ∀ name ∈ [Params.searchName, Params.orderName, Params.pageName, Params.limitName],
    r.params.get? name = r'.params.get? name
  limits : r.limitOverride = r'.limitOverride ∧ r.defaultLimit = r'.defaultLimit
  members : r.sentMembers.Perm r'.sentMembers
  added : r.addedFilters.Perm r'.addedFilters
  groups : ∃ middle, r.sentGroups.Perm middle ∧ List.Forall₂ Json.Shuffled middle r'.sentGroups

/-- A request with one entry at most that searches in the filter that was sent, and one such condition. -/
structure SearchesOnce (r : Request) : Prop where
  members : r.sentMembers.countP (fun member => innerName member.1 = searchKey) ≤ 1
  conditions : ∀ groups, r.advancedFilter = .ok groups →
    groups.flatten.countP (fun condition => condition.column = searchKey) ≤ 1

lemma nodup_renamed {members : List (String × Json)} (hn : (Fields.names members).Nodup)
    (hone : members.countP (fun member => innerName member.1 = searchKey) ≤ 1) :
    (Fields.names (members.map fun member => (innerName member.1, member.2))).Nodup := by
  have hcount : (Fields.names members).countP (fun name => innerName name = searchKey) ≤ 1 := by
    rwa [Fields.names, List.countP_map]
  have hnames : Fields.names (members.map fun member => (innerName member.1, member.2)) =
      (Fields.names members).map innerName := by simp [Fields.names]
  rw [hnames]
  refine List.Nodup.map_on (fun x hx y hy hxy => ?_) hn
  by_cases hk : innerName x = searchKey
  · exact eq_of_countP_le_one hcount hx hy (decide_eq_true hk) (decide_eq_true (hxy ▸ hk))
  · have hself : ∀ name, innerName name ≠ searchKey → innerName name = name := by
      intro name hname
      unfold innerName at hname ⊢
      split_ifs at hname ⊢
      · exact absurd rfl hname
      · rfl
    rw [← hself x hk, hxy, hself y (hxy ▸ hk)]

lemma lookup_withSearch (hs : r.params.get? Params.searchName = r'.params.get? Params.searchName)
    {fields fields' : List (String × Json)} (hl : ∀ name, fields.lookup name = fields'.lookup name) (name : String) :
    (r.withSearch fields).lookup name = (r'.withSearch fields').lookup name := by
  have hhas : Fields.has fields searchKey = Fields.has fields' searchKey := congrArg Option.isSome (hl searchKey)
  rw [withSearch, withSearch, hs]
  cases r'.params.get? Params.searchName with
  | none => exact hl name
  | some search =>
    dsimp only
    rw [hhas]
    split_ifs
    · exact hl name
    · by_cases hk : name = searchKey
      · rw [hk, Fields.lookup_insert_self, Fields.lookup_insert_self]
      · rw [Fields.lookup_insert_of_ne hk, Fields.lookup_insert_of_ne hk, hl name]

namespace Reorders

lemma symm (h : r.Reorders r') : r'.Reorders r := by
  obtain ⟨middle, hperm, hshuffled⟩ := h.groups
  have hflip : List.Forall₂ Json.Shuffled r'.sentGroups middle :=
    hshuffled.flip.imp fun _ _ hvalues => Json.Shuffled.symm hvalues
  have hback : Relation.Comp (List.Forall₂ Json.Shuffled) List.Perm r'.sentGroups r.sentGroups :=
    ⟨middle, hflip, hperm.symm⟩
  -- from the other side the items are shuffled before the groups are, and the two steps commute
  rw [List.forall₂_comp_perm_eq_perm_comp_forall₂] at hback
  exact ⟨fun name hname => (h.params name hname).symm, h.limits.imp Eq.symm Eq.symm, h.members.symm, h.added.symm,
    hback⟩

lemma lookup_filter (h : r.Reorders r') (hone : r.SearchesOnce) (hp : r.Proper) (hp' : r'.Proper) (name : String) :
    r.filter.lookup name = r'.filter.lookup name := by
  have hrenamed := nodup_renamed r.nodup_sentMembers hone.members
  have hrenamed' := nodup_renamed r'.nodup_sentMembers (h.members.countP_eq _ ▸ hone.members)
  have hsent : ∀ name, r.sentFilter.lookup name = r'.sentFilter.lookup name := by
    intro name
    rw [sentFilter_eq, sentFilter_eq, Fields.rename, Fields.rename, Fields.ofList_of_nodup hrenamed,
      Fields.ofList_of_nodup hrenamed']
    exact Fields.lookup_eq_of_perm (h.members.map _) hrenamed name
  rw [filter, filter, Fields.lookup_insertAll hp.names_nodup, Fields.lookup_insertAll hp'.names_nodup,
    Fields.lookup_eq_of_perm h.added hp.names_nodup, lookup_withSearch (h.params _ (by simp)) hsent]

lemma advancedFilter (h : r.Reorders r') {groups : List (List Condition)} (hg : r.advancedFilter = .ok groups) :
    ∃ middle groups', r'.advancedFilter = .ok groups' ∧ groups.Perm middle ∧
      List.Forall₂ List.Perm middle groups' := by
  obtain ⟨between, hperm, hshuffled⟩ := h.groups
  obtain ⟨middle, hmiddle, hpermuted⟩ := Outcome.mapM_ok_of_perm hperm (advancedFilter_ok_iff.mp hg)
  obtain ⟨groups', hgroups', hall⟩ :=
    Outcome.mapM_ok_of_forall₂ (fun _ _ _ hvalues => hvalues.groupOfJson) hshuffled hmiddle
  exact ⟨middle, groups', advancedFilter_ok_iff.mpr hgroups', hpermuted, hall⟩

lemma searchesOnce (h : r.Reorders r') (hone : r.SearchesOnce) : r'.SearchesOnce := by
  refine ⟨h.members.countP_eq _ ▸ hone.members, fun groups' hg' => ?_⟩
  obtain ⟨middle, groups, hg, hperm, hall⟩ := h.symm.advancedFilter hg'
  have hflatten : groups'.flatten.Perm groups.flatten := hperm.flatten.trans (.flatten_congr hall)
  rw [hflatten.countP_eq]
  exact hone.conditions groups hg

lemma sameParts (h : r.Reorders r') (hone : r.SearchesOnce) (hp : r.Proper) (hp' : r'.Proper)
    {groups : List (List Condition)} (hg : r.advancedFilter = .ok groups) :
    ∃ groups', r'.advancedFilter = .ok groups' ∧ Config.SameParts r.filter r'.filter groups groups' := by
  obtain ⟨middle, groups', hg', hperm, hall⟩ := h.advancedFilter hg
  have hflatten : groups.flatten.Perm groups'.flatten := hperm.flatten.trans (.flatten_congr hall)
  have hlookup := h.lookup_filter hone hp hp'
  refine ⟨groups', hg', ?_, hlookup searchKey, ?_, ?_, ?_⟩
  · intro entry
    rw [← Fields.lookup_eq_some_iff_mem r.nodup_names_filter, hlookup,
      Fields.lookup_eq_some_iff_mem r'.nodup_names_filter]
  · intro group hgroup
    obtain ⟨group', hgroup', hsame⟩ := Outcome.exists_of_forall₂ hall (hperm.mem_iff.mp hgroup)
    exact ⟨group', hgroup', fun _ => hsame.mem_iff⟩
  · intro group' hgroup'
    obtain ⟨group, hgroup, hsame⟩ := Outcome.exists_of_forall₂ hall.flip hgroup'
    exact ⟨group, hperm.mem_iff.mpr hgroup, fun _ => hsame.symm.mem_iff⟩
  · rw [Config.lastWords, Config.lastWords, filter_eq_of_perm hflatten (hone.conditions groups hg)]

lemma page_eq (h : r.Reorders r') : r.page = r'.page := by
  rw [page, page, positiveParam?, positiveParam?, h.params Params.pageName (by simp)]

lemma limit_eq (h : r.Reorders r') : r.limit = r'.limit := by
  rw [limit, limit, positiveParam?, positiveParam?, h.params Params.limitName (by simp), h.limits.1, h.limits.2]

lemma orderBy_eq (h : r.Reorders r') : r.orderBy = r'.orderBy := by
  rw [orderBy, orderBy, h.params Params.orderName (by simp)]

end Reorders

end Request

namespace Config

variable {c : Config} {r r' : Request}

lemma compiles_of_reorders (h : r.Reorders r') (hone : r.SearchesOnce) (hp : r.Proper) (hp' : r'.Proper)
    (hc : ∃ q, c.compile r = .ok q) : ∃ q', c.compile r' = .ok q' := by
  obtain ⟨horder, groups, hg, hnone⟩ := exists_compile_iff.mp hc
  obtain ⟨groups', hg', hparts⟩ := h.sameParts hone hp hp' hg
  exact exists_compile_iff.mpr ⟨h.orderBy_eq ▸ horder, groups', hg', hparts.restrictRefusal hnone⟩

lemma matching_of_reorders (h : r.Reorders r') (hone : r.SearchesOnce) (hp : r.Proper) (hp' : r'.Proper)
    (ho : c.overrides = []) {s : MemoryStore} {q : Compiled} {documents : List Document} (hq : c.compile r = .ok q)
    (hm : s.matching q.query = .ok documents) : ∃ q', c.compile r' = .ok q' ∧ s.matching q'.query = .ok documents ∧
      q'.query.window documents = q.query.window documents := by
  obtain ⟨q', hq'⟩ := compiles_of_reorders h hone hp hp' ⟨q, hq⟩
  obtain ⟨order, groups, plain, tree, search, horder, hg, hst, hquery⟩ := stages_of_compile hq
  obtain ⟨order', groups', plain', tree', search', horder', hg', hst', hquery'⟩ := stages_of_compile hq'
  obtain rfl : order = order' := by
    rw [resolveOrder, h.orderBy_eq] at horder
    exact Except.ok.inj (horder.symm.trans horder')
  obtain ⟨_, hsame, hparts⟩ := h.sameParts hone hp hp' hg
  obtain rfl := Except.ok.inj (hsame.symm.trans hg')
  refine ⟨q', hq', ?_, ?_⟩
  · exact matching_of_sameParts hparts ho hst hst' (by rw [hquery]) (by rw [hquery']) (by rw [hquery, hquery']) hm
  · rw [hquery, hquery', h.page_eq, h.limit_eq]
    rfl

lemma fails_or_matches (hc : c.countQuery = none) (s : MemoryStore) (r : Request) :
    (∃ e, (c.getData s.store r).map Prod.fst = some (.error e)) ∨
      ∃ q documents, c.compile r = .ok q ∧ s.matching q.query = .ok documents := by
  cases hq : c.compile r with
  | error e =>
    refine .inl ⟨e, ?_⟩
    rw [getData_of_error hq]
    rfl
  | ok q =>
    cases hm : s.matching q.query with
    | ok documents => exact .inr ⟨q, documents, rfl, hm⟩
    | error e =>
      refine .inl ⟨c.storeFailure e, ?_⟩
      rw [getData_of_matching hc hq, hm]
      rfl

lemma outcome_of_reorders (h : r.Reorders r') (hone : r.SearchesOnce) (hone' : r'.SearchesOnce) (hp : r.Proper)
    (hp' : r'.Proper) (ho : c.overrides = []) (hc : c.countQuery = none) (s : MemoryStore) :
    (∃ e e', (c.getData s.store r).map Prod.fst = some (.error e) ∧
      (c.getData s.store r').map Prod.fst = some (.error e')) ∨
      (c.getData s.store r).map Prod.fst = (c.getData s.store r').map Prod.fst := by
  obtain ⟨e, he⟩ | ⟨q, documents, hq, hm⟩ := fails_or_matches hc s r
  · obtain ⟨e', he'⟩ | ⟨q', documents, hq', hm'⟩ := fails_or_matches hc s r'
    · exact .inl ⟨e, e', he, he'⟩
    · obtain ⟨q, hq, hm, hwindow⟩ := matching_of_reorders h.symm hone' hp' hp ho hq' hm'
      right
      rw [outcome_of_matching hc hq hm, outcome_of_matching hc hq' hm', hwindow]
  · obtain ⟨q', hq', hm', hwindow⟩ := matching_of_reorders h hone hp hp' ho hq hm
    right
    rw [outcome_of_matching hc hq hm, outcome_of_matching hc hq' hm', hwindow]

/-- The order of the entries of a filter, of the groups of conditions and of the conditions in them changes
nothing where only one of each searches: both requests compile or none does, and a store in memory gives for both
the same documents in the same order with the same total, fails for both, or stops sorting for both. -/
theorem reordered_finds_same (c : Config) (s : MemoryStore) (params params' : Params) (steps steps' : List Request.Step)
    (ho : c.overrides = []) (hc : c.countQuery = none)
    (h : (Request.build params steps).Reorders (.build params' steps'))
    (hone : (Request.build params steps).SearchesOnce) :
    let r := Request.build params steps
    let r' := Request.build params' steps'
    ((∃ q, c.compile r = .ok q) ↔ ∃ q', c.compile r' = .ok q') ∧
    (∀ found, (c.getData s.store r).map Prod.fst = some (.ok found) ↔
      (c.getData s.store r').map Prod.fst = some (.ok found)) ∧
    ((∃ e, (c.getData s.store r).map Prod.fst = some (.error e)) ↔
      ∃ e', (c.getData s.store r').map Prod.fst = some (.error e')) ∧
    (c.getData s.store r = none ↔ c.getData s.store r' = none) := by
  intro r r'
  have hp : r.Proper := .build params steps
  have hp' : r'.Proper := .build params' steps'
  have hone' : r'.SearchesOnce := h.searchesOnce hone
  refine ⟨⟨compiles_of_reorders h hone hp hp', compiles_of_reorders h.symm hone' hp' hp⟩, ?_⟩
  rw [← Option.map_eq_none_iff (f := Prod.fst), ← Option.map_eq_none_iff (x := c.getData s.store r') (f := Prod.fst)]
  obtain ⟨e, e', he, he'⟩ | hsame := outcome_of_reorders h hone hone' hp hp' ho hc s
  · rw [he, he']
    exact ⟨fun found => iff_of_false nofun nofun, ⟨fun _ => ⟨e', rfl⟩, fun _ => ⟨e, rfl⟩⟩, iff_of_false nofun nofun⟩
  · rw [hsame]
    exact ⟨fun found => Iff.rfl, Iff.rfl, Iff.rfl⟩

theorem drafts_found_either_way :
    let c := ((Config.new "Articles" "articles").withFilterColumn "status" "status").withFilterColumn "rating" "rating"
    let s : MemoryStore := ⟨[("articles", ⟨[[("status", .string "draft"), ("rating", .int32 4)],
      [("status", .string "draft"), ("rating", .int32 5)]], false⟩)]⟩
    let condition (column operation : String) (value : Json) : Json :=
      .object [("column", .string column), ("operation", .string operation), ("value", value)]
    let low := condition "rating" "lte" (.int 4)
    let high := condition "rating" "gt" (.int 9)
    let unwritten := condition "status" "neq" (.string "written")
    let request (groups : List Json) := Request.build (.ofList [("advanced_filter", (Json.array groups).compact)])
    let r := request [.array [low, high], .array [unwritten]]
      [.filter "status" (.string "draft"), .filter "rating" (.int 4)]
    let r' := request [.array [unwritten], .array [high, low]]
      [.filter "rating" (.int 4), .filter "status" (.string "draft")]
    r.Reorders r' ∧ r.SearchesOnce ∧ (c.getData s.store r').map Prod.fst =
      some (.ok ⟨[[("status", .string "draft"), ("rating", .int32 4)]], 1, "%Y-%m-%d %H:%M:%S"⟩) := by
  intro c s condition low high unwritten request r r'
  have hparams : ∀ groups steps, (request groups steps).params =
      Params.empty.insert Params.advancedName (Json.array groups).compact := fun _ _ => Request.params_after _ _
  have hunsent : ∀ name, Params.normalize name ≠ Params.normalize Params.advancedName →
      ∀ groups steps, (request groups steps).params.get? name = none := by
    intro name hname groups steps
    rw [hparams, Params.get?_insert_of_ne _ hname]
    rfl
  have hmembers : ∀ groups steps, (request groups steps).sentMembers = [] := fun groups steps =>
    Request.sentMembers_of_unsent (hunsent _ (by decide) groups steps)
  have hsent : ∀ groups steps, (request groups steps).params.get? Params.advancedName =
      some (Json.array groups).compact := fun groups steps => by rw [hparams, Params.get?_insert_self]
  have hg : r.sentGroups = [.array [low, high], .array [unwritten]] :=
    Request.sentGroups_of_compact (hsent _ _) (by decide) (by decide) (by decide)
  have hg' : r'.sentGroups = [.array [unwritten], .array [high, low]] :=
    Request.sentGroups_of_compact (hsent _ _) (by decide) (by decide) (by decide)
  have hreorders : r.Reorders r' := by
    refine ⟨fun name hname => ?_, ⟨?_, ?_⟩, ?_, ?_, [.array [unwritten], .array [low, high]], ?_, ?_⟩
    · have hnames : ∀ name ∈ [Params.searchName, Params.orderName, Params.pageName, Params.limitName],
        Params.normalize name ≠ Params.normalize Params.advancedName := by decide
      rw [hunsent name (hnames name hname), hunsent name (hnames name hname)]
    · exact (show r.limitOverride = none from rfl).trans (show none = r'.limitOverride from rfl)
    · exact (show r.defaultLimit = 10 from rfl).trans (show 10 = r'.defaultLimit from rfl)
    · rw [hmembers, hmembers]
    · exact .swap _ _ _
    · rw [hg]
      exact .swap _ _ _
    · rw [hg']
      exact .cons (.refl _) (.cons (.swap _ _ _) .nil)
  let conditions : List (List Condition) := [[⟨"rating", .lte, .int 4⟩, ⟨"rating", .gt, .int 9⟩],
    [⟨"status", .neq, .string "written"⟩]]
  have hread : r.advancedFilter = .ok conditions := by
    rw [Request.advancedFilter_ok_iff, hg]
    rfl
  have honce : r.SearchesOnce := by
    refine ⟨?_, fun groups hgroups => ?_⟩
    · rw [hmembers]
      decide
    · obtain rfl := Except.ok.inj (hread.symm.trans hgroups)
      decide
  have hfilter : r.filter = [("status", .string "draft"), ("rating", .int 4)] := by
    rw [Request.filter, Request.withSearch, hunsent _ (by decide), Request.sentFilter_eq, hmembers]
    rfl
  have horder : r.orderBy = none := by rw [Request.orderBy, hunsent _ (by decide)]; rfl
  have hpage : r.page = 1 := by rw [Request.page, Request.positiveParam?, hunsent _ (by decide)]; rfl
  have hlimit : r.limit = 10 := by rw [Request.limit, Request.positiveParam?, hunsent _ (by decide)]; rfl
  have hstages : c.Stages r.filter conditions { Query.on "articles" with order := none }
      (some (.and [.eq "status" (.string "draft"), .eq "rating" (.int64 4)]))
      ⟨some (.and [.or [.compare .lte "rating" (.int64 4), .compare .gt "rating" (.int64 9)],
        .ne "status" (.string "written")]), none⟩ [] := by
    rw [hfilter]
    exact ⟨rfl, rfl, rfl⟩
  have hq := compile_of_stages (r := r) rfl (by rw [resolveOrder, horder]) hread hstages
  rw [hpage, hlimit] at hq
  refine ⟨hreorders, honce, ?_⟩
  obtain ⟨-, hsame, -⟩ := reordered_finds_same c s _ _ _ _ rfl rfl hreorders honce
  have hfound : c.getData s.store r =
      some (.ok ⟨[[("status", .string "draft"), ("rating", .int32 4)]], 1, "%Y-%m-%d %H:%M:%S"⟩, r.setTotal 1) :=
    getData_ok_iff.mpr ⟨_, _, _, hq, rfl, rfl, rfl, rfl⟩
  exact (hsame _).mp (congrArg (Option.map Prod.fst) hfound)

end Config

end DataGrid
