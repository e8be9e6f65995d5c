import DataGrid.Proofs.Arranging
import DataGrid.Proofs.Confinement
import DataGrid.Proofs.Meaning
import DataGrid.Proofs.Pattern.Size

namespace DataGrid

namespace Predicate

mutual

theorem usesText_iff : ∀ p : Predicate, p.usesText = true ↔ ∃ words, .text words ∈ p.leaves
  | .text words => by simp [usesText, leaves]
  | .and parts => by rw [usesText, leaves, someUsesText_iff parts]
  | .or parts => by rw [usesText, leaves, someUsesText_iff parts]
  | .compare .. | .isIn .. | .notIn .. | .regex .. | .isNull _ | .notNull _ => by simp [usesText, leaves]

theorem someUsesText_iff : ∀ ps : List Predicate, someUsesText ps = true ↔ ∃ words, .text words ∈ leavesOf ps
  | [] => by simp [someUsesText, leavesOf]
  | p :: ps => by
    rw [someUsesText, leavesOf, Bool.or_eq_true, usesText_iff p, someUsesText_iff ps]
    simp only [List.mem_append, exists_or]

end

end Predicate

lemma Query.window_nil (q : Query) : q.window [] = some [] := by
  obtain ⟨collection, conditions, order, skip, limit⟩ := q
  cases order <;> cases limit <;> simp [window, arrange, cut, Sort.sort_of_few, Sort.insertionSort, Sort.insertAll]

def Query.Fits (q : Query) : Prop :=
  ∀ p ∈ q.conditions, ∀ k ∈ p.patterns, Pattern.parse k.2 k.1 ≠ .error .size

def Query.Readable (q : Query) : Prop :=
  ∀ p ∈ q.conditions, ∀ k ∈ p.patterns, ∃ program, Pattern.parse k.2 k.1 = .ok program

lemma Query.fits_of_short {q : Query} (h : ∀ p ∈ q.conditions, ∀ k ∈ p.patterns,
    Pattern.IsQuotation k ∧ k.1.length ≤ 14000) : q.Fits := by
  intro p hp k hk hlarge
  obtain ⟨⟨hfold, atStart, atEnd, cs, hsource⟩, hshort⟩ := h p hp k hk
  have hcs : cs.length ≤ 14000 := by
    have hescaped := Pattern.length_le_escapeChars cs
    rw [← String.length_toList, hsource, Pattern.quotation] at hshort
    simp only [List.length_append] at hshort
    omega
  rw [hfold, ← String.ofList_toList (s := k.1), hsource, Pattern.parse_quotation,
    if_pos (Pattern.fits_quoted atStart atEnd hcs)] at hlarge
  cases hlarge

namespace MemoryStore

/-- A query searches a known collection for words without an index for them. -/
def Unindexed (s : MemoryStore) (q : Query) : Prop :=
  q.usesText = true ∧ ∃ known, s.collections.lookup q.collection = some known ∧ known.textIndex = false

variable {s : MemoryStore} {q : Query}

lemma matching_of_unindexed (h : s.Unindexed q) : s.matching q = .error (indexRequired q.collection) := by
  obtain ⟨htext, known, hknown, hindex⟩ := h
  rw [matching, hknown]
  simp [htext, hindex]

lemma matching_of_indexed (h : ¬s.Unindexed q) : (∃ documents, s.matching q = .ok documents) ∨
    ∃ p ∈ q.conditions, ∃ k ∈ p.patterns, ∃ fault, Pattern.parse k.2 k.1 = .error fault ∧
      s.matching q = .error (Matcher.invalidPattern k.1 fault) := by
  cases hl : s.collections.lookup q.collection with
  | none => exact .inl ⟨[], by rw [matching, hl]⟩
  | some known =>
    have hindexed : (q.usesText && !known.textIndex) = false := by
      by_contra hmissing
      exact h (by simpa [Unindexed, hl] using hmissing)
    cases hq : q.conditions with
    | nil => exact .inl ⟨known.documents, by simp [matching, hl, hindexed, Query.filter, hq]⟩
    | cons p ps =>
      have hmatching : s.matching q = (Matcher.compile (.allOf (p :: ps))).map fun m =>
          known.documents.filter (m.admits (.allOf (p :: ps))) := by
        simp [matching, hl, hindexed, Query.filter, hq]
      rw [hmatching]
      cases hm : Matcher.compile (.allOf (p :: ps)) with
      | ok m => exact .inl ⟨_, rfl⟩
      | error e =>
        obtain ⟨k, hk, fault, hfault, rfl⟩ := Matcher.error_of_collect _ hm
        obtain ⟨p', hp', hk'⟩ := Predicate.mem_patterns_allOf_iff.mp hk
        exact .inr ⟨p', hp', k, hk', fault, hfault, rfl⟩

lemma readable_of_matching {known : Collection} {documents : List Document}
    (hl : s.collections.lookup q.collection = some known) (h : s.matching q = .ok documents) : q.Readable := by
  simp only [matching, hl] at h
  split at h
  case isTrue => cases h
  case isFalse =>
    rw [Query.filter_eq] at h
    cases hq : q.conditions with
    | nil => simp [Query.Readable, hq]
    | cons p ps =>
      rw [hq, Predicate.allOf?_cons] at h
      obtain ⟨m, hm, -⟩ := Outcome.map_ok_iff.mp h
      have hread : ∀ k ∈ (Predicate.allOf (p :: ps)).patterns, ∃ program, Pattern.parse k.2 k.1 = .ok program :=
        fun k hk => (Matcher.covers_of_compile hm k hk).imp fun _ => And.left
      intro p' hp'
      exact Predicate.forall_patterns_allOf_iff.mp hread p' (hq ▸ hp')

lemma exists_matching_iff : (∃ documents, s.matching q = .ok documents) ↔
    ¬s.Unindexed q ∧ (s.collections.lookup q.collection = none ∨ q.Readable) := by
  constructor
  · rintro ⟨documents, h⟩
    refine ⟨fun hu => ?_, ?_⟩
    · cases (matching_of_unindexed hu).symm.trans h
    · cases hl : s.collections.lookup q.collection with
      | none => exact .inl rfl
      | some known => exact .inr (readable_of_matching hl h)
  · rintro ⟨hu, hl | hread⟩
    · exact ⟨[], by rw [matching, hl]⟩
    · obtain hok | ⟨p, hp, k, hk, fault, hfault, -⟩ := matching_of_indexed hu
      · exact hok
      · obtain ⟨program, hprogram⟩ := hread p hp k hk
        cases hprogram.symm.trans hfault

end MemoryStore

namespace Config

variable {c : Config} {query : Query}

lemma overridesConfined_of_no_overrides (ho : c.overrides = []) : c.OverridesConfined := by
  intro column override h
  rw [override?_eq_none ho] at h
  cases h

lemma usesText_of_stages (ho : c.overrides = []) {filter : List (String × Json)} {groups : List (List Condition)}
    {plain : Option Predicate} {tree : Tree} {search : List Predicate}
    (h : c.Stages filter groups query plain tree search) :
    (plain.toList ++ (tree.predicate.toList ++ search)).any Predicate.usesText = true ↔
      c.settings.textSearch = true ∧ (c.words filter tree).isSome = true := by
  constructor
  · intro hany
    obtain ⟨p, hp, hp'⟩ := List.any_eq_true.mp hany
    obtain ⟨s, hs⟩ := p.usesText_iff.mp hp'
    have hconfined := overridesConfined_of_no_overrides ho
    have hallows : ∀ p ∈ plain.toList ++ (tree.predicate.toList ++ search), ∀ leaf ∈ p.leaves,
        c.Allows (c.words filter tree) leaf := by
      simp only [List.forall_mem_append]
      exact ⟨allows_of_plainFilter hconfined h.plain_ok, allows_of_advancedTree hconfined h.tree_ok,
        allows_of_searched hconfined h.search_ok⟩
    -- a search for words is about no field, so that only the right to the index remains
    cases hallows p hp _ hs with
    | filtered _ named => cases named
    | searched _ named => cases named
    | text indexed asked _ => exact ⟨indexed, by rw [asked]; rfl⟩
  · rintro ⟨hindexed, hwords⟩
    obtain ⟨s, hs⟩ := Option.isSome_iff_exists.mp hwords
    have hsearch := h.search_ok
    rw [hs] at hsearch
    obtain rfl := searched_ok ho hsearch
    simp [hindexed, Predicate.usesText]

lemma getData_of_unindexed {s : MemoryStore} {r : Request} {q : Compiled} (hc : c.countQuery = none)
    (h : c.compile r = .ok q) (hu : s.Unindexed q.query) : (c.getData s.store r).map Prod.fst =
      some (.error (.searchIndexMissing c.name (MemoryStore.indexRequired c.collection).message)) := by
  rw [getData_of_matching hc h, MemoryStore.matching_of_unindexed hu, collection_of_compile h]
  rfl

lemma getData_of_indexed {s : MemoryStore} {r : Request} {q : Compiled} (hc : c.countQuery = none)
    (h : c.compile r = .ok q) (hu : ¬s.Unindexed q.query) :
    ((c.getData s.store r).map Prod.fst = (q.query.window (s.matched q.query)).map fun found =>
      .ok ⟨found, (s.matched q.query).length, c.settings.dateFormat⟩) ∨
      ∃ p ∈ q.query.conditions, ∃ k ∈ p.patterns, ∃ fault, Pattern.parse k.2 k.1 = .error fault ∧
        (c.getData s.store r).map Prod.fst = some (.error (.store (Matcher.invalidPattern k.1 fault))) := by
  obtain ⟨documents, hok⟩ | ⟨p, hp, k, hk, fault, hfault, herror⟩ := MemoryStore.matching_of_indexed hu
  · exact .inl (outcome_of_matching hc h (MemoryStore.matching_eq_matched hok))
  · refine .inr ⟨p, hp, k, hk, fault, hfault, ?_⟩
    rw [getData_of_matching hc h, herror]
    rfl

lemma getData_of_fits {s : MemoryStore} {r : Request} {q : Compiled} (hc : c.countQuery = none)
    (h : c.compile r = .ok q) (hu : ¬s.Unindexed q.query)
    (hquotations : ∀ p ∈ q.query.conditions, ∀ k ∈ p.patterns, Pattern.IsQuotation k) (hfits : q.query.Fits) :
    (c.getData s.store r).map Prod.fst = (q.query.window (s.matched q.query)).map fun found =>
      .ok ⟨found, (s.matched q.query).length, c.settings.dateFormat⟩ := by
  obtain hok | ⟨p, hp, k, hk, fault, hfault, -⟩ := getData_of_indexed hc h hu
  · exact hok
  · rw [Pattern.fault_of_quotation (hquotations p hp k hk) hfault] at hfault
    exact absurd hfault (hfits p hp k hk)

/-- On a store in memory a request that compiles is refused only for want of a text index: exactly if the
grid searches one, there are words, and the collection is known and has none. Any other request finds its
documents, none in an unknown collection, unless a text in it is too large to look for or sorting the documents
that it matches stops; that it does not if there is no order, if they are few, or if the order sorts them. -/
theorem memory_refuses_unindexed (c : Config) (s : MemoryStore) (r : Request) (q : Compiled) (ho : c.overrides = [])
    (hc : c.countQuery = none) (h : c.compile r = .ok q) :
    ∃ groups tree, r.advancedFilter = .ok groups ∧ (∀ query, c.advancedTree query groups = .ok tree) ∧
      let words := Search.token (r.filter.lookup searchKey) tree c.settings.maxSearchLength
      let unindexed := c.settings.textSearch = true ∧ words.isSome = true ∧
        ∃ known, s.collections.lookup c.collection = some known ∧ known.textIndex = false
      let outcome := (c.getData s.store r).map Prod.fst
      let matched := (s.collection c.collection).documents.filter fun d => q.query.conditions.all fun p => p.holds d
      (unindexed →
        outcome = some (.error (.searchIndexMissing c.name (MemoryStore.indexRequired c.collection).message))) ∧
      ((∃ grid message, outcome = some (.error (.searchIndexMissing grid message))) → unindexed) ∧
      (q.query.Fits → (∀ e, outcome ≠ some (.error (.store e))) ∧
        (¬unindexed → (outcome = none ↔ q.query.arrange matched = none) ∧
          (outcome ≠ none → ∃ found, outcome = some (.ok found)) ∧ (q.query.Arranges matched → outcome ≠ none))) ∧
      (r.orderBy = none → q.query.Arranges matched) ∧
      (s.collections.lookup c.collection = none → outcome = some (.ok ⟨[], 0, c.settings.dateFormat⟩)) := by
  obtain ⟨order, groups, query, horder, hgroups, hr, -, hq⟩ := compile_ok_iff.mp h
  obtain ⟨plain, tree, search, hst, hquery⟩ := restrict_ok_iff.mp hr
  refine ⟨groups, tree, hgroups, fun query => (advancedTree_of_no_overrides ho _ _ groups).trans hst.tree_ok, ?_⟩
  intro words unindexed outcome matched
  have hconditions : q.query.conditions = plain.toList ++ (tree.predicate.toList ++ search) := by
    rw [hq, hquery]
    rfl
  have hcollection := collection_of_compile h
  have hmatched : matched = s.matched q.query := by rw [MemoryStore.matched, hcollection]
  have hunindexed : s.Unindexed q.query ↔ unindexed := by
    rw [MemoryStore.Unindexed, Query.usesText, hconditions, usesText_of_stages ho hst, hcollection, and_assoc]
    rfl
  refine ⟨fun hu => getData_of_unindexed hc h (hunindexed.mpr hu), ?_, fun hfits => ?_, fun hnone => ?_,
    fun hunknown => ?_⟩
  · rintro ⟨grid, message, hrefused⟩
    by_contra hu
    obtain hok | ⟨p, -, k, -, fault, -, herror⟩ := getData_of_indexed hc h (mt hunindexed.mp hu)
    · obtain ⟨found, -, hfound⟩ := Option.map_eq_some_iff.mp (hok.symm.trans hrefused)
      cases hfound
    · cases herror.symm.trans hrefused
  · by_cases hu : s.Unindexed q.query
    · have hrefused := getData_of_unindexed hc h hu
      refine ⟨fun e he => ?_, fun hindexed => absurd (hunindexed.mp hu) hindexed⟩
      cases hrefused.symm.trans he
    · have hquotations : ∀ p ∈ q.query.conditions, ∀ k ∈ p.patterns, Pattern.IsQuotation k :=
        fun p hp => patterns_of_stages ho hst p (hconditions ▸ hp)
      have houtcome : outcome = _ := getData_of_fits hc h hu hquotations hfits
      have harranged : q.query.Arranges matched → q.query.arrange matched ≠ none := by
        intro harranges hstopped
        obtain ⟨all, hall⟩ := harranges.exists_arrange
        cases hstopped.symm.trans hall
      rw [hmatched] at harranged ⊢
      rw [houtcome, Query.window]
      cases hall : q.query.arrange (s.matched q.query) with
      | none =>
        refine ⟨fun e he => ?_, fun _ => ⟨iff_of_true rfl rfl, fun hne => absurd rfl hne, fun harranges => ?_⟩⟩
        · cases he
        · exact absurd hall (harranged harranges)
      | some all =>
        refine ⟨fun e he => ?_, fun _ => ⟨iff_of_false (Option.some_ne_none _) (Option.some_ne_none _),
          fun _ => ⟨_, rfl⟩, fun _ => Option.some_ne_none _⟩⟩
        cases he
  · rw [resolveOrder, hnone] at horder
    refine Query.arranges_of_order_none ?_
    rw [hq, hquery]
    exact (Except.ok.inj horder).symm
  · have hnone : s.matching q.query = .ok [] := by rw [MemoryStore.matching, hcollection, hunknown]
    have hrun : outcome = _ := outcome_of_matching hc h hnone
    rw [hrun, Query.window_nil]
    rfl

theorem search_needs_index :
    let c := ((Config.new "Articles" "articles").withSearchableColumn "title").withSettings
      { Settings.default with textSearch := true }
    let r := Request.build (.ofList [("search", "Lean")]) []
    let store (textIndex : Bool) : MemoryStore := ⟨[("articles", ⟨[[("title", .string "Lean")]], textIndex⟩)]⟩
    (c.getData (store false).store r).map Prod.fst =
        some (.error (.searchIndexMissing "Articles" "text index required for $text query on 'articles'")) ∧
      ∃ found, (c.getData (store true).store r).map Prod.fst = some (.ok found) := by
  intro c r store
  have hwords : c.words r.filter ⟨none, none⟩ = some "Lean" := rfl
  have hstages : c.Stages r.filter [] { Query.on "articles" with order := none } none ⟨none, none⟩
      [.text "Lean", .regex "title" "Lean" true] := by
    refine ⟨rfl, rfl, ?_⟩
    rw [hwords]
    rfl
  have hq := compile_of_stages (r := r) rfl rfl rfl hstages
  have hfits : Query.Fits ⟨"articles", [.text "Lean", .regex "title" "Lean" true], none, some 0, some 10⟩ := by
    refine Query.fits_of_short fun p hp k hk => ?_
    refine ⟨patterns_of_stages rfl hstages p hp k hk, ?_⟩
    obtain rfl | rfl : p = .text "Lean" ∨ p = .regex "title" "Lean" true := by simpa using hp
    · cases hk
    · obtain rfl : k = ("Lean", true) := by simpa [Predicate.patterns] using hk
      decide
  refine ⟨?_, ?_⟩
  · obtain ⟨groups, tree, hgroups, htree, hrefused, -⟩ := memory_refuses_unindexed c (store false) r _ rfl rfl hq
    obtain rfl : [] = groups := Except.ok.inj hgroups
    obtain rfl : ⟨none, none⟩ = tree := Except.ok.inj (htree (.on "articles"))
    exact hrefused ⟨rfl, rfl, _, rfl, rfl⟩
  · obtain ⟨groups, tree, -, -, -, -, hfound, -⟩ := memory_refuses_unindexed c (store true) r _ rfl rfl hq
    have hindexed : ¬∃ known, (store true).collections.lookup "articles" = some known ∧ known.textIndex = false := by
      rintro ⟨known, hknown, hindex⟩
      obtain rfl := Option.some.inj hknown
      cases hindex
    obtain ⟨-, hok, harranged⟩ := (hfound hfits).2 fun hunindexed => hindexed hunindexed.2.2
    exact hok (harranged (Query.arranges_of_order_none rfl))

/-- A decimal is the equal of any number in the order, so that twenty-one documents turn out to be in no order and
sorting them stops, in a grid that searches for nothing. -/
theorem sorting_stops_on_decimals :
    let documents : List Document :=
      (List.replicate 7 [.int64 1, .decimal128 "1.5", .int64 2]).flatten.map fun views => [("views", views)]
    let s : MemoryStore := ⟨[("articles", ⟨documents, false⟩)]⟩
    let c := (Config.new "Articles" "articles").withOrderColumn "views" "views"
    let r := Request.build (.ofList [("orderby", "+views")]) []
    c.overrides = [] ∧ c.countQuery = none ∧ c.settings.textSearch = false ∧
      (∃ q, c.compile r = .ok q ∧ q.query.conditions = []) ∧ c.getData s.store r = none := by
  intro documents s c r
  let q : Query := ⟨"articles", [], some ⟨"views", .asc⟩, some 0, some 10⟩
  have hq : c.compile r = .ok ⟨q, ⟨"articles", [], none, none, none⟩, false⟩ := by
    dsimp only [c, r, q]
    exact rfl
  have hsort : Sort.sort (Order.less ⟨"views", .asc⟩) documents = none := by
    apply Sort.sort_stops <;> decide +kernel
  have hwindow : q.window documents = none := congrArg (Option.map q.cut) hsort
  have hmatching : s.matching q = .ok documents := rfl
  refine ⟨rfl, rfl, rfl, ⟨_, hq, rfl⟩, ?_⟩
  rw [getData_of_matching rfl hq]
  dsimp only
  rw [hmatching]
  exact congrArg (Option.map _) hwindow

end Config

end DataGrid
