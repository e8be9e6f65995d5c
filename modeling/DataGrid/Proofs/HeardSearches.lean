import DataGrid.Proofs.ConditionGrammar
import DataGrid.Proofs.RequestState
import DataGrid.Proofs.SearchWords

namespace DataGrid

namespace Search

lemma silent_unless_blank (text : Option String) : silent (text.filter (!Text.isBlankText ·)) = silent text := by
  cases text with
  | none => rfl
  | some words =>
    rw [Option.filter_some]
    cases hblank : Text.isBlankText words <;> simp [silent, hblank]

lemma eq_none_of_silent {text : Option String} (hspeaks : ∀ words ∈ text, Text.isBlankText words = false)
    (h : silent text = true) : text = none := by
  cases text with
  | none => rfl
  | some words => cases (hspeaks words rfl).symm.trans (Option.all_some.symm.trans h)

lemma heard_of_no_blank {members conditions : List String} {sent : Option String}
    (hspeak : ∀ words ∈ members ++ sent.toList ++ conditions, Text.isBlankText words = false)
    (hany : members ++ sent.toList ++ conditions ≠ []) :
    ¬(silent (members.getLast?.or sent) = true ∧ silent conditions.getLast? = true) := by
  rintro ⟨hsimple, hlast⟩
  have hmembers : members.getLast?.or sent = none := by
    refine eq_none_of_silent (fun words hwords => hspeak words ?_) hsimple
    rcases Option.or_eq_some_iff.mp hwords with hmember | ⟨-, hsent⟩
    · simp [List.mem_of_getLast? hmember]
    · simp [hsent]
  have hconditions : conditions.getLast? = none :=
    eq_none_of_silent (fun words hwords => hspeak words (by simp [List.mem_of_getLast? hwords])) hlast
  obtain ⟨hmembers, hsent⟩ := Option.or_eq_none_iff.mp hmembers
  apply hany
  rw [List.getLast?_eq_none_iff.mp hmembers, hsent, List.getLast?_eq_none_iff.mp hconditions]
  rfl

end Search

namespace Request

def memberTexts (r : Request) : List String :=
  (r.sentMembers.filter fun member => isSearchName member.1).map fun member => member.2.param

variable {params : Params} {steps : List Step}

lemma getLast?_memberTexts (r : Request) :
    r.memberTexts.getLast? = (last? (valueIf isSearchName) r.sentMembers).map Json.param := by
  have hvalues : r.sentMembers.filterMap (valueIf isSearchName) =
      (r.sentMembers.filter fun member => isSearchName member.1).map Prod.snd := by
    induction r.sentMembers with
    | nil => rfl
    | cons member members ih => cases hasked : isSearchName member.1 <;> simp [valueIf, hasked, ih]
  rw [memberTexts, last?, hvalues, List.getLast?_map, List.getLast?_map, Option.map_map]
  rfl

lemma lookup_filter_sent (hsteps : ∀ column value, .filter column value ∈ steps → isSearchName column = false) :
    (build params steps).filter.lookup searchKey =
      (last? (valueIf isSearchName) (new params).sentMembers).or (new params).sentSearch := by
  have hadded : last? (Step.value? isSearchName) steps = none := by
    refine last?_eq_none fun step hstep => ?_
    cases step with
    | filter column value => exact if_neg (by simp [hsteps column value hstep])
    | _ => rfl
  rw [lookup_filter_search, hadded, Option.none_or]

lemma silent_filter (hsteps : ∀ column value, .filter column value ∈ steps → isSearchName column = false) :
    Search.silent (((build params steps).filter.lookup searchKey).map Json.param) =
      Search.silent ((new params).memberTexts.getLast?.or (params.get? "search")) := by
  rw [lookup_filter_sent hsteps, getLast?_memberTexts]
  cases last? (valueIf isSearchName) (new params).sentMembers with
  | some value => rfl
  | none =>
    have htext : Json.param ∘ Json.string = id := rfl
    rw [Option.none_or, Option.map_none, Option.none_or, sentSearch, Option.map_map, htext, Option.map_id_apply,
      Search.silent_unless_blank]
    rfl

end Request

namespace Config

def conditionTexts (groups : List (List Condition)) : List String :=
  (groups.flatten.filter fun condition => condition.column = searchKey).map fun condition => condition.value.param

lemma getLast?_conditionTexts (groups : List (List Condition)) :
    (conditionTexts groups).getLast? = lastWords groups.flatten := List.getLast?_map

lemma exists_compile_searchable_iff {c : Config} (hcolumns : c.searchableColumns ≠ []) (r : Request) :
    (∃ q, c.compile r = .ok q) ↔ c.orderRefusal r.orderBy = none ∧ ∃ groups, r.advancedFilter = .ok groups ∧
      c.filterRefusal r.filter = none ∧ c.conditionRefusal groups = none := by
  have hsearch : ∀ groups, c.searchRefusal r.filter groups = none := fun groups =>
    if_neg fun hrefused => hcolumns hrefused.1
  rw [exists_compile_iff]
  simp only [Schema.restrictRefusal, hsearch, Option.orElse_eq_orElse, Option.orElse_eq_or, Option.or_none,
    Option.or_eq_none_iff]

/-- With columns to search and words of any length, nothing that is sent to search for makes a grid refuse a
request. It then searches for nothing exactly if the text that is picked of the filter and of the parameter
beside it, and the last of the conditions, are blank or missing. So a text that is not blank may be missed, but
only where there is a blank one too. -/
theorem searches_heard (c : Config) (params : Params) (steps : List Request.Step)
    (hcolumns : c.searchableColumns ≠ []) (hlength : 1 ≤ c.settings.maxSearchLength)
    (hsteps : ∀ column value, .filter column value ∈ steps → column ≠ "search" ∧ column ≠ "__search__") :
    let r := Request.build params steps
    let members := (Request.new params).memberTexts
    let sent := params.get? "search"
    ((∃ q, c.compile r = .ok q) ↔ c.orderRefusal r.orderBy = none ∧ ∃ groups, r.advancedFilter = .ok groups ∧
      c.filterRefusal r.filter = none ∧ c.conditionRefusal groups = none) ∧
    ∀ q, c.compile r = .ok q → ∃ order groups plain tree search,
      r.advancedFilter = .ok groups ∧
      c.Stages r.filter groups { Query.on c.collection with order } plain tree search ∧
      q.query.conditions = plain.toList ++ (tree.predicate.toList ++ search) ∧
      let words := c.words r.filter tree
      let conditions := conditionTexts groups
      let texts := members ++ sent.toList ++ conditions
      (words = none ↔ Search.silent (members.getLast?.or sent) ∧ Search.silent conditions.getLast?) ∧
      ((∀ text ∈ texts, Text.isBlankText text = false) → texts ≠ [] → words ≠ none) := by
  intro r members sent
  refine ⟨exists_compile_searchable_iff hcolumns r, fun q hq => ?_⟩
  obtain ⟨order, groups, plain, tree, search, -, hgroups, hst, hquery⟩ := stages_of_compile hq
  refine ⟨order, groups, plain, tree, search, hgroups, hst, by rw [hquery], ?_⟩
  intro words conditions texts
  have hunnamed : ∀ column value, .filter column value ∈ steps → Request.isSearchName column = false :=
    fun column value hstep => decide_eq_false (not_or.mpr (hsteps column value hstep))
  have hpick : c.words r.filter tree = none ↔
      Search.silent (members.getLast?.or sent) ∧ Search.silent conditions.getLast? := by
    rw [Config.words, Search.token_eq (Nat.ne_of_gt hlength), ← Option.not_isSome_iff_eq_none,
      Search.isSome_bind_sanitize (Nat.ne_of_gt hlength), Bool.not_eq_true', Bool.not_eq_false, Search.silent_spoken,
      Request.silent_filter hunnamed, search_of_advancedTree hst.tree_ok, getLast?_conditionTexts]
  exact ⟨hpick, fun hspeak hany hnone => Search.heard_of_no_blank hspeak hany (hpick.mp hnone)⟩

theorem condition_heard_after_blank :
    let c := (Config.new "Articles" "articles").withSearchableColumn "title"
    let text := "[[\x7b\"column\":\"search\",\"operation\":\"like\",\"value\":\"rust\"\x7d]]"
    let r := Request.build ((Params.empty.insert "advanced_filter" text).insert "search" " ") []
    ∃ q tree, c.compile r = .ok q ∧
      c.advancedTree (.on "articles") [[⟨"__search__", .like, .string "rust"⟩]] = .ok tree ∧
      c.words r.filter tree ≠ none := by
  intro c text r
  have hlike : Operator.like.NamedBy "like" := by
    rw [Operator.NamedBy]
    decide
  have hsent : r.params.get? "advanced_filter" = some text :=
    (Params.get?_insert_of_ne _ (by decide) " ").trans (Params.get?_insert_self .empty _ text)
  have hgroups := Request.advancedFilter_of_compact hsent (by decide) (by decide) (by decide)
    (.cons (.list (.cons (Condition.reads_object "search" hlike (.string "rust")) .nil)) .nil)
  obtain ⟨hcompiles, hheard⟩ := searches_heard c ((Params.empty.insert "advanced_filter" text).insert "search" " ") []
    (by decide) (by decide) (by simp)
  obtain ⟨q, hq⟩ := hcompiles.mpr ⟨rfl, _, hgroups, rfl, rfl⟩
  obtain ⟨order, groups, plain, tree, search, hread, hst, -, hpick, -⟩ := hheard q hq
  obtain rfl := Except.ok.inj (hgroups.symm.trans hread)
  exact ⟨q, tree, hq, hst.tree_ok, fun hnone => absurd (hpick.mp hnone).2 (by decide)⟩

/-- A blank member of the filter hides the parameter, and a blank condition the one before it: with neither request
is anything searched for. -/
theorem word_hidden_by_blanks :
    let c := (Config.new "Articles" "articles").withSearchableColumn "title"
    let members : Request := .build ((Params.empty.insert "filter" "\x7b\"search\":\"\"\x7d").insert "search" "go") []
    let asked (text : String) := "[\x7b\"column\":\"search\",\"operation\":\"eq\",\"value\":\"" ++ text ++ "\"\x7d]"
    let conditions : Request :=
      .build (Params.empty.insert "advanced_filter" ("[" ++ asked "go" ++ "," ++ asked "" ++ "]")) []
    members.params.get? "search" = some "go" ∧
      conditions.advancedFilter = .ok [[⟨"__search__", .eq, .string "go"⟩], [⟨"__search__", .eq, .string ""⟩]] ∧
      ∀ r ∈ [members, conditions], ∃ q, c.compile r = .ok q ∧ q.query.conditions = [] := by
  intro c members asked conditions
  have heq : Operator.eq.NamedBy "eq" := by
    rw [Operator.NamedBy]
    decide
  have hasked (text : String) := Condition.reads_object "search" heq (.string text)
  have hread : conditions.advancedFilter =
      .ok [[⟨"__search__", .eq, .string "go"⟩], [⟨"__search__", .eq, .string ""⟩]] := by
    let group (text : String) := Json.array
      [.object [("column", .string "search"), ("operation", .string "eq"), ("value", .string text)]]
    have hsent : conditions.params.get? "advanced_filter" = some (Json.array [group "go", group ""]).compact :=
      Params.get?_insert_self .empty _ _
    exact Request.advancedFilter_of_compact hsent (by decide) (by decide) (by decide)
      (.cons (.list (.cons (hasked "go") .nil)) (.cons (.list (.cons (hasked "") .nil)) .nil))
  have hmembers : members.filter = [("__search__", .string "")] := by
    have hsent : members.params.get? "filter" = some "\x7b\"search\":\"\"\x7d" :=
      (Params.get?_insert_of_ne _ (by decide) "go").trans (Params.get?_insert_self .empty _ _)
    have hparsed : members.jsonParam? "filter" = some (.object [("search", .string "")]) :=
      Request.jsonParam?_compact hsent (by decide) (by decide) (by decide)
    simp only [Request.filter, Request.sentFilter, Params.filterName, hparsed]
    rfl
  have hcompile {r : Request} {groups : List (List Condition)} {tree : Tree} (hread : r.advancedFilter = .ok groups)
      (hplain : c.plainFilter (.on "articles") r.filter = .ok none)
      (htree : c.advancedTree (.on "articles") groups = .ok tree) (hpredicate : tree.predicate = none)
      (hwords : c.words r.filter tree = none) (horder : r.orderBy = none) :
      ∃ q, c.compile r = .ok q ∧ q.query.conditions = [] := by
    have hstages : c.Stages r.filter groups { Query.on c.collection with order := none } none tree [] := by
      refine ⟨hplain, htree, ?_⟩
      rw [hwords]
      rfl
    have hq := compile_of_stages rfl (by rw [resolveOrder, horder]) hread hstages
    rw [hpredicate] at hq
    exact ⟨_, hq, rfl⟩
  refine ⟨rfl, hread, ?_⟩
  simp only [List.mem_cons, List.not_mem_nil, or_false]
  rintro r (rfl | rfl)
  · exact hcompile rfl (by rw [hmembers]; rfl) rfl rfl (by rw [hmembers]; rfl) rfl
  · exact hcompile hread rfl rfl rfl rfl rfl

end Config

end DataGrid
