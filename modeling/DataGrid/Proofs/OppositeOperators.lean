import DataGrid.Proofs.ConditionGrammar
import DataGrid.Proofs.DateConditions
import DataGrid.Proofs.PageRange
import DataGrid.Proofs.RangeOperators
import DataGrid.Proofs.Refusal
import DataGrid.Proofs.StoreRuns

namespace DataGrid

namespace Operator

def opposites : List (Operator × Operator) := [(eq, neq), (filled, notFilled)]

variable {op op' : Operator}

lemma not_textual_of_opposites (h : (op, op') ∈ opposites) : op ∉ textual ∧ op' ∉ textual := by
  have hall : ∀ pair ∈ opposites, pair.1 ∉ textual ∧ pair.2 ∉ textual := by decide
  exact hall _ h

lemma opposite_asks_iff (h : (op, op') ∈ opposites) (wanted : Bson) (actual : Option Bson) :
    op'.Asks wanted actual ↔ ¬op.Asks wanted actual := by
  simp only [opposites, List.mem_cons, Prod.mk.injEq, List.not_mem_nil, or_false] at h
  rcases h with ⟨rfl, rfl⟩ | ⟨rfl, rfl⟩
  · exact Iff.rfl
  · simp only [Asks, not_and_or, not_not]

lemma holds_opposite (h : (op, op') ∈ opposites) (path : String) (wanted : Bson) (d : Document) :
    (op'.predicate path wanted).holds d = !(op.predicate path wanted).holds d := by
  obtain ⟨hop, hop'⟩ := not_textual_of_opposites h
  rw [Bool.eq_iff_iff, Bool.not_eq_true', ← Bool.not_eq_true, holds_predicate_iff hop, holds_predicate_iff hop']
  exact opposite_asks_iff h wanted _

lemma usesText_predicate (op : Operator) (path : String) (wanted : Bson) :
    (op.predicate path wanted).usesText = false := by
  have hequality : (equality path wanted).usesText = false := by cases wanted <;> rfl
  have hinequality : (inequality path wanted).usesText = false := by cases wanted <;> rfl
  cases op with
  | eq => exact hequality
  | neq => exact hinequality
  | between =>
    rw [predicate]
    cases bounds? wanted with
    | some bounds => rfl
    | none => exact hequality
  | notBetween =>
    rw [predicate]
    cases bounds? wanted with
    | some bounds => rfl
    | none => exact hinequality
  | _ => rfl

end Operator

namespace MemoryStore

variable {s : MemoryStore} {query : Query} {documents : List Document} {p : Predicate}

lemma matching_require (h : s.matching query = .ok documents) (hpatterns : p.patterns = [])
    (htext : p.usesText = false) : s.matching (query.requireAll [p]) = .ok (documents.filter p.holds) := by
  have huses : (query.requireAll [p]).usesText = query.usesText := by
    simp [Query.usesText, Query.requireAll, htext]
  obtain ⟨hindexed, hread⟩ := exists_matching_iff.mp ⟨documents, h⟩
  have hreadable : query.Readable → (query.requireAll [p]).Readable := by
    intro hread p' hp'
    rcases List.mem_append.mp hp' with hp' | hp'
    · exact hread p' hp'
    · rw [List.mem_singleton.mp hp', hpatterns]
      exact List.forall_mem_nil _
  have hfound : ∃ found, s.matching (query.requireAll [p]) = .ok found := by
    apply exists_matching_iff.mpr
    refine ⟨?_, hread.imp_right hreadable⟩
    rwa [Unindexed, huses]
  obtain ⟨found, hfound⟩ := hfound
  rw [hfound, matching_holds h, List.filter_filter, matching_holds hfound]
  congr 1
  apply List.filter_congr
  intro d hd
  simp [Query.requireAll, Bool.and_comm]

end MemoryStore

structure Request.AsksOnly (r : Request) (condition : Condition) : Prop where
  plain : r.filter = []
  advanced : r.advancedFilter = .ok [[condition]]

lemma Request.asksOnly_of_compact {text : String} {raw : Json} {condition : Condition}
    (h : Condition.Reads raw condition) (htext : text = (Json.array [.array [raw]]).compact)
    (hf : (Json.array [.array [raw]]).Every Json.Fits) (hn : (Json.array [.array [raw]]).Every Json.IsNoDouble)
    (hd : (Json.array [.array [raw]]).depth < 128) :
    (Request.new (Params.empty.insert "advanced_filter" text)).AsksOnly condition := by
  have hsent := Params.get?_insert_self .empty "advanced_filter" text
  rw [htext] at hsent ⊢
  exact ⟨rfl, advancedFilter_of_compact hsent hf hn hd (.cons (.list (.cons h .nil)) .nil)⟩

namespace Config

open Operator

variable {c : Config} {column : String} {found : Column} {op : Operator} {value : Json}

/-- The query that the total counts when there is nothing to filter by. -/
def counted (c : Config) : Query := c.countQuery.elim (Query.on c.collection) fun build => build c.toSchema

lemma restrict_single (hcolumn : c.filterColumn? column = some found) (ho : c.override? column = none)
    (hk : column ≠ searchKey) (query : Query) : c.restrict [] [[⟨column, op, value⟩]] query =
      .ok (query.requireAll [op.predicate found.path (Bson.coerceDates (.ofJson value))]) := by
  apply restrict_ok_iff.mpr
  exact ⟨none, _, [], ⟨rfl, advancedTree_single hcolumn ho hk value, rfl⟩, rfl⟩

lemma compile_single (hcolumn : c.filterColumn? column = some found) (ho : c.override? column = none)
    (hk : column ≠ searchKey) {r : Request} (hr : r.AsksOnly ⟨column, op, value⟩)
    (horder : c.orderRefusal r.orderBy = none) : ∃ q order,
      let p := op.predicate found.path (Bson.coerceDates (.ofJson value))
      c.compile r = .ok q ∧
      q.query = ({ Query.on c.collection with order }.requireAll [p]).paginate (offset r.page r.limit) r.limit ∧
      q.count = (c.counted.requireAll [p]).unordered ∧ (r.orderBy = none → order = none) := by
  have hresolved : ∃ order, c.resolveOrder r = .ok order := by
    rw [← failure?_resolveOrder] at horder
    exact Outcome.failure?_eq_none_iff.mp horder
  obtain ⟨order, horder⟩ := hresolved
  refine ⟨⟨_, _, c.countQuery.isSome⟩, order,
    compile_ok_iff.mpr ⟨order, _, _, horder, hr.advanced, ?_, ?_, rfl⟩, rfl, rfl, fun hnone => ?_⟩
  · rw [hr.plain]
    exact restrict_single hcolumn ho hk _
  · rw [hr.plain, countQueryFor, counted]
    cases c.countQuery with
    | none => rfl
    | some build =>
      dsimp only
      rw [restrict_single hcolumn ho hk]
      rfl
  · rw [resolveOrder, hnone] at horder
    exact (Except.ok.inj horder).symm

lemma outcome_of_single (hcolumn : c.filterColumn? column = some found) (ho : c.override? column = none)
    (hk : column ≠ searchKey) {r : Request} (hr : r.AsksOnly ⟨column, op, value⟩) (hnone : r.orderBy = none)
    {s : MemoryStore} {documents : List Document} {total : Nat} :
    let p := op.predicate found.path (Bson.coerceDates (.ofJson value))
    s.find (({ Query.on c.collection with order := none }.requireAll [p]).paginate (offset r.page r.limit) r.limit) =
      some (.ok documents) → s.count (c.counted.requireAll [p]).unordered = .ok total →
    (c.getData s.store r).map Prod.fst = some (.ok ⟨documents, total, c.settings.dateFormat⟩) := by
  intro p hfind hcount
  obtain ⟨q, order, hq, hquery, hcounted, hunordered⟩ := compile_single hcolumn ho hk hr (by rw [hnone]; rfl)
  have hdata : c.getData s.store r =
      some (.ok ⟨documents, total, c.settings.dateFormat⟩, r.setTotal total) := by
    refine getData_ok_iff.mpr ⟨q, documents, total, hq, ?_, ?_, rfl, rfl⟩
    · rw [hquery, hunordered hnone]
      exact hfind
    · rw [hcounted]
      exact hcount
  rw [hdata]
  rfl

lemma compile_search (hcount : c.countQuery = none) {r : Request} {text : String}
    (hr : r.AsksOnly ⟨searchKey, op, .string text⟩) (hnone : r.orderBy = none) {search : List Predicate}
    (hsearch : c.searched { Query.on c.collection with order := none } (c.words [] ⟨none, some text⟩) = .ok search) :
    c.compile r = .ok ⟨⟨c.collection, search, none, some (offset r.page r.limit), some r.limit⟩,
      ⟨c.collection, search, none, none, none⟩, false⟩ := by
  have hstages : c.Stages r.filter [[⟨searchKey, op, .string text⟩]] { Query.on c.collection with order := none }
      none ⟨none, some text⟩ search := by
    rw [hr.plain]
    exact ⟨rfl, advancedTree_search (.string text), hsearch⟩
  exact compile_of_stages hcount (by rw [resolveOrder, hnone]) hr.advanced hstages

/-- A request that compiles to a query finds the documents of the collection with a property, and its total counts
those of the counting query that have it. -/
structure Answers (c : Config) (s : MemoryStore) (r : Request) (q : Compiled) (kept : Document → Bool) : Prop where
  compiles : c.compile r = .ok q
  find_perm : ∀ outcome, s.find q.query.unpaged = some outcome → ∃ all, outcome = .ok all ∧
    all.Perm ((s.collection c.collection).documents.filter kept) ∧
    (r.orderBy = none → all = (s.collection c.collection).documents.filter kept)
  find_some : q.query.Arranges (s.collection c.collection).documents → ∃ all, s.find q.query.unpaged = some (.ok all)
  arranges : r.orderBy = none → q.query.Arranges (s.collection c.collection).documents
  total_eq : ∀ base, s.matching c.counted = .ok base → ∀ page after,
    c.getData s.store r = some (.ok page, after) → page.total = (base.filter kept).length
  getData_some : ∀ base, s.matching c.counted = .ok base →
    q.query.Arranges (s.collection c.collection).documents → ∃ page after, c.getData s.store r = some (.ok page, after)

lemma answers_single (hcolumn : c.filterColumn? column = some found) (ho : c.override? column = none)
    (hk : column ≠ searchKey) (hop : op ∉ textual) {r : Request} (hr : r.AsksOnly ⟨column, op, value⟩)
    (horder : c.orderRefusal r.orderBy = none) (s : MemoryStore) :
    ∃ q, c.Answers s r q (op.predicate found.path (Bson.coerceDates (.ofJson value))).holds := by
  let kept := (op.predicate found.path (Bson.coerceDates (.ofJson value))).holds
  let documents := (s.collection c.collection).documents
  obtain ⟨q, order, hq, hquery, hcount, hnone⟩ := compile_single hcolumn ho hk hr horder
  have hkept {query : Query} {base : List Document} (h : s.matching query = .ok base) :
      s.matching (query.requireAll [op.predicate found.path (Bson.coerceDates (.ofJson value))]) =
        .ok (base.filter kept) :=
    MemoryStore.matching_require h (patterns_of_not_textual hop) (usesText_predicate op _ _)
  have hmatching : s.matching q.query = .ok (documents.filter kept) := by
    rw [hquery]
    exact (MemoryStore.matching_congr rfl rfl s).trans (hkept (s.matching_on c.collection))
  have hfind : s.find q.query.unpaged = (q.query.arrange (documents.filter kept)).map .ok := by
    have hsame : s.matching q.query.unpaged = .ok (documents.filter kept) :=
      (MemoryStore.matching_congr rfl rfl s).trans hmatching
    rw [MemoryStore.find, hsame]
    exact congrArg (Option.map Except.ok) (q.query.window_unpaged _)
  have htotal {base : List Document} (hbase : s.matching c.counted = .ok base) :
      s.count q.count = .ok (base.filter kept).length := by
    have hcounted : s.matching q.count = .ok (base.filter kept) := by
      rw [hcount]
      exact (MemoryStore.matching_congr rfl rfl s).trans (hkept hbase)
    exact congrArg (Except.map List.length) hcounted
  have hunordered : r.orderBy = none → q.query.order = none := fun h => by
    rw [hquery, ← hnone h]
    rfl
  refine ⟨q, hq, fun outcome houtcome => ?_, fun harranges => ?_, fun h => Query.arranges_of_order_none (hunordered h),
    fun base hbase page after hpage => ?_, fun base hbase harranges => ?_⟩
  · rw [hfind, Option.map_eq_some_iff] at houtcome
    obtain ⟨all, hall, rfl⟩ := houtcome
    refine ⟨all, rfl, Query.arrange_perm hall, fun h => ?_⟩
    rw [Query.arrange_of_order_none (hunordered h)] at hall
    exact (Option.some.inj hall).symm
  · obtain ⟨all, hall⟩ := (harranges.sublist List.filter_sublist).exists_arrange
    exact ⟨all, hfind.trans (by rw [hall]; rfl)⟩
  · obtain ⟨q', _, _, hq', -, hn, rfl, -⟩ := getData_ok_iff.mp hpage
    obtain rfl := Except.ok.inj (hq.symm.trans hq')
    exact Except.ok.inj (hn.symm.trans (htotal hbase))
  · obtain ⟨all, hall⟩ := (harranges.sublist List.filter_sublist).exists_arrange
    have hpage := MemoryStore.find_ok_iff.mpr ⟨_, hmatching, Query.window_ok_iff.mpr ⟨all, hall, rfl⟩⟩
    exact ⟨_, _, getData_ok_iff.mpr ⟨q, _, _, hq, hpage, htotal hbase, rfl, rfl⟩⟩

/-- On a column without a condition of its own, an operator and its opposite divide every collection, whatever the
value and whatever the fields hold: each document is found with one of them, and not with the other. The totals add
up to what the grid counts without a filter. -/
theorem opposites_partition_collection (c : Config) (s : MemoryStore) (r r' : Request) (column : String)
    (found : Column) (op op' : Operator) (value : Json) (hcolumn : c.filterColumn? column = some found)
    (ho : c.override? column = none) (hk : column ≠ "__search__") (hop : (op, op') ∈ [(eq, neq), (filled, notFilled)])
    (hr : r.AsksOnly ⟨column, op, value⟩) (hr' : r'.AsksOnly ⟨column, op', value⟩)
    (horder : c.orderRefusal r.orderBy = none) (horder' : c.orderRefusal r'.orderBy = none) :
    let wanted := Bson.coerceDates (.ofJson value)
    let kept (d : Document) := (op.predicate found.path wanted).holds d
    let documents := (s.collection c.collection).documents
    (∀ d : Document, (kept d = true ↔ op.Asks wanted (d.lookup found.path)) ∧
      (kept d = false ↔ op'.Asks wanted (d.lookup found.path))) ∧
    (∃ q q', c.Answers s r q kept ∧ c.Answers s r' q' (fun d => !kept d) ∧ ∀ all all',
      s.find q.query.unpaged = some (.ok all) → s.find q'.query.unpaged = some (.ok all') →
        (all ++ all').Perm documents) ∧
    (∀ total, s.count c.counted = .ok total → ∀ page page' after after',
      c.getData s.store r = some (.ok page, after) → c.getData s.store r' = some (.ok page', after') →
        page.total + page'.total = total) ∧
    (c.countQuery = none → s.count c.counted = .ok documents.length) := by
  intro wanted kept documents
  obtain ⟨htext, htext'⟩ := not_textual_of_opposites hop
  obtain ⟨q, hanswers⟩ := answers_single hcolumn ho hk htext hr horder s
  obtain ⟨q', hanswers'⟩ := answers_single hcolumn ho hk htext' hr' horder' s
  have hopposite : (op'.predicate found.path wanted).holds = fun d => !kept d :=
    funext fun d => holds_opposite hop found.path wanted d
  rw [hopposite] at hanswers'
  refine ⟨fun d => ⟨holds_predicate_iff htext, ?_⟩, ⟨q, q', hanswers, hanswers', fun all all' hall hall' => ?_⟩,
    fun total hcount page page' after after' hpage hpage' => ?_, fun hnone => ?_⟩
  · rw [opposite_asks_iff hop, ← holds_predicate_iff htext, Bool.not_eq_true]
  · obtain ⟨_, heq, hperm, -⟩ := hanswers.find_perm _ hall
    obtain ⟨_, heq', hperm', -⟩ := hanswers'.find_perm _ hall'
    obtain rfl := Except.ok.inj heq
    obtain rfl := Except.ok.inj heq'
    exact (hperm.append hperm').trans (List.filter_append_perm kept documents)
  · obtain ⟨base, hbase, rfl⟩ := Outcome.map_ok_iff.mp hcount
    rw [hanswers.total_eq base hbase page after hpage, hanswers'.total_eq base hbase page' after' hpage',
      ← List.length_append]
    exact (List.filter_append_perm kept base).length_eq
  · rw [counted, hnone, Option.elim_none, MemoryStore.count, MemoryStore.matching_on]
    rfl

theorem editors_filled_or_not :
    let s : MemoryStore := ⟨[("articles", ⟨[[("_id", .int32 1), ("editor", .string "Ann")],
      [("_id", .int32 2), ("editor", .null)], [("_id", .int32 3)],
      [("_id", .int32 4), ("editor", .array [.null, .string ""])]], false⟩)]⟩
    let c := (Config.new "Articles" "articles").withFilterColumn "editor" "editor"
    let ask (operation : String) : Request := .new (Params.empty.insert "advanced_filter"
      ("[[\x7b\"column\":\"editor\",\"operation\":\"" ++ operation ++ "\"\x7d]]"))
    ∃ page page' after after', c.getData s.store (ask "fl") = some (.ok page, after) ∧
      c.getData s.store (ask "nfl") = some (.ok page', after') ∧ page.total + page'.total = 4 := by
  intro s c ask
  have hread {op : Operator} (hop : op.NamedBy op.name) (hcheck : op = filled ∨ op = notFilled) :
      Condition.Reads (.object [("column", .string "editor"), ("operation", .string op.name)])
        ⟨if "editor" = "search" then "__search__" else "editor", op, .string ""⟩ :=
    .omitted rfl rfl hop hcheck rfl
  have hfilled : (ask "fl").AsksOnly ⟨"editor", filled, .string ""⟩ :=
    Request.asksOnly_of_compact (hread (by rw [NamedBy]; decide) (.inl rfl)) (by decide) (by decide) (by decide) (by decide)
  have hempty : (ask "nfl").AsksOnly ⟨"editor", notFilled, .string ""⟩ :=
    Request.asksOnly_of_compact (hread (by rw [NamedBy]; decide) (.inr rfl)) (by decide) (by decide) (by decide) (by decide)
  have hcolumn : c.filterColumn? "editor" = some ⟨"editor", none⟩ := by decide
  obtain ⟨-, ⟨q, q', hanswers, hanswers', -⟩, htotals, -⟩ := opposites_partition_collection c s _ _ "editor" _ filled
    notFilled (.string "") hcolumn rfl (by decide) (by decide) hfilled hempty rfl rfl
  obtain ⟨page, after, hpage⟩ := hanswers.getData_some _ rfl (hanswers.arranges rfl)
  obtain ⟨page', after', hpage'⟩ := hanswers'.getData_some _ rfl (hanswers'.arranges rfl)
  exact ⟨page, page', after, after', hpage, hpage', htotals 4 rfl page page' after after' hpage hpage'⟩

/-- On the reserved column both operators search, and a grid may count what it does not find. -/
theorem opposites_not_dividing :
    let go : Document := [("_id", .string "a1"), ("title", .string "Go")]
    let s : MemoryStore := ⟨[("articles", ⟨[go], false⟩)]⟩
    let c := (((Config.new "Articles" "articles").withFilterColumn "title" "title").withFilterColumn "__search__"
      "title").withSearchableColumn "title"
    let c' := c.withCountQuery fun _ => Query.on "archive"
    let ask (column operation : String) : Request := .new (Params.empty.insert "advanced_filter"
      ("[[\x7b\"column\":\"" ++ column ++ "\",\"operation\":\"" ++ operation ++ "\",\"value\":\"Go\"\x7d]]"))
    let found (c : Config) (r : Request) := (c.getData s.store r).map Prod.fst
    (c.filterColumn? "__search__" = some ⟨"title", none⟩ ∧ c.override? "__search__" = none ∧
      (ask "search" "eq").AsksOnly ⟨"__search__", eq, .string "Go"⟩ ∧
      (ask "search" "neq").AsksOnly ⟨"__search__", neq, .string "Go"⟩ ∧
      found c (ask "search" "eq") = some (.ok ⟨[go], 1, "%Y-%m-%d %H:%M:%S"⟩) ∧
      found c (ask "search" "neq") = some (.ok ⟨[go], 1, "%Y-%m-%d %H:%M:%S"⟩)) ∧
    (c'.filterColumn? "title" = some ⟨"title", none⟩ ∧ c'.override? "title" = none ∧
      (ask "title" "eq").AsksOnly ⟨"title", eq, .string "Go"⟩ ∧
      (ask "title" "neq").AsksOnly ⟨"title", neq, .string "Go"⟩ ∧
      found c' (ask "title" "eq") = some (.ok ⟨[go], 0, "%Y-%m-%d %H:%M:%S"⟩) ∧
      found c' (ask "title" "neq") = some (.ok ⟨[], 0, "%Y-%m-%d %H:%M:%S"⟩) ∧ s.count (.on "articles") = .ok 1) := by
  intro go s c c' ask found
  have hread {op : Operator} (hop : op.NamedBy op.name) (column : String) :=
    Condition.reads_object column hop (.string "Go")
  constructor
  case left =>
    have heq : (ask "search" "eq").AsksOnly ⟨"__search__", eq, .string "Go"⟩ :=
      Request.asksOnly_of_compact (hread (by rw [NamedBy]; decide) "search") (by decide) (by decide) (by decide) (by decide)
    have hneq : (ask "search" "neq").AsksOnly ⟨"__search__", neq, .string "Go"⟩ :=
      Request.asksOnly_of_compact (hread (by rw [NamedBy]; decide) "search") (by decide) (by decide) (by decide) (by decide)
    have hlike : like ∈ textual := by decide
    obtain ⟨m, hm⟩ := exists_compile_textual hlike "title" (.string "Go") (by decide)
    have hadmits : m.admits (like.predicate "title" (.string "Go")) go = true :=
      (admits_textual_iff hlike hm go).mpr ⟨"Go", finds_self hlike "Go", .inl rfl⟩
    let page : Query := ⟨"articles", [like.predicate "title" (.string "Go")], none, some 0, some 10⟩
    have hmatching : s.matching page = .ok [go] := by
      have hcompiled : s.matching page = (Matcher.compile (like.predicate "title" (.string "Go"))).map fun m =>
          [go].filter (m.admits (like.predicate "title" (.string "Go"))) := rfl
      rw [hcompiled, hm, Except.map, List.filter_cons_of_pos hadmits, List.filter_nil]
    have hfinds {r : Request} {op : Operator} (hr : r.AsksOnly ⟨"__search__", op, .string "Go"⟩)
        (ho : r.orderBy = none) (hp : r.page = 1) (hl : r.limit = 10) :
        found c r = some (.ok ⟨[go], 1, "%Y-%m-%d %H:%M:%S"⟩) := by
      have hsearch : c.searched { Query.on c.collection with order := none } (c.words [] ⟨none, some "Go"⟩) =
          .ok [like.predicate "title" (.string "Go")] := rfl
      have hq := compile_search rfl hr ho hsearch
      rw [hp, hl] at hq
      exact outcome_of_matching rfl hq hmatching
    exact ⟨by decide, rfl, heq, hneq, hfinds heq rfl rfl rfl, hfinds hneq rfl rfl rfl⟩
  case right =>
    have heq : (ask "title" "eq").AsksOnly ⟨"title", eq, .string "Go"⟩ :=
      Request.asksOnly_of_compact (hread (by rw [NamedBy]; decide) "title") (by decide) (by decide) (by decide) (by decide)
    have hneq : (ask "title" "neq").AsksOnly ⟨"title", neq, .string "Go"⟩ :=
      Request.asksOnly_of_compact (hread (by rw [NamedBy]; decide) "title") (by decide) (by decide) (by decide) (by decide)
    have hcolumn : c'.filterColumn? "title" = some ⟨"title", none⟩ := by decide
    exact ⟨hcolumn, rfl, heq, hneq, outcome_of_single hcolumn rfl (by decide) heq rfl rfl rfl,
      outcome_of_single hcolumn rfl (by decide) hneq rfl rfl rfl, rfl⟩

end Config

end DataGrid
