import DataGrid.Proofs.Calls
import DataGrid.Proofs.Matchers
import DataGrid.Proofs.Requests
import Mathlib.Algebra.GroupWithZero.Nat

namespace DataGrid

namespace Config

lemma collection_of_compile {c : Config} {r : Request} {q : Compiled} (h : c.compile r = .ok q) :
    q.query.collection = c.collection := by
  obtain ⟨_, _, query, _, _, hr, _, hp⟩ := compile_ok_iff.mp h
  obtain ⟨_, _, _, _, rfl⟩ := restrict_ok_iff.mp hr
  rw [hp]
  rfl

lemma derived_count {c : Config} {r : Request} {q : Compiled} (hc : c.countQuery = none) (h : c.compile r = .ok q) :
    q.count.collection = q.query.collection ∧ q.count.conditions = q.query.conditions := by
  obtain ⟨_, _, query, _, _, _, hn, hp⟩ := compile_ok_iff.mp h
  simp only [countQueryFor, hc, Except.ok.injEq, Prod.mk.injEq] at hn
  rw [hp, ← hn.1]
  exact ⟨rfl, rfl⟩

lemma getData_of_matching {c : Config} {r : Request} {q : Compiled} (hc : c.countQuery = none) (hq : c.compile r = .ok q)
    (s : MemoryStore) : c.getData s.store r = match s.matching q.query with
      | .ok documents => (q.query.window documents).map fun found =>
        (.ok ⟨found, documents.length, c.settings.dateFormat⟩, r.setTotal documents.length)
      | .error e => some (.error (c.storeFailure e), r) := by
  obtain ⟨hcollection, hconditions⟩ := derived_count hc hq
  have hcount : s.count q.count = (s.matching q.query).map List.length :=
    congrArg (Except.map List.length) (MemoryStore.matching_congr hcollection hconditions s)
  rw [getData_of_compile hq, MemoryStore.find, hcount]
  cases s.matching q.query with
  | ok documents =>
    dsimp only [Except.map]
    cases q.query.window documents <;> rfl
  | error e => simp [Except.map]

lemma outcome_of_matching {c : Config} {s : MemoryStore} {r : Request} {q : Compiled} {documents : List Document}
    (hc : c.countQuery = none) (h : c.compile r = .ok q) (hm : s.matching q.query = .ok documents) :
    (c.getData s.store r).map Prod.fst = (q.query.window documents).map fun found =>
      .ok ⟨found, documents.length, c.settings.dateFormat⟩ := by
  rw [getData_of_matching hc h, hm]
  exact Option.map_map _ _ _

lemma getData_found_iff {c : Config} (hc : c.countQuery = none) {s : MemoryStore} {r after : Request} {found : Found} :
    c.getData s.store r = some (.ok found, after) ↔ ∃ q matching all, c.compile r = .ok q ∧
      s.matching q.query = .ok matching ∧ q.query.arrange matching = some all ∧
      found = ⟨q.query.cut all, matching.length, c.settings.dateFormat⟩ ∧ after = r.setTotal matching.length := by
  cases hq : c.compile r with
  | error e => simp [getData_of_error hq]
  | ok q =>
    rw [getData_of_matching hc hq]
    cases hm : s.matching q.query with
    | error e => simp [hm]
    | ok matching => cases ha : q.query.arrange matching <;> simp [hm, Query.window, ha, eq_comm]

lemma compile_atPage {c : Config} {r : Request} {q : Compiled} (h : c.compile r = .ok q) {page : Nat}
    (hp : 1 ≤ page) (hm : page ≤ Count.most) :
    c.compile (r.atPage page) = .ok { q with query := q.query.paginate (offset page r.limit) r.limit } := by
  obtain ⟨order, groups, query, ho, hg, hr, hn, hq⟩ := compile_ok_iff.mp h
  refine compile_ok_iff.mpr ⟨order, groups, query, ?_, ?_, ?_, ?_, ?_⟩
  · simpa only [resolveOrder, Request.atPage_orderBy] using ho
  · rwa [Request.atPage_advancedFilter]
  · rwa [Request.atPage_filter]
  · rwa [Request.atPage_filter]
  · rw [Request.atPage_page r hp hm, Request.atPage_limit, hq]
    rfl

end Config

lemma drop_offset {α : Type} {xs : List α} (h : xs.length ≤ Count.most) (page limit : Nat) :
    xs.drop (offset page limit) = xs.drop ((page - 1) * limit) := by
  rcases Nat.le_total ((page - 1) * limit) Count.most with hs | hs
  · rw [offset, Count.mul, Count.saturate, Nat.min_eq_left hs]
  · rw [offset, Count.mul, Count.saturate, Nat.min_eq_right hs, List.drop_eq_nil_of_le h,
      List.drop_eq_nil_of_le (Nat.le_trans h hs)]

lemma flatMap_pages {α : Type} (xs : List α) (limit n : Nat) :
    (List.range' 1 n).flatMap (fun page => (xs.drop ((page - 1) * limit)).take limit) = xs.take (n * limit) := by
  induction n with
  | zero => simp
  | succ n ih =>
    rw [List.range'_1_concat, List.flatMap_append, ih, List.flatMap_singleton, Nat.add_sub_cancel_left,
      Nat.succ_mul, List.take_add]

namespace Paging

lemma lastPage_new (page limit total : Nat) (h : 1 ≤ limit) :
    (Paging.new page limit total).lastPage = total / limit + 1 := by
  simp [Paging.new, Nat.max_eq_left h]

lemma eq_lastPage_iff (page limit total n : Nat) : n = (new page limit total).lastPage ↔
    1 ≤ n ∧ (n - 1) * max limit 1 ≤ total ∧ total < n * max limit 1 := by
  change n = total / max limit 1 + 1 ↔ _
  have hpos : 0 < max limit 1 := by omega
  rw [← Nat.le_div_iff_mul_le hpos, ← Nat.div_lt_iff_lt_mul hpos]
  generalize total / max limit 1 = whole
  omega

lemma total_lt_lastPage (page limit total : Nat) (h : 1 ≤ limit) :
    total < (Paging.new page limit total).lastPage * limit := by
  obtain ⟨-, -, hlast⟩ := (eq_lastPage_iff page limit total _).mp rfl
  rwa [Nat.max_eq_left h] at hlast

end Paging

namespace Config

lemma getData_atPage {c : Config} {s : MemoryStore} {r : Request} {q : Compiled} {matching all : List Document}
    (hq : c.compile r = .ok q) (hm : s.matching q.query = .ok matching) (hall : q.query.arrange matching = some all)
    (hc : c.countQuery = none) (hs : matching.length ≤ Count.most) {page : Nat} (h1 : 1 ≤ page)
    (hp : page ≤ Count.most) :
    c.getData s.store (r.atPage page) =
      some (.ok ⟨(all.drop ((page - 1) * r.limit)).take r.limit, matching.length, c.settings.dateFormat⟩,
        (r.atPage page).setTotal matching.length) := by
  have hpage : s.matching (q.query.paginate (offset page r.limit) r.limit) = .ok matching :=
    (MemoryStore.matching_congr rfl rfl s).trans hm
  have hlen : all.length ≤ Count.most := (Query.arrange_perm hall).length_eq.trans_le hs
  have hwindow : (q.query.paginate (offset page r.limit) r.limit).window matching =
      some ((all.drop ((page - 1) * r.limit)).take r.limit) := by
    rw [Query.window_ok_iff]
    refine ⟨all, hall, ?_⟩
    rw [Query.cut_paginate, drop_offset hlen]
  rw [getData_of_matching hc (compile_atPage hq h1 hp)]
  dsimp only
  rw [hpage]
  dsimp only
  rw [hwindow]
  rfl

/-- Whatever page is asked for, it is the part of one list that its number names, in natural numbers
without bound; the pages up to the last are all of the list, and the others are empty. -/
theorem pages_partition_result (c : Config) (s : MemoryStore) (params : Params) (steps : List Request.Step)
    (found : Found) (after : Request) (hc : c.countQuery = none)
    (hs : (s.collection c.collection).documents.length < 2 ^ 64 - 1)
    (h : c.getData s.store (.build params steps) = some (.ok found, after)) :
    let r := Request.build params steps
    ∃ (q : Compiled) (all : List Document) (page : Nat → Found),
      c.compile r = .ok q ∧ s.find q.query.unpaged = some (.ok all) ∧ found.total = all.length ∧
      (∀ p, 1 ≤ p → p < 2 ^ 64 →
        c.getData s.store (r.atPage p) = some (.ok (page p), (r.atPage p).setTotal all.length) ∧
        (page p).documents = (all.drop ((p - 1) * r.limit)).take r.limit ∧
        (page p).documents.length ≤ r.limit ∧ (page p).total = all.length) ∧
      ∀ p, (Paging.new p r.limit found.total).lastPage < 2 ^ 64 ∧
        (List.range' 1 (Paging.new p r.limit found.total).lastPage).flatMap (fun i => (page i).documents) = all ∧
        ∀ i, (Paging.new p r.limit found.total).lastPage < i → i < 2 ^ 64 → (page i).documents = [] := by
  intro r
  obtain ⟨q, matching, all, hq, hm, hall, rfl, -⟩ := (getData_found_iff hc).mp h
  have hlength : all.length = matching.length := (Query.arrange_perm hall).length_eq
  have hsize : matching.length < 2 ^ 64 - 1 := by
    have hle := (MemoryStore.matching_sublist hm).length_le
    rw [collection_of_compile hq] at hle
    omega
  let page (p : Nat) : Found := ⟨(all.drop ((p - 1) * r.limit)).take r.limit, matching.length, c.settings.dateFormat⟩
  have hlimit : 1 ≤ r.limit := (Request.Proper.build params steps).limit_pos
  refine ⟨q, all, page, hq, MemoryStore.find_unpaged hm hall, hlength.symm,
    fun p h1 hp => ⟨?_, rfl, ?_, hlength.symm⟩, fun p => ?_⟩
  · rw [hlength]
    have hmost : Count.most = 2 ^ 64 - 1 := rfl
    exact getData_atPage hq hm hall hc (by omega) h1 (by omega)
  · exact List.length_take_le _ _
  · dsimp only
    have hlast := Paging.lastPage_new p r.limit matching.length hlimit
    have hbehind := Paging.total_lt_lastPage p r.limit matching.length hlimit
    refine ⟨?_, ?_, fun i hi _ => ?_⟩
    · have := Nat.div_le_self matching.length r.limit
      omega
    · rw [flatMap_pages, List.take_of_length_le (by omega)]
    · have hbefore : (Paging.new p r.limit matching.length).lastPage * r.limit ≤ (i - 1) * r.limit :=
        Nat.mul_le_mul_right r.limit (by omega)
      change (all.drop ((i - 1) * r.limit)).take r.limit = []
      rw [List.drop_eq_nil_of_le (by omega), List.take_nil]

theorem pages_of_three_articles :
    let s : MemoryStore := ⟨[("articles",
      ⟨[[("_id", .int32 1)], [("_id", .int32 2)], [("_id", .int32 3)]], false⟩)]⟩
    let c := Config.new "Articles" "articles"
    ∃ (all : List Document) (page : Nat → Found), 3 = all.length ∧
      (page 1).documents = all.take 2 ∧ (page 2).documents = (all.drop 2).take 2 ∧
      (page 1).documents ++ (page 2).documents = all ∧
      (c.getData s.store ((Request.build (.ofList [("limit", "2")]) [.total 7]).atPage 2)).map Prod.fst =
        some (.ok (page 2)) ∧
      (page 3).documents = [] := by
  intro s c
  obtain ⟨-, all, page, -, -, ht, hp, hlast⟩ := pages_partition_result c s (.ofList [("limit", "2")]) [.total 7]
    ⟨[[("_id", .int32 1)], [("_id", .int32 2)]], 3, "%Y-%m-%d %H:%M:%S"⟩
    ((Request.build (.ofList [("limit", "2")]) [.total 7]).setTotal 3) rfl (by decide) rfl
  obtain ⟨-, hflat, hbehind⟩ := hlast 1
  have hl : (Request.build (.ofList [("limit", "2")]) [.total 7]).limit = 2 := rfl
  rw [hl] at hp hflat hbehind
  refine ⟨all, page, ht, (hp 1 (by decide) (by decide)).2.1, (hp 2 (by decide) (by decide)).2.1, ?_, ?_, ?_⟩
  · have hpages : List.range' 1 (Paging.new 1 2 3).lastPage = [1, 2] := rfl
    simpa only [hpages, List.flatMap_cons, List.flatMap_nil, List.append_nil] using hflat
  · rw [(hp 2 (by decide) (by decide)).1]
    rfl
  · exact hbehind 3 (by decide) (by decide)

end Config

end DataGrid
