import DataGrid.Proofs.Arranging
import DataGrid.Proofs.TextIndex

namespace DataGrid

lemma Order.Sorts.exists_ranked {o : Order} {documents : List Document} (h : o.Sorts documents) :
    ∃ ranked : List (Document × Nat), ranked.Perm documents.zipIdx ∧ ranked.Pairwise o.Precedes ∧
      Sort.sort o.less documents = some (ranked.map Prod.fst) := by
  let le (d e : Document) : Bool := !o.less e d
  have hle : ∀ {d e : Document}, le d e = true ↔ o.Allows d e := fun {d e} => by
    rw [← Order.less_eq_false_iff, Bool.not_eq_true']
  have htrans : ∀ d ∈ documents, ∀ e ∈ documents, ∀ f ∈ documents, le d e = true → le e f = true → le d f = true :=
    fun _ _ e he _ _ hde hef => hle.mpr (Order.allows_trans (h e he) (hle.mp hde) (hle.mp hef))
  have htotal : ∀ d ∈ documents, ∀ e ∈ documents, (le d e || le e d) = true := by
    intro d _ e _
    cases hed : o.less e d with
    | false => simp [le, hed]
    | true => simp [le, hed, Order.less_asymm hed]
  obtain ⟨ranked, hperm, hsorted, hpairs⟩ := Sort.exists_ranked htrans htotal
  refine ⟨ranked, hperm, hpairs.imp fun {a b} hpair => ?_, ?_⟩
  · exact ⟨hle.mp hpair.1, fun hequal => hpair.2 (hle.mpr (Order.allows_of_equal hequal))⟩
  · rw [hsorted, Sort.sort_eq_mergeSort h.orders]

def Query.between (q : Query) (skip limit : Option Nat) : Query := { q with skip := skip, limit := limit }

lemma Query.getElem?_cut (q : Query) (documents : List Document) (i : Nat) :
    (q.cut documents)[i]? = if q.limit.all (i < ·) then documents[q.skip.getD 0 + i]? else none := by
  obtain ⟨collection, conditions, order, skip, limit⟩ := q
  cases limit with
  | none => exact List.getElem?_drop
  | some n =>
    simp only [Option.all_some, decide_eq_true_eq]
    refine List.getElem?_take.trans ?_
    rw [List.getElem?_drop]

namespace MemoryStore

/-- A query that a store answers: words have their index and, unless there is nothing to look through,
all patterns can be read. -/
def Accepts (s : MemoryStore) (q : Query) : Prop :=
  ¬s.Unindexed q ∧ (s.collections.lookup q.collection = none ∨ q.Readable)

lemma matching_of_accepts {s : MemoryStore} {q : Query} (h : s.Accepts q) : s.matching q = .ok (s.matched q) := by
  obtain ⟨documents, hmatching⟩ := exists_matching_iff.mpr h
  exact matching_eq_matched hmatching

/-- A query with an order finds the documents that it matches by their values in its direction, those that
are equal in it as they came; from a place on and up to a number it finds that part of them. -/
theorem find_sorts_stably (s : MemoryStore) (q : Query) (o : Order) (ho : q.order = some o) (ha : s.Accepts q)
    (hsorts : o.Sorts (s.matched q)) :
    ∃ ranked : List (Document × Nat), ranked.Perm (s.matched q).zipIdx ∧ ranked.Pairwise o.Precedes ∧
      let sorted := ranked.map Prod.fst
      sorted.Perm (s.matched q) ∧ s.find q.unpaged = some (.ok sorted) ∧
      ∀ skip limit, ∃ page, s.find (q.between skip limit) = some (.ok page) ∧
        ∀ i, page[i]? = if limit.all (i < ·) then sorted[skip.getD 0 + i]? else none := by
  obtain ⟨ranked, hperm, hpairs, hsorted⟩ := hsorts.exists_ranked
  have harrange : q.arrange (s.matched q) = some (ranked.map Prod.fst) := by
    rw [Query.arrange, ho]
    exact hsorted
  have hmatching := matching_of_accepts ha
  refine ⟨ranked, hperm, hpairs, Query.arrange_perm harrange, find_unpaged hmatching harrange, fun skip limit => ?_⟩
  refine ⟨(q.between skip limit).cut (ranked.map Prod.fst), find_ok_iff.mpr ⟨s.matched q, ?_, ?_⟩,
    fun i => (q.between skip limit).getElem?_cut _ i⟩
  · exact (matching_congr rfl rfl s).trans hmatching
  · exact Query.window_ok_iff.mpr ⟨_, harrange, rfl⟩

theorem mixed_views_sorted :
    let s : MemoryStore := ⟨[("articles", ⟨[[("_id", .int32 1), ("views", .int32 7)], [("_id", .int32 2)],
      [("_id", .int32 3), ("views", .string "many")], [("_id", .int32 4), ("views", .int64 7)],
      [("_id", .int32 5), ("views", .null)]], false⟩)]⟩
    let o : Order := ⟨"views", .desc⟩
    let q : Query := { Query.on "articles" with conditions := [.ne "_id" (.int64 2)], order := some o }
    q.order = some o ∧ s.Accepts q ∧ o.Sorts (s.matched q) ∧
      ∃ ranked : List (Document × Nat), ranked.Perm (s.matched q).zipIdx ∧ ranked.Pairwise o.Precedes ∧
        s.find q = some (.ok (ranked.map Prod.fst)) ∧
        ∃ page, s.find (q.paginate 1 2) = some (.ok page) ∧ page[1]? = (ranked.map Prod.fst)[2]? ∧ page[2]? = none := by
  intro s o q
  have haccepts : s.Accepts q := ⟨by simp [Unindexed, Query.usesText, Predicate.usesText, q],
    .inr (by simp [Query.Readable, Predicate.patterns, q])⟩
  have hmatched : s.matched q = [[("_id", .int32 1), ("views", .int32 7)],
    [("_id", .int32 3), ("views", .string "many")], [("_id", .int32 4), ("views", .int64 7)],
    [("_id", .int32 5), ("views", .null)]] := rfl
  have hsorts : o.Sorts (s.matched q) := by
    rw [hmatched, Order.Sorts]
    decide
  obtain ⟨ranked, hperm, hpairs, -, hfind, hpage⟩ := find_sorts_stably s q o rfl haccepts hsorts
  obtain ⟨page, hfound, hitems⟩ := hpage (some 1) (some 2)
  exact ⟨rfl, haccepts, hsorts, ranked, hperm, hpairs, hfind, page, hfound, hitems 1, hitems 2⟩

end MemoryStore

end DataGrid
