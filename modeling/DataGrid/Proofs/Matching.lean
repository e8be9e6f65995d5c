import DataGrid.Proofs.Outcome
import DataGrid.Proofs.Sort.Stable
import DataGrid.Store.Memory

/-! Which documents a query of a store in memory finds: those of its collection that meet every
condition, ordered and then cut to a window. -/

namespace DataGrid

abbrev PatternTable := String → Bool → Option Pattern.Program

namespace Predicate

lemma meetsAll_iff {table : PatternTable} {d : Document} {ps : List Predicate} :
    meetsAll table d ps = true ↔ ∀ p ∈ ps, p.meets table d = true := by
  induction ps with
  | nil => simp [meetsAll]
  | cons p ps ih => simp [meetsAll, ih]

lemma meetsSome_iff {table : PatternTable} {d : Document} {ps : List Predicate} :
    meetsSome table d ps = true ↔ ∃ p ∈ ps, p.meets table d = true := by
  induction ps with
  | nil => simp [meetsSome]
  | cons p ps ih => simp [meetsSome, ih]

lemma meets_allOf_iff {table : PatternTable} {d : Document} {ps : List Predicate} :
    (allOf ps).meets table d = true ↔ ∀ p ∈ ps, p.meets table d = true := by
  unfold allOf
  split
  · simp
  · rw [meets, meetsAll_iff]

lemma meets_anyOf_iff {table : PatternTable} {d : Document} {ps : List Predicate} :
    (anyOf ps).meets table d = true ↔ ∃ p ∈ ps, p.meets table d = true := by
  unfold anyOf
  split
  · simp
  · rw [meets, meetsSome_iff]

def allOf? (ps : List Predicate) : Option Predicate := if ps.isEmpty then none else some (.allOf ps)

@[simp] lemma allOf?_nil : allOf? [] = none := rfl

@[simp] lemma allOf?_cons (p : Predicate) (ps : List Predicate) : allOf? (p :: ps) = some (.allOf (p :: ps)) := rfl

lemma isSome_allOf? {ps : List Predicate} : (allOf? ps).isSome = true ↔ ps ≠ [] := by
  cases ps <;> simp

lemma meets_allOf?_iff {table : PatternTable} {d : Document} {ps : List Predicate} :
    (∀ p ∈ (allOf? ps).toList, p.meets table d = true) ↔ ∀ p ∈ ps, p.meets table d = true := by
  cases ps with
  | nil => rfl
  | cons p ps => rw [allOf?_cons, Option.toList_some, List.forall_mem_singleton, meets_allOf_iff]

end Predicate

namespace Query

lemma filter_eq (q : Query) : q.filter = Predicate.allOf? q.conditions := by
  cases hq : q.conditions <;> simp [filter, hq]

def unpaged (q : Query) : Query := { q with skip := none, limit := none }

lemma cut_paginate (q : Query) (skip limit : Nat) (documents : List Document) :
    (q.paginate skip limit).cut documents = (documents.drop skip).take limit := rfl

lemma window_unpaged (q : Query) (documents : List Document) : q.unpaged.window documents = q.arrange documents :=
  Option.map_id_apply

lemma window_ok_iff {q : Query} {documents found : List Document} :
    q.window documents = some found ↔ ∃ all, q.arrange documents = some all ∧ q.cut all = found :=
  Option.map_eq_some_iff

lemma arrange_of_order_none {q : Query} (ho : q.order = none) (documents : List Document) :
    q.arrange documents = some documents := by
  rw [arrange, ho]

lemma arrange_perm {q : Query} {documents all : List Document} (h : q.arrange documents = some all) :
    all.Perm documents := by
  unfold arrange at h
  split at h
  · obtain rfl := Option.some.inj h
    exact .refl _
  · exact Sort.sort_permutes _ h

lemma mem_of_mem_window {q : Query} {documents found : List Document} (h : q.window documents = some found)
    {d : Document} (hd : d ∈ found) : d ∈ documents := by
  obtain ⟨all, hall, rfl⟩ := window_ok_iff.mp h
  refine (arrange_perm hall).mem_iff.mp ?_
  unfold cut at hd
  split at hd
  · exact List.mem_of_mem_drop hd
  · exact List.mem_of_mem_drop (List.mem_of_mem_take hd)

end Query

namespace MemoryStore

lemma matching_congr {q q' : Query} (hc : q.collection = q'.collection) (hp : q.conditions = q'.conditions)
    (s : MemoryStore) : s.matching q = s.matching q' := by
  obtain ⟨collection, conditions, _, _, _⟩ := q
  obtain ⟨collection', conditions', _, _, _⟩ := q'
  obtain rfl : collection = collection' := hc
  obtain rfl : conditions = conditions' := hp
  rfl

lemma find_ok_iff {s : MemoryStore} {q : Query} {found : List Document} :
    s.find q = some (.ok found) ↔ ∃ documents, s.matching q = .ok documents ∧ q.window documents = some found := by
  rw [find]
  cases s.matching q <;> simp

lemma find_error_iff {s : MemoryStore} {q : Query} {e : StoreError} :
    s.find q = some (.error e) ↔ s.matching q = .error e := by
  rw [find]
  cases s.matching q <;> simp

lemma find_unpaged {s : MemoryStore} {q : Query} {documents all : List Document} (h : s.matching q = .ok documents)
    (hall : q.arrange documents = some all) : s.find q.unpaged = some (.ok all) :=
  find_ok_iff.mpr ⟨documents, (matching_congr rfl rfl s).trans h, (q.window_unpaged documents).trans hall⟩

lemma collection_of_lookup {s : MemoryStore} {name : String} {found : Option Collection}
    (h : s.collections.lookup name = found) : s.collection name = found.getD ⟨[], false⟩ := by
  rw [collection, h]

end MemoryStore

end DataGrid
