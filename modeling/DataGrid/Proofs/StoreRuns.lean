import DataGrid.Proofs.TextIndex

namespace DataGrid.MemoryStore

/-- A call of a store in memory. A document that is inserted comes with the identifier that it takes if it
has none. -/
inductive Operation
  | withDocuments (name : String) (documents : List (Document × ObjectId))
  | withTextIndex (name : String)
  | insertOne (name : String) (d : Document) (fresh : ObjectId)
  | insertMany (name : String) (documents : List (Document × ObjectId))
  | createTextIndex (name : String)
  | find (q : Query)
  | count (q : Query)

inductive Answer
  | done
  | identifier (id : Bson)
  | documents (outcome : Option (Except StoreError (List Document)))
  | number (outcome : Except StoreError Nat)

def perform (s : MemoryStore) : Operation → MemoryStore × Answer
  | .withDocuments name documents => (s.insertMany name documents, .done)
  | .withTextIndex name => (s.createTextIndex name, .done)
  | .insertOne name d fresh => ((s.insertOne name d fresh).1, .identifier (s.insertOne name d fresh).2)
  | .insertMany name documents => (s.insertMany name documents, .done)
  | .createTextIndex name => (s.createTextIndex name, .done)
  | .find q => (s, .documents (s.find q))
  | .count q => (s, .number (s.count q))

def after (operations : List Operation) : MemoryStore := operations.foldl (fun s op => (s.perform op).1) empty

namespace Operation

def reads : Operation → Bool
  | find _ => true
  | count _ => true
  | _ => false

def collection : Operation → String
  | withDocuments name _ => name
  | withTextIndex name => name
  | insertOne name _ _ => name
  | insertMany name _ => name
  | createTextIndex name => name
  | find q => q.collection
  | count q => q.collection

def inserts : Operation → List (Document × ObjectId)
  | withDocuments _ documents => documents
  | insertOne _ d fresh => [(d, fresh)]
  | insertMany _ documents => documents
  | _ => []

def indexes : Operation → Bool
  | withTextIndex _ => true
  | createTextIndex _ => true
  | _ => false

def writesTo (name : String) (op : Operation) : Bool := !op.reads && op.collection == name

end Operation

lemma perform_store (s : MemoryStore) (op : Operation) : (s.perform op).1 = if op.reads then s else
    s.update op.collection fun c =>
      ⟨c.documents ++ op.inserts.map fun d => d.1.withId d.2, c.textIndex || op.indexes⟩ := by
  cases op <;> simp [perform, Operation.reads, Operation.collection, Operation.inserts, Operation.indexes,
    insertMany, insertOne, createTextIndex]

lemma after_concat (operations : List Operation) (op : Operation) :
    after (operations ++ [op]) = ((after operations).perform op).1 := by
  simp [after]

def kept (name : String) (operations : List Operation) : Option Collection :=
  let own := operations.filter (Operation.writesTo name)
  if own.isEmpty then none
  else some ⟨(own.flatMap Operation.inserts).map fun d => d.1.withId d.2, own.any Operation.indexes⟩

lemma kept_concat (name : String) (operations : List Operation) (op : Operation) :
    kept name (operations ++ [op]) = if op.writesTo name then
      let held := (kept name operations).getD ⟨[], false⟩
      some ⟨held.documents ++ op.inserts.map fun d => d.1.withId d.2, held.textIndex || op.indexes⟩
    else kept name operations := by
  cases hw : op.writesTo name with
  | false => simp [kept, hw]
  | true =>
    cases ho : operations.filter (Operation.writesTo name) with
    | nil => simp [kept, hw, ho]
    | cons first rest => simp [kept, hw, ho, Bool.or_assoc]

lemma lookup_perform {s : MemoryStore} {name : String} (op : Operation) :
    (s.perform op).1.collections.lookup name = if op.writesTo name then
      let held := s.collection name
      some ⟨held.documents ++ op.inserts.map fun d => d.1.withId d.2, held.textIndex || op.indexes⟩
    else s.collections.lookup name := by
  rw [perform_store]
  cases hr : op.reads with
  | true => simp [Operation.writesTo, hr]
  | false =>
    by_cases hc : op.collection = name
    · subst hc
      simp [Operation.writesTo, hr, update]
    · simp [Operation.writesTo, hr, hc, update, Fields.lookup_insert_of_ne (Ne.symm hc)]

lemma lookup_after (name : String) (operations : List Operation) :
    (after operations).collections.lookup name = kept name operations := by
  induction operations using List.reverseRecOn with
  | nil => rfl
  | append_singleton operations op ih => rw [after_concat, lookup_perform, kept_concat, collection, ih]

lemma kept_own (name : String) (operations : List Operation) :
    kept name (operations.filter (Operation.writesTo name)) = kept name operations := by
  simp [kept, List.filter_filter]

lemma after_writes (operations : List Operation) :
    after (operations.filter fun op => !op.reads) = after operations := by
  induction operations using List.reverseRecOn with
  | nil => rfl
  | append_singleton operations op ih =>
    rw [after_concat, perform_store, List.filter_append, ← ih]
    cases hr : op.reads with
    | true => simp [hr]
    | false => simp [hr, after_concat, perform_store]

def inserted (name : String) (operations : List Operation) : List (Document × ObjectId) :=
  (operations.filter (Operation.writesTo name)).flatMap Operation.inserts

lemma documents_after (name : String) (operations : List Operation) :
    ((after operations).collection name).documents = (inserted name operations).map fun d => d.1.withId d.2 := by
  rw [collection, lookup_after, kept, inserted]
  cases operations.filter (Operation.writesTo name) <;> rfl

lemma inserted_concat (name : String) (operations : List Operation) (d : Document) (fresh : ObjectId) :
    inserted name (operations ++ [.insertOne name d fresh]) = inserted name operations ++ [(d, fresh)] := by
  simp [inserted, Operation.writesTo, Operation.reads, Operation.collection, Operation.inserts]

lemma matching_on (s : MemoryStore) (name : String) : s.matching (.on name) = .ok (s.collection name).documents := by
  cases hl : s.collections.lookup name with
  | none => simp [matching, Query.on, hl, collection_of_lookup hl]
  | some c => simp [matching, Query.on, Query.usesText, Query.filter, hl, collection_of_lookup hl]

lemma find_on (s : MemoryStore) (name : String) : s.find (.on name) = some (.ok (s.collection name).documents) := by
  rw [find, matching_on]
  rfl

lemma count_on (s : MemoryStore) (name : String) : s.count (.on name) = .ok (s.collection name).documents.length := by
  rw [count, matching_on]
  rfl

structure Stored (given : Document × ObjectId) (d : Document) : Prop where
  has_id : Fields.has d "_id" = true
  unchanged : Fields.has given.1 "_id" = true → d = given.1
  appended : Fields.has given.1 "_id" = false → d = given.1 ++ [("_id", .objectId given.2)]

lemma stored_withId (given : Document × ObjectId) : Stored given (given.1.withId given.2) := by
  obtain ⟨d, fresh⟩ := given
  cases hd : Fields.has d "_id" with
  | true =>
    have hkept : d.withId fresh = d := by rw [Document.withId, Document.idField, if_pos hd]
    refine ⟨?_, fun _ => hkept, fun hno => ?_⟩
    · rwa [hkept]
    · cases hd.symm.trans hno
  | false =>
    have hadded : d.withId fresh = d ++ [("_id", .objectId fresh)] := by
      rw [Document.withId, Document.idField, if_neg (by simp [hd])]
    refine ⟨?_, fun hyes => ?_, fun _ => hadded⟩
    · have hnone : List.lookup "_id" d = none := by simpa [Fields.has] using hd
      rw [hadded, Fields.has, List.lookup_append, hnone]
      rfl
    · cases hd.symm.trans hyes

lemma lookup_idField (d : Document) : d.lookup Document.idField = List.lookup "_id" d :=
  Document.lookup_of_no_dot (by decide) d

lemma lookup_of_insertOne (s : MemoryStore) (name : String) (d : Document) (fresh : ObjectId) :
    List.lookup "_id" (d.withId fresh) = some (s.insertOne name d fresh).2 := by
  obtain ⟨id, hid⟩ := Option.isSome_iff_exists.mp (stored_withId (d, fresh)).has_id
  rw [insertOne, lookup_idField, hid]
  rfl

lemma matching_refused_iff {s : MemoryStore} {q : Query} :
    s.matching q = .error (indexRequired q.collection) ↔ s.Unindexed q := by
  constructor
  · intro h
    by_contra hu
    obtain ⟨documents, hok⟩ | ⟨p, -, k, -, fault, -, herror⟩ := matching_of_indexed hu
    · cases hok.symm.trans h
    · cases herror.symm.trans h
  · exact matching_of_unindexed

lemma unindexed_after_iff {operations : List Operation} {q : Query} (ht : q.usesText = true)
    (hw : ∃ op ∈ operations, op.writesTo q.collection = true) :
    (after operations).Unindexed q ↔ ¬∃ op ∈ operations, op.collection = q.collection ∧ op.indexes = true := by
  have hindexes : (∃ op ∈ operations, op.collection = q.collection ∧ op.indexes = true) ↔
      (operations.filter (Operation.writesTo q.collection)).any Operation.indexes = true := by
    rw [List.any_eq_true]
    constructor
    · rintro ⟨op, hop, hc, hi⟩
      refine ⟨op, List.mem_filter.mpr ⟨hop, ?_⟩, hi⟩
      cases op <;> simp_all [Operation.writesTo, Operation.reads, Operation.indexes]
    · rintro ⟨op, hop, hi⟩
      obtain ⟨hmem, hown⟩ := List.mem_filter.mp hop
      exact ⟨op, hmem, by simpa using (Bool.and_eq_true_iff.mp hown).2, hi⟩
  have hne : (operations.filter (Operation.writesTo q.collection)).isEmpty = false := by
    obtain ⟨op, hop, hown⟩ := hw
    simpa using ⟨op, hop, hown⟩
  rw [hindexes, Unindexed, lookup_after, kept]
  simp [ht, hne]

lemma matching_of_lookup {s s' : MemoryStore} {q : Query}
    (h : s.collections.lookup q.collection = s'.collections.lookup q.collection) : s.matching q = s'.matching q := by
  rw [matching, matching, h]

/-- After any calls on an empty store, a collection has the documents that were inserted into it, in their
order, each as it came or with one identifier behind its fields; inserting a document tells the identifier
that it is stored with. A known collection can be searched for words exactly if a call made an index for
it, whenever that was. Finding and counting change nothing, and what is found and counted in a collection
hangs on the calls alone that write to it. -/
theorem store_keeps_inserted (operations : List Operation) (name : String) :
    let s := after operations
    let indexed := ∃ op ∈ operations, op.collection = name ∧ op.indexes = true
    (∃ documents, List.Forall₂ Stored (inserted name operations) documents ∧
      s.find (.on name) = some (.ok documents) ∧ s.count (.on name) = .ok (inserted name operations).length ∧
      ∀ d fresh, ∃ stored id, Stored (d, fresh) stored ∧ List.lookup "_id" stored = some id ∧
        (s.perform (.insertOne name d fresh)).2 = .identifier id ∧
        (after (operations ++ [.insertOne name d fresh])).find (.on name) = some (.ok (documents ++ [stored]))) ∧
    (∀ q, q.collection = name → q.usesText = true → (∃ op ∈ operations, op.writesTo name = true) →
      (s.find q = some (.error (indexRequired name)) ↔ ¬indexed) ∧ (s.count q = .error (indexRequired name) ↔ ¬indexed) ∧
      (q.Readable → ((∃ n, s.count q = .ok n) ↔ indexed) ∧
        (q.Arranges (s.matched q) → ((∃ documents, s.find q = some (.ok documents)) ↔ indexed)))) ∧
    (∀ q, (s.perform (.find q)).1 = s ∧ (s.perform (.count q)).1 = s) ∧
    after (operations.filter fun op => !op.reads) = s ∧
    ∀ q, q.collection = name → (after (operations.filter (Operation.writesTo name))).find q = s.find q ∧
      (after (operations.filter (Operation.writesTo name))).count q = s.count q := by
  intro s indexed
  have hdocuments := documents_after name operations
  refine ⟨⟨_, ?_, s.find_on name, ?_, fun d fresh => ?_⟩, ?_, fun q => ⟨rfl, rfl⟩, after_writes operations, ?_⟩
  · rw [hdocuments, List.forall₂_map_right_iff]
    exact List.forall₂_same.mpr fun given _ => stored_withId given
  · rw [count_on, hdocuments, List.length_map]
  · refine ⟨d.withId fresh, _, stored_withId (d, fresh), s.lookup_of_insertOne name d fresh, rfl, ?_⟩
    rw [find_on, documents_after, inserted_concat, hdocuments, List.map_append]
    rfl
  · rintro q rfl ht hw
    have hrefused : s.matching q = .error (indexRequired q.collection) ↔ ¬indexed :=
      matching_refused_iff.trans (unindexed_after_iff ht hw)
    refine ⟨?_, ?_, fun hread => ?_⟩
    · rw [find_error_iff, hrefused]
    · rw [count, Outcome.map_error_iff, hrefused]
    · have haccepted : (∃ documents, s.matching q = .ok documents) ↔ indexed := by
        rw [exists_matching_iff, unindexed_after_iff ht hw, not_not]
        exact and_iff_left (.inr hread)
      rw [← haccepted]
      refine ⟨?_, fun harranges => ⟨fun ⟨_, hfound⟩ => (find_ok_iff.mp hfound).imp fun _ => And.left, ?_⟩⟩
      · simp only [count, Outcome.map_ok_iff]
        exact ⟨fun ⟨_, found, h, _⟩ => ⟨found, h⟩, fun ⟨found, h⟩ => ⟨_, found, h, rfl⟩⟩
      · rintro ⟨documents, hmatching⟩
        obtain ⟨all, hall⟩ := harranges.exists_arrange
        exact ⟨q.cut all, find_ok_iff.mpr ⟨_, matching_eq_matched hmatching, Query.window_ok_iff.mpr ⟨all, hall, rfl⟩⟩⟩
  · rintro q rfl
    have hsame : (after (operations.filter (Operation.writesTo q.collection))).matching q = s.matching q :=
      matching_of_lookup (by rw [lookup_after, lookup_after, kept_own])
    rw [find, count, hsame]
    exact ⟨rfl, rfl⟩

theorem store_of_late_index :
    let words : Query := { Query.on "articles" with conditions := [.text "lean"] }
    let operations : List Operation := [.withDocuments "articles" [([("title", .string "Lean")], ⟨1⟩)], .find words,
      .createTextIndex "drafts", .insertOne "articles" [("_id", .int32 7)] ⟨2⟩, .createTextIndex "articles"]
    (after operations).find (.on "articles") =
        some (.ok [[("title", .string "Lean"), ("_id", .objectId ⟨1⟩)], [("_id", .int32 7)]]) ∧
      words.usesText = true ∧ words.Readable ∧ (∃ documents, (after operations).find words = some (.ok documents)) ∧
      (after (operations.take 4)).find words = some (.error (indexRequired "articles")) := by
  intro words operations
  have hread : words.Readable := by simp [Query.Readable, words, Predicate.patterns]
  obtain ⟨-, hlate, -⟩ := store_keeps_inserted operations "articles"
  obtain ⟨-, hearly, -⟩ := store_keeps_inserted (operations.take 4) "articles"
  obtain ⟨-, -, haccepted⟩ := hlate words rfl rfl (by decide)
  have hfound := (haccepted hread).2 (Query.arranges_of_order_none rfl)
  refine ⟨rfl, rfl, hread, hfound.mpr (by decide), (hearly words rfl rfl (by decide)).1.mpr (by decide)⟩

end DataGrid.MemoryStore
