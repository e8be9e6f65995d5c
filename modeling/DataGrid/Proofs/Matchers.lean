import DataGrid.Proofs.Matching

/-! A matcher that was made for a condition holds all patterns of it, each as it is read. -/

namespace DataGrid

namespace Predicate

mutual

def patterns : Predicate → List (String × Bool)
  | regex _ source fold => [(source, fold)]
  | and parts => patternsOf parts
  | or parts => patternsOf parts
  | _ => []

def patternsOf : List Predicate → List (String × Bool)
  | [] => []
  | p :: ps => p.patterns ++ patternsOf ps

end

lemma patternsOf_eq (ps : List Predicate) : patternsOf ps = ps.flatMap patterns := by
  induction ps with
  | nil => rfl
  | cons p ps ih => rw [patternsOf, ih, List.flatMap_cons]

variable {P : String × Bool → Prop} {ps : List Predicate}

lemma forall_patternsOf_iff : (∀ k ∈ patternsOf ps, P k) ↔ ∀ p ∈ ps, ∀ k ∈ p.patterns, P k := by
  rw [patternsOf_eq, List.forall_mem_flatMap]

lemma forall_patterns_allOf_iff : (∀ k ∈ (allOf ps).patterns, P k) ↔ ∀ p ∈ ps, ∀ k ∈ p.patterns, P k := by
  unfold allOf
  split
  · rw [List.forall_mem_singleton]
  · rw [patterns, forall_patternsOf_iff]

lemma mem_patterns_allOf_iff {k : String × Bool} {ps : List Predicate} :
    k ∈ (allOf ps).patterns ↔ ∃ p ∈ ps, k ∈ p.patterns := by
  unfold allOf
  split
  · simp
  · rw [patterns, patternsOf_eq, List.mem_flatMap]

lemma forall_patterns_anyOf_iff : (∀ k ∈ (anyOf ps).patterns, P k) ↔ ∀ p ∈ ps, ∀ k ∈ p.patterns, P k := by
  unfold anyOf
  split
  · rw [List.forall_mem_singleton]
  · rw [patterns, forall_patternsOf_iff]

lemma forall_patterns_allOf?_iff :
    (∀ p ∈ (allOf? ps).toList, ∀ k ∈ p.patterns, P k) ↔ ∀ p ∈ ps, ∀ k ∈ p.patterns, P k := by
  cases ps with
  | nil => rfl
  | cons p ps => rw [allOf?_cons, Option.toList_some, List.forall_mem_singleton, forall_patterns_allOf_iff]

mutual

theorem meets_congr {table table' : PatternTable} {d : Document} : ∀ p : Predicate,
    (∀ k ∈ p.patterns, table k.1 k.2 = table' k.1 k.2) → p.meets table d = p.meets table' d
  | .regex field source fold, h => by
    rw [meets, meets, h (source, fold) (List.mem_singleton_self _)]
  | .and parts, h => meetsAll_congr parts h
  | .or parts, h => meetsSome_congr parts h
  | .compare .., _ | .isIn .., _ | .notIn .., _ | .isNull _, _ | .notNull _, _ | .text _, _ => rfl

theorem meetsAll_congr {table table' : PatternTable} {d : Document} : ∀ ps : List Predicate,
    (∀ k ∈ patternsOf ps, table k.1 k.2 = table' k.1 k.2) → meetsAll table d ps = meetsAll table' d ps
  | [], _ => rfl
  | p :: ps, h => by
    rw [patternsOf, List.forall_mem_append] at h
    rw [meetsAll, meetsAll, meets_congr p h.1, meetsAll_congr ps h.2]

theorem meetsSome_congr {table table' : PatternTable} {d : Document} : ∀ ps : List Predicate,
    (∀ k ∈ patternsOf ps, table k.1 k.2 = table' k.1 k.2) → meetsSome table d ps = meetsSome table' d ps
  | [], _ => rfl
  | p :: ps, h => by
    rw [patternsOf, List.forall_mem_append] at h
    rw [meetsSome, meetsSome, meets_congr p h.1, meetsSome_congr ps h.2]

end

end Predicate

namespace Matcher

def Sound (m : Matcher) : Prop :=
  ∀ source fold program, m.pattern? source fold = some program → Pattern.parse fold source = .ok program

def Covers (m : Matcher) (patterns : List (String × Bool)) : Prop :=
  ∀ k ∈ patterns, ∃ program, Pattern.parse k.2 k.1 = .ok program ∧ m.pattern? k.1 k.2 = some program

/-- A sound matcher that keeps what another one holds and covers more patterns. -/
structure Extends (m m' : Matcher) (patterns : List (String × Bool)) : Prop where
  sound : m'.Sound
  kept : ∀ source fold program, m.pattern? source fold = some program → m'.pattern? source fold = some program
  covers : m'.Covers patterns

lemma extends_of_ok {m m' : Matcher} (hm : m.Sound) (h : (.ok m : Except StoreError Matcher) = .ok m') :
    m.Extends m' [] := by
  obtain rfl := Except.ok.inj h
  exact ⟨hm, fun _ _ _ hk => hk, by simp [Covers]⟩

lemma Extends.trans {m m' m'' : Matcher} {ks ks' : List (String × Bool)} (h : m.Extends m' ks)
    (h' : m'.Extends m'' ks') : m.Extends m'' (ks ++ ks') := by
  refine ⟨h'.sound, fun source fold program hk => h'.kept _ _ _ (h.kept _ _ _ hk), fun k hk => ?_⟩
  obtain hk | hk := List.mem_append.mp hk
  · obtain ⟨program, hparse, hheld⟩ := h.covers k hk
    exact ⟨program, hparse, h'.kept _ _ _ hheld⟩
  · exact h'.covers k hk

lemma extends_of_add {m m' : Matcher} {source : String} {fold : Bool} (hm : m.Sound) (h : m.add source fold = .ok m') :
    m.Extends m' [(source, fold)] := by
  rw [add] at h
  split at h
  -- a pattern that is held already is not read again, so that what is held has to be sound
  case h_1 program hheld =>
    obtain rfl := Except.ok.inj h
    exact ⟨hm, fun _ _ _ hk => hk, by simpa [Covers] using ⟨program, hm _ _ _ hheld, hheld⟩⟩
  case h_2 hnew =>
    split at h
    case h_2 => cases h
    case h_1 program hparse =>
      obtain rfl := Except.ok.inj h
      have hlookup : ∀ source' fold', pattern? ⟨((source, fold), program) :: m.patterns⟩ source' fold' =
          if (source', fold') = (source, fold) then some program else m.pattern? source' fold' := by
        intro source' fold'
        rw [pattern?, List.lookup_cons]
        split <;> simp_all [pattern?]
      refine ⟨fun source' fold' program' hk => ?_, fun source' fold' program' hk => ?_, ?_⟩
      · rw [hlookup] at hk
        split at hk
        case isTrue heq =>
          obtain ⟨rfl, rfl⟩ := Prod.mk.inj heq
          exact hparse.trans (congrArg _ (Option.some.inj hk))
        case isFalse => exact hm _ _ _ hk
      · rw [hlookup]
        split
        case isTrue heq =>
          obtain ⟨rfl, rfl⟩ := Prod.mk.inj heq
          exact absurd hk (by simp [hnew])
        case isFalse => exact hk
      · simpa [Covers, hlookup] using hparse

mutual

theorem collect_eq_foldlM (m : Matcher) : ∀ p : Predicate,
    collect m p = p.patterns.foldlM (fun m k => m.add k.1 k.2) m
  | .regex _ source fold => by
    rw [collect, Predicate.patterns, List.foldlM_cons]
    cases m.add source fold <;> rfl
  | .and parts => collectAll_eq_foldlM m parts
  | .or parts => collectAll_eq_foldlM m parts
  | .compare .. | .isIn .. | .notIn .. | .isNull _ | .notNull _ | .text _ => rfl

theorem collectAll_eq_foldlM (m : Matcher) : ∀ ps : List Predicate,
    collectAll m ps = (Predicate.patternsOf ps).foldlM (fun m k => m.add k.1 k.2) m
  | [] => rfl
  | p :: ps => by
    rw [collectAll, Predicate.patternsOf, List.foldlM_append, collect_eq_foldlM m p]
    exact congrArg _ (funext fun m' => collectAll_eq_foldlM m' ps)

end

lemma extends_of_foldlM {m m' : Matcher} (hm : m.Sound) {ks : List (String × Bool)}
    (h : ks.foldlM (fun m k => m.add k.1 k.2) m = .ok m') : m.Extends m' ks := by
  induction ks generalizing m with
  | nil => exact extends_of_ok hm h
  | cons k ks ih =>
    rw [List.foldlM_cons] at h
    obtain ⟨between, hk, hks⟩ := Outcome.bind_ok_iff.mp h
    have hfirst := extends_of_add hm hk
    exact hfirst.trans (ih hfirst.sound hks)

lemma extends_of_collect {m m' : Matcher} (hm : m.Sound) (p : Predicate) (h : collect m p = .ok m') :
    m.Extends m' p.patterns :=
  extends_of_foldlM hm (collect_eq_foldlM m p ▸ h)

def read (k : String × Bool) : Except StoreError Pattern.Program :=
  (Pattern.parse k.2 k.1).mapError (invalidPattern k.1)

lemma failure?_add {m : Matcher} (hm : m.Sound) (k : String × Bool) :
    Outcome.failure? (m.add k.1 k.2) = Outcome.failure? (read k) := by
  rw [add, read]
  split
  case h_1 program hheld => rw [hm k.1 k.2 program hheld]; rfl
  case h_2 => cases Pattern.parse k.2 k.1 <;> rfl

lemma failure?_foldlM {m : Matcher} (hm : m.Sound) (ks : List (String × Bool)) :
    Outcome.failure? (ks.foldlM (fun m k => m.add k.1 k.2) m) = ks.findSome? fun k => Outcome.failure? (read k) := by
  induction ks generalizing m with
  | nil => rfl
  | cons k ks ih =>
    have hlater := fun m' hk => ih (extends_of_add hm hk : m.Extends m' [k]).sound
    rw [List.foldlM_cons, Outcome.failure?_bind hlater, failure?_add hm, List.findSome?_cons]
    cases Outcome.failure? (read k) <;> rfl

lemma sound_nil : Sound ⟨[]⟩ := by simp [Sound, pattern?]

lemma failure?_compile (p : Predicate) :
    Outcome.failure? (compile p) = p.patterns.findSome? fun k => Outcome.failure? (read k) := by
  rw [compile, collect_eq_foldlM, failure?_foldlM sound_nil]

lemma error_of_collect {e : StoreError} (p : Predicate) (h : collect ⟨[]⟩ p = .error e) :
    ∃ k ∈ p.patterns, ∃ fault, Pattern.parse k.2 k.1 = .error fault ∧ e = invalidPattern k.1 fault := by
  have hfirst := (failure?_compile p).symm.trans (Outcome.failure?_eq_some_iff.mpr h)
  obtain ⟨k, hk, hread⟩ := List.exists_of_findSome?_eq_some hfirst
  exact ⟨k, hk, Outcome.mapError_error_iff.mp (Outcome.failure?_eq_some_iff.mp hread)⟩

lemma covers_of_compile {p : Predicate} {m : Matcher} (h : compile p = .ok m) : m.Covers p.patterns :=
  (extends_of_collect sound_nil p h).covers

lemma Covers.meets_eq {m : Matcher} {p : Predicate} (h : m.Covers p.patterns) (d : Document) :
    p.meets m.pattern? d = p.holds d := by
  refine Predicate.meets_congr p fun k hk => ?_
  obtain ⟨program, hparse, hheld⟩ := h k hk
  rw [hheld, Predicate.readPattern?, hparse]
  rfl

lemma admits_of_compile {p : Predicate} {m : Matcher} (h : compile p = .ok m) (d : Document) :
    m.admits p d = p.holds d :=
  (covers_of_compile h).meets_eq d

end Matcher

namespace MemoryStore

lemma matching_holds {s : MemoryStore} {q : Query} {documents : List Document} (h : s.matching q = .ok documents) :
    documents = (s.collection q.collection).documents.filter fun d => q.conditions.all fun p => p.holds d := by
  cases hl : s.collections.lookup q.collection with
  | none =>
    obtain rfl : [] = documents := by simpa [matching, hl] using h
    simp [collection_of_lookup hl]
  | some c =>
    rw [collection_of_lookup hl, Option.getD_some]
    simp only [matching, hl] at h
    split at h
    · cases h
    · rw [Query.filter_eq] at h
      cases hq : q.conditions with
      | nil =>
        obtain rfl : c.documents = documents := by simpa [hq] using h
        exact (List.filter_eq_self.mpr fun _ _ => rfl).symm
      | cons p ps =>
        rw [hq, Predicate.allOf?_cons] at h
        obtain ⟨m, hm, rfl⟩ := Outcome.map_ok_iff.mp h
        refine List.filter_congr fun d _ => ?_
        rw [Matcher.admits_of_compile hm, Predicate.holds, Bool.eq_iff_iff, Predicate.meets_allOf_iff, List.all_eq_true]
        rfl

def matched (s : MemoryStore) (q : Query) : List Document :=
  (s.collection q.collection).documents.filter fun d => q.conditions.all fun p => p.holds d

lemma matching_eq_matched {s : MemoryStore} {q : Query} {documents : List Document} (h : s.matching q = .ok documents) :
    s.matching q = .ok (s.matched q) :=
  h.trans (congrArg Except.ok (matching_holds h))

lemma matching_ok {s : MemoryStore} {q : Query} {documents : List Document} (h : s.matching q = .ok documents) :
    ∃ table, documents =
      (s.collection q.collection).documents.filter fun d => Predicate.meetsAll table d q.conditions := by
  refine ⟨Predicate.readPattern?, (matching_holds h).trans (List.filter_congr fun d _ => ?_)⟩
  rw [Bool.eq_iff_iff, Predicate.meetsAll_iff, List.all_eq_true]
  rfl

lemma matching_sublist {s : MemoryStore} {q : Query} {documents : List Document} (h : s.matching q = .ok documents) :
    documents.Sublist (s.collection q.collection).documents := by
  rw [matching_holds h]
  exact List.filter_sublist

end MemoryStore

end DataGrid
