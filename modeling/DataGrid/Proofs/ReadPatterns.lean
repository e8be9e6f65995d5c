import DataGrid.Proofs.TextIndex

/-! A matcher reads the patterns of a condition once and for all, and is as good as reading each where it is met: it
fails exactly if one of them is none, as the first of these fails, and else it has every pattern that is asked of it. -/

namespace DataGrid

open Outcome

namespace Predicate

def Readable (leaf : Predicate) : Prop :=
  ∀ field source fold, leaf = regex field source fold → ∃ program, Pattern.parse fold source = .ok program

def pattern? : Predicate → Option (String × Bool)
  | regex _ source fold => some (source, fold)
  | _ => none

def fault? (leaf : Predicate) : Option StoreError := leaf.pattern?.bind fun k => failure? (Matcher.read k)

lemma fault?_eq_none_iff {leaf : Predicate} : leaf.fault? = none ↔ leaf.Readable := by
  cases leaf with
  | regex field source fold =>
    simp only [fault?, pattern?, Option.bind_some, Matcher.read, failure?_eq_none_iff, mapError_ok_iff, Readable,
      regex.injEq]
    constructor
    · rintro h _ _ _ ⟨-, rfl, rfl⟩
      exact h
    · exact fun h => h field source fold ⟨rfl, rfl, rfl⟩
  | _ => exact iff_of_true rfl (by rintro _ _ _ ⟨⟩)

lemma fault?_eq_some_iff {leaf : Predicate} {e : StoreError} : leaf.fault? = some e ↔
    ∃ field source fold fault, leaf = regex field source fold ∧ Pattern.parse fold source = .error fault ∧
      e = Matcher.invalidPattern source fault := by
  cases leaf with
  | regex field source fold =>
    simp only [fault?, pattern?, Option.bind_some, Matcher.read, failure?_eq_some_iff, mapError_error_iff, regex.injEq]
    constructor
    · rintro ⟨fault, hfault, he⟩
      exact ⟨field, source, fold, fault, ⟨rfl, rfl, rfl⟩, hfault, he⟩
    · rintro ⟨_, _, _, fault, ⟨rfl, rfl, rfl⟩, hfault, he⟩
      exact ⟨fault, hfault, he⟩
  | _ => exact iff_of_false (by rintro ⟨⟩) (by rintro ⟨_, _, _, _, ⟨⟩, _⟩)

mutual

theorem patterns_eq_leaves : ∀ p : Predicate, p.patterns = p.leaves.filterMap pattern?
  | .and parts => patternsOf_eq_leaves parts
  | .or parts => patternsOf_eq_leaves parts
  | .regex .. | .compare .. | .isIn .. | .notIn .. | .isNull _ | .notNull _ | .text _ => rfl

theorem patternsOf_eq_leaves : ∀ ps : List Predicate, patternsOf ps = (leavesOf ps).filterMap pattern?
  | [] => rfl
  | p :: ps => by rw [patternsOf, leavesOf, List.filterMap_append, patterns_eq_leaves p, patternsOf_eq_leaves ps]

end

lemma mem_patterns_of_leaf {p : Predicate} {field source : String} {fold : Bool} (h : regex field source fold ∈ p.leaves) :
    (source, fold) ∈ p.patterns := by
  rw [patterns_eq_leaves]
  exact List.mem_filterMap.mpr ⟨_, h, rfl⟩

end Predicate

namespace Matcher

lemma failure?_compile_leaves (p : Predicate) : failure? (compile p) = p.leaves.findSome? Predicate.fault? := by
  rw [failure?_compile, Predicate.patterns_eq_leaves, ← List.head?_filterMap, List.filterMap_filterMap,
    List.head?_filterMap]
  rfl

lemma compile_error_iff {p : Predicate} {e : StoreError} : compile p = .error e ↔
    ∃ before field source fold later fault, p.leaves = before ++ .regex field source fold :: later ∧
      (∀ leaf ∈ before, leaf.Readable) ∧ Pattern.parse fold source = .error fault ∧ e = invalidPattern source fault := by
  rw [← failure?_eq_some_iff, failure?_compile_leaves, List.findSome?_eq_some_iff]
  simp only [Predicate.fault?_eq_some_iff, Predicate.fault?_eq_none_iff]
  constructor
  · rintro ⟨before, leaf, later, hleaves, ⟨field, source, fold, fault, rfl, hfault⟩, hbefore⟩
    exact ⟨before, field, source, fold, later, fault, hleaves, hbefore, hfault⟩
  · rintro ⟨before, field, source, fold, later, fault, hleaves, hbefore, hfault⟩
    exact ⟨before, _, later, hleaves, ⟨field, source, fold, fault, rfl, hfault⟩, hbefore⟩

lemma exists_compile_error_iff {p : Predicate} : (∃ e, compile p = .error e) ↔ ∃ leaf ∈ p.leaves, ¬leaf.Readable := by
  have hnone : failure? (compile p) = none ↔ ∀ leaf ∈ p.leaves, leaf.Readable := by
    rw [failure?_compile_leaves, List.findSome?_eq_none_iff]
    exact forall₂_congr fun leaf _ => Predicate.fault?_eq_none_iff
  simp only [← failure?_eq_some_iff, ← Option.ne_none_iff_exists', ne_eq, hnone, not_forall, exists_prop]

lemma meets_of_compile {p : Predicate} {m : Matcher} (h : compile p = .ok m) {table : PatternTable}
    (htable : ∀ source fold program, m.pattern? source fold = some program → table source fold = some program)
    (d : Document) : p.meets table d = m.admits p d := by
  refine Predicate.meets_congr p fun k hk => ?_
  obtain ⟨program, -, hheld⟩ := covers_of_compile h k hk
  rw [htable k.1 k.2 program hheld, hheld]

end Matcher

namespace MemoryStore

variable {s : MemoryStore} {q : Query} {known : Collection} {p : Predicate} {e : StoreError}

lemma matching_of_compile_error (hl : s.collections.lookup q.collection = some known) (hp : q.filter = some p)
    (he : Matcher.compile p = .error e) :
    s.matching q = .error (if q.usesText && !known.textIndex then indexRequired q.collection else e) := by
  simp only [matching, hl, hp, he]
  split <;> rfl

end MemoryStore

namespace Matcher

/-- Whether a condition is asked of documents or not, all patterns of it are read, and a query fails as the first that
is none; a condition whose patterns can be read is met as if each was read where it is asked. -/
theorem read_as_on_the_spot (p : Predicate) :
    ((∃ e, compile p = .error e) ↔ ∃ leaf ∈ p.leaves, ¬leaf.Readable) ∧
    (∀ e, compile p = .error e ↔ ∃ before field source fold later fault,
      p.leaves = before ++ .regex field source fold :: later ∧ (∀ leaf ∈ before, leaf.Readable) ∧
        Pattern.parse fold source = .error fault ∧ e = invalidPattern source fault) ∧
    (∀ m, compile p = .ok m →
      (∀ field source fold, .regex field source fold ∈ p.leaves →
        ∃ program, Pattern.parse fold source = .ok program ∧ m.pattern? source fold = some program) ∧
      (∀ d, m.admits p d = p.holds d) ∧
      ∀ table d, (∀ source fold program, m.pattern? source fold = some program → table source fold = some program) →
        p.meets table d = m.admits p d) ∧
    ∀ (s : MemoryStore) q known e, s.collections.lookup q.collection = some known → q.filter = some p →
      compile p = .error e →
        let refused := if q.usesText && !known.textIndex then MemoryStore.indexRequired q.collection else e
        s.find q = some (.error refused) ∧ s.count q = .error refused := by
  refine ⟨exists_compile_error_iff, fun e => compile_error_iff, fun m hm => ⟨fun field source fold hleaf => ?_,
    admits_of_compile hm, fun table d htable => meets_of_compile hm htable d⟩, fun s q known e hl hp he => ?_⟩
  · exact covers_of_compile hm (source, fold) (Predicate.mem_patterns_of_leaf hleaf)
  · rw [MemoryStore.find, MemoryStore.count, MemoryStore.matching_of_compile_error hl hp he]
    exact ⟨rfl, rfl⟩

theorem unreadable_refused_on_empty :
    let p : Predicate := .or [.isNull "title", .and [.regex "title" "(" false]]
    let q : Query := { Query.on "articles" with conditions := [p] }
    let s : MemoryStore := ⟨[("articles", ⟨[], false⟩)]⟩
    ∃ fault, Pattern.parse false "(" = .error fault ∧ s.find q = some (.error (invalidPattern "(" fault)) ∧
      s.count q = .error (invalidPattern "(" fault) := by
  intro p q s
  obtain ⟨fault, hfault⟩ : ∃ fault, Pattern.parse false "(" = .error fault := ⟨_, rfl⟩
  have hbefore : ∀ leaf ∈ [Predicate.isNull "title"], leaf.Readable := by
    rintro leaf hleaf _ _ _ rfl
    simp at hleaf
  obtain ⟨-, hfirst, -, hrefused⟩ := read_as_on_the_spot p
  have he : compile p = .error (invalidPattern "(" fault) :=
    (hfirst _).mpr ⟨[.isNull "title"], "title", "(", false, [], fault, rfl, hbefore, hfault, rfl⟩
  exact ⟨fault, hfault, hrefused s q ⟨[], false⟩ _ rfl rfl he⟩

end Matcher

end DataGrid
