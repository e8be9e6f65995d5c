import DataGrid.Proofs.Pattern.Program

namespace DataGrid.Pattern.Program

/-- From an instruction a match goes on to its end, at a place between the last character before it and
the rest of the text. -/
def Matches (p : Program) (before : Option Char) (i : Nat) : List Char → Prop
  | [] => p.Reached (Place.holds before none) [i] p.code.size
  | c :: cs => p.Reached (Place.holds before (some c)) [i] p.code.size ∨
    ∃ k j, p.Reached (Place.holds before (some c)) [i] k ∧ p.pass? c (Text.fold c) k = some j ∧
      p.Matches (some c) j cs

def Occurs (p : Program) (before : Option Char) (cs : List Char) : Prop :=
  ∃ start rest, cs = start ++ rest ∧ p.Matches (start.getLast?.or before) 0 rest

variable {p : Program} {before : Option Char} {active : List Nat} {c : Char} {cs : List Char}

lemma reached_iff {holds : Place → Bool} {start : List Nat} {j : Nat} :
    p.Reached holds start j ↔ ∃ i ∈ start, p.Reached holds [i] j := by
  simp [Reached]

lemma getLast?_cons_or (c : Char) (cs : List Char) (before : Option Char) :
    (c :: cs).getLast?.or before = cs.getLast?.or (some c) := by
  cases hl : cs.getLast? <;> simp [List.getLast?_cons, hl]

lemma occurs_nil : p.Occurs before [] ↔ p.Matches before 0 [] := by
  simp [Occurs]

lemma occurs_cons : p.Occurs before (c :: cs) ↔ p.Matches before 0 (c :: cs) ∨ p.Occurs (some c) cs := by
  constructor
  · rintro ⟨start, rest, h, hm⟩
    cases start with
    | nil =>
      rw [List.nil_append] at h
      exact .inl (by simpa [h] using hm)
    | cons b start =>
      obtain ⟨rfl, rfl⟩ := List.cons.inj h
      rw [getLast?_cons_or] at hm
      exact .inr ⟨start, rest, rfl, hm⟩
  · rintro (hm | ⟨start, rest, rfl, hm⟩)
    · exact ⟨[], c :: cs, rfl, by simpa using hm⟩
    · rw [← getLast?_cons_or c start before] at hm
      exact ⟨c :: start, rest, rfl, hm⟩

lemma sum_range_getD {α : Type} [Inhabited α] (f : α → Nat) (l : List α) :
    ∑ i ∈ Finset.range l.length, f (l.getD i default) = (l.map f).sum := by
  induction l with
  | nil => rfl
  | cons a l ih =>
    rw [List.length_cons, Finset.sum_range_succ', List.map_cons, List.sum_cons, ← ih, Nat.add_comm]
    simp

lemma waysLeft_start : p.waysLeft (Array.replicate (p.code.size + 1) false) = p.ways := by
  rw [ways, ← sum_range_getD, waysLeft, Array.length_toList]
  refine Finset.sum_congr rfl fun i hi => ?_
  have hlt : i < p.code.size := Finset.mem_range.mp hi
  simp [Array.getD_eq_getD_getElem?, Nat.lt_succ_of_lt hlt]

lemma closed_reach (hw : p.ways ≤ 3 * p.code.size) (before behind : Option Char) (active : List Nat) :
    p.Closed (Place.holds before behind) (0 :: active) (p.reach before behind active) := by
  refine closed_close _ ?_ (by rw [waysLeft_start, List.length_cons]; omega)
  have hunseen : ∀ i, (Array.replicate (p.code.size + 1) false).getD i true = true → p.code.size < i := by
    intro i hi
    by_contra hle
    simp [Array.getD_eq_getD_getElem?, Nat.lt_succ_of_le (Nat.le_of_not_lt hle)] at hi
  have hnone : ∀ i, p.code.size < i → p.code[i]? = none := fun i hi => Array.getElem?_eq_none hi.le
  exact {
    size_eq := Array.size_replicate
    todo_reached := fun i hi => ⟨i, hi, .refl⟩
    waiting_reached := by simp
    start_seen := fun i hi => .inl hi
    seen_ne := fun i hi => (hunseen i hi).ne'
    seen_next := fun i hi j hj => by simp [next_of_size_le (hunseen i hi).le] at hj
    seen_waits := fun i hi hwaits => by simp [waits, hnone i (hunseen i hi)] at hwaits }

lemma matches_cons_iff {start : List Nat} :
    (∃ i ∈ start, p.Matches before i (c :: cs)) ↔ p.Reached (Place.holds before (some c)) start p.code.size ∨
      ∃ k j, p.Reached (Place.holds before (some c)) start k ∧ p.pass? c (Text.fold c) k = some j ∧
        p.Matches (some c) j cs := by
  constructor
  · rintro ⟨i, hi, hend | ⟨k, j, hk, hrest⟩⟩
    · exact .inl (reached_iff.mpr ⟨i, hi, hend⟩)
    · exact .inr ⟨k, j, reached_iff.mpr ⟨i, hi, hk⟩, hrest⟩
  · rintro (hend | ⟨k, j, hk, hrest⟩)
    · obtain ⟨i, hi, hend⟩ := reached_iff.mp hend
      exact ⟨i, hi, .inl hend⟩
    · obtain ⟨i, hi, hk⟩ := reached_iff.mp hk
      exact ⟨i, hi, .inr ⟨k, j, hk, hrest⟩⟩

lemma findsFrom_iff (hw : p.ways ≤ 3 * p.code.size) : p.findsFrom before active cs = true ↔
    (∃ i ∈ active, p.Matches before i cs) ∨ p.Occurs before cs := by
  induction cs generalizing before active with
  | nil =>
    have hclosed := closed_reach hw before none active
    have hstart : (∃ i ∈ active, p.Matches before i []) ∨ p.Occurs before [] ↔
        p.Reached (Place.holds before none) (0 :: active) p.code.size := by
      rw [occurs_nil, reached_iff, List.exists_mem_cons_iff, or_comm]
      rfl
    rw [hstart, findsFrom]
    cases hr : p.reach before none active with
    | none =>
      rw [hr] at hclosed
      exact iff_of_true rfl hclosed
    | some waiting =>
      rw [hr] at hclosed
      exact iff_of_false Bool.false_ne_true hclosed.1
  | cons c cs ih =>
    have hclosed := closed_reach hw before (some c) active
    have hstart : (∃ i ∈ active, p.Matches before i (c :: cs)) ∨ p.Occurs before (c :: cs) ↔
        (∃ i ∈ 0 :: active, p.Matches before i (c :: cs)) ∨ p.Occurs (some c) cs := by
      rw [occurs_cons, List.exists_mem_cons_iff, or_left_comm, or_assoc]
    rw [hstart, matches_cons_iff, findsFrom]
    cases hr : p.reach before (some c) active with
    | none =>
      rw [hr] at hclosed
      exact iff_of_true rfl (.inl (.inl hclosed))
    | some waiting =>
      rw [hr] at hclosed
      obtain ⟨hend, hwaits⟩ := hclosed
      rw [ih]
      refine or_congr ?_ Iff.rfl
      constructor
      · rintro ⟨j, hj, hm⟩
        obtain ⟨k, hk, hpass⟩ := List.mem_filterMap.mp hj
        exact .inr ⟨k, j, (hwaits k (waits_of_pass hpass)).mp hk, hpass, hm⟩
      · rintro (hreached | ⟨k, j, hk, hpass, hm⟩)
        · exact absurd hreached hend
        · exact ⟨j, List.mem_filterMap.mpr ⟨k, (hwaits k (waits_of_pass hpass)).mpr hk, hpass⟩, hm⟩

lemma findsIn_iff (hw : p.ways ≤ 3 * p.code.size) (s : String) :
    p.findsIn s = true ↔ p.Occurs none s.toList := by
  simp [findsIn, findsFrom_iff hw]

lemma findsIn_program_iff (q : Pattern) (s : String) :
    q.program.findsIn s = true ↔ q.program.Occurs none s.toList :=
  findsIn_iff (ways_program_le q) s

end DataGrid.Pattern.Program
