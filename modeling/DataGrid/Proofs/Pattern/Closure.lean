import DataGrid.Pattern.Search
import Mathlib.Algebra.BigOperators.Group.Finset.Basic
import Mathlib.Algebra.GroupWithZero.Nat
import Mathlib.Logic.Relation
import Mathlib.Tactic.Lemma

namespace DataGrid.Pattern

def Instruction.ways : Instruction → Nat
  | .place _ => 1
  | .fork ways => ways.length
  | _ => 0

namespace Program

def next (p : Program) (holds : Place → Bool) (i : Nat) : List Nat :=
  match p.code[i]? with
  | some (.place q) => if holds q then [i + 1] else []
  | some (.fork ways) => ways.map fun way => ((i : Int) + way).toNat
  | _ => []

def waits (p : Program) (i : Nat) : Bool :=
  match p.code[i]? with
  | none | some (.place _) | some (.fork _) => false
  | some _ => true

def Leads (p : Program) (holds : Place → Bool) (i j : Nat) : Prop := j ∈ p.next holds i

def Reached (p : Program) (holds : Place → Bool) (start : List Nat) (j : Nat) : Prop :=
  ∃ i ∈ start, Relation.ReflTransGen (p.Leads holds) i j

def ways (p : Program) : Nat := (p.code.toList.map Instruction.ways).sum

def waysLeft (p : Program) (seen : Array Bool) : Nat :=
  ∑ i ∈ Finset.range p.code.size, if seen.getD i true then 0 else (p.code.getD i default).ways

section

variable {p : Program} {holds : Place → Bool} {start todo : List Nat} {seen : Array Bool} {waiting : List Nat} {i : Nat}

lemma Reached.next {j : Nat} (h : p.Reached holds start i) (hj : j ∈ p.next holds i) : p.Reached holds start j := by
  obtain ⟨k, hk, hi⟩ := h
  exact ⟨k, hk, hi.tail hj⟩

lemma length_next_le (holds : Place → Bool) (hi : i < p.code.size) :
    (p.next holds i).length ≤ (p.code.getD i default).ways := by
  simp only [Program.next, Array.getD_eq_getD_getElem?, Array.getElem?_eq_getElem hi, Option.getD_some]
  cases p.code[i] with
  | place q => by_cases hq : holds q <;> simp [hq, Instruction.ways]
  | fork ways => simp [Instruction.ways]
  | _ => simp

lemma next_of_size_le (hi : p.code.size ≤ i) : p.next holds i = [] := by
  simp [Program.next, Array.getElem?_eq_none hi]

lemma waits_of_pass {c folded : Char} {j : Nat} (h : p.pass? c folded i = some j) : p.waits i = true := by
  simp only [pass?] at h
  simp only [waits]
  split at h <;> simp_all

lemma close_seen {fuel : Nat} (hs : seen.getD i true = true) :
    p.close holds (fuel + 1) (i :: todo) seen waiting = p.close holds fuel todo seen waiting := by
  rw [close, if_pos hs]

lemma close_end {fuel : Nat} (hs : seen.getD p.code.size true = false) :
    p.close holds (fuel + 1) (p.code.size :: todo) seen waiting = none := by
  simp [close, hs]

lemma close_visit {fuel : Nat} (hs : seen.getD i true = false) (hi : i < p.code.size) :
    p.close holds (fuel + 1) (i :: todo) seen waiting =
      p.close holds fuel (p.next holds i ++ todo) (seen.setIfInBounds i true)
        (if p.waits i then i :: waiting else waiting) := by
  simp only [close, hs, Bool.false_eq_true, if_false, Program.next, waits, Array.getElem?_eq_getElem hi]
  cases p.code[i] with
  | place q => by_cases hq : holds q <;> simp [hq]
  | _ => simp

lemma getD_mark (seen : Array Bool) (hi : i < seen.size) (j : Nat) :
    (seen.setIfInBounds i true).getD j true = (decide (j = i) || seen.getD j true) := by
  simp only [Array.getD_eq_getD_getElem?, Array.getElem?_setIfInBounds]
  by_cases hj : i = j
  · subst hj
    simp [hi]
  · simp [hj, Ne.symm hj]

lemma waysLeft_mark (hn : seen.size = p.code.size + 1) (hi : i < p.code.size) (hs : seen.getD i true = false) :
    p.waysLeft (seen.setIfInBounds i true) + (p.code.getD i default).ways = p.waysLeft seen := by
  have hmem : i ∈ Finset.range p.code.size := Finset.mem_range.mpr hi
  have hmark := getD_mark (i := i) seen (by omega)
  have hrest : ∀ j ∈ (Finset.range p.code.size).erase i,
      (if (seen.setIfInBounds i true).getD j true then 0 else (p.code.getD j default).ways) =
        if seen.getD j true then 0 else (p.code.getD j default).ways := by
    intro j hj
    simp [hmark, Finset.ne_of_mem_erase hj]
  rw [waysLeft, waysLeft, ← Finset.sum_erase_add _ _ hmem, ← Finset.sum_erase_add _ _ hmem,
    Finset.sum_congr rfl hrest]
  simp [hmark, hs]

/-- A closure under way: what is still to visit, what has been, and what of it waits for a character. -/
structure Closing (p : Program) (holds : Place → Bool) (start todo : List Nat) (seen : Array Bool)
    (waiting : List Nat) : Prop where
  size_eq : seen.size = p.code.size + 1
  todo_reached : ∀ i ∈ todo, p.Reached holds start i
  waiting_reached : ∀ i ∈ waiting, p.Reached holds start i
  start_seen : ∀ i ∈ start, i ∈ todo ∨ seen.getD i true = true
  seen_ne : ∀ i, seen.getD i true = true → i ≠ p.code.size
  seen_next : ∀ i, seen.getD i true = true → ∀ j ∈ p.next holds i, j ∈ todo ∨ seen.getD j true = true
  seen_waits : ∀ i, seen.getD i true = true → p.waits i = true → i ∈ waiting

namespace Closing

lemma skip (h : p.Closing holds start (i :: todo) seen waiting) (hs : seen.getD i true = true) :
    p.Closing holds start todo seen waiting := by
  have hback : ∀ j, j ∈ i :: todo ∨ seen.getD j true = true → j ∈ todo ∨ seen.getD j true = true := by
    rintro j (hj | hj)
    · obtain rfl | hj := List.mem_cons.mp hj
      · exact .inr hs
      · exact .inl hj
    · exact .inr hj
  exact { h with
    todo_reached := fun j hj => h.todo_reached j (List.mem_cons_of_mem i hj)
    start_seen := fun j hj => hback j (h.start_seen j hj)
    seen_next := fun j hj k hk => hback k (h.seen_next j hj k hk) }

lemma visit (h : p.Closing holds start (i :: todo) seen waiting) (hi : i < p.code.size) :
    p.Closing holds start (p.next holds i ++ todo) (seen.setIfInBounds i true)
      (if p.waits i then i :: waiting else waiting) := by
  have hmark := getD_mark (i := i) seen (by rw [h.size_eq]; omega)
  have hreached : p.Reached holds start i := h.todo_reached i List.mem_cons_self
  have hback : ∀ j, j ∈ i :: todo ∨ seen.getD j true = true →
      j ∈ p.next holds i ++ todo ∨ (seen.setIfInBounds i true).getD j true = true := by
    rintro j (hj | hj)
    · obtain rfl | hj := List.mem_cons.mp hj
      · exact .inr (by simp [hmark])
      · exact .inl (List.mem_append_right _ hj)
    · exact .inr (by simp [hmark, hj])
  have hseen : ∀ j, (seen.setIfInBounds i true).getD j true = true → j = i ∨ seen.getD j true = true := by
    intro j hj
    simpa [hmark] using hj
  constructor
  case size_eq => rw [Array.size_setIfInBounds, h.size_eq]
  case todo_reached =>
    intro j hj
    obtain hj | hj := List.mem_append.mp hj
    · exact hreached.next hj
    · exact h.todo_reached j (List.mem_cons_of_mem i hj)
  case waiting_reached =>
    intro j hj
    by_cases hw : p.waits i = true
    · rw [if_pos hw] at hj
      obtain rfl | hj := List.mem_cons.mp hj
      · exact hreached
      · exact h.waiting_reached j hj
    · rw [if_neg hw] at hj
      exact h.waiting_reached j hj
  case start_seen => exact fun j hj => hback j (h.start_seen j hj)
  case seen_ne =>
    intro j hj
    obtain rfl | hj := hseen j hj
    · exact hi.ne
    · exact h.seen_ne j hj
  case seen_next =>
    intro j hj k hk
    obtain rfl | hj := hseen j hj
    · exact .inl (List.mem_append_left _ hk)
    · exact hback k (h.seen_next j hj k hk)
  case seen_waits =>
    intro j hj hw
    obtain rfl | hj := hseen j hj
    · simp [hw]
    · split
      · exact List.mem_cons_of_mem i (h.seen_waits j hj hw)
      · exact h.seen_waits j hj hw

lemma seen_of_reached (h : p.Closing holds start [] seen waiting) {j : Nat} (hj : p.Reached holds start j) :
    seen.getD j true = true := by
  obtain ⟨i, hi, hij⟩ := hj
  induction hij with
  | refl => simpa using h.start_seen i hi
  | tail _ hlead ih => simpa using h.seen_next _ ih _ hlead

end Closing

def Closed (p : Program) (holds : Place → Bool) (start : List Nat) : Option (List Nat) → Prop
  | none => p.Reached holds start p.code.size
  | some waiting => ¬p.Reached holds start p.code.size ∧ ∀ i, p.waits i = true →
      (i ∈ waiting ↔ p.Reached holds start i)

lemma closed_close (fuel : Nat) (h : p.Closing holds start todo seen waiting)
    (hf : todo.length + p.waysLeft seen ≤ fuel) : p.Closed holds start (p.close holds fuel todo seen waiting) := by
  induction fuel generalizing todo seen waiting with
  | zero =>
    obtain rfl : todo = [] := List.eq_nil_of_length_eq_zero (by omega)
    exact ⟨fun hend => h.seen_ne _ (h.seen_of_reached hend) rfl, fun i hi =>
      ⟨h.waiting_reached i, fun hr => h.seen_waits i (h.seen_of_reached hr) hi⟩⟩
  | succ fuel ih =>
    cases todo with
    | nil =>
      exact ⟨fun hend => h.seen_ne _ (h.seen_of_reached hend) rfl, fun i hi =>
        ⟨h.waiting_reached i, fun hr => h.seen_waits i (h.seen_of_reached hr) hi⟩⟩
    | cons i todo =>
      rw [List.length_cons] at hf
      cases hs : seen.getD i true with
      | true =>
        rw [close_seen hs]
        exact ih (h.skip hs) (by omega)
      | false =>
        have hbound : i < seen.size := by
          by_contra hle
          simp [Array.getD_eq_getD_getElem?, Array.getElem?_eq_none (Nat.le_of_not_lt hle)] at hs
        obtain hi | rfl := Nat.lt_succ_iff_lt_or_eq.mp (h.size_eq ▸ hbound)
        -- the ways out of what is visited go from those left to the list, so that fuel for both is enough
        · rw [close_visit hs hi]
          have hnext := length_next_le holds hi
          have hways := waysLeft_mark h.size_eq hi hs
          exact ih (h.visit hi) (by rw [List.length_append]; omega)
        · rw [close_end hs]
          exact h.todo_reached _ List.mem_cons_self

end

end Program

end DataGrid.Pattern
