import DataGrid.Pattern.Program
import Mathlib.Tactic.Lemma

namespace DataGrid.Pattern

/-- The texts that are read between the character before them, if there is one, and the rest. -/
abbrev Reading := Option Char → List Char → List Char → Prop

namespace Reading

def nothing : Reading := fun _ found _ => found = []

def one (passes : Char → Bool) : Reading := fun _ found _ => ∃ c, found = [c] ∧ passes c = true

def andThen (R S : Reading) : Reading := fun before found rest => ∃ front back, found = front ++ back ∧
  R before front (back ++ rest) ∧ S (front.getLast?.or before) back rest

def all : List Reading → Reading
  | [] => nothing
  | R :: Rs => R.andThen (all Rs)

def any (Rs : List Reading) : Reading := fun before found rest => ∃ R ∈ Rs, R before found rest

def power (R : Reading) : Nat → Reading
  | 0 => nothing
  | n + 1 => R.andThen (R.power n)

def upTo (R : Reading) (most : Option Nat) : Reading := fun before found rest =>
  ∃ n, (∀ m ∈ most, n ≤ m) ∧ R.power n before found rest

def maybe (R : Reading) : Reading := fun before found rest => found = [] ∨ R before found rest

def times (R : Reading) (least : Nat) (most : Option Nat) : Reading :=
  (R.power least).andThen (R.upTo (most.map (· - least)))

end Reading

mutual

def reading : Pattern → Reading
  | empty => .nothing
  | char fold c => .one fun d => if fold then Text.fold d == Text.fold c else d == c
  | set s => .one s.has
  | place q => fun before found rest => found = [] ∧ q.holds before rest.head? = true
  | capture _ p => p.reading
  | seq ps => .all (readings ps)
  | alt ps => .any (readings ps)
  | times least most p =>
    let bounds := p.normal.bounds least most
    p.reading.times bounds.1 bounds.2

def readings : List Pattern → List Reading
  | [] => []
  | p :: ps => p.reading :: readings ps

end

lemma getLast?_append_or (front back : List Char) (before : Option Char) :
    (front ++ back).getLast?.or before = back.getLast?.or (front.getLast?.or before) := by
  rw [List.getLast?_append, Option.or_assoc]

namespace Reading

variable (R S T : Reading)

lemma nothing_andThen : nothing.andThen R = R := by
  funext before found rest
  refine propext ⟨?_, fun h => ⟨[], found, rfl, rfl, h⟩⟩
  rintro ⟨_, back, rfl, rfl, h⟩
  exact h

lemma andThen_nothing : R.andThen nothing = R := by
  funext before found rest
  refine propext ⟨?_, fun h => ⟨found, [], (List.append_nil found).symm, h, rfl⟩⟩
  rintro ⟨front, _, rfl, h, rfl⟩
  simpa using h

lemma andThen_assoc : (R.andThen S).andThen T = R.andThen (S.andThen T) := by
  funext before found rest
  refine propext ⟨?_, ?_⟩
  · rintro ⟨_, last, rfl, ⟨front, back, rfl, hfront, hback⟩, hlast⟩
    rw [getLast?_append_or] at hlast
    exact ⟨front, back ++ last, List.append_assoc .., by simpa using hfront, back, last, rfl, hback, hlast⟩
  · rintro ⟨front, _, rfl, hfront, back, last, rfl, hback, hlast⟩
    rw [← getLast?_append_or] at hlast
    exact ⟨front ++ back, last, (List.append_assoc ..).symm, ⟨front, back, rfl, by simpa using hfront, hback⟩, hlast⟩

lemma all_append (Rs Ss : List Reading) : all (Rs ++ Ss) = (all Rs).andThen (all Ss) := by
  induction Rs with
  | nil => exact (nothing_andThen _).symm
  | cons R Rs ih => rw [List.cons_append, all, ih, all, andThen_assoc]

lemma upTo_zero : R.upTo (some 0) = nothing := by
  funext before found rest
  simp [upTo, power]

lemma upTo_succ (n : Nat) : R.upTo (some (n + 1)) = (R.andThen (R.upTo (some n))).maybe := by
  funext before found rest
  refine propext ⟨?_, ?_⟩
  · rintro ⟨k, hk, hpower⟩
    cases k with
    | zero => exact .inl hpower
    | succ k =>
      obtain ⟨front, back, rfl, hfront, hback⟩ := hpower
      exact .inr ⟨front, back, rfl, hfront, k, by simpa using hk, hback⟩
  · rintro (rfl | ⟨front, back, rfl, hfront, k, hk, hback⟩)
    · exact ⟨0, by simp, rfl⟩
    · exact ⟨k + 1, by simpa using hk, front, back, rfl, hfront, hback⟩

end Reading

lemma readings_append (ps qs : List Pattern) : readings (ps ++ qs) = readings ps ++ readings qs := by
  induction ps with
  | nil => rfl
  | cons p ps ih => rw [List.cons_append, readings, readings, ih, List.cons_append]

end DataGrid.Pattern
