namespace DataGrid.Text

def inRanges : List (Nat × Nat) → Nat → Bool
  | [], _ => false
  | (first, last) :: rest, n => if n < first then false else n ≤ last || inRanges rest n

/-- The code points `first`, `first + step`, …, `last`, each moved by `shift`. -/
structure Span where
  first : Nat
  last : Nat
  step : Nat
  shift : Int

namespace Span

def has (s : Span) (n : Nat) : Bool :=
  s.first ≤ n && n ≤ s.last && (n - s.first) % s.step == 0

def image (s : Span) (n : Nat) : Char := Char.ofNat (n + s.shift).toNat

def preimage? (s : Span) (c : Char) : Option Char :=
  let n := (c.toNat - s.shift).toNat
  if s.has n then some (Char.ofNat n) else none

def pairs (s : Span) : List (Nat × Nat) :=
  (List.range ((s.last - s.first) / s.step + 1)).map fun i =>
    (s.first + i * s.step, ((s.first + i * s.step : Nat) + s.shift).toNat)

def shiftIn : List Span → Char → Char
  | [], c => c
  | s :: rest, c => if c.toNat < s.first then c else if s.has c.toNat then s.image c.toNat else shiftIn rest c

end Span

end DataGrid.Text
