import DataGrid.Number.Binary64

/-!
The shortest decimal that reads back as a given double. Among the multiples of a power of ten that
round to the double, those of the largest power with any such multiple have the fewest digits; of
these the nearest is taken.
-/

namespace DataGrid.Shortest

inductive Tie
  | toEven
  | up

structure Decimal where
  digits : Nat
  power : Int

/-- The numbers that round to a double, over one denominator; the ends belong to it when the
significand is even. -/
structure Interval where
  low : Nat
  value : Nat
  high : Nat
  denominator : Nat
  closed : Bool

/-- The lower neighbour is nearer than the upper one where the significand is a power of two. -/
def interval (x : Binary64) : Interval :=
  let m := x.significand
  let below := if m = Nat.pow 2 52 && -1074 < x.exponent then 1 else 2
  let scale := if 0 ≤ x.exponent then Nat.pow 2 x.exponent.toNat else 1
  let denominator := if 0 ≤ x.exponent then 4 else 4 * Nat.pow 2 (-x.exponent).toNat
  { low := (4 * m - below) * scale
    value := 4 * m * scale
    high := (4 * m + 2) * scale
    denominator
    closed := m % 2 = 0 }

def Interval.contains (i : Interval) (n : Nat) : Bool :=
  if i.closed then i.low ≤ n && n ≤ i.high else i.low < n && n < i.high

def Interval.inUnits (i : Interval) (power : Int) : Interval × Nat :=
  if 0 ≤ power then (i, i.denominator * Nat.pow 10 power.toNat)
  else
    let k := Nat.pow 10 (-power).toNat
    ({ i with low := i.low * k, value := i.value * k, high := i.high * k }, i.denominator)

def nearest? (tie : Tie) (i : Interval) (power : Int) : Option Nat :=
  let (j, unit) := i.inUnits power
  let lower := j.value / unit
  let upper := lower + 1
  let toLower := j.value - lower * unit
  let toUpper := upper * unit - j.value
  match j.contains (lower * unit), j.contains (upper * unit) with
  | false, false => none
  | true, false => some lower
  | false, true => some upper
  | true, true =>
    if toLower < toUpper then some lower
    else if toUpper < toLower then some upper
    else match tie with
      | .up => some upper
      | .toEven => some (lower + lower % 2)

def search (tie : Tie) (i : Interval) : Nat → Int → Option Decimal
  | 0, _ => none
  | steps + 1, power =>
    match nearest? tie i power with
    | some digits => some ⟨digits, power⟩
    | none => search tie i steps (power - 1)

def topPower (x : Binary64) : Int :=
  ((x.significand.log2 : Int) + 1 + x.exponent) * 30103 / 100000 + 1

/-- Seventeen digits always suffice, and the search starts at most two powers above the first. -/
def decimal (tie : Tie) (x : Binary64) : Decimal :=
  if x.isZero then ⟨0, 0⟩
  else (search tie (interval x) 22 (topPower x)).getD ⟨0, 0⟩

structure Positional where
  digits : List Char
  point : Int

def stripZeros (cs : List Char) : List Char := (cs.reverse.dropWhile (· == '0')).reverse

def positional (d : Decimal) : Positional :=
  let cs := Nat.toDigits 10 d.digits
  ⟨stripZeros cs, cs.length + d.power⟩

end DataGrid.Shortest
