/-!
Doubles, held by their 64 bits. A finite double is `significand * 2 ^ exponent` up to its sign, and
the bits of the magnitude, read as a number, grow with it; so numbers are compared through `key`, and
a ratio is rounded to the nearest double with whole numbers only.
-/

namespace DataGrid

structure Binary64 where
  bits : UInt64
  deriving DecidableEq, Inhabited

namespace Binary64

def infinityMagnitude : Nat := 0x7FF * Nat.pow 2 52

def magnitude (x : Binary64) : Nat := x.bits.toNat % Nat.pow 2 63

def isNegative (x : Binary64) : Bool := Nat.pow 2 63 ≤ x.bits.toNat

def ofMagnitude (negative : Bool) (magnitude : Nat) : Binary64 :=
  ⟨UInt64.ofNat (if negative then Nat.pow 2 63 + magnitude else magnitude)⟩

def isNaN (x : Binary64) : Bool := infinityMagnitude < x.magnitude

def isInfinite (x : Binary64) : Bool := x.magnitude == infinityMagnitude

def isFinite (x : Binary64) : Bool := x.magnitude < infinityMagnitude

def isZero (x : Binary64) : Bool := x.magnitude == 0

def nan : Binary64 := ⟨0x7FF8000000000000⟩

def negate (x : Binary64) : Binary64 := ofMagnitude (!x.isNegative) x.magnitude

def significand (x : Binary64) : Nat :=
  if x.magnitude / Nat.pow 2 52 = 0 then x.magnitude else Nat.pow 2 52 + x.magnitude % Nat.pow 2 52

def exponent (x : Binary64) : Int := (max (x.magnitude / Nat.pow 2 52) 1 : Nat) - 1075

def ratio (x : Binary64) : Nat × Nat :=
  if 0 ≤ x.exponent then (x.significand * Nat.pow 2 x.exponent.toNat, 1)
  else (x.significand, Nat.pow 2 (-x.exponent).toNat)

/-- The place of a number in the order of all doubles that are not NaN; both zeros share one. -/
def key (x : Binary64) : Int := if x.isNegative then -x.magnitude else x.magnitude

def compare? (x y : Binary64) : Option Ordering :=
  if x.isNaN || y.isNaN then none else some (compare x.key y.key)

def equal (x y : Binary64) : Bool := x.compare? y == some .eq

def roundHalfEven (numerator denominator : Nat) : Nat :=
  let quotient := numerator / denominator
  let twice := 2 * (numerator % denominator)
  if twice < denominator then quotient
  else if denominator < twice then quotient + 1
  else quotient + quotient % 2

/-- The exponent at which a positive ratio has a significand of 53 bits, but none below that of the
smallest double. -/
def ratioExponent (numerator denominator : Nat) : Int :=
  let d : Int := (numerator.log2 : Int) - denominator.log2
  let reached :=
    if 0 ≤ d then decide (denominator * Nat.pow 2 d.toNat ≤ numerator)
    else decide (denominator ≤ numerator * Nat.pow 2 (-d).toNat)
  max (if reached then d - 52 else d - 53) (-1074)

def ofRatio (negative : Bool) (numerator denominator : Nat) : Binary64 :=
  if numerator = 0 then ofMagnitude negative 0
  else
    let e := ratioExponent numerator denominator
    let rounded :=
      if 0 ≤ e then roundHalfEven numerator (denominator * Nat.pow 2 e.toNat)
      else roundHalfEven (numerator * Nat.pow 2 (-e).toNat) denominator
    ofMagnitude negative (min ((e + 1074).toNat * Nat.pow 2 52 + rounded) infinityMagnitude)

def ofInt (n : Int) : Binary64 := ofRatio (n < 0) n.natAbs 1

def times (x y : Binary64) : Binary64 :=
  ofRatio false (x.ratio.1 * y.ratio.1) (x.ratio.2 * y.ratio.2)

def dividedBy (x y : Binary64) : Binary64 :=
  ofRatio false (x.ratio.1 * y.ratio.2) (x.ratio.2 * y.ratio.1)

end Binary64

end DataGrid
