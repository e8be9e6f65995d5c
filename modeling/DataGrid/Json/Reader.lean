import DataGrid.Fields
import DataGrid.Json.Basic
import DataGrid.Json.Raw
import DataGrid.Number.Count

/-!
The values of JSON texts. A whole number that fits 64 bits stays whole. Any other number becomes a
double in rounded steps: as many digits as fit 64 bits are made a double, which is then multiplied by
or divided by a power of ten; a result beyond all doubles is no value.
-/

namespace DataGrid.Json

def decodePieces : List Piece → Option (List Char)
  | [] => some []
  | .plain c :: rest => (decodePieces rest).map (c :: ·)
  | .code high :: .code low :: rest =>
    if 0xD800 ≤ high && high < 0xDC00 then
      if 0xDC00 ≤ low && low < 0xE000 then
        (decodePieces rest).map (Char.ofNat (0x10000 + (high - 0xD800) * 0x400 + (low - 0xDC00)) :: ·)
      else none
    else if 0xDC00 ≤ high && high < 0xE000 then none
    else (decodePieces (.code low :: rest)).map (Char.ofNat high :: ·)
  | .code unit :: rest =>
    if 0xD800 ≤ unit && unit < 0xE000 then none else (decodePieces rest).map (Char.ofNat unit :: ·)

def decodeString (pieces : List Piece) : Option String := (decodePieces pieces).map String.ofList

namespace NumberText

def digit (c : Char) : Nat := c.toNat - 48

/-- Appends digits to a significand as long as it fits 64 bits, and tells how many it took. -/
def absorb (significand taken : Nat) : List Char → Nat × Nat
  | [] => (significand, taken)
  | c :: cs =>
    let longer := significand * 10 + digit c
    if Count.most < longer then (significand, taken) else absorb longer (taken + 1) cs

def tenPower (n : Nat) : Binary64 := .ofRatio false (Nat.pow 10 n) 1

def scale (significand : Nat) (exponent : Int) : Option Binary64 :=
  let x := Binary64.ofInt significand
  if x.isZero then some x
  else if 308 < exponent then none
  else if 0 ≤ exponent then
    let product := x.times (tenPower exponent.toNat)
    if product.isInfinite then none else some product
  else if -308 ≤ exponent then some (x.dividedBy (tenPower (-exponent).toNat))
  else if -616 ≤ exponent then some ((x.dividedBy (tenPower 308)).dividedBy (tenPower (-exponent - 308).toNat))
  else some (.ofMagnitude false 0)

def natOfDigits (cs : List Char) : Nat := cs.foldl (fun n c => n * 10 + digit c) 0

def exponentValue (n : NumberText) : Int :=
  match n.exponent with
  | none => 0
  | some (negative, digits) => if negative then -natOfDigits digits else natOfDigits digits

def float? (n : NumberText) : Option Binary64 :=
  let (whole, taken) := absorb 0 0 n.whole
  let (significand, places) := absorb whole 0 n.fraction
  let exponent := ((n.whole.length - taken : Nat) : Int) - places + n.exponentValue
  (scale significand exponent).map fun x => if n.negative then x.negate else x

def isWhole (n : NumberText) : Bool := n.fraction.isEmpty && n.exponent.isNone

/-- Minus zero is a double, as it has no whole number of its own. -/
def value? (n : NumberText) : Option Json :=
  let whole := natOfDigits n.whole
  if n.isWhole && !n.negative && whole ≤ Count.most then some (.int whole)
  else if n.isWhole && n.negative && 0 < whole && whole ≤ Nat.pow 2 63 then some (.int (-whole))
  else n.float?.map .float

end NumberText

namespace Raw

mutual

def toJson? : Raw → Option Json
  | null => some .null
  | bool b => some (.bool b)
  | number n => n.value?
  | string pieces => (decodeString pieces).map .string
  | array items => (toItems? items).map .array
  | object members => (toMembers? members).map fun ms => .object (Fields.ofList ms)

def toItems? : List Raw → Option (List Json)
  | [] => some []
  | item :: items => do return (← item.toJson?) :: (← toItems? items)

def toMembers? : List (List Piece × Raw) → Option (List (String × Json))
  | [] => some []
  | (name, value) :: members => do
    return (← decodeString name, ← value.toJson?) :: (← toMembers? members)

end

end Raw

def parse? (s : String) : Option Json := do
  let raw ← Raw.read? s
  if 127 < raw.depth then none else raw.toJson?

end DataGrid.Json
