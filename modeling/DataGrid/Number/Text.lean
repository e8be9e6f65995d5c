import DataGrid.Number.Shortest

namespace DataGrid.Binary64

open Shortest

def zeros (n : Nat) : List Char := List.replicate n '0'

def pointed (p : Positional) : List Char :=
  if p.digits.isEmpty then ['0']
  else if p.point ≤ 0 then '0' :: '.' :: (zeros (-p.point).toNat ++ p.digits)
  else
    let whole := p.point.toNat
    if p.digits.length ≤ whole then p.digits ++ zeros (whole - p.digits.length)
    else p.digits.take whole ++ '.' :: p.digits.drop whole

def signed (x : Binary64) (cs : List Char) : String :=
  String.ofList (if x.isNegative then '-' :: cs else cs)

def plain (x : Binary64) : String :=
  if x.isNaN then "NaN"
  else if x.isInfinite then x.signed ['i', 'n', 'f']
  else x.signed (pointed (positional (decimal .up x)))

/-- Positional notation from 1e-5 up to, but not including, 1e16, with at least one decimal. -/
def scientific (x : Binary64) : String :=
  let p := positional (decimal .toEven x)
  if p.digits.isEmpty then x.signed ['0', '.', '0']
  else if -5 < p.point && p.point ≤ 16 then
    x.signed (if p.digits.length ≤ p.point then pointed p ++ ['.', '0'] else pointed p)
  else
    let e := p.point - 1
    let fraction := if p.digits.length ≤ 1 then [] else '.' :: p.digits.drop 1
    let sign := if e < 0 then '-' else '+'
    x.signed (p.digits.take 1 ++ fraction ++ 'e' :: sign :: Nat.toDigits 10 e.natAbs)

end DataGrid.Binary64
