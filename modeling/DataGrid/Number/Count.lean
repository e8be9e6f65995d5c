/-!
Counts of records, pages and positions. A count fits 64 bits; arithmetic on counts stops at the
largest one and at zero.
-/

namespace DataGrid.Count

def most : Nat := UInt64.size - 1

def saturate (n : Nat) : Nat := min n most

def add (a b : Nat) : Nat := saturate (a + b)

def mul (a b : Nat) : Nat := saturate (a * b)

def ofDigits? (cs : List Char) : Option Nat :=
  if cs.isEmpty || !cs.all Char.isDigit then none
  else some (cs.foldl (fun n c => n * 10 + (c.toNat - 48)) 0)

def ofText? (s : String) : Option Nat :=
  let digits := match s.toList with
    | '+' :: rest => rest
    | cs => cs
  (ofDigits? digits).filter (· ≤ most)

end DataGrid.Count
