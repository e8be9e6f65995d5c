import DataGrid.Pattern.Normal
import DataGrid.Text.Utf8

namespace DataGrid.Pattern

namespace ByteSpans

/-- Where a span of code points is cut in two: where the number of bytes changes, and where the last
bytes would not run through all their values. -/
def cut? (a b : Nat) : Option Nat :=
  if a < 0x80 && 0x80 ≤ b then some 0x80
  else if a < 0x800 && 0x800 ≤ b then some 0x800
  else if a < 0x10000 && 0x10000 ≤ b then some 0x10000
  else if b < 0x80 then none
  else [64, 64 * 64, 64 * 64 * 64].findSome? fun w =>
    if a / w == b / w then none
    else if a % w != 0 then some ((a / w + 1) * w)
    else if b % w != w - 1 then some (b / w * w)
    else none

def bytes (n : Nat) : List Nat := (Text.Utf8.encode [Char.ofNat n]).map UInt8.toNat

def ofSpan : Nat → Nat × Nat → List (List (Nat × Nat))
  | 0, _ => []
  | fuel + 1, (a, b) =>
    match cut? a b with
    | some c => ofSpan fuel (a, c - 1) ++ ofSpan fuel (c, b)
    | none => [(bytes a).zip (bytes b)]

def ofSet (s : CharSet) : List (List (Nat × Nat)) := s.spans.flatMap (ofSpan 16)

end ByteSpans

inductive SpanTree
  | node (branches : List ((Nat × Nat) × SpanTree))

namespace SpanTree

def grouped (groups : List ((Nat × Nat) × List (List (Nat × Nat)))) :
    List (List (Nat × Nat)) → List ((Nat × Nat) × List (List (Nat × Nat)))
  | [] => groups.reverse
  | [] :: seqs => grouped groups seqs
  | (r :: rest) :: seqs =>
    match groups with
    | (q, rests) :: others =>
      if q == r then grouped ((q, rest :: rests) :: others) seqs else grouped ((r, [rest]) :: groups) seqs
    | [] => grouped [(r, [rest])] seqs

def ofSequences : Nat → List (List (Nat × Nat)) → SpanTree
  | 0, _ => node []
  | depth + 1, seqs => node ((grouped [] seqs).map fun g => (g.1, ofSequences depth g.2.reverse))

mutual

def count : SpanTree → Nat
  | node branches => countAll branches

def countAll : List ((Nat × Nat) × SpanTree) → Nat
  | [] => 0
  | (_, t) :: branches => 1 + t.count + countAll branches

end

mutual

def key : SpanTree → List Nat
  | node branches => branches.length :: keyAll branches

def keyAll : List ((Nat × Nat) × SpanTree) → List Nat
  | [] => []
  | ((a, b), t) :: branches => a :: b :: (t.key ++ keyAll branches)

end

mutual

def keys (t : SpanTree) : List (List Nat) :=
  match t with
  | node [] => []
  | node (b :: branches) => (node (b :: branches)).key :: keysAll (b :: branches)

def keysAll : List ((Nat × Nat) × SpanTree) → List (List Nat)
  | [] => []
  | (_, t) :: branches => t.keys ++ keysAll branches

end

end SpanTree

end DataGrid.Pattern
