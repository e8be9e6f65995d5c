import DataGrid.Pattern.Basic

/-!
Normal forms of patterns. Characters one behind the other are one text, alternatives of single
characters are one set, a set of one character is a text, what matches nothing but the empty text is
repeated once at most, and what all alternatives begin with stands before them.
-/

namespace DataGrid.Pattern

inductive Normal
  | empty
  | text (cs : List Char)
  | set (s : CharSet)
  | place (p : Place)
  | capture (number : Nat) (n : Normal)
  | times (least : Nat) (most : Option Nat) (n : Normal)
  | seq (ns : List Normal)
  | alt (ns : List Normal)
  deriving BEq, Inhabited

namespace Normal

def ofSet (s : CharSet) : Normal :=
  match s.only? with
  | some c => text [c]
  | none => set s

def ofChar (fold : Bool) (c : Char) : Normal :=
  if fold then ofSet (.ofSpans ((Text.caseClass c).map CharSet.point)) else text [c]

def utf8Width (n : Nat) : Nat := if n < 0x80 then 1 else if n < 0x800 then 2 else if n < 0x10000 then 3 else 4

def bytes (cs : List Char) : Nat := cs.foldl (fun n c => n + utf8Width c.toNat) 0

mutual

def leastBytes : Normal → Option Nat
  | empty => some 0
  | text cs => some (bytes cs)
  | set s => s.spans.head?.map fun r => utf8Width r.1
  | place _ => some 0
  | capture _ n => n.leastBytes
  | times least _ n => n.leastBytes.map (· * least)
  | seq ns => leastSum 0 ns
  | alt ns => leastAmong none ns

def leastSum (sum : Nat) : List Normal → Option Nat
  | [] => some sum
  | n :: ns =>
    match n.leastBytes with
    | some k => leastSum (sum + k) ns
    | none => none

def leastAmong (found : Option Nat) : List Normal → Option Nat
  | [] => found
  | n :: ns =>
    match n.leastBytes with
    | some k => leastAmong (some (min (found.getD k) k)) ns
    | none => none

end

mutual

def mostBytes : Normal → Option Nat
  | empty => some 0
  | text cs => some (bytes cs)
  | set s => s.spans.getLast?.map fun r => utf8Width r.2
  | place _ => some 0
  | capture _ n => n.mostBytes
  | times _ most n =>
    match n.mostBytes, most with
    | some k, some most => some (k * most)
    | _, _ => none
  | seq ns => mostSum 0 ns
  | alt ns => mostAmong none ns

def mostSum (sum : Nat) : List Normal → Option Nat
  | [] => some sum
  | n :: ns =>
    match n.mostBytes with
    | some k => mostSum (sum + k) ns
    | none => none

def mostAmong (found : Option Nat) : List Normal → Option Nat
  | [] => found
  | n :: ns =>
    match n.mostBytes with
    | some k => mostAmong (some (max (found.getD k) k)) ns
    | none => none

end

def joinText : Normal → List Normal → List Normal
  | text cs, text ds :: ns => text (cs ++ ds) :: ns
  | n, ns => n :: ns

def parts : Normal → List Normal
  | empty => []
  | seq ns => ns
  | n => [n]

def concat (ns : List Normal) : Normal :=
  match (ns.flatMap parts).foldr joinText [] with
  | [] => empty
  | [n] => n
  | ns => seq ns

def branches : Normal → List Normal
  | alt ns => ns
  | n => [n]

def chars? : Normal → Option (List (Nat × Nat))
  | text [c] => some [CharSet.point c]
  | set s => some s.spans
  | _ => none

def seq? : Normal → Option (List Normal)
  | seq ns => some ns
  | _ => none

def common : List Normal → List Normal → List Normal
  | m :: ms, n :: ns => if m == n then m :: common ms ns else []
  | _, _ => []

def merged (ns : List Normal) : Normal :=
  match ns.flatMap branches with
  | [] => set .none
  | [n] => n
  | ns =>
    match ns.mapM chars? with
    | some spans => ofSet (.ofSpans spans.flatten)
    | none => alt ns

def either (ns : List Normal) : Normal :=
  match merged ns with
  | alt ns =>
    match ns.mapM seq? with
    | some (first :: rest) =>
      match rest.foldl common first with
      | [] => alt ns
      | start => concat (start ++ [merged ((first :: rest).map fun ms => concat (ms.drop start.length))])
    | _ => alt ns
  | n => n

/-- The bounds of a repetition; what takes up no text is repeated once at most. -/
def bounds (least : Nat) (most : Option Nat) (n : Normal) : Nat × Option Nat :=
  if n.mostBytes == some 0 then (min least 1, some (min (most.getD 1) 1)) else (least, most)

def repeated (least : Nat) (most : Option Nat) (n : Normal) : Normal :=
  let (least, most) := bounds least most n
  if most == some 0 then empty
  else if least == 1 && most == some 1 then n
  else times least most n

end Normal

mutual

def normal : Pattern → Normal
  | empty => .empty
  | char fold c => .ofChar fold c
  | set s => .ofSet s
  | place p => .place p
  | capture number p => .capture number p.normal
  | seq ps => .concat (normals [] ps)
  | alt ps => .either (normals [] ps)
  | times least most p => .repeated least most p.normal

def normals (done : List Normal) : List Pattern → List Normal
  | [] => done.reverse
  | p :: ps => normals (p.normal :: done) ps

end

end DataGrid.Pattern
