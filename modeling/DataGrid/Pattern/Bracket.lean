import DataGrid.Pattern.Escape

namespace DataGrid.Pattern

inductive SetOperator
  | inter
  | minus
  | differ

def SetOperator.apply : SetOperator → CharSet → CharSet → CharSet
  | inter, s, t => s.inter t
  | minus, s, t => s.minus t
  | differ, s, t => s.differ t

structure Members where
  spans : List (Nat × Nat)
  count : Nat
  depth : Nat

namespace Members

def none : Members := ⟨[], 0, 0⟩

def add (ms : Members) (spans : List (Nat × Nat)) (depth : Nat) : Members :=
  ⟨spans ++ ms.spans, ms.count + 1, max ms.depth depth⟩

def nesting (ms : Members) : Nat := if ms.count ≤ 1 then ms.depth else ms.depth + 1

end Members

structure NestedSet where
  set : CharSet
  depth : Nat

/-- An open bracket: `left` waits for its operator's right side, which is being read. -/
structure Bracket where
  negated : Bool
  left : Option (SetOperator × NestedSet)
  members : Members

namespace Bracket

def add (b : Bracket) (spans : List (Nat × Nat)) (depth : Nat) : Bracket :=
  { b with members := b.members.add spans depth }

def whole (b : Bracket) (m : Mode) : NestedSet :=
  let right : NestedSet := ⟨.ofSpans b.members.spans, b.members.nesting⟩
  match b.left with
  | none => right
  | some (op, left) => ⟨op.apply (m.closure left.set) (m.closure right.set), max left.depth right.depth + 1⟩

def withOperator (b : Bracket) (m : Mode) (op : SetOperator) : Bracket :=
  ⟨b.negated, some (op, b.whole m), .none⟩

def close (b : Bracket) (m : Mode) : Except Fault NestedSet := do
  let whole := b.whole m
  return ⟨← m.foldedSet b.negated whole.set, whole.depth + 1⟩

def hyphens (m : Mode) : Nat → Nat → List Char → Nat × List Char
  | fuel + 1, n, '-' :: rest => hyphens m fuel (n + 1) (m.skip rest)
  | _, n, cs => (n, cs)

/-- Opens a bracket, with fuel for every character; a closing one that comes first stands for
itself. -/
def start (m : Mode) (fuel : Nat) (cs : List Char) : Bracket × List Char :=
  let cs := m.skip cs
  let (negated, cs) := match cs with
    | '^' :: rest => (true, m.skip rest)
    | _ => (false, cs)
  match hyphens m fuel 0 cs with
  | (0, ']' :: rest) => (⟨negated, none, ⟨[CharSet.point ']'], 1, 0⟩⟩, rest)
  | (0, rest) => (⟨negated, none, .none⟩, rest)
  | (n, rest) => (⟨negated, none, ⟨[CharSet.point '-'], n, 0⟩⟩, rest)

def readMember (m : Mode) : List Char → Except Fault ((Char ⊕ CharSet) × List Char)
  | [] => .error .setUnclosed
  | '\\' :: rest => do
    match ← Escape.read m rest with
    | (.char c, rest) | (.byte c, rest) =>
      if m.unicode || c.toNat < 128 then return (.inl c, rest) else throw .notAscii
    | (.set s, rest) => return (.inr s, rest)
    | (.place _, _) => throw .escapeUnknown
  | c :: rest => if m.unicode || c.toNat < 128 then .ok (.inl c, rest) else .error .notAscii

def readRange (m : Mode) (cs : List Char) : Except Fault (List (Nat × Nat) × List Char) := do
  let (first, rest) ← readMember m cs
  let single : List (Nat × Nat) := match first with
    | .inl c => [CharSet.point c]
    | .inr s => s.spans
  match m.skip rest with
  | [] => throw .setUnclosed
  | '-' :: after =>
    if m.peek? after == some ']' || m.peek? after == some '-' then return (single, '-' :: after)
    else do
      let (last, rest) ← readMember m (m.skip after)
      match first, last with
      | .inl a, .inl b => if a ≤ b then return (CharSet.range a b, rest) else throw .setOrder
      | _, _ => throw .setEnd
  | rest => return (single, rest)

def readNamed? : List Char → Option ((Bool × CharSet) × List Char)
  | ':' :: cs =>
    let (negated, cs) := match cs with
      | '^' :: rest => (true, rest)
      | _ => (false, cs)
    match cs.dropWhile (· != ':') with
    | ':' :: ']' :: rest =>
      (CharSet.named? (String.ofList (cs.takeWhile (· != ':')))).map fun s => ((negated, s), rest)
    | _ => none
  | _ => none

def readFrom (m : Mode) : Nat → List Bracket → Bracket → List Char → Except Fault (NestedSet × List Char)
  | 0, _, _, _ => .error .setUnclosed
  | fuel + 1, outer, b, cs =>
    match m.skip cs with
    | [] => .error .setUnclosed
    | ']' :: rest => do
      let s ← b.close m
      match outer with
      | [] => return (s, rest)
      | b :: outer => readFrom m fuel outer (b.add s.set.spans s.depth) rest
    | '&' :: '&' :: rest => readFrom m fuel outer (b.withOperator m .inter) rest
    | '-' :: '-' :: rest => readFrom m fuel outer (b.withOperator m .minus) rest
    | '~' :: '~' :: rest => readFrom m fuel outer (b.withOperator m .differ) rest
    | '[' :: rest =>
      match readNamed? rest with
      | some ((negated, s), rest) => do
        readFrom m fuel outer (b.add (← m.foldedSet negated s).spans 0) rest
      | none =>
        let (inner, rest) := start m fuel rest
        readFrom m fuel (b :: outer) inner rest
    | cs => do
      let (spans, rest) ← readRange m cs
      readFrom m fuel outer (b.add spans 0) rest

def read (m : Mode) (fuel : Nat) (cs : List Char) : Except Fault (NestedSet × List Char) :=
  let (b, rest) := start m fuel cs
  readFrom m fuel [] b rest

end Bracket

end DataGrid.Pattern
