import DataGrid.Pattern.ByteSpans

/-!
How much memory a pattern takes as a machine that reads a text byte by byte, forwards and backwards. A
state takes 32 bytes, a branch 8 more, and a fork 4 for every way on. A counted repetition is written
out, so that its length counts.
-/

namespace DataGrid.Pattern

/-- Words that begin alike under one branch. Words that end where others go on cut the branches in
two, because those before them come first. -/
inductive WordTree
  | node (done : List (List (Nat × WordTree))) (branches : List (Nat × WordTree))

namespace WordTree

def leaf : WordTree := node [] []

def ended : WordTree → WordTree
  | node done branches =>
    if !done.isEmpty && done.all List.isEmpty && branches.isEmpty then node done branches
    else node (branches :: done) []

def replace (b : Nat) (t : WordTree) (branches : List (Nat × WordTree)) : List (Nat × WordTree) :=
  branches.map fun branch => if branch.1 == b then (b, t) else branch

def insert : List Nat → WordTree → WordTree
  | [], t => t.ended
  | b :: bs, node done branches =>
    match branches.lookup b with
    | some t => node done (replace b (insert bs t) branches)
    | none => node done ((b, insert bs leaf) :: branches)

def branchSize (count : Nat) : Nat := if count = 0 then 0 else if count = 1 then 32 else 32 + 8 * count

def isLeaf : WordTree → Bool
  | node done branches => done.all List.isEmpty && branches.isEmpty

mutual

def size : WordTree → Nat
  | node done branches =>
    let ways := done.length + (branches :: done).countP fun bs => !bs.isEmpty
    32 + 4 * ways + sizeDone done + branchSize branches.length + sizeBranches branches

def sizeDone : List (List (Nat × WordTree)) → Nat
  | [] => 0
  | bs :: done => branchSize bs.length + sizeBranches bs + sizeDone done

def sizeBranches : List (Nat × WordTree) → Nat
  | [] => 0
  | (_, t) :: bs => (if t.isLeaf then 0 else t.size) + sizeBranches bs

end

end WordTree

namespace Normal

def text? : Normal → Option (List Char)
  | text cs => some cs
  | _ => none

def wordsSize (back : Bool) (words : List (List Char)) : Nat :=
  let bytes (cs : List Char) : List Nat := (Text.Utf8.encode cs).map UInt8.toNat
  let tree := words.foldl (fun t cs => t.insert (if back then (bytes cs).reverse else bytes cs)) WordTree.leaf
  32 + tree.size

/-- A set: forwards what ends alike is shared, backwards what begins alike. -/
def setSize (back : Bool) (s : CharSet) : Nat :=
  if s.isAscii then 64 + 8 * s.spans.length
  else
    let sequences := ByteSpans.ofSet s
    let tree := SpanTree.ofSequences 4 sequences
    if back then 64 + 32 * tree.count + 4 * sequences.length
    else
      let keys := tree.keys.mergeSort fun k l => !l.lex k fun a b => decide (a < b)
      keys.eraseReps.foldl (fun n k => n + 32 + 8 * k.headD 0) 32

def repeatedSize (nullable : Bool) (least : Nat) (most : Option Nat) (size : Nat) : Nat :=
  match least, most with
  | 0, some 1 => 72 + size
  | 0, none => if nullable then 112 + size else 40 + size
  | least, none => least * size + 40
  | least, some most =>
    let start := if least = 0 then 32 else least * size
    if least = most then start else start + 32 + (most - least) * (40 + size)

mutual

def size (back : Bool) : Normal → Nat
  | empty => 32
  | text cs => 32 * bytes cs
  | set s => setSize back s
  | place _ => 32
  | capture _ n => (if back then 0 else 64) + size back n
  | times least most n => repeatedSize (n.leastBytes.getD 0 == 0) least most (size back n)
  | seq ns => sizeAll back 0 ns
  | alt ns =>
    match ns.mapM text? with
    | some words => wordsSize back words
    | none => sizeAll back (64 + 4 * ns.length) ns

def sizeAll (back : Bool) (sum : Nat) : List Normal → Nat
  | [] => sum
  | n :: ns => sizeAll back (sum + size back n) ns

end

mutual

def anchored (back : Bool) : Normal → Bool
  | place p => p == if back then .textEnd else .textStart
  | capture _ n => anchored back n
  | times least _ n => least != 0 && anchored back n
  | seq ns => if back then anchoredEnd false ns else anchoredStart ns
  | alt ns => anchoredAll back ns
  | _ => false

def anchoredStart : List Normal → Bool
  | [] => false
  | n :: ns => anchored false n || (n.mostBytes == some 0 && anchoredStart ns)

def anchoredEnd (found : Bool) : List Normal → Bool
  | [] => found
  | n :: ns => anchoredEnd (anchored true n || (found && n.mostBytes == some 0)) ns

def anchoredAll (back : Bool) : List Normal → Bool
  | [] => true
  | n :: ns => anchored back n && anchoredAll back ns

end

/-- The whole machine: one that is not anchored also passes over what comes before a match, and one
that reads forwards notes where a match begins and ends. -/
def footprint (back : Bool) (n : Normal) : Nat :=
  32 + (if back then 0 else 64) + (if anchored back n then 32 else 112) + size back n

end Normal

def memoryLimit : Nat := 10 * 1024 * 1024

def fits (p : Pattern) : Bool :=
  p.normal.footprint false ≤ memoryLimit && p.normal.footprint true ≤ memoryLimit

end DataGrid.Pattern
