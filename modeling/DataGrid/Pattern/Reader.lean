import DataGrid.Pattern.Bounds
import DataGrid.Pattern.Bracket
import DataGrid.Text.Alphanumeric

/-!
Patterns as text: literals and escapes, `.`, anchors, sets in brackets, groups, alternatives and
repetition. Every character that has a meaning needs the place where it means something; a text that
breaks this rule is no pattern, and the fault says why. Groups that are still open are kept on a
stack, and the text is read in one pass.
-/

namespace DataGrid.Pattern

/-- An expression with the depth of its nesting; letters in `(?…)` alone cannot be repeated. -/
structure Item where
  pattern : Pattern
  depth : Nat
  repeatable : Bool

namespace Item

def leaf (p : Pattern) : Item := ⟨p, 0, true⟩

def nesting : List Item → Nat
  | [] => 0
  | [i] => i.depth
  | is => is.foldl (fun d i => max d i.depth) 0 + 1

def sequence (is : List Item) : Item := ⟨.seq (is.foldl (fun ps i => i.pattern :: ps) []), nesting is, true⟩

def alternatives : List Item → Item
  | [i] => i
  | is => ⟨.alt (is.foldl (fun ps i => i.pattern :: ps) []), nesting is, true⟩

end Item

structure OpenGroup where
  number : Option Nat
  mode : Mode
  branches : List Item
  items : List Item

/-- A pattern being read: the alternatives of the innermost group that are complete, and the
expressions of the last one, each list from its end. -/
structure Reader where
  mode : Mode
  names : List (List Char)
  captures : Nat
  outer : List OpenGroup
  branches : List Item
  items : List Item

namespace Reader

def start (fold : Bool) : Reader := ⟨.start fold, [], 0, [], [], []⟩

def push (r : Reader) (i : Item) : Reader := { r with items := i :: r.items }

def inside (r : Reader) : Item := Item.alternatives (Item.sequence r.items :: r.branches)

def nextBranch (r : Reader) : Reader := { r with branches := Item.sequence r.items :: r.branches, items := [] }

def openGroup (r : Reader) (number : Option Nat) (inner : Mode) : Reader :=
  { r with
    mode := inner
    captures := r.captures + if number.isSome then 1 else 0
    outer := ⟨number, r.mode, r.branches, r.items⟩ :: r.outer
    branches := []
    items := [] }

def capture (r : Reader) : Reader := r.openGroup (some r.captures) r.mode

def closeGroup (r : Reader) : Except Fault Reader :=
  match r.outer with
  | [] => .error .groupUnopened
  | g :: outer =>
    let inside := r.inside
    let p := match g.number with
      | some n => .capture n inside.pattern
      | none => inside.pattern
    .ok { r with mode := g.mode, outer, branches := g.branches, items := ⟨p, inside.depth + 1, true⟩ :: g.items }

def repeated (r : Reader) (bounds : Bounds) : Except Fault Reader :=
  match r.items with
  | [] => .error .repetitionMissing
  | i :: is =>
    if i.repeatable then
      .ok { r with items := ⟨.times bounds.least bounds.most i.pattern, i.depth + 1, true⟩ :: is }
    else .error .repetitionMissing

/-- A question mark behind a repetition asks for fewer passes first, which no search can tell. -/
def dropLazy : List Char → List Char
  | '?' :: rest => rest
  | cs => cs

def isNameStart (c : Char) : Bool := c == '_' || Text.isAlphabetic c

def isNameChar (c : Char) : Bool := c == '_' || c == '.' || c == '[' || c == ']' || Text.isAlphanumeric c

def readName (r : Reader) (cs : List Char) : Except Fault (Reader × List Char) :=
  let name := cs.takeWhile (· != '>')
  match cs.dropWhile (· != '>') with
  | [] => .error .groupName
  | _ :: rest =>
    if !name.head?.any isNameStart || !name.all isNameChar then .error .groupName
    else if r.names.contains name then .error .groupNameRepeated
    else .ok ({ r with names := name :: r.names }, rest)

def readGroup (r : Reader) (cs : List Char) : Except Fault (Reader × List Char) :=
  match r.mode.skip cs with
  | '?' :: '=' :: _ | '?' :: '!' :: _ | '?' :: '<' :: '=' :: _ | '?' :: '<' :: '!' :: _ => .error .lookAround
  | '?' :: 'P' :: '<' :: rest | '?' :: '<' :: rest => do
    let (r, rest) ← r.readName rest
    return (r.capture, rest)
  | '?' :: ')' :: _ => .error .repetitionMissing
  | '?' :: rest => do
    match ← Mode.read [] true r.mode rest with
    | (mode, ':' :: rest) => return (r.openGroup none mode, rest)
    | (mode, _ :: rest) => return ({ r with mode, items := ⟨.empty, 0, false⟩ :: r.items }, rest)
    | (_, []) => throw .groupUnclosed
  | rest => .ok (r.capture, rest)

def literal (m : Mode) (c : Char) : Pattern :=
  if m.unicode then .char m.fold c
  else if m.fold && c.isAlpha then .set (CharSet.single c).asciiClosure
  else .char false c

def escaped (m : Mode) : Escape → Except Fault Pattern
  | .char c => .ok (literal m c)
  | .byte c => if m.unicode || c.toNat < 128 then .ok (literal m c) else .error .notAscii
  | .set s => .ok (.set s)
  | .place p => .ok (.place p)

def anyChar (m : Mode) : Except Fault Pattern :=
  if !m.unicode then .error .notAscii
  else if m.dotAll then .ok (.set .all)
  else if m.carriage then .ok (.set (CharSet.complement ⟨[(10, 10), (13, 13)]⟩))
  else .ok (.set (CharSet.complement ⟨[(10, 10)]⟩))

def step (fuel : Nat) (r : Reader) (c : Char) (cs : List Char) : Except Fault (Reader × List Char) := do
  let m := r.mode
  match c with
  | '(' => r.readGroup cs
  | ')' => return (← r.closeGroup, cs)
  | '|' => return (r.nextBranch, cs)
  | '[' => do
    let (s, rest) ← Bracket.read m fuel cs
    return (r.push ⟨.set s.set, s.depth, true⟩, rest)
  | '*' => return (← r.repeated ⟨0, none⟩, dropLazy cs)
  | '+' => return (← r.repeated ⟨1, none⟩, dropLazy cs)
  | '?' => return (← r.repeated ⟨0, some 1⟩, dropLazy cs)
  | '\x7b' => do
    let (bounds, rest) ← Bounds.read m cs
    return (← r.repeated bounds, dropLazy (m.skip rest))
  | '.' => return (r.push (.leaf (← anyChar m)), cs)
  | '^' => return (r.push (.leaf (.place (if m.lines then .lineStart m.carriage else .textStart))), cs)
  | '$' => return (r.push (.leaf (.place (if m.lines then .lineEnd m.carriage else .textEnd))), cs)
  | '\\' => do
    let (e, rest) ← Escape.read m cs
    return (r.push (.leaf (← escaped m e)), rest)
  | c => return (r.push (.leaf (literal m c)), cs)

def readFrom : Nat → Reader → List Char → Except Fault Reader
  | 0, r, _ => .ok r
  | fuel + 1, r, cs =>
    match r.mode.skip cs with
    | [] => .ok r
    | c :: cs => do
      let (r, rest) ← r.step fuel c cs
      readFrom fuel r rest

end Reader

def nestingLimit : Nat := 250

def read (fold : Bool) (source : String) : Except Fault Pattern := do
  let cs := source.toList
  let r ← Reader.readFrom (cs.length + 1) (.start fold) cs
  if !r.outer.isEmpty then throw .groupUnclosed
  let whole := r.inside
  if nestingLimit < whole.depth then throw .nesting
  return whole.pattern

end DataGrid.Pattern
