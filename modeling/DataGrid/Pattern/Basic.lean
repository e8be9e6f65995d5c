import DataGrid.Pattern.CharSet

namespace DataGrid

inductive WordEdge
  | edge
  | inside
  | start
  | finish
  | startHalf
  | finishHalf
  deriving BEq

/-- A place between two characters, or at an end of the text. With `carriage` a line also ends at a
carriage return, but not between one and the line feed behind it; words are made of `CharSet.word` or
of its ASCII members. -/
inductive Place
  | textStart
  | textEnd
  | lineStart (carriage : Bool)
  | lineEnd (carriage : Bool)
  | word (unicode : Bool) (e : WordEdge)
  deriving BEq

inductive Pattern
  | empty
  | char (fold : Bool) (c : Char)
  | set (s : CharSet)
  | place (p : Place)
  | capture (number : Nat) (p : Pattern)
  | seq (ps : List Pattern)
  | alt (ps : List Pattern)
  | times (least : Nat) (most : Option Nat) (p : Pattern)
  deriving Inhabited

def WordEdge.holds (e : WordEdge) (before behind : Bool) : Bool :=
  match e with
  | edge => before != behind
  | inside => before == behind
  | start => !before && behind
  | finish => before && !behind
  | startHalf => !before
  | finishHalf => !behind

def Place.holds (before behind : Option Char) : Place → Bool
  | textStart => before.isNone
  | textEnd => behind.isNone
  | lineStart carriage =>
    before.all (· == '\n') || (carriage && before == some '\r' && behind != some '\n')
  | lineEnd carriage =>
    if carriage then behind.all (· == '\r') || (behind == some '\n' && before != some '\r')
    else behind.all (· == '\n')
  | word unicode e =>
    let chars := if unicode then CharSet.word else CharSet.asciiWord
    e.holds (before.any chars.has) (behind.any chars.has)

end DataGrid
