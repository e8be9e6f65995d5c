import DataGrid.Pattern.Basic
import DataGrid.Pattern.Literal
import DataGrid.Pattern.Mode
import DataGrid.Pattern.PropertyName
import DataGrid.Text.Hex

namespace DataGrid.Pattern

inductive Escape
  | char (c : Char)
  | byte (c : Char)
  | set (s : CharSet)
  | place (p : Place)

namespace Escape

def isEscapable (c : Char) : Bool :=
  isMeta c || (c.toNat < 128 && !c.isAlphanum && c != '<' && c != '>')

def charOfHex (digits : List Char) : Except Fault Char :=
  match Text.hexNumber? digits with
  | some n => if digits.isEmpty || !n.isValidChar then .error .escapeUnknown else .ok (Char.ofNat n)
  | none => .error .escapeUnknown

def upToBrace (m : Mode) (inComment : Bool) (found : List Char) :
    List Char → Except Fault (List Char × List Char)
  | [] => .error .escapeUnfinished
  | c :: cs =>
    if inComment then upToBrace m (c != '\n') found cs
    else if m.spaced && Text.isBlank c then upToBrace m false found cs
    else if m.spaced && c == '#' then upToBrace m true found cs
    else if c == '\x7d' then .ok (found.reverse, cs)
    else upToBrace m false (c :: found) cs

def inBraces (m : Mode) (cs : List Char) : Except Fault (List Char × List Char) := upToBrace m false [] cs

def takeFixed (m : Mode) : Nat → List Char → Except Fault (List Char × List Char)
  | 0, cs => .ok ([], cs)
  | n + 1, cs =>
    match m.skip cs with
    | [] => .error .escapeUnfinished
    | c :: rest => do
      let (found, rest) ← takeFixed m n rest
      return (c :: found, rest)

def readHex (m : Mode) (width : Nat) (cs : List Char) : Except Fault (Escape × List Char) :=
  match m.skip cs with
  | '\x7b' :: rest => do
    let (digits, rest) ← inBraces m rest
    return (.char (← charOfHex digits), rest)
  | cs => do
    let (digits, rest) ← takeFixed m width cs
    let c ← charOfHex digits
    return (if width == 2 then .byte c else .char c, rest)

def readProperty (m : Mode) (negated : Bool) (cs : List Char) : Except Fault (Escape × List Char) := do
  let (asked, rest) ← match m.skip cs with
    | [] => throw .escapeUnfinished
    | '\\' :: _ => throw .property
    | '\x7b' :: rest => do
      let (text, rest) ← inBraces m rest
      pure (Property.ofText? text, rest)
    | c :: rest => pure ((Property.bare? [c]).map (false, ·), rest)
  if !m.unicode then throw .notAscii
  match asked with
  | none => throw .property
  | some (excluded, s) => return (.set (← m.foldedSet (negated != excluded) s), rest)

def readClass (m : Mode) (negated : Bool) (wide ascii : CharSet) (rest : List Char) :
    Except Fault (Escape × List Char) :=
  let s := if m.unicode then wide else ascii
  if !negated then .ok (.set s, rest)
  else if m.unicode then .ok (.set s.complement, rest)
  else .error .notAscii

def edgeNamed? : List Char → Option WordEdge
  | ['s', 't', 'a', 'r', 't'] => some .start
  | ['e', 'n', 'd'] => some .finish
  | ['s', 't', 'a', 'r', 't', '-', 'h', 'a', 'l', 'f'] => some .startHalf
  | ['e', 'n', 'd', '-', 'h', 'a', 'l', 'f'] => some .finishHalf
  | _ => none

def isEdgeChar (c : Char) : Bool := c.isAlpha || c == '-'

/-- An edge of a word, perhaps named in braces; braces that begin with anything but a letter or a
hyphen are a repetition. -/
def readEdge (m : Mode) (cs : List Char) : Except Fault (Escape × List Char) :=
  let edge := Escape.place (.word m.unicode .edge)
  match cs with
  | '\x7b' :: rest =>
    match m.skip rest with
    | [] => .error .escapeUnfinished
    | c :: _ =>
      if !isEdgeChar c then .ok (edge, cs)
      else do
        let (name, rest) ← inBraces m rest
        match edgeNamed? name with
        | some e => return (.place (.word m.unicode e), rest)
        | none => throw .wordEdge
  | _ => .ok (edge, cs)

def read (m : Mode) : List Char → Except Fault (Escape × List Char)
  | [] => .error .escapeUnfinished
  | c :: rest =>
    if c.isDigit then .error .backreference
    else if isEscapable c then .ok (.char c, rest)
    else match c with
      | 'x' => readHex m 2 rest
      | 'u' => readHex m 4 rest
      | 'U' => readHex m 8 rest
      | 'p' => readProperty m false rest
      | 'P' => readProperty m true rest
      | 'd' => readClass m false .digit .asciiDigit rest
      | 'D' => readClass m true .digit .asciiDigit rest
      | 's' => readClass m false .blank .asciiBlank rest
      | 'S' => readClass m true .blank .asciiBlank rest
      | 'w' => readClass m false .word .asciiWord rest
      | 'W' => readClass m true .word .asciiWord rest
      | 'a' => .ok (.char (Char.ofNat 7), rest)
      | 'f' => .ok (.char (Char.ofNat 12), rest)
      | 't' => .ok (.char '\t', rest)
      | 'n' => .ok (.char '\n', rest)
      | 'r' => .ok (.char '\r', rest)
      | 'v' => .ok (.char (Char.ofNat 11), rest)
      | 'A' => .ok (.place .textStart, rest)
      | 'z' => .ok (.place .textEnd, rest)
      | 'b' => readEdge m rest
      | 'B' => .ok (.place (.word m.unicode .inside), rest)
      | '<' => .ok (.place (.word m.unicode .start), rest)
      | '>' => .ok (.place (.word m.unicode .finish), rest)
      | _ => .error .escapeUnknown

end Escape

end DataGrid.Pattern
