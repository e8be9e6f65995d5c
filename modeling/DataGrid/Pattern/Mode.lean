import DataGrid.Pattern.CharSet
import DataGrid.Pattern.Fault
import DataGrid.Text.Blank

namespace DataGrid.Pattern

/-- Up to case; `^` and `$` at every line; a dot for every character; lines that end at a carriage
return too; blanks and comments between expressions; and sets beyond ASCII. -/
structure Mode where
  fold : Bool
  lines : Bool
  dotAll : Bool
  carriage : Bool
  spaced : Bool
  unicode : Bool

namespace Mode

def start (fold : Bool) : Mode := ⟨fold, false, false, false, false, true⟩

def dropComments (inComment : Bool) : List Char → List Char
  | [] => []
  | c :: cs =>
    if inComment then dropComments (c != '\n') cs
    else if Text.isBlank c then dropComments false cs
    else if c == '#' then dropComments true cs
    else c :: cs

def skip (m : Mode) (cs : List Char) : List Char := if m.spaced then dropComments false cs else cs

/-- The character behind the next one. Where blanks count for nothing they are passed over, and so is
one number sign, but not the comment behind it. -/
def peek? (m : Mode) (cs : List Char) : Option Char :=
  if m.spaced then
    let seen := match cs.dropWhile Text.isBlank with
      | '#' :: rest => rest.dropWhile Text.isBlank
      | rest => rest
    seen.head? <|> cs.head?
  else cs.head?

def closure (m : Mode) (s : CharSet) : CharSet :=
  if !m.fold then s else if m.unicode then s.foldClosure else s.asciiClosure

/-- A set up to case, or what is outside it; without sets beyond ASCII there is no outside. -/
def foldedSet (m : Mode) (negated : Bool) (s : CharSet) : Except Fault CharSet :=
  if !negated then .ok (m.closure s)
  else if m.unicode then .ok (m.closure s).complement
  else .error .notAscii

def switch? (m : Mode) (on : Bool) : Char → Option Mode
  | 'i' => some { m with fold := on }
  | 'm' => some { m with lines := on }
  | 's' => some { m with dotAll := on }
  | 'R' => some { m with carriage := on }
  | 'x' => some { m with spaced := on }
  | 'u' => some { m with unicode := on }
  | 'U' => some m
  | _ => none

def read (seen : List Char) (on : Bool) (m : Mode) : List Char → Except Fault (Mode × List Char)
  | [] => .error .groupUnclosed
  | c :: cs =>
    if c == ':' || c == ')' then
      if seen.head? == some '-' then .error .flag else .ok (m, c :: cs)
    else if seen.contains c then .error .flag
    else if c == '-' then read (c :: seen) false m cs
    else match m.switch? on c with
      | some m => read (c :: seen) on m cs
      | none => .error .flag

end Mode

end DataGrid.Pattern
