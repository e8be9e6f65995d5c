import DataGrid.Pattern.Mode

namespace DataGrid.Pattern

structure Bounds where
  least : Nat
  most : Option Nat

namespace Bounds

/-- The digits at the start of a text as a number, which no more than 32 bits are kept of; blanks and
comments may stand behind a digit. -/
def readDigits (m : Mode) (inComment : Bool) (n : Option Nat) : List Char → Option Nat × List Char
  | [] => (n, [])
  | c :: cs =>
    if inComment then readDigits m (c != '\n') n cs
    else if c.isDigit then readDigits m false (some (min (n.getD 0 * 10 + (c.toNat - 48)) UInt32.size)) cs
    else if m.spaced && n.isSome && Text.isBlank c then readDigits m false n cs
    else if m.spaced && n.isSome && c == '#' then readDigits m true n cs
    else (n, c :: cs)

def readCount (m : Mode) (cs : List Char) : Except Fault (Nat × List Char) :=
  match readDigits m false none (cs.dropWhile Text.isBlank) with
  | (some n, rest) => if n < UInt32.size then .ok (n, rest.dropWhile Text.isBlank) else .error .repetitionCount
  | (none, _) => .error .repetitionCount

def read (m : Mode) (cs : List Char) : Except Fault (Bounds × List Char) := do
  let (least, rest) ← readCount m (m.skip cs)
  match rest with
  | '\x7d' :: rest => return (⟨least, some least⟩, rest)
  | ',' :: rest =>
    match m.skip rest with
    | '\x7d' :: rest => return (⟨least, none⟩, rest)
    | rest =>
      let (most, rest) ← readCount m rest
      match rest with
      | '\x7d' :: rest => if least ≤ most then return (⟨least, some most⟩, rest) else throw .repetitionOrder
      | _ => throw .repetitionUnclosed
  | _ => throw .repetitionUnclosed

end Bounds

end DataGrid.Pattern
