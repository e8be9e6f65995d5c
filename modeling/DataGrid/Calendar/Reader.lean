import DataGrid.Calendar.Instant
import DataGrid.Text.Blank

/-!
Dates and times as filter values write them: `YYYY-MM-DD`, then perhaps a space or `T` and `HH:MM`,
then perhaps seconds with a fraction, and after seconds perhaps `Z` or an offset `+HH:MM`. A date
alone means its midnight, and a time without an offset is universal time.
-/

namespace DataGrid.Instant

def digitsValue (cs : List Char) : Nat := cs.foldl (fun n c => n * 10 + (c.toNat - 48)) 0

def readFixed (width : Nat) (cs : List Char) : Option (Nat × List Char) :=
  let digits := cs.take width
  if digits.length = width && digits.all Char.isDigit then some (digitsValue digits, cs.drop width)
  else none

def readChar (c : Char) : List Char → Option (List Char)
  | d :: rest => if d = c then some rest else none
  | [] => none

def readDate (cs : List Char) : Option (Date × List Char) := do
  let (year, cs) ← readFixed 4 cs
  let cs ← readChar '-' cs
  let (month, cs) ← readFixed 2 cs
  let cs ← readChar '-' cs
  let (day, cs) ← readFixed 2 cs
  let date : Date := ⟨year, month, day⟩
  if date.isValid then some (date, cs) else none

def readClock (cs : List Char) : Option (Nat × Nat × List Char) := do
  let (hour, cs) ← readFixed 2 cs
  let cs ← readChar ':' cs
  let (minute, cs) ← readFixed 2 cs
  if hour ≤ 23 && minute ≤ 59 then some (hour, minute, cs) else none

/-- Nanoseconds of a fraction, of which digits after the ninth are dropped. -/
def fractionNanos (digits : List Char) : Nat :=
  digitsValue (digits.take 9) * Nat.pow 10 (9 - digits.length)

def readFraction : List Char → Option (Nat × List Char)
  | '.' :: rest =>
    match rest.takeWhile Char.isDigit with
    | [] => none
    | digits => some (fractionNanos digits, rest.dropWhile Char.isDigit)
  | cs => some (0, cs)

def readOffset : List Char → Option Int
  | [] => some 0
  | ['Z'] => some 0
  | sign :: cs => do
    let (hours, cs) ← readFixed 2 cs
    let cs ← readChar ':' cs
    let (minutes, cs) ← readFixed 2 cs
    if !cs.isEmpty || 23 < hours || 59 < minutes then none
    let ahead : Int := (3600 * hours + 60 * minutes : Nat)
    if sign = '+' then some ahead else if sign = '-' then some (-ahead) else none

def readSeconds (date : Date) (hour minute : Nat) (cs : List Char) : Option Instant := do
  let (second, cs) ← readFixed 2 cs
  let (nanos, cs) ← readFraction cs
  let offset ← readOffset cs
  if second ≤ 60 then some (ofClock date hour minute second nanos offset) else none

def readTime (date : Date) (cs : List Char) : Option Instant := do
  let (hour, minute, cs) ← readClock cs
  match cs with
  | [] => some (ofClock date hour minute 0 0 0)
  | ':' :: cs => readSeconds date hour minute cs
  | _ => none

def parse? (s : String) : Option Instant := do
  let (date, cs) ← readDate (Text.trim s).toList
  match cs with
  | [] => some (ofClock date 0 0 0 0 0)
  | c :: cs => if c = ' ' || c = 'T' then readTime date cs else none

end DataGrid.Instant
