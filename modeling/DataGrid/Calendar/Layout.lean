import DataGrid.Calendar.Instant
import DataGrid.Text.Pad

/-!
Date layouts: text in which a percent sign and a letter stand for a part of a moment. A sign before
the letter of a number, `-`, `0` or `_`, sets how the number is filled up. A layout with an unknown
letter has no meaning, and the moment is then written in the internet date format.
-/

namespace DataGrid.Layout

inductive Fill
  | none
  | zero
  | blank

inductive Number
  | year | century | yearOfCentury | isoYear | isoYearOfCentury | quarter | month | day
  | weekFromSunday | weekFromMonday | isoWeek | weekday | isoWeekday | dayOfYear
  | hour | hour12 | minute | second | nanosecond | timestamp

inductive Item
  | literal (c : Char)
  | number (n : Number) (fill : Fill)
  | monthName (long : Bool)
  | weekdayName (long : Bool)
  | halfDay (capital : Bool)
  | fraction
  | fractionOf (places : Nat) (point : Bool)
  | zone (text : String)
  | internetDate

def numberOf? : Char → Option (Number × Fill)
  | 'C' => some (.century, .zero)
  | 'G' => some (.isoYear, .zero)
  | 'H' => some (.hour, .zero)
  | 'I' => some (.hour12, .zero)
  | 'M' => some (.minute, .zero)
  | 'S' => some (.second, .zero)
  | 'U' => some (.weekFromSunday, .zero)
  | 'V' => some (.isoWeek, .zero)
  | 'W' => some (.weekFromMonday, .zero)
  | 'Y' => some (.year, .zero)
  | 'd' => some (.day, .zero)
  | 'e' => some (.day, .blank)
  | 'f' => some (.nanosecond, .zero)
  | 'g' => some (.isoYearOfCentury, .zero)
  | 'j' => some (.dayOfYear, .zero)
  | 'k' => some (.hour, .blank)
  | 'l' => some (.hour12, .blank)
  | 'm' => some (.month, .zero)
  | 'q' => some (.quarter, .none)
  | 's' => some (.timestamp, .none)
  | 'u' => some (.isoWeekday, .none)
  | 'w' => some (.weekday, .none)
  | 'y' => some (.yearOfCentury, .zero)
  | _ => none

def clock : List Item :=
  [.number .hour .zero, .literal ':', .number .minute .zero, .literal ':', .number .second .zero]

def slashed : List Item :=
  [.number .month .zero, .literal '/', .number .day .zero, .literal '/', .number .yearOfCentury .zero]

def group? : Char → Option (List Item)
  | 'A' => some [.weekdayName true]
  | 'B' => some [.monthName true]
  | 'D' | 'x' => some slashed
  | 'F' => some [.number .year .zero, .literal '-', .number .month .zero, .literal '-', .number .day .zero]
  | 'P' => some [.halfDay false]
  | 'R' => some [.number .hour .zero, .literal ':', .number .minute .zero]
  | 'T' | 'X' => some clock
  | 'Z' => some [.zone "UTC"]
  | 'a' => some [.weekdayName false]
  | 'b' | 'h' => some [.monthName false]
  | 'c' =>
    some ([.weekdayName false, .literal ' ', .monthName false, .literal ' ', .number .day .blank, .literal ' '] ++
      clock ++ [.literal ' ', .number .year .zero])
  | 'n' => some [.literal '\n']
  | 'p' => some [.halfDay true]
  | 'r' =>
    some [.number .hour12 .zero, .literal ':', .number .minute .zero, .literal ':', .number .second .zero,
      .literal ' ', .halfDay true]
  | 't' => some [.literal '\t']
  | 'v' => some [.number .day .blank, .literal '-', .monthName false, .literal '-', .number .year .zero]
  | 'z' => some [.zone "+0000"]
  | '+' => some [.internetDate]
  | '%' => some [.literal '%']
  | _ => none

def filled? (fill : Fill) (c : Char) (rest : List Char) : Option (List Item × List Char) :=
  (numberOf? c).map fun (n, _) => ([.number n fill], rest)

def readItem : List Char → Option (List Item × List Char)
  | '-' :: c :: rest => filled? .none c rest
  | '0' :: c :: rest => filled? .zero c rest
  | '_' :: c :: rest => filled? .blank c rest
  | ':' :: ':' :: ':' :: 'z' :: rest => some ([.zone "+00"], rest)
  | ':' :: ':' :: 'z' :: rest => some ([.zone "+00:00:00"], rest)
  | ':' :: 'z' :: rest => some ([.zone "+00:00"], rest)
  | '.' :: '3' :: 'f' :: rest => some ([.fractionOf 3 true], rest)
  | '.' :: '6' :: 'f' :: rest => some ([.fractionOf 6 true], rest)
  | '.' :: '9' :: 'f' :: rest => some ([.fractionOf 9 true], rest)
  | '.' :: 'f' :: rest => some ([.fraction], rest)
  | '3' :: 'f' :: rest => some ([.fractionOf 3 false], rest)
  | '6' :: 'f' :: rest => some ([.fractionOf 6 false], rest)
  | '9' :: 'f' :: rest => some ([.fractionOf 9 false], rest)
  | c :: rest =>
    match numberOf? c with
    | some (n, fill) => some ([.number n fill], rest)
    | none => (group? c).map fun items => (items, rest)
  | [] => none

/-- Every step uses up a character, so the length of the layout is fuel enough. -/
def readItems : Nat → List Char → Option (List Item)
  | _, [] => some []
  | 0, _ => none
  | fuel + 1, '%' :: rest => do
    let (items, rest) ← readItem rest
    return items ++ (← readItems fuel rest)
  | fuel + 1, c :: rest => (readItems fuel rest).map (.literal c :: ·)

def parse? (s : String) : Option (List Item) := readItems s.length s.toList

def monthNames : List String :=
  ["January", "February", "March", "April", "May", "June", "July", "August", "September", "October",
    "November", "December"]

def weekdayNames : List String :=
  ["Sunday", "Monday", "Tuesday", "Wednesday", "Thursday", "Friday", "Saturday"]

def nameAt (names : List String) (i : Nat) (long : Bool) : List Char :=
  let name := (names.getD i "").toList
  if long then name else name.take 3

/-- Two places; a number of three digits keeps two, the first of them counting on after nine. -/
def twoPlaces (fill : Fill) (n : Nat) : List Char :=
  let ones := Char.ofNat (48 + n % 10)
  match n / 10, fill with
  | 0, .none => [ones]
  | 0, .blank => [' ', ones]
  | tens, _ => [Char.ofNat (48 + tens), ones]

def places (fill : Fill) (width : Nat) (plus : Bool) (n : Int) : List Char :=
  match fill with
  | .none => Text.signedPadded 0 ' ' plus n
  | .zero => Text.signedPadded (if plus then width + 1 else width) '0' plus n
  | .blank => Text.signedPadded (if plus then width + 1 else width) ' ' plus n

def yearPlaces (fill : Fill) (year : Int) : List Char := places fill 4 (year < 0 || 10000 ≤ year) year

def hour12 (t : Instant) : Nat := if t.hour % 12 = 0 then 12 else t.hour % 12

def writeNumber (t : Instant) (fill : Fill) : Number → List Char
  | .year => yearPlaces fill t.date.year
  | .century => twoPlaces fill (t.date.year / 100 % 256).toNat
  | .yearOfCentury => twoPlaces fill (t.date.year % 100).toNat
  | .isoYear => yearPlaces fill t.date.isoWeek.1
  | .isoYearOfCentury => twoPlaces fill (t.date.isoWeek.1 % 100).toNat
  | .quarter => Text.decimal ((t.date.month - 1) / 3 + 1)
  | .month => twoPlaces fill t.date.month
  | .day => twoPlaces fill t.date.day
  | .weekFromSunday => twoPlaces fill (t.date.weekOfYear t.date.weekday)
  | .weekFromMonday => twoPlaces fill (t.date.weekOfYear (t.date.isoWeekday - 1))
  | .isoWeek => twoPlaces fill t.date.isoWeek.2
  | .weekday => Text.decimal t.date.weekday
  | .isoWeekday => Text.decimal t.date.isoWeekday
  | .dayOfYear => places fill 3 false t.date.dayOfYear
  | .hour => twoPlaces fill t.hour
  | .hour12 => twoPlaces fill (hour12 t)
  | .minute => twoPlaces fill t.minute
  | .second => twoPlaces fill t.second
  | .nanosecond => places fill 9 false t.subsecond
  | .timestamp => places fill 9 false t.seconds

def shortFraction (t : Instant) : List Char :=
  let n := t.subsecond
  if n = 0 then []
  else if n % 1000000 = 0 then '.' :: Text.zeroPadded 3 (n / 1000000)
  else if n % 1000 = 0 then '.' :: Text.zeroPadded 6 (n / 1000)
  else '.' :: Text.zeroPadded 9 n

def fractionPlaces (t : Instant) (count : Nat) : List Char :=
  Text.zeroPadded count (t.subsecond / Nat.pow 10 (9 - count))

def internetDate (t : Instant) : List Char :=
  yearPlaces .zero t.date.year ++ '-' :: (twoPlaces .zero t.date.month ++ '-' :: (twoPlaces .zero t.date.day ++
    'T' :: (twoPlaces .zero t.hour ++ ':' :: (twoPlaces .zero t.minute ++ ':' :: (twoPlaces .zero t.second ++
      (shortFraction t ++ ['+', '0', '0', ':', '0', '0']))))))

def writeItem (t : Instant) : Item → List Char
  | .literal c => [c]
  | .number n fill => writeNumber t fill n
  | .monthName long => nameAt monthNames (t.date.month - 1) long
  | .weekdayName long => nameAt weekdayNames t.date.weekday long
  | .halfDay capital =>
    if t.hour < 12 then (if capital then ['A', 'M'] else ['a', 'm'])
    else if capital then ['P', 'M'] else ['p', 'm']
  | .fraction => shortFraction t
  | .fractionOf count point => (if point then ['.'] else []) ++ fractionPlaces t count
  | .zone text => text.toList
  | .internetDate => internetDate t

def format (layout : String) (t : Instant) : String :=
  match parse? layout with
  | some items => String.ofList (items.flatMap (writeItem t))
  | none => String.ofList (internetDate t)

end DataGrid.Layout
