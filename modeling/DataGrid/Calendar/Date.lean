namespace DataGrid

structure Date where
  year : Int
  month : Nat
  day : Nat
  deriving DecidableEq, Inhabited

namespace Date

def isLeap (year : Int) : Bool := year % 4 == 0 && (year % 100 != 0 || year % 400 == 0)

def monthLength (year : Int) : Nat → Nat
  | 2 => if isLeap year then 29 else 28
  | 4 | 6 | 9 | 11 => 30
  | _ => 31

def monthStart (year : Int) : Nat → Nat
  | 0 | 1 => 0
  | month + 1 => monthStart year month + monthLength year month

def yearStart (year : Int) : Int :=
  let past := year - 1
  365 * past + past / 4 - past / 100 + past / 400

def isValid (d : Date) : Bool :=
  1 ≤ d.month && d.month ≤ 12 && 1 ≤ d.day && d.day ≤ monthLength d.year d.month

def epoch : Int := 719162

def toDays (d : Date) : Int := yearStart d.year + monthStart d.year d.month + d.day - 1 - epoch

/-- The year of a day counted from 1 January of the year one: its share of a 400-year cycle is a
guess that is off by at most one. -/
def yearOf (n : Int) : Int :=
  let guess := n * 400 / 146097 + 1
  if n < yearStart guess then guess - 1
  else if yearStart (guess + 1) ≤ n then guess + 1
  else guess

def walkMonths (year : Int) : Nat → Nat → Nat → Nat × Nat
  | 0, month, rest => (month, rest + 1)
  | steps + 1, month, rest =>
    if rest < monthLength year month then (month, rest + 1)
    else walkMonths year steps (month + 1) (rest - monthLength year month)

def ofDays (days : Int) : Date :=
  let n := days + epoch
  let year := yearOf n
  let place := walkMonths year 11 1 (n - yearStart year).toNat
  ⟨year, place.1, place.2⟩

def dayOfYear (d : Date) : Nat := monthStart d.year d.month + d.day

def weekday (d : Date) : Nat := ((d.toDays + 4) % 7).toNat

def isoWeekday (d : Date) : Nat := (d.weekday + 6) % 7 + 1

def weekOfYear (d : Date) (passed : Nat) : Nat := (d.dayOfYear + 6 - passed) / 7

def isoWeeks (year : Int) : Nat :=
  let first := (⟨year, 1, 1⟩ : Date).weekday
  if first == 4 || (first == 3 && isLeap year) then 53 else 52

/-- The year and number of the week of a day; a week belongs to the year of its Thursday. -/
def isoWeek (d : Date) : Int × Nat :=
  let week := (d.dayOfYear + 10 - d.isoWeekday) / 7
  if week = 0 then (d.year - 1, isoWeeks (d.year - 1))
  else if isoWeeks d.year < week then (d.year + 1, 1)
  else (d.year, week)

end Date

end DataGrid
