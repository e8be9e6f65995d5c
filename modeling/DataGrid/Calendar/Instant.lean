import DataGrid.Calendar.Date

namespace DataGrid

/-- A moment in universal time: seconds since 1970 and nanoseconds after them. A leap second is the
second before it, with a thousand million nanoseconds more. -/
structure Instant where
  seconds : Int
  nanos : Nat
  deriving DecidableEq, Inhabited

namespace Instant

def ofClock (date : Date) (hour minute second nanos : Nat) (offset : Int) : Instant :=
  let early := min second 59
  ⟨86400 * date.toDays + (3600 * hour + 60 * minute + early : Nat) - offset,
    nanos + (second - early) * 1000000000⟩

def millis (t : Instant) : Int := t.seconds * 1000 + (t.nanos / 1000000 : Nat)

def ofMillis (millis : Int) : Instant := ⟨millis / 1000, (millis % 1000).toNat * 1000000⟩

def date (t : Instant) : Date := .ofDays (t.seconds / 86400)

def secondOfDay (t : Instant) : Nat := (t.seconds % 86400).toNat

def hour (t : Instant) : Nat := t.secondOfDay / 3600

def minute (t : Instant) : Nat := t.secondOfDay / 60 % 60

def second (t : Instant) : Nat := t.secondOfDay % 60 + t.nanos / 1000000000

def subsecond (t : Instant) : Nat := t.nanos % 1000000000

def earliest : Instant := ⟨86400 * (⟨-262143, 1, 1⟩ : Date).toDays, 0⟩

def latest : Instant := ⟨86400 * (⟨262143, 1, 1⟩ : Date).toDays - 1, 999999999⟩

def clampedMillis (millis : Int) : Instant :=
  if millis < earliest.millis then earliest
  else if latest.millis < millis then latest
  else ofMillis millis

end Instant

end DataGrid
