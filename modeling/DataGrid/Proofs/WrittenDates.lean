import DataGrid.Calendar.Instant
import DataGrid.Proofs.CalendarDays
import Mathlib.Data.List.TakeWhile

/-! Dates and times as they are written, piece by piece, and the moment that they denote. No text can be
taken apart into such pieces in two ways. -/

namespace DataGrid

namespace DateText

structure Digits (places : Nat) where
  chars : List Char
  length_eq : chars.length = places
  isDigit_of_mem : ∀ c ∈ chars, c.isDigit = true

def Digits.value {places : Nat} (d : Digits places) : Nat := Nat.ofDigitChars 10 d.chars 0

structure Fraction where
  digits : List Char
  ne_nil : digits ≠ []
  isDigit_of_mem : ∀ c ∈ digits, c.isDigit = true

namespace Fraction

def chars (f : Fraction) : List Char := '.' :: f.digits

def nanos (f : Fraction) : Nat := Nat.ofDigitChars 10 ((f.digits ++ List.replicate 9 '0').take 9) 0

end Fraction

structure Seconds where
  whole : Digits 2
  fraction : Option Fraction

def Seconds.chars (s : Seconds) : List Char := ':' :: (s.whole.chars ++ s.fraction.elim [] Fraction.chars)

inductive Zone
  | universal
  | shifted (ahead : Bool) (hours : Digits 2) (colon : Bool) (minutes : Digits 2)

namespace Zone

def chars : Zone → List Char
  | universal => ['Z']
  | shifted ahead hours colon minutes =>
    (if ahead then '+' else '-') :: (hours.chars ++ ((if colon then [':'] else []) ++ minutes.chars))

def offset : Zone → Int
  | universal => 0
  | shifted true hours _ minutes => 3600 * hours.value + 60 * minutes.value
  | shifted false hours _ minutes => -(3600 * hours.value + 60 * minutes.value)

def IsValid : Zone → Prop
  | universal => True
  | shifted _ hours _ minutes => hours.value ≤ 23 ∧ minutes.value ≤ 59

def HasColon : Zone → Prop
  | universal => True
  | shifted _ _ colon _ => colon = true

end Zone

structure Clock where
  letter : Bool
  hour : Digits 2
  minute : Digits 2
  seconds : Option Seconds
  zone : Option Zone

namespace Clock

def reading (c : Clock) : List Char :=
  c.hour.chars ++ ':' :: (c.minute.chars ++ (c.seconds.elim [] Seconds.chars ++ c.zone.elim [] Zone.chars))

def chars (c : Clock) : List Char := (if c.letter then 'T' else ' ') :: c.reading

def second (c : Clock) : Nat := c.seconds.elim 0 fun s => s.whole.value

def fractionNanos (c : Clock) : Nat := (c.seconds.bind Seconds.fraction).elim 0 Fraction.nanos

def offset (c : Clock) : Int := c.zone.elim 0 Zone.offset

def secondOfDay (c : Clock) : Nat := 3600 * c.hour.value + 60 * c.minute.value + min c.second 59

def nanos (c : Clock) : Nat := c.fractionNanos + if c.second = 60 then 1000000000 else 0

structure IsValid (c : Clock) : Prop where
  hour_le : c.hour.value ≤ 23
  minute_le : c.minute.value ≤ 59
  second_le : c.second ≤ 60
  zone : ∀ z ∈ c.zone, z.IsValid

/-- An offset stands behind seconds and has a colon. -/
def IsFull (c : Clock) : Prop := ∀ z ∈ c.zone, c.seconds.isSome = true ∧ z.HasColon

def moment (c : Clock) (date : Date) : Instant :=
  .ofClock date c.hour.value c.minute.value c.second c.fractionNanos c.offset

end Clock

end DateText

open DateText

structure DateText where
  year : Digits 4
  month : Digits 2
  day : Digits 2
  clock : Option Clock

namespace DateText

def chars (w : DateText) : List Char :=
  w.year.chars ++ '-' :: (w.month.chars ++ '-' :: (w.day.chars ++ w.clock.elim [] Clock.chars))

def date (w : DateText) : Date := ⟨w.year.value, w.month.value, w.day.value⟩

structure IsValid (w : DateText) : Prop where
  date : w.date.isValid = true
  clock : ∀ c ∈ w.clock, c.IsValid

def IsFull (w : DateText) : Prop := ∀ c ∈ w.clock, c.IsFull

def moment (w : DateText) : Instant := w.clock.elim (.ofClock w.date 0 0 0 0 0) fun c => c.moment w.date

/-- The moment that a written date is: its day counted through the calendar, midnight without a time. -/
structure Denotes (w : DateText) (t : Instant) : Prop where
  seconds_eq : ∃ days, w.date.Follows days ∧
    t.seconds = 86400 * days + w.clock.elim 0 Clock.secondOfDay - w.clock.elim 0 Clock.offset
  nanos_eq : t.nanos = w.clock.elim 0 Clock.nanos

lemma moment_eq {w : DateText} (hw : w.IsValid) : w.moment =
    ⟨86400 * w.date.toDays + w.clock.elim 0 Clock.secondOfDay - w.clock.elim 0 Clock.offset,
      w.clock.elim 0 Clock.nanos⟩ := by
  obtain ⟨year, month, day, clock⟩ := w
  cases clock with
  | none => simp [moment, Instant.ofClock]
  | some c =>
    have hsecond := (hw.clock c rfl).second_le
    have hleap : (c.second - min c.second 59) * 1000000000 = if c.second = 60 then 1000000000 else 0 := by
      split_ifs <;> omega
    simp only [moment, Option.elim_some, Clock.moment, Instant.ofClock, Clock.secondOfDay, Clock.nanos, hleap]

lemma denotes_iff {w : DateText} (hw : w.IsValid) {t : Instant} : w.Denotes t ↔ t = w.moment := by
  obtain ⟨seconds, nanos⟩ := t
  rw [moment_eq hw, Instant.mk.injEq]
  constructor
  · rintro ⟨⟨days, hdays, hseconds⟩, hnanos⟩
    rw [Date.follows_iff hw.date] at hdays
    exact ⟨hdays ▸ hseconds, hnanos⟩
  · rintro ⟨hseconds, hnanos⟩
    exact ⟨⟨_, (Date.follows_iff hw.date).mpr rfl, hseconds⟩, hnanos⟩

section

variable {cs cs' : List Char}

lemma Digits.eq_of_chars_eq {places : Nat} {d e : Digits places} (h : d.chars = e.chars) : d = e := by
  cases d
  cases e
  congr

lemma Digits.eq_of_append_eq {places : Nat} {d e : Digits places} (h : d.chars ++ cs = e.chars ++ cs') :
    d = e ∧ cs = cs' := by
  obtain ⟨hchars, hrest⟩ := List.append_inj h (d.length_eq.trans e.length_eq.symm)
  exact ⟨eq_of_chars_eq hchars, hrest⟩

def IsCut (cs : List Char) : Prop := ∀ c ∈ cs.head?, c.isDigit = false ∧ c ≠ '.' ∧ c ≠ ':'

lemma isCut_zone (zone : Option Zone) : IsCut (zone.elim [] Zone.chars) := by
  intro c hc
  cases zone with
  | none => cases hc
  | some z =>
    cases z with
    | universal =>
      obtain rfl : 'Z' = c := by simpa [Zone.chars] using hc
      decide
    | shifted ahead hours colon minutes =>
      obtain rfl : (if ahead then '+' else '-') = c := by simpa [Zone.chars] using hc
      cases ahead <;> decide

lemma IsCut.takeWhile_digits (h : IsCut cs) (f : Fraction) : (f.digits ++ cs).takeWhile Char.isDigit = f.digits := by
  rw [List.takeWhile_append_of_pos f.isDigit_of_mem]
  cases cs with
  | nil => simp
  | cons c cs => rw [List.takeWhile_cons_of_neg (by simp [(h c rfl).1]), List.append_nil]

lemma Fraction.eq_of_digits_eq {f g : Fraction} (h : f.digits = g.digits) : f = g := by
  cases f
  cases g
  congr

lemma Fraction.eq_of_append_eq {f g : Option Fraction} (hcs : IsCut cs) (hcs' : IsCut cs')
    (h : f.elim [] chars ++ cs = g.elim [] chars ++ cs') : f = g ∧ cs = cs' := by
  have hpoint : ∀ {cs rest : List Char}, IsCut cs → cs ≠ '.' :: rest := by
    rintro _ rest hcut rfl
    exact (hcut '.' rfl).2.1 rfl
  cases f with
  | none =>
    cases g with
    | none => exact ⟨rfl, h⟩
    | some g => exact absurd h (hpoint hcs)
  | some f =>
    cases g with
    | none => exact absurd h.symm (hpoint hcs')
    | some g =>
      have hdigits : f.digits ++ cs = g.digits ++ cs' := (List.cons.inj h).2
      have htake := congrArg (List.takeWhile Char.isDigit) hdigits
      rw [hcs.takeWhile_digits, hcs'.takeWhile_digits] at htake
      obtain rfl := eq_of_digits_eq htake
      exact ⟨rfl, List.append_cancel_left hdigits⟩

lemma Seconds.eq_of_append_eq {s s' : Option Seconds} (hcs : IsCut cs) (hcs' : IsCut cs')
    (h : s.elim [] chars ++ cs = s'.elim [] chars ++ cs') : s = s' ∧ cs = cs' := by
  have hcolon : ∀ {cs rest : List Char}, IsCut cs → cs ≠ ':' :: rest := by
    rintro _ rest hcut rfl
    exact (hcut ':' rfl).2.2 rfl
  cases s with
  | none =>
    cases s' with
    | none => exact ⟨rfl, h⟩
    | some s' => exact absurd h (hcolon hcs)
  | some s =>
    cases s' with
    | none => exact absurd h.symm (hcolon hcs')
    | some s' =>
      obtain ⟨whole, fraction⟩ := s
      obtain ⟨whole', fraction'⟩ := s'
      simp only [Option.elim_some, chars, List.cons_append, List.append_assoc, List.cons.injEq, true_and] at h
      obtain ⟨rfl, hfraction⟩ := Digits.eq_of_append_eq h
      obtain ⟨rfl, hrest⟩ := Fraction.eq_of_append_eq hcs hcs' hfraction
      exact ⟨rfl, hrest⟩

lemma Zone.eq_of_chars_eq {z z' : Zone} (h : z.chars = z'.chars) : z = z' := by
  have hcolon : ∀ d e : Digits 2, d.chars ≠ ':' :: e.chars := by
    intro d e he
    exact absurd (d.isDigit_of_mem ':' (he ▸ List.mem_cons_self)) (by decide)
  cases z with
  | universal =>
    cases z' with
    | universal => rfl
    | shifted ahead _ _ _ => cases ahead <;> simp [chars] at h
  | shifted ahead hours colon minutes =>
    cases z' with
    | universal => cases ahead <;> simp [chars] at h
    | shifted ahead' hours' colon' minutes' =>
      obtain ⟨hsign, hrest⟩ := List.cons.inj h
      obtain ⟨rfl, hrest⟩ := Digits.eq_of_append_eq hrest
      obtain rfl : ahead = ahead' := by cases ahead <;> cases ahead' <;> simp_all
      cases colon <;> cases colon' <;> simp at hrest
      · rw [Digits.eq_of_chars_eq hrest]
      · exact absurd hrest (hcolon _ _)
      · exact absurd hrest.symm (hcolon _ _)
      · rw [Digits.eq_of_chars_eq hrest]

lemma Zone.eq_of_elim_eq {z z' : Option Zone} (h : z.elim [] chars = z'.elim [] chars) : z = z' := by
  have hne : ∀ z : Zone, z.chars ≠ [] := by
    intro z
    cases z <;> simp [chars]
  cases z with
  | none =>
    cases z' with
    | none => rfl
    | some z' => exact absurd h.symm (hne z')
  | some z =>
    cases z' with
    | none => exact absurd h (hne z)
    | some z' => exact congrArg some (eq_of_chars_eq h)

lemma Clock.eq_of_chars_eq {c c' : Clock} (h : c.chars = c'.chars) : c = c' := by
  obtain ⟨letter, hour, minute, seconds, zone⟩ := c
  obtain ⟨letter', hour', minute', seconds', zone'⟩ := c'
  obtain ⟨hletter, hreading⟩ := List.cons.inj h
  obtain rfl : letter = letter' := by cases letter <;> cases letter' <;> simp_all
  obtain ⟨rfl, hrest⟩ := Digits.eq_of_append_eq hreading
  obtain ⟨rfl, hrest⟩ := Digits.eq_of_append_eq (List.cons.inj hrest).2
  obtain ⟨rfl, hzone⟩ := Seconds.eq_of_append_eq (isCut_zone zone) (isCut_zone zone') hrest
  rw [Zone.eq_of_elim_eq hzone]

end

theorem eq_of_chars_eq {w w' : DateText} (h : w.chars = w'.chars) : w = w' := by
  obtain ⟨year, month, day, clock⟩ := w
  obtain ⟨year', month', day', clock'⟩ := w'
  obtain ⟨rfl, hrest⟩ := Digits.eq_of_append_eq h
  obtain ⟨rfl, hrest⟩ := Digits.eq_of_append_eq (List.cons.inj hrest).2
  obtain ⟨rfl, hclock⟩ := Digits.eq_of_append_eq (List.cons.inj hrest).2
  cases clock with
  | none =>
    cases clock' with
    | none => rfl
    | some c' => simp [Clock.chars] at hclock
  | some c =>
    cases clock' with
    | none => simp [Clock.chars] at hclock
    | some c' => rw [Clock.eq_of_chars_eq hclock]

end DateText

end DataGrid
