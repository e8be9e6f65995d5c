import DataGrid.Bson.OfJson
import DataGrid.Proofs.Trimming
import DataGrid.Proofs.WrittenDates

/-! Reading dates. A text is read as a moment exactly if it is a written date with the fields of a day and of
a clock whose offset stands behind seconds and has a colon, and it is the moment that this denotes. -/

namespace DataGrid

open DateText

namespace Instant

variable {cs rest : List Char}

lemma digitsValue_eq (cs : List Char) : digitsValue cs = Nat.ofDigitChars 10 cs 0 := by
  simp only [digitsValue, Nat.ofDigitChars, Nat.mul_comm 10]
  rfl

lemma readFixed_iff {width n : Nat} :
    readFixed width cs = some (n, rest) ↔ ∃ d : Digits width, cs = d.chars ++ rest ∧ n = d.value := by
  constructor
  · intro h
    rw [readFixed] at h
    split at h
    case isFalse => cases h
    case isTrue hdigits =>
      obtain ⟨rfl, rfl⟩ := Prod.mk.inj (Option.some.inj h)
      simp only [Bool.and_eq_true, decide_eq_true_eq, List.all_eq_true] at hdigits
      refine ⟨⟨cs.take width, hdigits.1, hdigits.2⟩, (List.take_append_drop width cs).symm, ?_⟩
      rw [digitsValue_eq, Digits.value]
  · rintro ⟨d, rfl, rfl⟩
    have htake : (d.chars ++ rest).take width = d.chars := List.take_left' d.length_eq
    have hdrop : (d.chars ++ rest).drop width = rest := List.drop_left' d.length_eq
    have hall : d.chars.all Char.isDigit = true := List.all_eq_true.mpr d.isDigit_of_mem
    simp [readFixed, htake, hdrop, d.length_eq, hall, digitsValue_eq, Digits.value]

lemma readFixed_append {width : Nat} (d : Digits width) (rest : List Char) :
    readFixed width (d.chars ++ rest) = some (d.value, rest) :=
  readFixed_iff.mpr ⟨d, rfl, rfl⟩

lemma readChar_iff {c : Char} : readChar c cs = some rest ↔ cs = c :: rest := by
  cases cs with
  | nil => simp [readChar]
  | cons d cs =>
    rw [readChar]
    split
    case isTrue h => simp [h]
    case isFalse h => simp [h]

lemma readDate_iff {date : Date} : readDate cs = some (date, rest) ↔ ∃ (year : Digits 4) (month day : Digits 2),
    cs = year.chars ++ '-' :: (month.chars ++ '-' :: (day.chars ++ rest)) ∧
      date = ⟨year.value, month.value, day.value⟩ ∧ date.isValid = true := by
  simp only [readDate, Option.bind_eq_bind, Option.bind_eq_some_iff, Prod.exists, readFixed_iff, readChar_iff]
  constructor
  · rintro ⟨_, _, ⟨year, rfl, rfl⟩, _, rfl, _, _, ⟨month, rfl, rfl⟩, _, rfl, _, _, ⟨day, rfl, rfl⟩, h⟩
    split at h
    case isFalse => cases h
    case isTrue hvalid =>
      obtain ⟨rfl, rfl⟩ := Prod.mk.inj (Option.some.inj h)
      exact ⟨year, month, day, rfl, rfl, hvalid⟩
  · rintro ⟨year, month, day, rfl, rfl, hvalid⟩
    exact ⟨_, _, ⟨year, rfl, rfl⟩, _, rfl, _, _, ⟨month, rfl, rfl⟩, _, rfl, _, _, ⟨day, rfl, rfl⟩, if_pos hvalid⟩

lemma readClock_iff {hour minute : Nat} : readClock cs = some (hour, minute, rest) ↔ ∃ hours minutes : Digits 2,
    cs = hours.chars ++ ':' :: (minutes.chars ++ rest) ∧ hour = hours.value ∧ minute = minutes.value ∧
      hour ≤ 23 ∧ minute ≤ 59 := by
  simp only [readClock, Option.bind_eq_bind, Option.bind_eq_some_iff, Prod.exists, readFixed_iff, readChar_iff]
  constructor
  · rintro ⟨_, _, ⟨hours, rfl, rfl⟩, _, rfl, _, _, ⟨minutes, rfl, rfl⟩, h⟩
    split at h
    case isFalse => cases h
    case isTrue hvalid =>
      simp only [Bool.and_eq_true, decide_eq_true_eq] at hvalid
      simp only [Option.some.injEq, Prod.mk.injEq] at h
      obtain ⟨rfl, rfl, rfl⟩ := h
      exact ⟨hours, minutes, rfl, rfl, rfl, hvalid⟩
  · rintro ⟨hours, minutes, rfl, rfl, rfl, hvalid⟩
    exact ⟨_, _, ⟨hours, rfl, rfl⟩, _, rfl, _, _, ⟨minutes, rfl, rfl⟩, if_pos (by simpa using hvalid)⟩

lemma fractionNanos_eq (digits : List Char) :
    fractionNanos digits = Nat.ofDigitChars 10 ((digits ++ List.replicate 9 '0').take 9) 0 := by
  rw [List.take_append, List.take_replicate, Nat.min_eq_left (Nat.sub_le _ _), Nat.ofDigitChars_append,
    Nat.ofDigitChars_replicate_zero, fractionNanos, digitsValue_eq, Nat.mul_comm]
  rfl

lemma readFraction_append (f : Option Fraction) (h : IsCut rest) :
    readFraction (f.elim [] Fraction.chars ++ rest) = some (f.elim 0 Fraction.nanos, rest) := by
  cases f with
  | none =>
    cases rest with
    | nil => rfl
    | cons c rest =>
      have hpoint : c ≠ '.' := (h c rfl).2.1
      simp [readFraction, hpoint]
  | some f =>
    have hdrop : (f.digits ++ rest).dropWhile Char.isDigit = rest := by
      rw [List.dropWhile_append_of_pos f.isDigit_of_mem]
      cases rest with
      | nil => rfl
      | cons c rest => exact List.dropWhile_cons_of_neg (by simp [(h c rfl).1])
    simp only [Option.elim_some, Fraction.chars, List.cons_append, readFraction, h.takeWhile_digits f, hdrop]
    split
    case h_1 hnil => exact absurd hnil f.ne_nil
    case h_2 => rw [fractionNanos_eq, Fraction.nanos]

lemma exists_of_readFraction {nanos : Nat} (h : readFraction cs = some (nanos, rest)) :
    ∃ f : Option Fraction, cs = f.elim [] Fraction.chars ++ rest ∧ nanos = f.elim 0 Fraction.nanos := by
  unfold readFraction at h
  split at h
  case h_1 cs =>
    split at h
    case h_1 => cases h
    case h_2 hne =>
      obtain ⟨rfl, rfl⟩ := Prod.mk.inj (Option.some.inj h)
      refine ⟨some ⟨cs.takeWhile Char.isDigit, hne, fun c => List.mem_takeWhile_imp⟩, ?_, fractionNanos_eq _⟩
      exact congrArg ('.' :: ·) List.takeWhile_append_dropWhile.symm
  case h_2 =>
    obtain ⟨rfl, rfl⟩ := Prod.mk.inj (Option.some.inj h)
    exact ⟨none, rfl, rfl⟩

lemma readOffset_of_zone (zone : Option Zone) (h : ∀ z ∈ zone, z.IsValid ∧ z.HasColon) :
    readOffset (zone.elim [] Zone.chars) = some (zone.elim 0 Zone.offset) := by
  cases zone with
  | none => rfl
  | some z =>
    cases z with
    | universal => rfl
    | shifted ahead hours colon minutes =>
      obtain ⟨⟨hhours, hminutes⟩, rfl⟩ := h _ rfl
      have hlast : readFixed 2 minutes.chars = some (minutes.value, []) := by
        simpa using readFixed_append minutes []
      have hvalid : ¬(23 < hours.value ∨ 59 < minutes.value) := by omega
      cases ahead <;>
        simp [Zone.chars, Zone.offset, readOffset, readChar, readFixed_append, hlast, hvalid]

lemma exists_of_readOffset {ahead : Int} (h : readOffset cs = some ahead) : ∃ zone : Option Zone,
    cs = zone.elim [] Zone.chars ∧ (∀ z ∈ zone, z.IsValid ∧ z.HasColon) ∧ ahead = zone.elim 0 Zone.offset := by
  unfold readOffset at h
  split at h
  · exact ⟨none, rfl, by simp, (Option.some.inj h).symm⟩
  · exact ⟨some .universal, rfl, by simp [Zone.IsValid, Zone.HasColon], (Option.some.inj h).symm⟩
  case h_3 sign cs _ =>
    simp only [Option.bind_eq_bind, Option.bind_eq_some_iff, Prod.exists, readFixed_iff, readChar_iff] at h
    obtain ⟨_, _, ⟨hours, rfl, rfl⟩, _, rfl, _, last, ⟨minutes, rfl, rfl⟩, h⟩ := h
    split at h
    case isTrue => cases h
    case isFalse hvalid =>
      simp only [Bool.or_eq_true, Bool.not_eq_true', decide_eq_true_eq, not_or, List.isEmpty_eq_false_iff,
        not_not] at hvalid
      obtain ⟨⟨rfl, hhours⟩, hminutes⟩ := hvalid
      have hzone : ∀ ahead, (Zone.shifted ahead hours true minutes).IsValid ∧
          (Zone.shifted ahead hours true minutes).HasColon := fun _ => ⟨⟨by omega, by omega⟩, rfl⟩
      split_ifs at h with hplus hminus
      · refine ⟨some (.shifted true hours true minutes), ?_, by simp [hzone], ?_⟩
        · simp [Zone.chars, hplus]
        · simpa [Zone.offset] using h.symm
      · refine ⟨some (.shifted false hours true minutes), ?_, by simp [hzone], ?_⟩
        · simp [Zone.chars, hminus]
        · simpa [Zone.offset] using h.symm

lemma readSeconds_of_written (date : Date) (hour minute : Nat) {s : Seconds} {zone : Option Zone}
    (hs : s.whole.value ≤ 60) (hz : ∀ z ∈ zone, z.IsValid ∧ z.HasColon) :
    readSeconds date hour minute (s.whole.chars ++ (s.fraction.elim [] Fraction.chars ++ zone.elim [] Zone.chars)) =
      some (ofClock date hour minute s.whole.value (s.fraction.elim 0 Fraction.nanos) (zone.elim 0 Zone.offset)) := by
  simp only [readSeconds, readFixed_append, Option.bind_eq_bind, Option.bind_some,
    readFraction_append s.fraction (isCut_zone zone), readOffset_of_zone zone hz]
  exact if_pos hs

lemma exists_of_readSeconds {date : Date} {hour minute : Nat} {t : Instant}
    (h : readSeconds date hour minute cs = some t) : ∃ (s : Seconds) (zone : Option Zone),
      cs = s.whole.chars ++ (s.fraction.elim [] Fraction.chars ++ zone.elim [] Zone.chars) ∧ s.whole.value ≤ 60 ∧
        (∀ z ∈ zone, z.IsValid ∧ z.HasColon) ∧
        t = ofClock date hour minute s.whole.value (s.fraction.elim 0 Fraction.nanos) (zone.elim 0 Zone.offset) := by
  simp only [readSeconds, Option.bind_eq_bind, Option.bind_eq_some_iff, Prod.exists, readFixed_iff] at h
  obtain ⟨_, _, ⟨whole, rfl, rfl⟩, _, _, hfraction, _, hoffset, h⟩ := h
  obtain ⟨fraction, rfl, rfl⟩ := exists_of_readFraction hfraction
  obtain ⟨zone, rfl, hzone, rfl⟩ := exists_of_readOffset hoffset
  split at h
  case isFalse => cases h
  case isTrue hvalid => exact ⟨⟨whole, fraction⟩, zone, rfl, hvalid, hzone, (Option.some.inj h).symm⟩

end Instant

namespace DateText

namespace Clock

lemma readTime_reading {c : Clock} (hc : c.IsValid) (hfull : c.IsFull) (date : Date) :
    Instant.readTime date c.reading = some (c.moment date) := by
  obtain ⟨letter, hour, minute, seconds, zone⟩ := c
  obtain ⟨hhour, hminute, hsecond, hzone⟩ := hc
  have hclock : ∀ rest, Instant.readClock (hour.chars ++ ':' :: (minute.chars ++ rest)) =
      some (hour.value, minute.value, rest) := fun rest =>
    Instant.readClock_iff.mpr ⟨hour, minute, rfl, rfl, rfl, hhour, hminute⟩
  rw [Instant.readTime, reading, hclock]
  cases seconds with
  | none =>
    obtain rfl : zone = none := by
      cases zone with
      | none => rfl
      | some z => exact absurd (hfull z rfl).1 (by simp)
    rfl
  | some s =>
    have hread := Instant.readSeconds_of_written date hour.value minute.value hsecond
      fun z hz => ⟨hzone z hz, (hfull z hz).2⟩
    simpa [Seconds.chars, moment, second, fractionNanos, offset] using hread

lemma exists_of_readTime {date : Date} {cs : List Char} {t : Instant} (h : Instant.readTime date cs = some t)
    (letter : Bool) : ∃ c : Clock, c.letter = letter ∧ cs = c.reading ∧ c.IsValid ∧ c.IsFull ∧ t = c.moment date := by
  simp only [Instant.readTime, Option.bind_eq_bind, Option.bind_eq_some_iff, Prod.exists, Instant.readClock_iff] at h
  obtain ⟨_, _, _, ⟨hour, minute, rfl, rfl, rfl, hhour, hminute⟩, h⟩ := h
  split at h
  · exact ⟨⟨letter, hour, minute, none, none⟩, rfl, by simp [reading], ⟨hhour, hminute, Nat.zero_le _, by simp⟩,
      by simp [IsFull], (Option.some.inj h).symm⟩
  · obtain ⟨s, zone, rfl, hsecond, hzone, rfl⟩ := Instant.exists_of_readSeconds h
    exact ⟨⟨letter, hour, minute, some s, zone⟩, rfl, by simp [reading, Seconds.chars],
      ⟨hhour, hminute, hsecond, fun z hz => (hzone z hz).1⟩, fun z hz => ⟨rfl, (hzone z hz).2⟩, rfl⟩
  · cases h

end Clock

theorem parse?_iff {s : String} {t : Instant} : Instant.parse? s = some t ↔
    ∃ w : DateText, w.chars = (Text.trim s).toList ∧ w.IsValid ∧ w.IsFull ∧ w.moment = t := by
  simp only [Instant.parse?, Option.bind_eq_bind, Option.bind_eq_some_iff, Prod.exists, Instant.readDate_iff]
  constructor
  · rintro ⟨_, rest, ⟨year, month, day, hchars, rfl, hdate⟩, h⟩
    split at h
    · exact ⟨⟨year, month, day, none⟩, hchars.symm, ⟨hdate, by simp⟩, by simp [IsFull], Option.some.inj h⟩
    case h_2 c cs =>
      split at h
      case isFalse => cases h
      case isTrue hc =>
        obtain ⟨clock, hletter, rfl, hvalid, hfull, rfl⟩ := Clock.exists_of_readTime h (c = 'T')
        refine ⟨⟨year, month, day, some clock⟩, ?_, ⟨hdate, by simpa using hvalid⟩, by simpa [IsFull] using hfull, rfl⟩
        have hsign : (if clock.letter then 'T' else ' ') = c := by
          rw [hletter]
          by_cases hT : c = 'T'
          · simp [hT]
          · simp_all
        simp [hchars, chars, Clock.chars, hsign]
  · rintro ⟨⟨year, month, day, clock⟩, hchars, ⟨hdate, hclock⟩, hfull, rfl⟩
    refine ⟨_, _, ⟨year, month, day, hchars.symm, rfl, hdate⟩, ?_⟩
    cases clock with
    | none => rfl
    | some c =>
      have hread := Clock.readTime_reading (hclock c rfl) (hfull c rfl)
      cases hl : c.letter <;> simp [Clock.chars, hl, hread, moment, DateText.date]

end DateText

namespace Instant

/-- A text that is read as a moment is, between the white space at its ends, a written date in just one way,
with the fields of a day and of a clock, and the moment is what it denotes; such a date is read unless its
offset lacks a colon or seconds before it. No other text is a moment. In a filter a text that is a moment
becomes that moment, cut to milliseconds, and any other stays as it is. -/
theorem read_moment_denoted (s : String) :
    (∀ t, parse? s = some t → ∃ w : DateText, w.chars = (Text.trim s).toList ∧
      (∀ w' : DateText, w'.chars = (Text.trim s).toList → w' = w) ∧ w.IsValid ∧ w.Denotes t) ∧
    (∀ w : DateText, w.chars = (Text.trim s).toList → w.IsValid → w.IsFull → ∃ t, parse? s = some t) ∧
    ((∀ w : DateText, w.chars = (Text.trim s).toList → ¬w.IsValid) → parse? s = none) ∧
    (parse? s = none → Bson.coerceDates (.string s) = .string s) ∧
    ∀ t, parse? s = some t →
      Bson.coerceDates (.string s) = .dateTime ((t.seconds * 1000000000 + t.nanos) / 1000000) := by
  have hread : ∀ t, parse? s = some t → ∃ w : DateText, w.chars = (Text.trim s).toList ∧ w.IsValid ∧ w.Denotes t := by
    intro t ht
    obtain ⟨w, hchars, hvalid, -, hmoment⟩ := parse?_iff.mp ht
    exact ⟨w, hchars, hvalid, (denotes_iff hvalid).mpr hmoment.symm⟩
  refine ⟨fun t ht => ?_, fun w hchars hvalid hfull => ?_, fun hother => ?_, fun hnone => ?_, fun t ht => ?_⟩
  · obtain ⟨w, hchars, hvalid, hdenotes⟩ := hread t ht
    exact ⟨w, hchars, fun w' hchars' => DateText.eq_of_chars_eq (hchars'.trans hchars.symm), hvalid, hdenotes⟩
  · exact ⟨w.moment, parse?_iff.mpr ⟨w, hchars, hvalid, hfull, rfl⟩⟩
  · refine Option.eq_none_iff_forall_ne_some.mpr fun t ht => ?_
    obtain ⟨w, hchars, hvalid, -⟩ := hread t ht
    exact hother w hchars hvalid
  · rw [Bson.coerceDates, hnone]
  · have hmillis : t.millis = (t.seconds * 1000000000 + t.nanos) / 1000000 := by
      rw [millis]
      omega
    rw [Bson.coerceDates, ht, ← hmillis]

theorem read_leap_second_of_old_year :
    let s := " 1970-01-01 00:29:60.0009876543+00:30"
    let t : Instant := ⟨-1, 1000987654⟩
    parse? s = some t ∧ (∃ w : DateText, w.chars = (Text.trim s).toList ∧ w.IsValid ∧ w.Denotes t) ∧
      Bson.coerceDates (.string s) = .dateTime 0 := by
  intro s t
  have ht : parse? s = some t := by decide
  obtain ⟨hdenoted, -, -, -, hmillis⟩ := read_moment_denoted s
  obtain ⟨w, hchars, -, hvalid, hdenotes⟩ := hdenoted t ht
  exact ⟨ht, ⟨w, hchars, hvalid, hdenotes⟩, by simpa [t] using hmillis t ht⟩

end Instant

end DataGrid
