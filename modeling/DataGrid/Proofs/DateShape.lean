import DataGrid.Proofs.DateReading
import DataGrid.Proofs.Numerals
import DataGrid.Proofs.Pattern.Blocks
import DataGrid.Proofs.Pattern.Size
import DataGrid.Proofs.Pattern.Spelling

namespace DataGrid

lemma Text.isTrimmed_between {front back : List Char} (hfront : ∀ c ∈ front, isBlank c = false) (hf : front ≠ [])
    (hback : ∀ c ∈ back, isBlank c = false) (hb : back ≠ []) (middle : List Char) :
    IsTrimmed (front ++ (middle ++ back)) := by
  obtain ⟨first, front, rfl⟩ := List.exists_cons_of_ne_nil hf
  obtain ⟨back, last, rfl⟩ := (List.eq_nil_or_concat' back).resolve_left hb
  have h := isTrimmed_of_ends (hfront first List.mem_cons_self) (hback last (by simp)) (front ++ (middle ++ back))
  simpa using h

namespace DateText

open Pattern Pattern.Reading

def shape : String := "^\\d\x7b4\x7d-\\d\x7b2\x7d-\\d\x7b2\x7d" ++
  "(?:[ T]\\d\x7b2\x7d:\\d\x7b2\x7d(?::\\d\x7b2\x7d(?:\\.\\d+)?)?(?:Z|[+-]\\d\x7b2\x7d:?\\d\x7b2\x7d)?)?$"

namespace Shape

def oneOf (cs : List Char) : Pattern := .set (.ofSpans (cs.map CharSet.point))

def digits (n : Nat) : Pattern := .times n (some n) (.set .digit)

def optional (p : Pattern) : Pattern := .times 0 (some 1) p

def fraction : Pattern := .seq [.char false '.', .times 1 none (.set .digit)]

def seconds : Pattern := .seq [.char false ':', digits 2, optional fraction]

def zone : Pattern :=
  .alt [.seq [.char false 'Z'], .seq [oneOf ['-', '+'], digits 2, optional (.char false ':'), digits 2]]

def clock : Pattern :=
  .seq [oneOf ['T', ' '], digits 2, .char false ':', digits 2, optional seconds, optional zone]

def date : List Pattern :=
  [digits 4, .char false '-', digits 2, .char false '-', digits 2, optional clock]

def held : Pattern := .seq (.place .textStart :: (date ++ [.place .textEnd]))

lemma read_shape : Pattern.read false shape = .ok held := by
  rfl

lemma oneOf_letter : oneOf ['T', ' '] = .set ⟨[(32, 32), (84, 84)]⟩ := by
  simp [oneOf, CharSet.ofSpans, List.mergeSort, CharSet.join, CharSet.joinFrom, CharSet.point]

lemma oneOf_sign : oneOf ['-', '+'] = .set ⟨[(43, 43), (45, 45)]⟩ := by
  simp [oneOf, CharSet.ofSpans, List.mergeSort, CharSet.join, CharSet.joinFrom, CharSet.point]

lemma setSize_digit_le (back : Bool) : Normal.setSize back .digit ≤ 160064 := by
  have hordered : CharSet.Ordered CharSet.digit.spans := by
    unfold CharSet.Ordered
    decide
  have hweight : CharSet.weight CharSet.digit.spans ≤ 1000 := by decide
  have hsize := Normal.setSize_le back hordered
  omega

def optionalNormal (n : Normal) : Normal := .times 0 (some 1) n

-- the sets are computed first, as sorting does not unfold
lemma normal_held :
    let two : Normal := .times 2 (some 2) (.set .digit)
    let fraction : Normal := .seq [.text ['.'], .times 1 none (.set .digit)]
    let seconds : Normal := .seq [.text [':'], two, optionalNormal fraction]
    let zone : Normal := .alt [.text ['Z'], .seq [.set ⟨[(43, 43), (45, 45)]⟩, two, optionalNormal (.text [':']), two]]
    let clock : Normal := .seq [.set ⟨[(32, 32), (84, 84)]⟩, two, .text [':'], two, optionalNormal seconds,
      optionalNormal zone]
    held.normal = .seq [.place .textStart, .times 4 (some 4) (.set .digit), .text ['-'], two, .text ['-'], two,
      optionalNormal clock, .place .textEnd] := by
  rw [held, date, clock, zone, oneOf_letter, oneOf_sign]
  rfl

lemma fits_held : held.fits = true := by
  have hfootprint : ∀ back, held.normal.footprint back ≤ memoryLimit := by
    intro back
    have hdigit := setSize_digit_le back
    have hlimit : memoryLimit = 10485760 := rfl
    have hletter : Normal.setSize back ⟨[(32, 32), (84, 84)]⟩ = 80 := rfl
    have hsign : Normal.setSize back ⟨[(43, 43), (45, 45)]⟩ = 80 := rfl
    have hsize : held.normal.size back ≤ 1000 + 19 * Normal.setSize back .digit := by
      rw [normal_held]
      simp [Normal.size, Normal.sizeAll, Normal.repeatedSize, optionalNormal, Normal.text?, Normal.bytes,
        Normal.utf8Width, hletter, hsign]
      omega
    rw [Normal.footprint]
    split_ifs <;> omega
  simp [fits, hfootprint]

lemma parse_shape : Pattern.parse false shape = .ok held.program := by
  rw [Pattern.parse, read_shape]
  exact if_pos fits_held

lemma spells_optional {α : Type} {p : Pattern} {f : α → List Char} (h : Spells p.reading f) :
    Spells (optional p).reading fun x : Option α => x.elim [] f := by
  have hbounds : p.normal.bounds 0 (some 1) = (0, some 1) := by
    rw [Normal.bounds]
    split <;> rfl
  rw [optional, reading, hbounds]
  exact h.maybe

lemma spells_digits (n : Nat) : Spells (digits n).reading fun d : Digits n => d.chars := by
  have hbounds : (Pattern.set .digit).normal.bounds n (some n) = (n, some n) := rfl
  have hreading : (digits n).reading = (Reading.one CharSet.digit.has).power n := by
    rw [digits, reading, hbounds, reading, Reading.times, Option.map_some, Nat.sub_self, upTo_zero, andThen_nothing]
  refine ⟨fun {before found rest} hfound => ?_⟩
  rw [hreading, power_one_iff]
  constructor
  · rintro ⟨hlength, hall⟩
    exact ⟨⟨found, hlength, fun c hc => CharSet.has_digit (hfound c hc) ▸ hall c hc⟩, rfl⟩
  · rintro ⟨d, rfl⟩
    exact ⟨d.length_eq, fun c hc => (CharSet.has_digit (hfound c hc)).trans (d.isDigit_of_mem c hc)⟩

lemma spells_fraction : Spells fraction.reading Fraction.chars := by
  have hdigits : Spells (Pattern.times 1 none (.set .digit)).reading Fraction.digits := by
    have hbounds : (Pattern.set .digit).normal.bounds 1 none = (1, none) := rfl
    refine ⟨fun {before found rest} hfound => ?_⟩
    rw [reading, hbounds, reading, plus_one_iff]
    constructor
    · rintro ⟨hne, hall⟩
      exact ⟨⟨found, hne, fun c hc => CharSet.has_digit (hfound c hc) ▸ hall c hc⟩, rfl⟩
    · rintro ⟨f, rfl⟩
      exact ⟨f.ne_nil, fun c hc => (CharSet.has_digit (hfound c hc)).trans (f.isDigit_of_mem c hc)⟩
  exact ((Spells.char '.').andThen (hdigits.andThen .nothing)).congr (fun x => x.2.1)
    (fun f => ⟨((), f, ()), rfl⟩) fun x => by simp [Fraction.chars]

lemma spells_seconds : Spells seconds.reading Seconds.chars := by
  have h := (Spells.char ':').andThen ((spells_digits 2).andThen
    ((spells_optional spells_fraction).andThen .nothing))
  exact h.congr (fun x => ⟨x.2.1, x.2.2.1⟩) (fun s => ⟨((), s.whole, s.fraction, ()), rfl⟩)
    fun x => by simp [Seconds.chars]

lemma spells_sign : Spells (oneOf ['-', '+']).reading fun ahead : Bool => [if ahead then '+' else '-'] := by
  rw [oneOf_sign, reading]
  refine .one fun c _ => (CharSet.has_points_iff (a := '+') (b := '-') (by decide)).trans ?_
  simp [or_comm, eq_comm (a := c)]

lemma spells_letter : Spells (oneOf ['T', ' ']).reading fun letter : Bool => [if letter then 'T' else ' '] := by
  rw [oneOf_letter, reading]
  refine .one fun c _ => (CharSet.has_points_iff (a := ' ') (b := 'T') (by decide)).trans ?_
  simp [eq_comm (a := c)]

lemma spells_zone : Spells zone.reading Zone.chars := by
  have huniversal := (Spells.char 'Z').andThen .nothing
  have hshifted := spells_sign.andThen ((spells_digits 2).andThen
    ((spells_optional (.char ':')).andThen ((spells_digits 2).andThen .nothing)))
  refine (huniversal.either hshifted).congr
    (Sum.elim (fun _ => .universal) fun x => .shifted x.1 x.2.1 x.2.2.1.isSome x.2.2.2.1) ?_ ?_
  · intro z
    cases z with
    | universal => exact ⟨.inl ((), ()), rfl⟩
    | shifted ahead hours colon minutes =>
      cases colon
      · exact ⟨.inr (ahead, hours, none, minutes, ()), rfl⟩
      · exact ⟨.inr (ahead, hours, some (), minutes, ()), rfl⟩
  · rintro (_ | ⟨ahead, hours, _ | _, minutes, _⟩) <;> simp [Zone.chars]

lemma spells_clock : Spells clock.reading Clock.chars := by
  have h := spells_letter.andThen ((spells_digits 2).andThen ((Spells.char ':').andThen
    ((spells_digits 2).andThen ((spells_optional spells_seconds).andThen
      ((spells_optional spells_zone).andThen .nothing)))))
  exact h.congr (fun x => ⟨x.1, x.2.1, x.2.2.2.1, x.2.2.2.2.1, x.2.2.2.2.2.1⟩)
    (fun c => ⟨(c.letter, c.hour, (), c.minute, c.seconds, c.zone, ()), rfl⟩)
    fun x => by simp [Clock.chars, Clock.reading]

lemma spells_date : Spells (Pattern.seq date).reading DateText.chars := by
  have h := (spells_digits 4).andThen ((Spells.char '-').andThen ((spells_digits 2).andThen
    ((Spells.char '-').andThen ((spells_digits 2).andThen ((spells_optional spells_clock).andThen .nothing)))))
  exact h.congr (fun x => ⟨x.1, x.2.2.1, x.2.2.2.2.1, x.2.2.2.2.2.1⟩)
    (fun w => ⟨(w.year, (), w.month, (), w.day, w.clock, ()), rfl⟩) fun x => by simp [DateText.chars]

lemma findsIn_iff {s : String} (hs : Ascii s.toList) :
    held.program.findsIn s = true ↔ ∃ w : DateText, w.chars = s.toList := by
  rw [held, findsIn_held_iff]
  exact spells_date.iff hs

end Shape

section

variable {c : Char}

lemma Digits.not_blank {places : Nat} (d : Digits places) (hc : c ∈ d.chars) : Text.isBlank c = false :=
  Count.isBlank_of_isDigit (d.isDigit_of_mem c hc)

lemma Seconds.not_blank {s : Seconds} (hc : c ∈ s.chars) : Text.isBlank c = false := by
  obtain ⟨whole, fraction⟩ := s
  rw [chars, List.mem_cons, List.mem_append] at hc
  obtain rfl | hc | hc := hc
  · rfl
  · exact whole.not_blank hc
  · cases fraction with
    | none => cases hc
    | some f =>
      obtain rfl | hc := List.mem_cons.mp hc
      · rfl
      · exact Count.isBlank_of_isDigit (f.isDigit_of_mem c hc)

lemma Zone.not_blank {z : Zone} (hc : c ∈ z.chars) : Text.isBlank c = false := by
  cases z with
  | universal =>
    obtain rfl := List.mem_singleton.mp hc
    rfl
  | shifted ahead hours colon minutes =>
    simp only [chars, List.mem_cons, List.mem_append] at hc
    obtain rfl | hc | hc | hc := hc
    · cases ahead <;> rfl
    · exact hours.not_blank hc
    · cases colon with
      | false => cases hc
      | true =>
        obtain rfl := List.mem_singleton.mp hc
        rfl
    · exact minutes.not_blank hc

lemma Clock.not_blank {k : Clock} (hc : c ∈ k.reading) : Text.isBlank c = false := by
  obtain ⟨letter, hour, minute, seconds, zone⟩ := k
  simp only [reading, List.mem_cons, List.mem_append] at hc
  obtain hc | rfl | hc | hc | hc := hc
  · exact hour.not_blank hc
  · rfl
  · exact minute.not_blank hc
  · cases seconds with
    | none => cases hc
    | some s => exact Seconds.not_blank hc
  · cases zone with
    | none => cases hc
    | some z => exact Zone.not_blank hc

end

lemma Digits.ne_nil {places : Nat} (d : Digits (places + 1)) : d.chars ≠ [] := by
  intro hnil
  have hlength := d.length_eq
  simp [hnil] at hlength

lemma isTrimmed_chars (w : DateText) : Text.IsTrimmed w.chars := by
  obtain ⟨year, month, day, clock⟩ := w
  have hbetween : ∀ middle back, back ≠ [] → (∀ c ∈ back, Text.isBlank c = false) →
      Text.IsTrimmed (year.chars ++ (middle ++ back)) := fun middle back hne hback =>
    Text.isTrimmed_between (fun _ => year.not_blank) year.ne_nil hback hne middle
  cases clock with
  | none =>
    have h := hbetween ('-' :: (month.chars ++ ['-'])) day.chars day.ne_nil fun _ => day.not_blank
    simpa [chars] using h
  | some k =>
    have h := hbetween ('-' :: (month.chars ++ '-' :: (day.chars ++ [if k.letter then 'T' else ' ']))) k.reading
      (by simp [Clock.reading]) fun _ => Clock.not_blank
    simpa [chars, Clock.chars] using h

/-- The pattern of dates fits just the written dates among the ASCII texts. One with the fields of a day and of a
clock is read as the moment that it denotes, except where an offset has no colon or no seconds before it: the
pattern leaves both open, but nothing reads such a text, and as a value of a filter it stays a text. -/
theorem fitting_read_iff_full {s : String} (hs : ∀ c ∈ s.toList, c.toNat < 128) : ∃ p : Pattern.Program,
    Pattern.parse false shape = .ok p ∧ (p.findsIn s = true ↔ ∃ w : DateText, w.chars = s.toList) ∧
      ∀ w : DateText, w.chars = s.toList → w.IsValid →
        (w.IsFull → ∃ t, Instant.parse? s = some t ∧ w.Denotes t ∧ Bson.coerceDates (.string s) = .dateTime t.millis) ∧
        (¬w.IsFull → Instant.parse? s = none ∧ Bson.coerceDates (.string s) = .string s) := by
  refine ⟨Shape.held.program, Shape.parse_shape, Shape.findsIn_iff hs, fun w hchars hvalid => ?_⟩
  have htrim : (Text.trim s).toList = w.chars := by
    rw [Text.trim_of_isTrimmed (hchars ▸ isTrimmed_chars w), hchars]
  constructor
  · intro hfull
    have hread : Instant.parse? s = some w.moment := parse?_iff.mpr ⟨w, htrim.symm, hvalid, hfull, rfl⟩
    exact ⟨w.moment, hread, (denotes_iff hvalid).mpr rfl, by rw [Bson.coerceDates, hread]⟩
  · intro hpart
    have hread : Instant.parse? s = none := by
      refine Option.eq_none_iff_forall_ne_some.mpr fun t ht => ?_
      obtain ⟨w', hchars', -, hfull, -⟩ := parse?_iff.mp ht
      exact hpart (eq_of_chars_eq (hchars'.trans htrim) ▸ hfull)
    exact ⟨hread, by rw [Bson.coerceDates, hread]⟩

def marchNoon (colon : Bool) : DateText where
  year := ⟨['2', '0', '2', '4'], rfl, by simp⟩
  month := ⟨['0', '3'], rfl, by simp⟩
  day := ⟨['0', '1'], rfl, by simp⟩
  clock := some {
    letter := true
    hour := ⟨['1', '2'], rfl, by simp⟩
    minute := ⟨['3', '0'], rfl, by simp⟩
    seconds := some ⟨⟨['0', '0'], rfl, by simp⟩, none⟩
    zone := some (.shifted true ⟨['0', '2'], rfl, by simp⟩ colon ⟨['0', '0'], rfl, by simp⟩) }

lemma marchNoon_isValid (colon : Bool) : (marchNoon colon).IsValid := by
  refine ⟨by cases colon <;> decide, ?_⟩
  rintro _ ⟨⟩
  refine ⟨by cases colon <;> decide, by cases colon <;> decide, by cases colon <;> decide, ?_⟩
  rintro _ ⟨⟩
  exact ⟨by cases colon <;> decide, by cases colon <;> decide⟩

theorem offset_with_colon_read : let s := "2024-03-01T12:30:00+02:00"
    (∀ c ∈ s.toList, c.toNat < 128) ∧ (∃ p, Pattern.parse false shape = .ok p ∧ p.findsIn s = true) ∧
      ∃ t, Instant.parse? s = some t ∧ (marchNoon true).Denotes t ∧
        Bson.coerceDates (.string s) = .dateTime t.millis := by
  intro s
  have hs : ∀ c ∈ s.toList, c.toNat < 128 := by simp [s]
  have hchars : (marchNoon true).chars = s.toList := by decide
  have hfull : (marchNoon true).IsFull := by
    rintro _ ⟨⟩ _ ⟨⟩
    exact ⟨rfl, rfl⟩
  obtain ⟨p, hp, hfits, hread⟩ := fitting_read_iff_full hs
  exact ⟨hs, ⟨p, hp, hfits.mpr ⟨_, hchars⟩⟩, (hread _ hchars (marchNoon_isValid true)).1 hfull⟩

/-- The pattern takes an offset without a colon, but nothing reads it. -/
theorem offset_without_colon_unread : let s := "2024-03-01T12:30:00+0200"
    (∃ p, Pattern.parse false shape = .ok p ∧ p.findsIn s = true) ∧
      (∃ w : DateText, w.chars = s.toList ∧ w.IsValid ∧ w.Denotes ⟨1709289000, 0⟩) ∧
      Instant.parse? s = none ∧ Bson.coerceDates (.string s) = .string s := by
  intro s
  have hchars : (marchNoon false).chars = s.toList := by decide
  have hdenotes : (marchNoon false).Denotes ⟨1709289000, 0⟩ := (denotes_iff (marchNoon_isValid false)).mpr (by decide)
  have hread : Instant.parse? s = none := by decide
  exact ⟨⟨_, Shape.parse_shape, (Shape.findsIn_iff (by simp [Pattern.Reading.Ascii, s])).mpr ⟨_, hchars⟩⟩,
    ⟨_, hchars, marchNoon_isValid false, hdenotes⟩, hread, by rw [Bson.coerceDates, hread]⟩

end DateText

end DataGrid
