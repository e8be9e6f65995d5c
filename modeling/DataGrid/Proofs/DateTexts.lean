import DataGrid.Bson.Display
import DataGrid.Calendar.Reader
import DataGrid.Text.CaseFold
import Mathlib.Data.List.TakeWhile
import Mathlib.Tactic.Lemma

namespace DataGrid

namespace Text

lemma blank_or_mem_trim {s : String} {c : Char} (hc : c ∈ s.toList) : isBlank c = true ∨ c ∈ (trim s).toList := by
  have hdrop : ∀ cs : List Char, c ∈ cs → isBlank c = true ∨ c ∈ cs.dropWhile isBlank := by
    intro cs h
    rw [← List.takeWhile_append_dropWhile (p := isBlank) (l := cs)] at h
    exact (List.mem_append.mp h).imp_left List.mem_takeWhile_imp
  rw [trim, String.toList_ofList, trimRight, trimLeft, List.mem_reverse]
  obtain hblank | hleft := hdrop s.toList hc
  · exact .inl hblank
  · exact hdrop _ (List.mem_reverse.mpr hleft)

lemma Span.eq_of_shiftIn {c d : Char} (spans : List Span)
    (hd : ∀ s ∈ spans, ∀ n, s.first ≤ n → s.image n ≠ d) (h : shiftIn spans c = d) : c = d := by
  induction spans with
  | nil => exact h
  | cons s spans ih =>
    rw [shiftIn] at h
    split_ifs at h with hbefore hhas
    · exact h
    · exact absurd h (hd s List.mem_cons_self c.toNat (Nat.not_lt.mp hbefore))
    · exact ih (fun s hs => hd s (List.mem_cons_of_mem _ hs)) h

lemma eq_of_fold_bracket {c : Char} (h : fold c = '(') : c = '(' := by
  have hafter : ∀ s ∈ foldSpans, (40 : Int) < s.first + s.shift := by decide +kernel
  refine Span.eq_of_shiftIn foldSpans (fun s hs n hn himage => ?_) h
  have hs := hafter s hs
  have hcode : (n + s.shift).toNat = 40 := by
    rw [Span.image, Char.ofNat] at himage
    by_cases hvalid : (n + s.shift).toNat.isValidChar
    · rw [dif_pos hvalid] at himage
      exact congrArg Char.toNat himage
    · rw [dif_neg hvalid] at himage
      cases himage
  omega

end Text

namespace Instant

def isDateChar (c : Char) : Bool := c.isDigit || ['-', ':', '.', '+', 'Z', 'T', ' '].contains c

def InDateChars (cs : List Char) : Prop := ∀ c ∈ cs, isDateChar c = true

lemma inDateChars_nil : InDateChars [] := by simp [InDateChars]

lemma InDateChars.cons {c : Char} {cs : List Char} (hc : isDateChar c = true) (h : InDateChars cs) :
    InDateChars (c :: cs) :=
  List.forall_mem_cons.mpr ⟨hc, h⟩

lemma InDateChars.after_digits {digits cs : List Char} (hdigits : ∀ c ∈ digits, c.isDigit = true)
    (h : InDateChars cs) : InDateChars (digits ++ cs) :=
  List.forall_mem_append.mpr ⟨fun c hc => by simp [isDateChar, hdigits c hc], h⟩

variable {cs rest : List Char}

lemma inDateChars_of_readFixed {width n : Nat} (h : readFixed width cs = some (n, rest)) (hrest : InDateChars rest) :
    InDateChars cs := by
  rw [readFixed] at h
  split at h
  case isFalse => cases h
  case isTrue hdigits =>
    obtain ⟨-, rfl⟩ := Prod.mk.inj (Option.some.inj h)
    simp only [Bool.and_eq_true, List.all_eq_true] at hdigits
    rw [← List.take_append_drop width cs]
    exact hrest.after_digits hdigits.2

lemma inDateChars_of_readChar {c : Char} (hc : isDateChar c = true) (h : readChar c cs = some rest)
    (hrest : InDateChars rest) : InDateChars cs := by
  cases cs with
  | nil => cases h
  | cons d cs =>
    rw [readChar] at h
    split at h
    case isFalse => cases h
    case isTrue hd =>
      obtain rfl := Option.some.inj h
      exact .cons (hd ▸ hc) hrest

lemma inDateChars_of_readDate {date : Date} (h : readDate cs = some (date, rest)) (hrest : InDateChars rest) :
    InDateChars cs := by
  simp only [readDate, Option.bind_eq_bind, Option.bind_eq_some_iff] at h
  obtain ⟨⟨year, _⟩, hyear, _, hdash, ⟨month, _⟩, hmonth, _, hdash', ⟨day, _⟩, hday, h⟩ := h
  split at h
  case isFalse => cases h
  case isTrue =>
    obtain ⟨-, rfl⟩ := Prod.mk.inj (Option.some.inj h)
    have hday := inDateChars_of_readFixed hday hrest
    have hmonth := inDateChars_of_readFixed hmonth (inDateChars_of_readChar rfl hdash' hday)
    exact inDateChars_of_readFixed hyear (inDateChars_of_readChar rfl hdash hmonth)

lemma inDateChars_of_readClock {hour minute : Nat} (h : readClock cs = some (hour, minute, rest))
    (hrest : InDateChars rest) : InDateChars cs := by
  simp only [readClock, Option.bind_eq_bind, Option.bind_eq_some_iff] at h
  obtain ⟨⟨hours, cs₁⟩, hhours, cs₂, hcolon, ⟨minutes, cs₃⟩, hminutes, h⟩ := h
  split at h
  case isFalse => cases h
  case isTrue =>
    obtain ⟨-, -, rfl⟩ : hours = hour ∧ minutes = minute ∧ cs₃ = rest := by simpa using h
    exact inDateChars_of_readFixed hhours (inDateChars_of_readChar rfl hcolon (inDateChars_of_readFixed hminutes hrest))

lemma inDateChars_of_readFraction {nanos : Nat} (h : readFraction cs = some (nanos, rest))
    (hrest : InDateChars rest) : InDateChars cs := by
  unfold readFraction at h
  split at h
  · split at h
    case h_1 => cases h
    case h_2 cs _ _ =>
      obtain ⟨-, rfl⟩ := Prod.mk.inj (Option.some.inj h)
      refine .cons rfl ?_
      rw [← List.takeWhile_append_dropWhile (p := Char.isDigit) (l := cs)]
      exact hrest.after_digits fun c => List.mem_takeWhile_imp
  · obtain ⟨-, rfl⟩ := Prod.mk.inj (Option.some.inj h)
    exact hrest

lemma inDateChars_of_readOffset {ahead : Int} (h : readOffset cs = some ahead) : InDateChars cs := by
  unfold readOffset at h
  split at h
  · exact inDateChars_nil
  · exact .cons rfl inDateChars_nil
  case h_3 sign cs _ =>
    simp only [Option.bind_eq_bind, Option.bind_eq_some_iff] at h
    obtain ⟨⟨hours, cs₁⟩, hhours, cs₂, hcolon, ⟨minutes, cs₃⟩, hminutes, h⟩ := h
    split at h
    case isTrue => cases h
    case isFalse hlast =>
      obtain rfl : cs₃ = [] := by
        have : cs₃.isEmpty = true := by simp_all
        exact List.isEmpty_iff.mp this
      have hsign : isDateChar sign = true := by
        split_ifs at h with hplus hminus
        · exact hplus ▸ rfl
        · exact hminus ▸ rfl
      have hminutes := inDateChars_of_readFixed hminutes inDateChars_nil
      exact .cons hsign (inDateChars_of_readFixed hhours (inDateChars_of_readChar rfl hcolon hminutes))

lemma inDateChars_of_readSeconds {date : Date} {hour minute : Nat} {t : Instant}
    (h : readSeconds date hour minute cs = some t) : InDateChars cs := by
  simp only [readSeconds, Option.bind_eq_bind, Option.bind_eq_some_iff] at h
  obtain ⟨⟨second, cs₁⟩, hsecond, ⟨nanos, cs₂⟩, hnanos, ahead, hahead, -⟩ := h
  exact inDateChars_of_readFixed hsecond (inDateChars_of_readFraction hnanos (inDateChars_of_readOffset hahead))

lemma inDateChars_of_readTime {date : Date} {t : Instant} (h : readTime date cs = some t) : InDateChars cs := by
  simp only [readTime, Option.bind_eq_bind, Option.bind_eq_some_iff] at h
  obtain ⟨⟨hour, minute, rest⟩, hclock, h⟩ := h
  refine inDateChars_of_readClock hclock ?_
  dsimp only at h
  split at h
  · exact inDateChars_nil
  · exact .cons rfl (inDateChars_of_readSeconds h)
  · cases h

lemma inDateChars_of_parse {s : String} {t : Instant} (h : parse? s = some t) : InDateChars (Text.trim s).toList := by
  simp only [parse?, Option.bind_eq_bind, Option.bind_eq_some_iff] at h
  obtain ⟨⟨date, rest⟩, hdate, h⟩ := h
  refine inDateChars_of_readDate hdate ?_
  dsimp only at h
  split at h
  · exact inDateChars_nil
  · split at h
    case isFalse => cases h
    case isTrue c cs hc =>
      refine .cons ?_ (inDateChars_of_readTime h)
      obtain rfl | rfl : c = ' ' ∨ c = 'T' := by simpa using hc
      all_goals rfl

lemma no_bracket_of_parse {s : String} {t : Instant} (h : parse? s = some t) : '(' ∉ s.toList := by
  intro hmem
  obtain hblank | hin := Text.blank_or_mem_trim hmem
  · exact absurd hblank (by decide)
  · exact absurd (inDateChars_of_parse h _ hin) (by decide)

end Instant

lemma Bson.bracket_mem_literal (millis : Int) : '(' ∈ (dateTime millis).literal.toList := by
  simp [literal, display]

end DataGrid
