import DataGrid.Calendar.Date
import Mathlib.Data.Int.Init
import Mathlib.Tactic.Lemma
import Mathlib.Tactic.SplitIfs

/-! Days counted through the calendar, one after the other over the ends of months and years. The count
from 1 January 1970 is the one that year, month and day give by themselves. -/

namespace DataGrid.Date

def next (d : Date) : Date :=
  if d.day < monthLength d.year d.month then ⟨d.year, d.month, d.day + 1⟩
  else if d.month < 12 then ⟨d.year, d.month + 1, 1⟩
  else ⟨d.year + 1, 1, 1⟩

/-- A day comes so many days after 1 January 1970, or before it where the number is negative. -/
inductive Follows : Date → Int → Prop
  | epoch : Follows ⟨1970, 1, 1⟩ 0
  | next {d : Date} {days : Int} (hd : d.isValid = true) (h : Follows d days) : Follows d.next (days + 1)
  | back {d : Date} {days : Int} (hd : d.isValid = true) (h : Follows d.next (days + 1)) : Follows d days

variable {d : Date} {year days : Int} {month day : Nat}

lemma isValid_iff : d.isValid = true ↔
    (1 ≤ d.month ∧ d.month ≤ 12) ∧ 1 ≤ d.day ∧ d.day ≤ monthLength d.year d.month := by
  simp [isValid, and_assoc]

lemma monthLength_pos (year : Int) (month : Nat) : 1 ≤ monthLength year month := by
  unfold monthLength
  split
  · split <;> decide
  all_goals decide

lemma monthStart_succ (year : Int) (h : 1 ≤ month) :
    monthStart year (month + 1) = monthStart year month + monthLength year month := by
  obtain ⟨month, rfl⟩ := Nat.exists_eq_add_of_le' h
  rfl

lemma yearStart_succ (year : Int) :
    yearStart (year + 1) = yearStart year + (monthStart year 12 + monthLength year 12 : Nat) := by
  have hlength : monthStart year 12 + monthLength year 12 = 365 + if isLeap year then 1 else 0 := by
    simp only [monthStart, monthLength]
    split <;> rfl
  rw [hlength, yearStart, yearStart, isLeap]
  simp only [Bool.and_eq_true, Bool.or_eq_true, beq_iff_eq, bne_iff_ne]
  split_ifs <;> omega

lemma toDays_next (h : d.isValid = true) : d.next.toDays = d.toDays + 1 := by
  obtain ⟨⟨hmonth, hlast⟩, hday, hend⟩ := isValid_iff.mp h
  rw [next]
  split_ifs with hinside hmonths
  · simp only [toDays]
    omega
  · simp only [toDays, monthStart_succ d.year hmonth]
    omega
  · have hdecember : d.month = 12 := by omega
    have hyear := yearStart_succ d.year
    rw [hdecember] at hinside hend
    simp only [toDays, hdecember, monthStart] at *
    omega

section

variable {P : Date → Prop}

lemma iff_of_month (h : ∀ d, d.isValid = true → (P d ↔ P d.next)) (hmonth : 1 ≤ month ∧ month ≤ 12)
    (hday : day < monthLength year month) : P ⟨year, month, 1⟩ ↔ P ⟨year, month, day + 1⟩ := by
  induction day with
  | zero => rfl
  | succ day ih =>
    have hvalid : isValid ⟨year, month, day + 1⟩ = true := isValid_iff.mpr ⟨hmonth, by simp, Nat.le_of_lt hday⟩
    have hnext : next ⟨year, month, day + 1⟩ = ⟨year, month, day + 2⟩ := if_pos hday
    rw [ih (by omega), h _ hvalid, hnext]

lemma iff_nextMonth (h : ∀ d, d.isValid = true → (P d ↔ P d.next)) (hmonth : 1 ≤ month ∧ month ≤ 12) :
    P ⟨year, month, 1⟩ ↔ P (next ⟨year, month, monthLength year month⟩) := by
  have hpos := monthLength_pos year month
  have hlast : monthLength year month - 1 + 1 = monthLength year month := by omega
  rw [iff_of_month h hmonth (show monthLength year month - 1 < _ by omega), hlast]
  exact h _ (isValid_iff.mpr ⟨hmonth, hpos, Nat.le_refl _⟩)

lemma iff_of_year (h : ∀ d, d.isValid = true → (P d ↔ P d.next)) (hmonth : month < 12) :
    P ⟨year, 1, 1⟩ ↔ P ⟨year, month + 1, 1⟩ := by
  induction month with
  | zero => rfl
  | succ month ih =>
    have hnext : next ⟨year, month + 1, monthLength year (month + 1)⟩ = ⟨year, month + 2, 1⟩ := by
      rw [next, if_neg (Nat.lt_irrefl _), if_pos hmonth]
    rw [ih (by omega), iff_nextMonth h (by omega), hnext]

lemma iff_nextYear (h : ∀ d, d.isValid = true → (P d ↔ P d.next)) (year : Int) :
    P ⟨year, 1, 1⟩ ↔ P ⟨year + 1, 1, 1⟩ := by
  have hnext : next ⟨year, 12, monthLength year 12⟩ = ⟨year + 1, 1, 1⟩ := by
    rw [next, if_neg (Nat.lt_irrefl _), if_neg (Nat.lt_irrefl _)]
  rw [iff_of_year h (show 11 < 12 by decide), iff_nextMonth h (by decide), hnext]

lemma forall_days (h : ∀ d, d.isValid = true → (P d ↔ P d.next)) (hepoch : P ⟨1970, 1, 1⟩) (hd : d.isValid = true) :
    P d := by
  have hyears : ∀ year : Int, P ⟨year, 1, 1⟩ := by
    intro year
    induction year using Int.inductionOn' (b := 1970) with
    | zero => exact hepoch
    | succ year _ ih => exact (iff_nextYear h year).mp ih
    | pred year _ ih =>
      rw [iff_nextYear h, Int.sub_add_cancel]
      exact ih
  obtain ⟨hmonth, hday, hend⟩ := isValid_iff.mp hd
  have hmonths := (iff_of_year h (show d.month - 1 < 12 by omega)).mp (hyears d.year)
  rw [Nat.sub_add_cancel hmonth.1] at hmonths
  have hdays := (iff_of_month h hmonth (show d.day - 1 < _ by omega)).mp hmonths
  rwa [Nat.sub_add_cancel hday] at hdays

end

theorem follows_iff (h : d.isValid = true) : Follows d days ↔ days = d.toDays := by
  constructor
  · intro hfollows
    clear h
    induction hfollows with
    | epoch => rfl
    | next hd _ ih => rw [toDays_next hd, ih]
    | back hd _ ih =>
      rw [toDays_next hd] at ih
      omega
  · rintro rfl
    refine forall_days (P := fun d => Follows d d.toDays) (fun d hd => ?_) .epoch h
    rw [toDays_next hd]
    exact ⟨.next hd, .back hd⟩

end DataGrid.Date
