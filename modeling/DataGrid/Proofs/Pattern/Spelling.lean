import DataGrid.Proofs.Pattern.Reading
import Mathlib.Data.Sum.Basic

/-! Readings of ASCII texts that take just what the values of a type are written as, and how they are put
together. -/

namespace DataGrid

namespace Pattern.Reading

def Ascii (cs : List Char) : Prop := ∀ c ∈ cs, c.toNat < 128

/-- Of ASCII texts, a reading takes just those that some values are written as. -/
structure Spells {α : Type} (R : Reading) (write : α → List Char) : Prop where
  iff {before : Option Char} {found rest : List Char} (h : Ascii found) : R before found rest ↔ ∃ a, write a = found

namespace Spells

variable {α β : Type} {R S : Reading} {f : α → List Char} {g : β → List Char}

lemma nothing : Spells nothing fun _ : Unit => [] where
  iff _ := by simp [Reading.nothing, eq_comm]

lemma andThen (hR : Spells R f) (hS : Spells S g) : Spells (R.andThen S) fun x : α × β => f x.1 ++ g x.2 := by
  refine ⟨fun {before found rest} hfound => ⟨?_, ?_⟩⟩
  · rintro ⟨front, back, rfl, hfront, hback⟩
    obtain ⟨hf, hb⟩ := List.forall_mem_append.mp hfound
    obtain ⟨a, rfl⟩ := (hR.iff hf).mp hfront
    obtain ⟨b, rfl⟩ := (hS.iff hb).mp hback
    exact ⟨(a, b), rfl⟩
  · rintro ⟨⟨a, b⟩, rfl⟩
    obtain ⟨hf, hb⟩ := List.forall_mem_append.mp hfound
    exact ⟨f a, g b, rfl, (hR.iff hf).mpr ⟨a, rfl⟩, (hS.iff hb).mpr ⟨b, rfl⟩⟩

lemma maybe (hR : Spells R f) : Spells (R.times 0 (some 1)) fun x : Option α => x.elim [] f := by
  have htimes : R.times 0 (some 1) = R.maybe := by
    rw [times, power, nothing_andThen, Option.map_some, upTo_succ, upTo_zero, andThen_nothing]
  refine ⟨fun {before found rest} hfound => ?_⟩
  rw [htimes, Reading.maybe, hR.iff hfound]
  constructor
  · rintro (rfl | ⟨a, rfl⟩)
    · exact ⟨none, rfl⟩
    · exact ⟨some a, rfl⟩
  · rintro ⟨_ | a, rfl⟩
    · exact .inl rfl
    · exact .inr ⟨a, rfl⟩

lemma either (hR : Spells R f) (hS : Spells S g) : Spells (any [R, S]) (Sum.elim f g) where
  iff hfound := by simp [any, hR.iff hfound, hS.iff hfound]

lemma congr (hR : Spells R f) (e : α → β) (he : e.Surjective) (hwrite : ∀ a, g (e a) = f a) : Spells R g where
  iff hfound := by simp only [hR.iff hfound, he.exists, hwrite]

lemma one {passes : Char → Bool} {write : α → Char} (h : ∀ c, c.toNat < 128 → (passes c = true ↔ ∃ a, write a = c)) :
    Spells (one passes) fun a => [write a] := by
  refine ⟨fun {before found rest} hfound => ⟨?_, ?_⟩⟩
  · rintro ⟨c, rfl, hc⟩
    obtain ⟨a, rfl⟩ := (h c (hfound c (List.mem_singleton_self c))).mp hc
    exact ⟨a, rfl⟩
  · rintro ⟨a, rfl⟩
    exact ⟨write a, rfl, (h _ (hfound _ (List.mem_singleton_self _))).mpr ⟨a, rfl⟩⟩

lemma char (d : Char) : Spells (Pattern.char false d).reading fun _ : Unit => [d] := by
  rw [reading]
  exact one fun c _ => by simp [eq_comm (a := c)]

end Spells

lemma power_one_iff {passes : Char → Bool} {n : Nat} {before : Option Char} {found rest : List Char} :
    (one passes).power n before found rest ↔ found.length = n ∧ ∀ c ∈ found, passes c = true := by
  induction n generalizing before found with
  | zero => simp +contextual [power, nothing]
  | succ n ih =>
    simp only [power, andThen, one, ih]
    constructor
    · rintro ⟨_, back, rfl, ⟨c, rfl, hc⟩, hlength, hback⟩
      exact ⟨by simp [hlength], List.forall_mem_cons.mpr ⟨hc, hback⟩⟩
    · rintro ⟨hlength, hall⟩
      obtain ⟨c, back, rfl⟩ := List.exists_cons_of_length_eq_add_one hlength
      obtain ⟨hc, hback⟩ := List.forall_mem_cons.mp hall
      exact ⟨[c], back, rfl, ⟨c, rfl, hc⟩, by simpa using hlength, hback⟩

lemma plus_one_iff {passes : Char → Bool} {before : Option Char} {found rest : List Char} :
    (one passes).times 1 none before found rest ↔ found ≠ [] ∧ ∀ c ∈ found, passes c = true := by
  simp only [times, andThen, upTo, power_one_iff]
  constructor
  · rintro ⟨front, back, rfl, ⟨hlength, hfront⟩, -, -, -, hback⟩
    refine ⟨fun hnil => ?_, List.forall_mem_append.mpr ⟨hfront, hback⟩⟩
    simp [(List.append_eq_nil_iff.mp hnil).1] at hlength
  · rintro ⟨hne, hall⟩
    obtain ⟨c, back, rfl⟩ := List.exists_cons_of_ne_nil hne
    obtain ⟨hc, hback⟩ := List.forall_mem_cons.mp hall
    exact ⟨[c], back, rfl, ⟨rfl, by simpa using hc⟩, back.length, by simp, rfl, hback⟩

end Pattern.Reading

lemma CharSet.has_points_iff {a b c : Char} (h : a < b) :
    CharSet.has ⟨[(a.toNat, a.toNat), (b.toNat, b.toNat)]⟩ c = true ↔ c = a ∨ c = b := by
  have hab : a.toNat < b.toNat := h
  rw [← Char.toNat_inj, ← Char.toNat_inj]
  simp [CharSet.has, Text.inRanges]
  omega

lemma CharSet.has_digit {c : Char} (hc : c.toNat < 128) : CharSet.digit.has c = c.isDigit := by
  have hdigits : ∀ n < 128, Text.inRanges CharSet.digit.spans n = (decide (48 ≤ n) && decide (n ≤ 57)) := by
    decide +kernel
  rw [CharSet.has, hdigits _ hc]
  simp [Char.isDigit, UInt32.le_iff_toNat_le]

end DataGrid
