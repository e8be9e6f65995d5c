import DataGrid.Number.Count
import DataGrid.Proofs.Trimming

namespace DataGrid

namespace Count

lemma toNat_of_isDigit {c : Char} (h : c.isDigit = true) : 48 ≤ c.toNat ∧ c.toNat ≤ 57 := by
  simpa [Char.isDigit, UInt32.le_iff_toNat_le] using h

lemma isBlank_of_isDigit {c : Char} (h : c.isDigit = true) : Text.isBlank c = false := by
  have hc := toNat_of_isDigit h
  simp only [Text.isBlank, Bool.or_eq_false_iff, Bool.and_eq_false_iff, decide_eq_false_iff_not, beq_eq_false_iff_ne]
  omega

lemma isDigit_of_mem_toDigits {n : Nat} {c : Char} (h : c ∈ Nat.toDigits 10 n) : c.isDigit = true :=
  Nat.isDigit_of_mem_toDigits (by decide) (by decide) h

lemma toDigits_eq_cons (n : Nat) : ∃ c cs, Nat.toDigits 10 n = c :: cs ∧ c.isDigit = true := by
  cases hd : Nat.toDigits 10 n with
  | nil => exact absurd hd Nat.toDigits_ne_nil
  | cons c cs => exact ⟨c, cs, rfl, isDigit_of_mem_toDigits (hd ▸ List.mem_cons_self)⟩

lemma foldl_toDigits (n : Nat) : (Nat.toDigits 10 n).foldl (fun n c => n * 10 + (c.toNat - 48)) 0 = n := by
  have hn : Nat.ofDigitChars 10 (Nat.toDigits 10 n) 0 = n := Nat.ofDigitChars_ten_toDigits
  simpa [Nat.ofDigitChars, Nat.mul_comm] using hn

lemma trim_toString (n : Nat) : Text.trim (toString n) = toString n := by
  refine Text.trim_of_isTrimmed (Text.isTrimmed_of_no_blank fun c hc => isBlank_of_isDigit ?_)
  exact isDigit_of_mem_toDigits (n := n) (by simpa using hc)

lemma ofDigits?_toDigits (n : Nat) : ofDigits? (Nat.toDigits 10 n) = some n := by
  have hd : (Nat.toDigits 10 n).all Char.isDigit = true :=
    List.all_eq_true.mpr fun _ hc => isDigit_of_mem_toDigits hc
  have he : (Nat.toDigits 10 n).isEmpty = false := by simp
  rw [ofDigits?, he, hd, foldl_toDigits]
  rfl

lemma ofText?_toString {n : Nat} (h : n ≤ most) : ofText? (toString n) = some n := by
  rw [ofText?, Nat.toString_eq_repr, Nat.toList_repr]
  split
  · next rest hr =>
    have hc : Char.isDigit '+' = true := isDigit_of_mem_toDigits (hr ▸ List.mem_cons_self)
    simp [Char.isDigit] at hc
  · simp [ofDigits?_toDigits, h]

end Count

end DataGrid
