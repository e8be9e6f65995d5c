import DataGrid.Number.Binary64
import Mathlib.Algebra.Group.Nat.Defs
import Mathlib.Data.Nat.Log
import Mathlib.Order.MinMax
import Mathlib.Tactic.Lemma

/-! Whole numbers as doubles. Rounding keeps their order, though numbers that differ may become one. -/

namespace DataGrid.Binary64

section Rounding

variable {d : Nat}

lemma roundHalfEven_mul (k : Nat) (hd : 0 < d) : roundHalfEven (k * d) d = k := by
  have hquotient : k * d / d = k := Nat.mul_div_cancel k hd
  simp [roundHalfEven, hquotient, hd]

lemma roundHalfEven_bounds (n d : Nat) : n / d ≤ roundHalfEven n d ∧ roundHalfEven n d ≤ n / d + 1 := by
  unfold roundHalfEven
  dsimp only
  split
  · omega
  · split <;> omega

lemma roundHalfEven_mono {m n : Nat} (h : m ≤ n) (d : Nat) : roundHalfEven m d ≤ roundHalfEven n d := by
  have hquotient : m / d ≤ n / d := Nat.div_le_div_right h
  obtain hlt | heq := Nat.lt_or_eq_of_le hquotient
  · exact (roundHalfEven_bounds m d).2.trans ((Nat.succ_le_of_lt hlt).trans (roundHalfEven_bounds n d).1)
  · -- between the same two multiples the remainders decide
    have hremainder : m % d ≤ n % d := by
      have hm := Nat.div_add_mod m d
      have hn := Nat.div_add_mod n d
      rw [heq] at hm
      omega
    unfold roundHalfEven
    dsimp only
    rw [heq]
    split_ifs <;> omega

end Rounding

def wholeSignificand (n : Nat) : Nat :=
  if 52 ≤ n.log2 then roundHalfEven n (2 ^ (n.log2 - 52)) else n * 2 ^ (52 - n.log2)

def wholeMagnitude (n : Nat) : Nat :=
  if n = 0 then 0 else min ((n.log2 + 1022) * 2 ^ 52 + wholeSignificand n) infinityMagnitude

lemma ratioExponent_one {n : Nat} (hn : n ≠ 0) : ratioExponent n 1 = (n.log2 : Int) - 52 := by
  have hreached : 2 ^ n.log2 ≤ n := Nat.log2_self_le hn
  have hone : Nat.log2 1 = 0 := by decide
  simp only [ratioExponent, hone, Nat.pow_eq]
  simp [hreached]
  omega

lemma ofRatio_whole (negative : Bool) (n : Nat) : ofRatio negative n 1 = ofMagnitude negative (wholeMagnitude n) := by
  by_cases hn : n = 0
  · simp [ofRatio, wholeMagnitude, hn]
  · have hplace : ((n.log2 : Int) - 52 + 1074).toNat = n.log2 + 1022 := by omega
    by_cases hlog : 52 ≤ n.log2
    · have hup : ((n.log2 : Int) - 52).toNat = n.log2 - 52 := by omega
      have hnonneg : (0 : Int) ≤ (n.log2 : Int) - 52 := by omega
      simp only [ofRatio, wholeMagnitude, wholeSignificand, if_neg hn, ratioExponent_one hn, hplace, if_pos hlog,
        if_pos hnonneg, hup, Nat.one_mul, Nat.pow_eq]
    · have hdown : (-((n.log2 : Int) - 52)).toNat = 52 - n.log2 := by omega
      have hneg : ¬(0 : Int) ≤ (n.log2 : Int) - 52 := by omega
      have hexact := roundHalfEven_mul (n * 2 ^ (52 - n.log2)) Nat.one_pos
      rw [Nat.mul_one] at hexact
      simp only [ofRatio, wholeMagnitude, wholeSignificand, if_neg hn, ratioExponent_one hn, hplace, if_neg hlog,
        if_neg hneg, hdown, Nat.pow_eq, hexact]

lemma wholeSignificand_bounds {n : Nat} (hn : n ≠ 0) : 2 ^ 52 ≤ wholeSignificand n ∧ wholeSignificand n ≤ 2 ^ 53 := by
  have hlow : 2 ^ n.log2 ≤ n := Nat.log2_self_le hn
  have hhigh : n < 2 ^ (n.log2 + 1) := Nat.lt_log2_self
  by_cases hlog : 52 ≤ n.log2
  · have hlow' : 2 ^ 52 * 2 ^ (n.log2 - 52) ≤ n := by rwa [← Nat.pow_add, Nat.add_sub_cancel' hlog]
    have hhigh' : n ≤ 2 ^ 53 * 2 ^ (n.log2 - 52) := by
      rw [← Nat.pow_add, show 53 + (n.log2 - 52) = n.log2 + 1 by omega]
      exact hhigh.le
    rw [wholeSignificand, if_pos hlog]
    constructor
    · calc 2 ^ 52 = roundHalfEven (2 ^ 52 * 2 ^ (n.log2 - 52)) (2 ^ (n.log2 - 52)) :=
            (roundHalfEven_mul _ (Nat.two_pow_pos _)).symm
        _ ≤ roundHalfEven n (2 ^ (n.log2 - 52)) := roundHalfEven_mono hlow' _
    · calc roundHalfEven n (2 ^ (n.log2 - 52))
          ≤ roundHalfEven (2 ^ 53 * 2 ^ (n.log2 - 52)) (2 ^ (n.log2 - 52)) := roundHalfEven_mono hhigh' _
        _ = 2 ^ 53 := roundHalfEven_mul _ (Nat.two_pow_pos _)
  · rw [wholeSignificand, if_neg hlog]
    constructor
    · calc 2 ^ 52 = 2 ^ n.log2 * 2 ^ (52 - n.log2) := by rw [← Nat.pow_add, Nat.add_sub_cancel' (by omega)]
        _ ≤ n * 2 ^ (52 - n.log2) := Nat.mul_le_mul_right _ hlow
    · calc n * 2 ^ (52 - n.log2) ≤ 2 ^ (n.log2 + 1) * 2 ^ (52 - n.log2) := Nat.mul_le_mul_right _ hhigh.le
        _ = 2 ^ 53 := by rw [← Nat.pow_add, show n.log2 + 1 + (52 - n.log2) = 53 by omega]

lemma wholeSignificand_mono {m n : Nat} (hlog : m.log2 = n.log2) (h : m ≤ n) :
    wholeSignificand m ≤ wholeSignificand n := by
  rw [wholeSignificand, wholeSignificand, hlog]
  split
  · exact roundHalfEven_mono h _
  · exact Nat.mul_le_mul_right _ h

lemma wholeMagnitude_mono {m n : Nat} (h : m ≤ n) : wholeMagnitude m ≤ wholeMagnitude n := by
  by_cases hm : m = 0
  · simp [wholeMagnitude, hm]
  · have hn : n ≠ 0 := by omega
    rw [wholeMagnitude, wholeMagnitude, if_neg hm, if_neg hn]
    refine min_le_min_right _ ?_
    have hlog : m.log2 ≤ n.log2 := by
      simp only [Nat.log2_eq_log_two]
      exact Nat.log_mono_right h
    obtain hlt | heq := Nat.lt_or_eq_of_le hlog
    · -- the significand fills the step between two exponents at most
      have hplace : m.log2 + 1022 + 1 ≤ n.log2 + 1022 := by omega
      calc (m.log2 + 1022) * 2 ^ 52 + wholeSignificand m
          ≤ (m.log2 + 1022) * 2 ^ 52 + 2 ^ 53 := Nat.add_le_add_left (wholeSignificand_bounds hm).2 _
        _ = (m.log2 + 1022 + 1) * 2 ^ 52 + 2 ^ 52 := by omega
        _ ≤ (n.log2 + 1022) * 2 ^ 52 + wholeSignificand n :=
          Nat.add_le_add (Nat.mul_le_mul_right _ hplace) (wholeSignificand_bounds hn).1
    · rw [heq]
      exact Nat.add_le_add_left (wholeSignificand_mono heq h) _

lemma wholeMagnitude_le (n : Nat) : wholeMagnitude n ≤ infinityMagnitude := by
  unfold wholeMagnitude
  split
  · exact Nat.zero_le _
  · exact min_le_right _ _

section Magnitude

variable {m : Nat}

lemma toNat_bits_ofMagnitude (negative : Bool) (hm : m ≤ infinityMagnitude) :
    (ofMagnitude negative m).bits.toNat = if negative then 2 ^ 63 + m else m := by
  rw [infinityMagnitude, Nat.pow_eq] at hm
  rw [ofMagnitude, UInt64.toNat_ofNat']
  cases negative <;> simp <;> omega

lemma magnitude_ofMagnitude (negative : Bool) (hm : m ≤ infinityMagnitude) :
    (ofMagnitude negative m).magnitude = m := by
  have hbits := toNat_bits_ofMagnitude negative hm
  rw [infinityMagnitude, Nat.pow_eq] at hm
  rw [magnitude, hbits, Nat.pow_eq]
  cases negative <;> simp <;> omega

lemma isNegative_ofMagnitude (negative : Bool) (hm : m ≤ infinityMagnitude) :
    (ofMagnitude negative m).isNegative = negative := by
  have hbits := toNat_bits_ofMagnitude negative hm
  rw [infinityMagnitude, Nat.pow_eq] at hm
  rw [isNegative, hbits, Nat.pow_eq]
  cases negative with
  | false => simpa using (show m < 2 ^ 63 by omega)
  | true => simp

lemma key_ofMagnitude (negative : Bool) (hm : m ≤ infinityMagnitude) :
    (ofMagnitude negative m).key = if negative then -(m : Int) else m := by
  rw [key, isNegative_ofMagnitude negative hm, magnitude_ofMagnitude negative hm]

end Magnitude

lemma ofInt_eq (n : Int) : ofInt n = ofMagnitude (n < 0) (wholeMagnitude n.natAbs) := ofRatio_whole _ _

lemma isNaN_ofInt (n : Int) : (ofInt n).isNaN = false := by
  rw [ofInt_eq, isNaN, magnitude_ofMagnitude _ (wholeMagnitude_le _)]
  simpa using wholeMagnitude_le n.natAbs

lemma key_ofInt (n : Int) :
    (ofInt n).key = if n < 0 then -(wholeMagnitude n.natAbs : Int) else wholeMagnitude n.natAbs := by
  rw [ofInt_eq, key_ofMagnitude _ (wholeMagnitude_le _)]
  simp only [decide_eq_true_eq]

lemma key_ofInt_mono {m n : Int} (h : m ≤ n) : (ofInt m).key ≤ (ofInt n).key := by
  rw [key_ofInt, key_ofInt]
  by_cases hm : m < 0
  · by_cases hn : n < 0
    · have hmagnitude : wholeMagnitude n.natAbs ≤ wholeMagnitude m.natAbs := wholeMagnitude_mono (by omega)
      rw [if_pos hm, if_pos hn]
      omega
    · rw [if_pos hm, if_neg hn]
      omega
  · have hn : ¬n < 0 := by omega
    have hmagnitude : wholeMagnitude m.natAbs ≤ wholeMagnitude n.natAbs := wholeMagnitude_mono (by omega)
    rw [if_neg hm, if_neg hn]
    omega

end DataGrid.Binary64
