import DataGrid.Proofs.PageRange
import Mathlib.Logic.Function.Iterate

namespace DataGrid

namespace Count

def add? (a b : Nat) : Option Nat := if a + b ≤ most then some (a + b) else none

def div? (a b : Nat) : Option Nat := if b = 0 then none else some (a / b)

end Count

namespace Paging

/-- The block by steps that fail where their result does not fit; those that stop at a bound cannot fail. -/
def checked? (page limit total : Nat) : Option Paging := do
  let whole ← Count.div? total (max limit 1)
  let last ← Count.add? whole 1
  return ⟨page, max limit 1, total, min last (Count.add page 1), last, max (page - 1) 1⟩

def next (limit total page : Nat) : Nat := (new page limit total).nextPage

def previous (limit total page : Nat) : Nat := (new page limit total).previousPage

variable {limit total page : Nat}

lemma lastPage_le_most (ht : total ≤ Count.most) (h : 1 < limit ∨ total < Count.most) :
    (new page limit total).lastPage ≤ Count.most := by
  change total / max limit 1 + 1 ≤ Count.most
  -- two records to a page leave half of the numbers free, and one number is enough
  rcases h with hlimit | htotal
  · have hhalf : total / max limit 1 ≤ total / 2 := Nat.div_le_div_left (by omega) (by omega)
    have hmost : Count.most = 2 ^ 64 - 1 := rfl
    omega
  · have hwhole := Nat.div_le_self total (max limit 1)
    omega

lemma checked?_of_fits (h : (new page limit total).lastPage ≤ Count.most) :
    checked? page limit total = some (new page limit total) := by
  have hdiv : Count.div? total (max limit 1) = some (total / max limit 1) := if_neg (by omega)
  have hadd : Count.add? (total / max limit 1) 1 = some (total / max limit 1 + 1) := if_pos h
  simp only [checked?, hdiv, hadd, Option.bind_eq_bind, Option.bind_some]
  rfl

lemma exists_page_of_index (ht : total ≤ Count.most) {i : Nat} (hi : i < total) :
    ∃ n, 1 ≤ n ∧ n ≤ (new page limit total).lastPage ∧ offset n (max limit 1) ≤ i ∧
      i < offset n (max limit 1) + max limit 1 := by
  change ∃ n, 1 ≤ n ∧ n ≤ total / max limit 1 + 1 ∧ _
  generalize hsize : max limit 1 = size
  have hstart : i / size * size ≤ i := Nat.div_mul_le_self i size
  have hend : i < i / size * size + size := Nat.lt_div_mul_add (by omega)
  have hoffset : offset (i / size + 1) size = i / size * size := by
    refine offset_eq ?_
    rw [Nat.add_sub_cancel]
    omega
  have hpage : i / size ≤ total / size := Nat.div_le_div_right hi.le
  refine ⟨i / size + 1, Nat.succ_pos _, Nat.succ_le_succ hpage, ?_, ?_⟩
  · rwa [hoffset]
  · rwa [hoffset]

lemma next_eq (hfits : (new page limit total).lastPage ≤ Count.most) (p : Nat) :
    next limit total p = min (new page limit total).lastPage (p + 1) := by
  change total / max limit 1 + 1 ≤ _ at hfits
  change min (total / max limit 1 + 1) (Count.add p 1) = min (total / max limit 1 + 1) (p + 1)
  rw [Count.add, Count.saturate]
  omega

lemma next_bounds (hfits : (new page limit total).lastPage ≤ Count.most) (p : Nat) :
    1 ≤ next limit total p ∧ next limit total p ≤ (new page limit total).lastPage := by
  have hlast : 1 ≤ (new page limit total).lastPage := Nat.succ_pos _
  rw [next_eq hfits]
  omega

lemma iterate_next (hfits : (new page limit total).lastPage ≤ Count.most) (k : Nat) {p : Nat}
    (hp : p ≤ (new page limit total).lastPage) :
    (next limit total)^[k] p = min (new page limit total).lastPage (p + k) := by
  induction k with
  | zero => exact (Nat.min_eq_right hp).symm
  | succ k ih =>
    rw [Function.iterate_succ_apply', ih, next_eq hfits]
    omega

lemma iterate_previous (k : Nat) {p : Nat} (hp : 1 ≤ p) : (previous limit total)^[k] p = max (p - k) 1 := by
  induction k with
  | zero => exact (Nat.max_eq_left hp).symm
  | succ k ih =>
    rw [Function.iterate_succ_apply', ih]
    change max (max (p - k) 1 - 1) 1 = _
    omega

/-- Save for 2 ^ 64 - 1 records on pages of one, a block comes of steps that all fit. Its last page is the one with the
place behind the last record, so that every record stands on a page up to it. The links to the next page lead from the
first page through every page to the last and stay there, and from any other to one of these; those to the page before
lead down to the first. -/
theorem links_pass_all_pages (page limit total : Nat) (ht : total < 2 ^ 64) (hroom : 1 < limit ∨ total < 2 ^ 64 - 1) :
    let block := Paging.new page limit total
    let size := max limit 1
    checked? page limit total = some block ∧
    (∀ n, n = block.lastPage ↔ 1 ≤ n ∧ (n - 1) * size ≤ total ∧ total < n * size) ∧
    (∀ i < total, ∃ n, 1 ≤ n ∧ n ≤ block.lastPage ∧ offset n size ≤ i ∧ i < offset n size + size) ∧
    (∀ k < block.lastPage, (next limit total)^[k] 1 = k + 1) ∧
    (∀ k, block.lastPage ≤ k + 1 → (next limit total)^[k] 1 = block.lastPage) ∧
    (∀ p k, 1 ≤ k ∨ 1 ≤ p ∧ p ≤ block.lastPage →
      1 ≤ (next limit total)^[k] p ∧ (next limit total)^[k] p ≤ block.lastPage) ∧
    ∀ p k, 1 ≤ p →
      ((previous limit total)^[k] p ≠ 1 → (previous limit total)^[k + 1] p < (previous limit total)^[k] p) ∧
      (p ≤ k + 1 → (previous limit total)^[k] p = 1) := by
  intro block size
  have hmost : Count.most = 2 ^ 64 - 1 := rfl
  have hfits : block.lastPage ≤ Count.most := lastPage_le_most (by omega) (by omega)
  have hlast : 1 ≤ block.lastPage := Nat.succ_pos _
  have hwalk (k : Nat) : (next limit total)^[k] 1 = min block.lastPage (1 + k) := iterate_next hfits k hlast
  refine ⟨checked?_of_fits hfits, eq_lastPage_iff page limit total, fun i hi => exists_page_of_index (by omega) hi,
    fun k hk => ?_, fun k hk => ?_, fun p k hin => ?_, fun p k hp => ⟨fun hne => ?_, fun hk => ?_⟩⟩
  · rw [hwalk]
    omega
  · rw [hwalk]
    omega
  · cases k with
    | zero => exact hin.resolve_left (by omega)
    | succ k =>
      rw [Function.iterate_succ_apply']
      exact next_bounds hfits _
  · rw [iterate_previous k hp] at hne ⊢
    rw [iterate_previous (k + 1) hp]
    omega
  · rw [iterate_previous k hp]
    omega

theorem links_pass_longest_result :
    let total := 2 ^ 64 - 2
    (checked? 7 0 total).isSome = true ∧ (Paging.new 7 0 total).lastPage = 2 ^ 64 - 1 ∧
      (next 0 total)^[2 ^ 64 - 2] 1 = 2 ^ 64 - 1 ∧ (next 0 total)^[2 ^ 70] 1 = 2 ^ 64 - 1 ∧
      (previous 0 total)^[2 ^ 64] (2 ^ 64 - 1) = 1 := by
  intro total
  have hlast : (Paging.new 7 0 total).lastPage = 2 ^ 64 - 1 := by decide
  obtain ⟨hchecked, -, -, hpass, hstay, -, hback⟩ := links_pass_all_pages 7 0 total (by decide) (.inr (by decide))
  rw [hlast] at hpass hstay
  refine ⟨by rw [hchecked]; rfl, hlast, ?_, ?_, ?_⟩
  · exact hpass (2 ^ 64 - 2) (by decide)
  · exact hstay (2 ^ 70) (by decide)
  · exact (hback (2 ^ 64 - 1) (2 ^ 64) (by decide)).2 (by decide)

-- one record more, and the last page has no number
example : checked? 7 0 (2 ^ 64 - 1) = none := by decide

end Paging

end DataGrid
