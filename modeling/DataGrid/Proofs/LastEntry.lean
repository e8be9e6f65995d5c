import DataGrid.Fields
import DataGrid.Request.Params
import Mathlib.Data.List.Basic

/-! Entries of which the last one counts: what is read after all of them were written is what the last of
them wrote there, or what stood there before. -/

namespace DataGrid

/-- What is picked from the last of some entries, of those that have it. -/
def last? {α β : Type} (pick : α → Option β) (xs : List α) : Option β := (xs.filterMap pick).getLast?

def valueIf {α : Type} (asked : String → Bool) (entry : String × α) : Option α :=
  if asked entry.1 then some entry.2 else none

section

variable {α β γ σ : Type}

lemma last?_cons (pick : α → Option β) (x : α) (xs : List α) : last? pick (x :: xs) = (last? pick xs).or (pick x) := by
  rw [last?, last?, List.filterMap_cons]
  cases pick x with
  | none => exact (Option.or_none).symm
  | some y =>
    dsimp only
    rw [List.getLast?_cons]
    cases (xs.filterMap pick).getLast? <;> rfl

lemma last?_append (pick : α → Option β) (xs ys : List α) :
    last? pick (xs ++ ys) = (last? pick ys).or (last? pick xs) := by
  rw [last?, last?, last?, List.filterMap_append, List.getLast?_append]

lemma last?_eq_none {pick : α → Option β} {xs : List α} (h : ∀ x ∈ xs, pick x = none) : last? pick xs = none := by
  rw [last?, List.filterMap_eq_nil_iff.mpr h, List.getLast?_nil]

lemma last?_eq_some {pick : α → Option β} {xs : List α} {y : β} (hfound : ∃ x ∈ xs, pick x = some y)
    (hall : ∀ x ∈ xs, ∀ y', pick x = some y' → y' = y) : last? pick xs = some y := by
  obtain ⟨x, hx, hpick⟩ := hfound
  have hmem : y ∈ xs.filterMap pick := List.mem_filterMap.mpr ⟨x, hx, hpick⟩
  cases hlast : last? pick xs with
  | none => exact absurd (List.getLast?_eq_none_iff.mp hlast ▸ hmem) List.not_mem_nil
  | some y' =>
    obtain ⟨x', hx', hpick'⟩ := List.mem_filterMap.mp (List.mem_of_getLast? hlast)
    rw [hall x' hx' y' hpick']

lemma last?_congr {pick pick' : α → Option β} {xs : List α} (h : ∀ x ∈ xs, pick x = pick' x) :
    last? pick xs = last? pick' xs := by
  rw [last?, last?, List.filterMap_congr h]

lemma last?_map (f : γ → α) (pick : α → Option β) (xs : List γ) : last? pick (xs.map f) = last? (pick ∘ f) xs := by
  rw [last?, last?, List.filterMap_map]

/-- A reading that every step leaves alone or sets to what is picked from the step. -/
lemma read_foldl {ρ : Type} (read : σ → ρ) {step : σ → α → σ} {pick : α → Option β} {set : β → ρ}
    (hstep : ∀ s x, read (step s x) = (pick x).elim (read s) set) (s : σ) (xs : List α) :
    read (xs.foldl step s) = (last? pick xs).elim (read s) set := by
  induction xs generalizing s with
  | nil => rfl
  | cons x xs ih =>
    rw [List.foldl_cons, ih, hstep, last?_cons]
    cases last? pick xs <;> rfl

end

namespace Fields

variable {α : Type}

lemma lookup_insertAll_last (fields more : List (String × α)) (name : String) :
    (insertAll fields more).lookup name = (last? (valueIf (· = name)) more).or (fields.lookup name) := by
  have hstep : ∀ (fields : List (String × α)) (field : String × α),
      (insert fields field.1 field.2).lookup name = (valueIf (· = name) field).elim (fields.lookup name) some := by
    intro fields field
    by_cases h : field.1 = name
    · simp [valueIf, h]
    · simp [valueIf, h, lookup_insert_of_ne (Ne.symm h)]
  rw [insertAll, read_foldl (List.lookup name) hstep]
  cases last? (valueIf (· = name)) more <;> rfl

lemma lookup_rename (f : String → String) (fields : List (String × α)) (name : String) :
    (rename f fields).lookup name = last? (valueIf fun k => f k = name) fields := by
  rw [rename, ofList, lookup_insertAll_last, last?_map, List.lookup_nil, Option.or_none]
  rfl

lemma last?_eq_lookup {fields : List (String × α)} (h : (names fields).Nodup) (name : String) :
    last? (valueIf (· = name)) fields = fields.lookup name := by
  have hlast := lookup_insertAll_last [] fields name
  rw [List.lookup_nil, Option.or_none] at hlast
  rw [← hlast]
  exact congrArg (List.lookup name) (ofList_of_nodup h)

end Fields

namespace Params

lemma get?_insertAll (p : Params) (pairs : List (String × String)) (name : String) :
    (p.insertAll pairs).get? name = (last? (valueIf fun k => normalize k = normalize name) pairs).or (p.get? name) := by
  have hstep : ∀ (p : Params) (pair : String × String), (p.insert pair.1 pair.2).get? name =
      (valueIf (fun k => normalize k = normalize name) pair).elim (p.get? name) some := by
    intro p pair
    by_cases h : normalize pair.1 = normalize name
    · have hsame : (p.insert pair.1 pair.2).get? name = (p.insert pair.1 pair.2).get? pair.1 := by rw [get?, get?, h]
      simp [valueIf, h, hsame]
    · simp [valueIf, h, get?_insert_of_ne p (Ne.symm h)]
  rw [insertAll, read_foldl (get? · name) hstep]
  cases last? (valueIf fun k => normalize k = normalize name) pairs <;> rfl

end Params

end DataGrid
