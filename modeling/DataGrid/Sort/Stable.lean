import DataGrid.Sort.Runs

namespace DataGrid.Sort

variable {α : Type} (less : α → α → Bool)

section Pivot

variable (items : List α)

def median (a b c : Fin items.length) : Fin items.length :=
  let least := less items[a] items[b]
  if least == less items[a] items[c] then
    if less items[b] items[c] == least then b else c
  else a

def pickPlace (length start : Nat) (hl : 0 < length) (h : start + length ≤ items.length) : Fin items.length :=
  if short : length < 8 then ⟨start, by omega⟩
  else
    median less items (pickPlace (length / 8) start (by omega) (by omega))
      (pickPlace (length / 8) (start + length / 8 * 4) (by omega) (by omega))
      (pickPlace (length / 8) (start + length / 8 * 7) (by omega) (by omega))
termination_by length

def pivotPlace (h : 8 ≤ items.length) : Fin items.length :=
  let eighth := items.length / 8
  median less items (pickPlace less items eighth 0 (by omega) (by omega))
    (pickPlace less items eighth (eighth * 4) (by omega) (by omega))
    (pickPlace less items eighth (eighth * 7) (by omega) (by omega))

end Pivot

def partitionAt (test : α → Bool) (place : Nat) (passes : Bool) (items : List α) : List α × List α :=
  let before := items.take place
  let pivot := (items.drop place).take 1
  let behind := items.drop (place + 1)
  (before.filter test ++ (if passes then pivot else []) ++ behind.filter test,
    before.filter (!test ·) ++ (if passes then [] else pivot) ++ behind.filter (!test ·))

/-- Partitions around pivots. No item is less than the pivot that it stands to the right of, if there is one, so
that a pivot that is equal to it needs a partition only of its equals; where the limit of partitions is used up,
runs are sorted at once. -/
def quickSort : Nat → Option α → List α → Option (List α)
  | 0, _, items => if items.length ≤ 32 then smallSort less items else sortRuns less (smallSort less) true items
  | limit + 1, beside, items =>
    if h : items.length ≤ 32 then smallSort less items
    else
      let place := pivotPlace less items (by omega)
      let pivot := items[place]
      let (smaller, others) := partitionAt (less · pivot) place false items
      if smaller.isEmpty || beside.any (!less · pivot) then do
        let (equals, larger) := partitionAt (!less pivot ·) place true items
        return equals ++ (← quickSort limit none larger)
      else do
        let right ← quickSort limit (some pivot) others
        let left ← quickSort limit beside smaller
        return left ++ right

def partitionSort (items : List α) : Option (List α) :=
  quickSort less (2 * (max items.length 1).log2) none items

/-- The items in order, those that are equal in it as they stood; `none` where the comparison turned out to be no
order and the sort stopped. -/
def sort (items : List α) : Option (List α) :=
  if items.length ≤ 20 then some (insertionSort less items)
  else sortRuns less (partitionSort less) (items.length ≤ 64) items

end DataGrid.Sort
