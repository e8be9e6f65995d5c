/-!
Sorting a few items by a comparison that says which are less than which. It may be no order: where two ends
of a merge find that it is none, there is no result.
-/

namespace DataGrid.Sort

variable {α : Type} (less : α → α → Bool)

/-- Puts an item behind the items that it is not less than. The last of them stands first. -/
def insertBack (x : α) : List α → List α
  | [] => [x]
  | y :: ys => if less x y then y :: insertBack x ys else x :: y :: ys

def insertAll (sorted items : List α) : List α :=
  (items.foldl (fun reversed x => insertBack less x reversed) sorted.reverse).reverse

def insertionSort (items : List α) : List α := insertAll less [] items

def orderPair (a b : α) : α × α := if less b a then (b, a) else (a, b)

def mergePairs (a b c d : α) : List α :=
  let first := if less c a then c else a
  let last := if less d b then b else d
  let left := if less c a then a else if less d b then c else b
  let right := if less d b then d else if less c a then b else c
  let middle := orderPair less left right
  [first, middle.1, middle.2, last]

def sortFour : List α → List α
  | [a, b, c, d] =>
    let (a, b) := orderPair less a b
    let (c, d) := orderPair less c d
    mergePairs less a b c d
  | items => items

def mergeFirst : Nat → List α → List α → List α × Nat
  | n + 1, x :: xs, y :: ys =>
    if less y x then
      let (merged, taken) := mergeFirst n (x :: xs) ys
      (y :: merged, taken)
    else
      let (merged, taken) := mergeFirst n xs (y :: ys)
      (x :: merged, taken + 1)
  | _, _, _ => ([], 0)

/-- Merges from both ends, as many items from either as the left side has. Of the left side the front took the
first `taken` and the back left the first `kept`; what neither took is in between, at most one item. -/
def mergeEnds (xs ys : List α) : Option (List α) :=
  let half := xs.length
  let (front, taken) := mergeFirst less half xs ys
  let (back, kept) := mergeFirst (fun a b => less b a) half ys.reverse xs.reverse
  let seen := half - taken
  let unseen := ys.length - kept
  if taken ≤ kept ∧ seen ≤ unseen then
    some (front ++ (xs.take kept).drop taken ++ (ys.take unseen).drop seen ++ back.reverse)
  else none

def sortEight (items : List α) : Option (List α) :=
  mergeEnds less (sortFour less (items.take 4)) (sortFour less (items.drop 4))

def sortHalf (n : Nat) (half : List α) : Option (List α) := do
  if 16 ≤ n then
    return insertAll less (← sortEight less (half.take 8)) (half.drop 8)
  else if 8 ≤ n then
    return insertAll less (sortFour less (half.take 4)) (half.drop 4)
  else
    return insertionSort less half

def smallSort (items : List α) : Option (List α) := do
  let n := items.length
  if n < 2 then return items
  let left ← sortHalf less n (items.take (n / 2))
  let right ← sortHalf less n (items.drop (n / 2))
  mergeEnds less left right

end DataGrid.Sort
