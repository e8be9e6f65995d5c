import DataGrid.Sort.Small

/-!
Sorting by runs: what is sorted already is kept, and runs are merged two by two, those of a like length
first. A run may be left unsorted until it is merged.
-/

namespace DataGrid.Sort

structure Run (α : Type) where
  items : List α
  sorted : Bool

variable {α : Type} (less : α → α → Bool)

def runLength (falling : Bool) (last : α) : List α → Nat
  | [] => 0
  | x :: xs => if less x last == falling then runLength falling x xs + 1 else 0

def naturalRun : List α → Nat × Bool
  | x :: y :: items => (runLength less (less y x) x (y :: items) + 1, less y x)
  | items => (items.length, false)

/-- The runs of a list. Those that are shorter than a good length are sorted at once, or else filled up to it
and left as they are. -/
def splitRuns (eager : Bool) (good : { n : Nat // 0 < n }) : List α → Option (List (Run α))
  | [] => some []
  | x :: xs =>
    let (length, falling) := naturalRun less (x :: xs)
    if _ : good ≤ length then do
      let run := (x :: xs).take length
      let rest ← splitRuns eager good ((x :: xs).drop length)
      return ⟨if falling then run.reverse else run, true⟩ :: rest
    else if eager then do
      let run ← smallSort less ((x :: xs).take 32)
      let rest ← splitRuns eager good ((x :: xs).drop 32)
      return ⟨run, true⟩ :: rest
    else do
      let rest ← splitRuns eager good ((x :: xs).drop good)
      return ⟨(x :: xs).take good, false⟩ :: rest
termination_by items => items.length
decreasing_by
  all_goals
    rw [List.length_drop, List.length_cons]
    omega

def merge (xs ys : List α) : List α :=
  if xs.length ≤ ys.length then xs.merge ys fun x y => !less y x
  else (ys.reverse.merge xs.reverse fun y x => !less y x).reverse

variable (quick : List α → Option (List α))

def Run.settle (r : Run α) : Option (List α) := if r.sorted then some r.items else quick r.items

def Run.join (room : Nat) (r s : Run α) : Option (Run α) :=
  if !r.sorted && !s.sorted && r.items.length + s.items.length ≤ room then some ⟨r.items ++ s.items, false⟩
  else do return ⟨merge less (← r.settle quick) (← s.settle quick), true⟩

/-- How far down the seam of two neighbouring runs stands in a balanced tree over the whole list. -/
def seamDepth (scale start middle stop : Nat) : Nat :=
  let differing := (scale * (start + middle)) ^^^ (scale * (middle + stop))
  if differing = 0 then 64 else 63 - differing.log2

def collapse (room depth : Nat) : List (Run α × Nat) → Run α → Option (List (Run α × Nat) × Run α)
  | [], run => some ([], run)
  | (left, seam) :: stack, run => do
    if depth ≤ seam then collapse room depth stack (← left.join less quick room run)
    else return ((left, seam) :: stack, run)

def joinRuns (room scale : Nat) : List (Run α × Nat) → Run α → Nat → List (Run α) → Option (Run α)
  | stack, run, _, [] => return (← collapse less quick room 0 stack run).2
  | stack, run, place, next :: runs => do
    let stop := place + next.items.length
    let depth := seamDepth scale (place - run.items.length) place stop
    let (stack, run) ← collapse less quick room depth stack run
    joinRuns room scale ((run, depth) :: stack) next stop runs

def nearRoot (n : Nat) : Nat :=
  let shift := (1 + n.log2) / 2
  (Nat.pow 2 shift + n / Nat.pow 2 shift) / 2

def goodLength (n : Nat) : Nat := if n ≤ 4096 then min (n - n / 2) 64 else nearRoot n

theorem goodLength_pos {n : Nat} (h : 0 < n) : 0 < goodLength n := by
  unfold goodLength
  split
  · omega
  · have hshift : 1 ≤ (1 + n.log2) / 2 := by
      have hlog : 1 ≤ n.log2 := (Nat.le_log2 (by omega)).mpr (by omega)
      omega
    have htwo : Nat.pow 2 1 ≤ Nat.pow 2 ((1 + n.log2) / 2) := Nat.pow_le_pow_right (by decide) hshift
    exact Nat.div_pos (Nat.le_trans htwo (Nat.le_add_right _ _)) (by decide)

/-- Sorts by runs; those that are left unsorted are sorted by `quick` before they are merged. -/
def sortRuns (eager : Bool) (items : List α) : Option (List α) :=
  if h : items.length < 2 then some items
  else do
    let n := items.length
    let room := max (n - n / 2) (min n 1000000)
    match ← splitRuns less eager ⟨goodLength n, goodLength_pos (by omega)⟩ items with
    | [] => return []
    | first :: runs =>
      let run ← joinRuns less quick room ((Nat.pow 2 62 + n - 1) / n) [] first first.items.length runs
      run.settle quick

end DataGrid.Sort
