import DataGrid.Pattern.Program

/-!
The search for a pattern in a text. At every place of the text the search holds the instructions that
wait for the next character, each once, so that it takes no more steps than the length of the program
times that of the text.
-/

namespace DataGrid.Pattern.Program

def close (p : Program) (holds : Place → Bool) : Nat → List Nat → Array Bool → List Nat → Option (List Nat)
  | 0, _, _, waiting => some waiting
  | _, [], _, waiting => some waiting
  | fuel + 1, i :: todo, seen, waiting =>
    if seen.getD i true then p.close holds fuel todo seen waiting
    else
      let seen := seen.setIfInBounds i true
      match p.code[i]? with
      | none => none
      | some (.place q) => p.close holds fuel (if holds q then (i + 1) :: todo else todo) seen waiting
      | some (.fork ways) =>
        p.close holds fuel (ways.map (fun way => ((i : Int) + way).toNat) ++ todo) seen waiting
      | some _ => p.close holds fuel todo seen (i :: waiting)

/-- The instructions that wait at a place, where a match may begin too. No instruction is visited
twice, and all of them together lead to no more than three times as many. -/
def reach (p : Program) (before behind : Option Char) (active : List Nat) : Option (List Nat) :=
  p.close (Place.holds before behind) (active.length + 3 * p.code.size + 2) (0 :: active)
    (Array.replicate (p.code.size + 1) false) []

def pass? (p : Program) (c folded : Char) (i : Nat) : Option Nat :=
  match p.code[i]? with
  | some (.char d) => if c == d then some (i + 1) else none
  | some (.folded d) => if folded == d then some (i + 1) else none
  | some (.set s) => if s.has c then some (i + 1) else none
  | _ => none

def findsFrom (p : Program) (before : Option Char) (active : List Nat) : List Char → Bool
  | [] => (p.reach before none active).isNone
  | c :: cs =>
    match p.reach before (some c) active with
    | none => true
    | some waiting => findsFrom p (some c) (waiting.filterMap (p.pass? c (Text.fold c))) cs

def findsIn (p : Program) (s : String) : Bool := p.findsFrom none [] s.toList

end DataGrid.Pattern.Program
