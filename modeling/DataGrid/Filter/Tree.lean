import DataGrid.Request.Basic

/-!
Advanced filters: every group is met by one of its conditions at least, and all groups are met. A
condition on the search column is no condition on documents; the last of them gives the words to
search for.
-/

namespace DataGrid

structure Tree where
  predicate : Option Predicate
  search : Option String
  deriving Inhabited

namespace Config

def advancedPart (c : Config) (query : Query) (condition : Condition) : Except Error (Option Predicate) := do
  let found ← c.filterColumn condition.column
  let value := Bson.coerceDates (Bson.ofJson condition.value)
  match c.override? condition.column with
  | some override => return override query value found.path (some condition.operator)
  | none => return some (condition.operator.predicate found.path value)

def groupParts (c : Config) (query : Query) : List Condition → Except Error (List Predicate × Option String)
  | [] => .ok ([], none)
  | condition :: rest =>
    if condition.column = searchKey then do
      let (parts, search) ← c.groupParts query rest
      return (parts, search <|> some condition.value.param)
    else do
      let part ← c.advancedPart query condition
      let (parts, search) ← c.groupParts query rest
      return (part.toList ++ parts, search)

def treeParts (c : Config) (query : Query) : List (List Condition) → Except Error (List Predicate × Option String)
  | [] => .ok ([], none)
  | group :: rest => do
    let (parts, search) ← c.groupParts query group
    let (others, later) ← c.treeParts query rest
    return (if parts.isEmpty then others else .anyOf parts :: others, later <|> search)

def advancedTree (c : Config) (query : Query) (groups : List (List Condition)) : Except Error Tree := do
  let (parts, search) ← c.treeParts query groups
  return ⟨if parts.isEmpty then none else some (.allOf parts), search⟩

end Config

end DataGrid
