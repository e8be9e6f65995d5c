import DataGrid.Request.Basic

/-!
Plain filters: a column and a value. Null asks for null, the mark `__not_null__` for anything else, a
list for one of its items, and any other value for equality or for the column's own comparison.
-/

namespace DataGrid.Config

def plainPredicate (column : Column) (value : Json) : Predicate :=
  match value with
  | .null => .isNull column.path
  | .array items => .isIn column.path (Bson.coerceItems (Bson.ofItems items))
  | value =>
    if value.string? = some notNullMark then .notNull column.path
    else
      let wanted := Bson.coerceDates (Bson.ofJson value)
      match column.comparison with
      | some comparison => comparison.predicate column.path wanted
      | none => .eq column.path wanted

/-- The condition of one entry; a column's own condition gets the value without dates. -/
def plainPart (c : Config) (query : Query) (column : String) (value : Json) : Except Error (Option Predicate) := do
  let found ← c.filterColumn column
  match c.override? column with
  | some override => return override query (Bson.ofJson value) found.path none
  | none => return some (plainPredicate found value)

def plainParts (c : Config) (query : Query) : List (String × Json) → Except Error (List Predicate)
  | [] => .ok []
  | (column, value) :: rest =>
    if column = searchKey then c.plainParts query rest
    else do
      let part ← c.plainPart query column value
      let parts ← c.plainParts query rest
      return part.toList ++ parts

def plainFilter (c : Config) (query : Query) (filter : List (String × Json)) : Except Error (Option Predicate) := do
  match ← c.plainParts query filter with
  | [] => return none
  | parts => return some (.allOf parts)

end DataGrid.Config
