import DataGrid.Query.Operator
import DataGrid.Request.Params

namespace DataGrid

def searchKey : String := "__search__"

def notNullMark : String := "__not_null__"

def innerName (column : String) : String := if column = Params.searchName then searchKey else column

def outerName (column : String) : String := if column = searchKey then Params.searchName else column

structure Condition where
  column : String
  operator : Operator
  value : Json

namespace Condition

def textMember? (members : List (String × Json)) (name : String) : Option String :=
  (members.lookup name).bind Json.string?

def value? (members : List (String × Json)) (column : String) (operator : Operator) : Except Malformed Json :=
  match members.lookup "value" with
  | some value => .ok value
  | none => if operator.isNullCheck then .ok (.string "") else .error (.noValue column)

def ofMembers (members : List (String × Json)) : Except Malformed Condition := do
  let column ← (textMember? members "column").elim (.error .noColumn) .ok
  let name ← (textMember? members "operation").elim (.error (.noOperation column)) .ok
  let operator ← Operator.parse name
  let value ← value? members column operator
  return ⟨innerName column, operator, value⟩

def ofJson (raw : Json) : Except Malformed Condition :=
  match raw with
  | .object members => ofMembers members
  | _ => .error (.notObject raw)

def groupOfJson (group : Json) : Except Malformed (List Condition) :=
  match group with
  | .array items => items.mapM ofJson
  | _ => .error (.notList group)

end Condition

end DataGrid
