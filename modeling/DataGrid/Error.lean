import DataGrid.Json.Printer

namespace DataGrid

structure StoreError where
  code : Option Int
  message : String
  deriving DecidableEq

namespace StoreError

def indexMissing : Int := 27

def isIndexMissing (e : StoreError) : Bool := e.code == some indexMissing

end StoreError

inductive Malformed
  | notList (group : Json)
  | notObject (condition : Json)
  | noColumn
  | noOperation (column : String)
  | unknownOperation (wanted : String)
  | noValue (column : String)
  | other (reason : String)

def Malformed.reason : Malformed → String
  | notList group => "advanced filter group must be a list, got " ++ group.compact
  | notObject condition => "condition must be an object, got " ++ condition.compact
  | noColumn => "condition is missing 'column'"
  | noOperation column => "condition on '" ++ column ++ "' is missing 'operation'"
  | unknownOperation wanted => "unknown operation '" ++ wanted ++ "'"
  | noValue column => "condition on '" ++ column ++ "' is missing 'value'"
  | other reason => reason

inductive Error
  | filterColumn (column grid : String)
  | orderColumn (column grid : String)
  | searchableColumn (grid : String)
  | searchIndexMissing (grid message : String)
  | malformedCondition (why : Malformed)
  | store (e : StoreError)

namespace Error

def message : Error → String
  | filterColumn column grid => "filter column '" ++ column ++ "' is not configured in grid '" ++ grid ++ "'"
  | orderColumn column grid => "order column '" ++ column ++ "' is not configured in grid '" ++ grid ++ "'"
  | searchableColumn grid => "grid '" ++ grid ++ "' received a search request but has no searchable columns"
  | searchIndexMissing grid message =>
    "grid '" ++ grid ++ "' has misconfigured searchable columns: the store reported a missing text index (" ++
      message ++ ")"
  | malformedCondition why => "malformed advanced filter condition: " ++ why.reason
  | store e => e.message

/-- A request that asks for what it may not is the client's fault, all else the server's. -/
def status : Error → Nat
  | filterColumn .. | orderColumn .. | malformedCondition .. => 400
  | searchableColumn .. | searchIndexMissing .. | store .. => 500

def publicMessage : Error → String
  | searchableColumn .. | searchIndexMissing .. => "Search is not available for this resource"
  | store .. => "A database error occurred"
  | e => e.message

end Error

end DataGrid
