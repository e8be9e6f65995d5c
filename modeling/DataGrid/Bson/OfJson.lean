import DataGrid.Bson.Basic
import DataGrid.Calendar.Reader
import DataGrid.Json.Printer

/-!
Filter values arrive as JSON. A whole number that fits 64 bits with a sign stays whole, any other
number becomes a double, and strings that are dates become dates, in lists too.
-/

namespace DataGrid.Bson

def ofInt (n : Int) : Bson :=
  if Int64.minValue.toInt ≤ n && n ≤ Int64.maxValue.toInt then int64 (Int64.ofInt n) else double (.ofInt n)

mutual

def ofJson : Json → Bson
  | .null => null
  | .bool b => bool b
  | .int n => ofInt n
  | .float x => double x
  | .string s => string s
  | .array items => array (ofItems items)
  | .object members => document (ofMembers members)

def ofItems : List Json → List Bson
  | [] => []
  | item :: items => ofJson item :: ofItems items

def ofMembers : List (String × Json) → List (String × Bson)
  | [] => []
  | (name, value) :: members => (name, ofJson value) :: ofMembers members

end

mutual

/-- Dates for strings that are dates, at every depth of lists but not inside documents. -/
def coerceDates : Bson → Bson
  | string s =>
    match Instant.parse? s with
    | some t => dateTime t.millis
    | none => string s
  | array items => array (coerceItems items)
  | value => value

def coerceItems : List Bson → List Bson
  | [] => []
  | item :: items => coerceDates item :: coerceItems items

end

end DataGrid.Bson

namespace DataGrid.Json

mutual

def param : Json → String
  | null => ""
  | string s => s
  | array items => paramItems items
  | value => value.compact

def paramItems : List Json → String
  | [] => ""
  | item :: items =>
    match items with
    | [] => item.param
    | _ :: _ => item.param ++ "," ++ paramItems items

end

end DataGrid.Json
