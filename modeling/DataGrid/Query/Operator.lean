import DataGrid.Bson.Display
import DataGrid.Error
import DataGrid.Pattern.Literal
import DataGrid.Query.Predicate
import DataGrid.Text.Ascii
import DataGrid.Text.Blank

namespace DataGrid

inductive Operator
  | eq
  | neq
  | gt
  | lt
  | gte
  | lte
  | like
  | starts
  | ends
  | filled
  | notFilled
  | between
  | notBetween
  deriving DecidableEq

namespace Operator

def all : List Operator :=
  [eq, neq, gt, lt, gte, lte, like, starts, ends, filled, notFilled, between, notBetween]

def name : Operator → String
  | eq => "eq"
  | neq => "neq"
  | gt => "gt"
  | lt => "lt"
  | gte => "gte"
  | lte => "lte"
  | like => "like"
  | starts => "starts"
  | ends => "ends"
  | filled => "fl"
  | notFilled => "nfl"
  | between => "between"
  | notBetween => "nbetween"

def orEquality (op : Option Operator) : Operator := op.getD eq

def isNullCheck (op : Operator) : Bool := op == filled || op == notFilled

def ofName? (s : String) : Option Operator := all.find? fun op => op.name == s

def parse (s : String) : Except Malformed Operator :=
  match all.find? fun op => Text.sameAscii op.name (Text.trim s) with
  | some op => .ok op
  | none => .error (.unknownOperation (Text.trim s))

def bounds? : Bson → Option (Bson × Bson)
  | .array (low :: high :: _) => some (low, high)
  | _ => none

def equality (field : String) : Bson → Predicate
  | .array items => .isIn field items
  | value => .eq field value

def inequality (field : String) : Bson → Predicate
  | .array items => .notIn field items
  | value => .ne field value

def quoted (value : Bson) : String := Pattern.escape value.literal

/-- The condition that a value puts on a field; without two bounds a range is an equality. -/
def predicate (op : Operator) (field : String) (value : Bson) : Predicate :=
  match op with
  | eq => equality field value
  | neq => inequality field value
  | gt => .compare .gt field value
  | gte => .compare .gte field value
  | lt => .compare .lt field value
  | lte => .compare .lte field value
  | like => .regex field (quoted value) true
  | starts => .regex field ("^" ++ quoted value) true
  | ends => .regex field (quoted value ++ "$") true
  | filled => .and [.notNull field, .ne field value]
  | notFilled => .or [.isNull field, .eq field value]
  | between =>
    match bounds? value with
    | some (low, high) => .and [.gte field low, .lte field high]
    | none => equality field value
  | notBetween =>
    match bounds? value with
    | some (low, high) => .or [.lte field low, .gte field high]
    | none => inequality field value

end Operator

end DataGrid
