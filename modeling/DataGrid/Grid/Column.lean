import DataGrid.Query.Predicate
import DataGrid.Text.Blank
import DataGrid.Text.Split

namespace DataGrid

inductive Comparison
  | gt
  | gte
  | lt
  | lte
  deriving DecidableEq

namespace Comparison

def suffix : Comparison → List Char
  | gt => ['>']
  | gte => ['>', '=']
  | lt => ['<']
  | lte => ['<', '=']

def relation : Comparison → Relation
  | gt => .gt
  | gte => .gte
  | lt => .lt
  | lte => .lte

/-- The longer suffixes first, so that `>=` is not read as `>`. -/
def inOrder : List Comparison := [gte, lte, gt, lt]

def predicate (c : Comparison) (field : String) (value : Bson) : Predicate := .compare c.relation field value

end Comparison

structure Column where
  path : String
  comparison : Option Comparison
  deriving DecidableEq

namespace Column

def ofSuffix? (mapping : List Char) (c : Comparison) : Option Column :=
  (Text.dropSuffix? c.suffix mapping).map fun path => ⟨String.ofList (Text.trimRight path), some c⟩

def ofMapping (mapping : String) : Column :=
  let trimmed := Text.trim mapping
  (Comparison.inOrder.findSome? (ofSuffix? trimmed.toList)).getD ⟨trimmed, none⟩

end Column

end DataGrid
