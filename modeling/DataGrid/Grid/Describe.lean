import DataGrid.Grid.Config
import DataGrid.Text.Quoted

namespace DataGrid

def describeBool (b : Bool) : String := if b then "true" else "false"

def describeList (items : List String) : String := "[" ++ ", ".intercalate items ++ "]"

def describeMap (entries : List (String × String)) : String :=
  "\x7b" ++ ", ".intercalate (entries.map fun e => Text.quoted e.1 ++ ": " ++ e.2) ++ "\x7d"

def describeRecord (name : String) (fields : List (String × String)) : String :=
  name ++ " \x7b " ++ ", ".intercalate (fields.map fun f => f.1 ++ ": " ++ f.2) ++ " \x7d"

def Comparison.describe : Comparison → String
  | gt => "Gt"
  | gte => "Gte"
  | lt => "Lt"
  | lte => "Lte"

def Column.describe (c : Column) : String :=
  describeRecord "FilterColumn" [("path", Text.quoted c.path), ("comparison", match c.comparison with
    | none => "None"
    | some comparison => "Some(" ++ comparison.describe ++ ")")]

def Settings.describe (s : Settings) : String :=
  describeRecord "GridSettings" [("date_format", Text.quoted s.dateFormat),
    ("text_search", describeBool s.textSearch), ("max_search_length", toString s.maxSearchLength)]

def Config.describe (c : Config) : String :=
  describeRecord "GridConfig" [("name", Text.quoted c.name), ("collection", Text.quoted c.collection),
    ("filter_columns", describeMap (c.filterColumns.map fun e => (e.1, e.2.describe))),
    ("order_columns", describeMap (c.orderColumns.map fun e => (e.1, Text.quoted e.2))),
    ("searchable_columns", describeList (c.searchableColumns.map Text.quoted)),
    ("overrides", describeList (((Fields.names c.overrides).mergeSort fun a b => decide (a ≤ b)).map Text.quoted)),
    ("count_query", describeBool c.countQuery.isSome),
    ("settings", c.settings.describe)]

end DataGrid
