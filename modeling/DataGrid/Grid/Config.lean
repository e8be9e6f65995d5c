import DataGrid.Fields
import DataGrid.Grid.Column
import DataGrid.Query.Basic
import DataGrid.Query.Operator

namespace DataGrid

structure Settings where
  dateFormat : String
  textSearch : Bool
  maxSearchLength : Nat
  deriving DecidableEq

def Settings.default : Settings := ⟨"%Y-%m-%d %H:%M:%S", false, 10000⟩

structure Schema where
  name : String
  collection : String
  filterColumns : List (String × Column)
  orderColumns : List (String × String)
  searchableColumns : List String
  settings : Settings

/-- A grid's own condition for a column, made of the query so far, the value, the path and the
operator, if there is one; it may decline. -/
abbrev Override := Query → Bson → String → Option Operator → Option Predicate

structure Config extends Schema where
  overrides : List (String × Override)
  countQuery : Option (Schema → Query)

namespace Config

def new (name collection : String) : Config :=
  { name, collection, filterColumns := [], orderColumns := [], searchableColumns := [],
    settings := .default, overrides := [], countQuery := none }

def withFilterColumn (c : Config) (column mapping : String) : Config :=
  { c with filterColumns := Fields.insert c.filterColumns column (.ofMapping mapping) }

def withOrderColumn (c : Config) (column path : String) : Config :=
  { c with orderColumns := Fields.insert c.orderColumns column path }

def withSearchableColumn (c : Config) (path : String) : Config :=
  if c.searchableColumns.contains path then c
  else { c with searchableColumns := c.searchableColumns ++ [path] }

def withOverride (c : Config) (column : String) (override : Override) : Config :=
  { c with overrides := Fields.insert c.overrides column override }

def withCountQuery (c : Config) (build : Schema → Query) : Config := { c with countQuery := some build }

def withSettings (c : Config) (settings : Settings) : Config := { c with settings }

def filterColumn? (c : Config) (column : String) : Option Column := c.filterColumns.lookup column

def orderColumn? (c : Config) (column : String) : Option String := c.orderColumns.lookup column

def override? (c : Config) (column : String) : Option Override := c.overrides.lookup column

def filterColumn (c : Config) (column : String) : Except Error Column :=
  match c.filterColumn? column with
  | some found => .ok found
  | none => .error (.filterColumn column c.name)

end Config

end DataGrid
