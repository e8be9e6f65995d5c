import DataGrid.Grid.Config
import DataGrid.Json.Printer
import DataGrid.Json.Record

namespace DataGrid

open Json (Raw)

namespace Settings

def ofRaw? (raw : Raw) : Option Settings := do
  let fields ← raw.record? ["date_format", "text_search", "max_search_length"]
  return {
    dateFormat := ← Raw.fieldOr fields "date_format" Raw.text? default.dateFormat
    textSearch := ← Raw.fieldOr fields "text_search" Raw.flag? default.textSearch
    maxSearchLength := ← Raw.fieldOr fields "max_search_length" Raw.count? default.maxSearchLength }

def toJson (s : Settings) : Json :=
  .object [("date_format", .string s.dateFormat), ("text_search", .bool s.textSearch),
    ("max_search_length", .int s.maxSearchLength)]

end Settings

structure Definition where
  name : String
  collection : String
  filterColumns : List (String × String)
  orderColumns : List (String × String)
  searchableColumns : List String
  settings : Settings

namespace Definition

def ofRaw? (raw : Raw) : Option Definition := do
  let fields ← raw.record?
    ["name", "collection", "filter_columns", "order_columns", "searchable_columns", "settings"]
  return {
    name := ← Raw.field? fields "name" Raw.text?
    collection := ← Raw.field? fields "collection" Raw.text?
    filterColumns := ← Raw.fieldOr fields "filter_columns" Raw.textFields? []
    orderColumns := ← Raw.fieldOr fields "order_columns" Raw.textFields? []
    searchableColumns := ← Raw.fieldOr fields "searchable_columns" Raw.texts? []
    settings := ← Raw.fieldOr fields "settings" Settings.ofRaw? .default }

def parse? (s : String) : Option Definition := do ofRaw? (← Raw.read? s)

def textMembers (fields : List (String × String)) : Json :=
  .object (fields.map fun f => (f.1, .string f.2))

def toJson (d : Definition) : Json :=
  .object [("name", .string d.name), ("collection", .string d.collection),
    ("filter_columns", textMembers d.filterColumns), ("order_columns", textMembers d.orderColumns),
    ("searchable_columns", .array (d.searchableColumns.map .string)), ("settings", d.settings.toJson)]

def toConfig (d : Definition) : Config :=
  let base := (Config.new d.name d.collection).withSettings d.settings
  let filtered := d.filterColumns.foldl (fun c f => c.withFilterColumn f.1 f.2) base
  let ordered := d.orderColumns.foldl (fun c f => c.withOrderColumn f.1 f.2) filtered
  d.searchableColumns.foldl Config.withSearchableColumn ordered

end Definition

end DataGrid
