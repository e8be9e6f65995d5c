import DataGrid.Grid.Paging
import DataGrid.Record
import DataGrid.Request.Basic

namespace DataGrid

/-- One page; `resource` is what the range header calls its records. -/
structure Envelope where
  items : List Record
  filter : List (String × Json)
  order : Option Order
  paging : Paging
  resource : String

namespace Envelope

def assemble (r : Request) (items : List Record) : Envelope :=
  { items, filter := r.publicFilter, order := r.orderBy, paging := .new r.page r.limit (r.total.getD 0),
    resource := "items" }

def ofFound (r : Request) (found : Found) : Envelope := assemble r found.records

def withResource (e : Envelope) (resource : String) : Envelope := { e with resource }

def orderJson : Option Order → Json
  | none => .array []
  | some o => .array [.string o.key, .string o.direction.name]

def toJson (e : Envelope) : Json :=
  .object [("items", .array (e.items.map .object)), ("filter", .object e.filter),
    ("sorter", orderJson e.order), ("paging", e.paging.toJson)]

def contentRange (e : Envelope) : String :=
  ContentRange.header (offset e.paging.page e.paging.itemsPerPage) e.paging.itemsPerPage e.paging.total e.resource

end Envelope

end DataGrid
