import DataGrid.Json.Printer
import DataGrid.Json.Record
import DataGrid.Text.Ascii

namespace DataGrid

def offset (page limit : Nat) : Nat := Count.mul (page - 1) limit

structure Paging where
  page : Nat
  itemsPerPage : Nat
  total : Nat
  nextPage : Nat
  lastPage : Nat
  previousPage : Nat
  deriving DecidableEq

namespace Paging

/-- The last page is the one that the next record would go to. -/
def new (page limit total : Nat) : Paging :=
  let limit := max limit 1
  let last := total / limit + 1
  { page, itemsPerPage := limit, total, nextPage := min last (Count.add page 1), lastPage := last,
    previousPage := max (page - 1) 1 }

def toJson (p : Paging) : Json :=
  .object [("page", .int p.page), ("itemsPerPage", .int p.itemsPerPage), ("total", .int p.total),
    ("nextPage", .int p.nextPage), ("lastPage", .int p.lastPage), ("previousPage", .int p.previousPage)]

def ofRaw? (raw : Json.Raw) : Option Paging := do
  let fields ← raw.record? ["page", "itemsPerPage", "total", "nextPage", "lastPage", "previousPage"]
  let count (name : String) : Option Nat := Json.Raw.field? fields name Json.Raw.count?
  return ⟨← count "page", ← count "itemsPerPage", ← count "total", ← count "nextPage", ← count "lastPage",
    ← count "previousPage"⟩

end Paging

namespace ContentRange

def safeName (name : String) : String :=
  String.ofList (name.toList.filter fun c => Text.isAscii c && !Text.isAsciiControl c)

def lastIndex (offset limit total : Nat) : Nat := min (Count.add offset limit - 1) (total - 1)

def text (offset limit total : Nat) (resource : String) : String :=
  safeName resource ++ " " ++ toString offset ++ "-" ++ toString (lastIndex offset limit total) ++ "/" ++
    toString total

/-- The value of the header, or that of an empty result where a header could not hold it. -/
def header (offset limit total : Nat) (resource : String) : String :=
  let value := text offset limit total resource
  if value.toList.all Text.isVisibleAscii then value else "items 0-0/0"

end ContentRange

end DataGrid
