import DataGrid.Bson.OfJson
import DataGrid.Json.Reader
import DataGrid.Request.Condition
import DataGrid.Request.OrderBy

namespace DataGrid

structure Request where
  params : Params
  addedFilters : List (String × Json)
  limitOverride : Option Nat
  defaultLimit : Nat
  total : Option Nat
  deriving Inhabited

namespace Request

def new (params : Params) : Request := ⟨params, [], none, 10, none⟩

def withDefaultLimit (r : Request) (limit : Nat) : Request := { r with defaultLimit := max limit 1 }

def addFilter (r : Request) (column : String) (value : Json) : Request :=
  { r with addedFilters := Fields.insert r.addedFilters (innerName column) value }

def setLimit (r : Request) (limit : Nat) : Request := { r with limitOverride := some (max limit 1) }

def setTotal (r : Request) (total : Nat) : Request := { r with total := some total }

def jsonParam? (r : Request) (name : String) : Option Json := do
  let raw := Text.trim (← r.params.get? name)
  if raw.isEmpty then none else Json.parse? raw

def sentFilter (r : Request) : List (String × Json) :=
  match r.jsonParam? Params.filterName with
  | some (.object members) => Fields.rename innerName members
  | _ => []

/-- The search parameter counts where the filter says nothing of a search. -/
def withSearch (r : Request) (filter : List (String × Json)) : List (String × Json) :=
  match r.params.get? Params.searchName with
  | none => filter
  | some search =>
    if Text.isBlankText search || Fields.has filter searchKey then filter
    else Fields.insert filter searchKey (.string search)

def filter (r : Request) : List (String × Json) :=
  Fields.insertAll (r.withSearch r.sentFilter) r.addedFilters

/-- The groups of the advanced filter; a parameter that is no list counts as not sent. -/
def advancedFilter (r : Request) : Except Error (List (List Condition)) :=
  match r.jsonParam? Params.advancedName with
  | some (.array groups) => (groups.mapM Condition.groupOfJson).mapError .malformedCondition
  | _ => .ok []

def orderBy (r : Request) : Option Order := (r.params.get? Params.orderName).bind Order.parse?

def positiveParam? (r : Request) (name : String) : Option Nat :=
  ((r.params.get? name).bind fun s => Count.ofText? (Text.trim s)).filter (1 ≤ ·)

def page (r : Request) : Nat := (r.positiveParam? Params.pageName).getD 1

def limit (r : Request) : Nat :=
  (r.limitOverride <|> r.positiveParam? Params.limitName).getD r.defaultLimit

def publicFilter (r : Request) : List (String × Json) := Fields.rename outerName r.filter

def flattened : Json → Json
  | .array items => .string (Json.array items).param
  | value => value

def headerParams (r : Request) : Params :=
  let filter := r.publicFilter.map fun f => (f.1, flattened f.2)
  let paged := (Params.empty.insert Params.pageName (toString r.page)).insert Params.limitName (toString r.limit)
  let filtered := if filter.isEmpty then paged else paged.insert Params.filterName (Json.object filter).compact
  let advanced := match r.params.get? Params.advancedName with
    | some raw => filtered.insert Params.advancedName raw
    | none => filtered
  match r.orderBy with
  | some o => advanced.insert Params.orderName (String.ofList (o.direction.sign :: o.key.toList))
  | none => advanced

end Request

end DataGrid
