import DataGrid.Filter.Words
import DataGrid.Filter.Plain
import DataGrid.Grid.Paging

/-!
A request becomes two queries: one for a page of documents and one that counts them. Both carry the
conditions of the request; only the first is ordered and cut to a page.
-/

namespace DataGrid

structure Compiled where
  query : Query
  count : Query
  countsFirst : Bool

namespace Config

/-- A query under the conditions of a request, which a grid's own conditions see one stage after the
other: plain filters, the advanced filter, the search. -/
def restrict (c : Config) (filter : List (String × Json)) (groups : List (List Condition)) (query : Query) :
    Except Error Query := do
  let query := query.requireAll (← c.plainFilter query filter).toList
  let tree ← c.advancedTree query groups
  let token := Search.token (filter.lookup searchKey) tree c.settings.maxSearchLength
  let query := query.requireAll tree.predicate.toList
  match token with
  | none => return query
  | some words => return query.requireAll (← c.searchPredicates query words)

def countQueryFor (c : Config) (filter : List (String × Json)) (groups : List (List Condition)) (query : Query) :
    Except Error (Query × Bool) :=
  match c.countQuery with
  | some build => do return ((← c.restrict filter groups (build c.toSchema)).unordered, true)
  | none => .ok (query.unordered, false)

def resolveOrder (c : Config) (r : Request) : Except Error (Option Order) :=
  match r.orderBy with
  | none => .ok none
  | some o => (o.resolve c).map some

def compile (c : Config) (r : Request) : Except Error Compiled := do
  let order ← c.resolveOrder r
  let groups ← r.advancedFilter
  let query ← c.restrict r.filter groups { Query.on c.collection with order }
  let (count, countsFirst) ← c.countQueryFor r.filter groups query
  return ⟨query.paginate (offset r.page r.limit) r.limit, count, countsFirst⟩

end Config

end DataGrid
