import DataGrid.Query.Predicate

namespace DataGrid

inductive Direction
  | asc
  | desc
  deriving DecidableEq

namespace Direction

def name : Direction → String
  | asc => "ASC"
  | desc => "DESC"

def sign : Direction → Char
  | asc => '+'
  | desc => '-'

def ofName? : String → Option Direction
  | "ASC" => some asc
  | "DESC" => some desc
  | _ => none

end Direction

structure Order where
  key : String
  direction : Direction
  deriving DecidableEq

/-- What a store is asked for: the documents of a collection that meet all conditions, in an order,
from a place on, up to a number. -/
structure Query where
  collection : String
  conditions : List Predicate
  order : Option Order
  skip : Option Nat
  limit : Option Nat
  deriving Inhabited

namespace Query

def on (collection : String) : Query := ⟨collection, [], none, none, none⟩

def requireAll (q : Query) (ps : List Predicate) : Query := { q with conditions := q.conditions ++ ps }

def paginate (q : Query) (skip limit : Nat) : Query := { q with skip := some skip, limit := some limit }

def unordered (q : Query) : Query := { q with order := none }

def filter (q : Query) : Option Predicate :=
  match q.conditions with
  | [] => none
  | ps => some (.allOf ps)

def filterDocument (q : Query) : Document :=
  match q.filter with
  | none => []
  | some p => p.document

def orderDocument (q : Query) : Option Document :=
  q.order.map fun o => Predicate.single o.key (.int32 (match o.direction with
    | .asc => 1
    | .desc => -1))

def usesText (q : Query) : Bool := q.conditions.any Predicate.usesText

end Query

end DataGrid
