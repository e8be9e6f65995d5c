import DataGrid.Bson.Basic

namespace DataGrid

inductive Relation
  | eq
  | ne
  | gt
  | gte
  | lt
  | lte
  deriving DecidableEq

inductive Predicate
  | compare (relation : Relation) (field : String) (value : Bson)
  | isIn (field : String) (values : List Bson)
  | notIn (field : String) (values : List Bson)
  | regex (field pattern : String) (fold : Bool)
  | isNull (field : String)
  | notNull (field : String)
  | and (parts : List Predicate)
  | or (parts : List Predicate)
  | text (search : String)
  deriving Inhabited, BEq

namespace Predicate

abbrev eq (field : String) (value : Bson) : Predicate := compare .eq field value

abbrev ne (field : String) (value : Bson) : Predicate := compare .ne field value

abbrev gte (field : String) (value : Bson) : Predicate := compare .gte field value

abbrev lte (field : String) (value : Bson) : Predicate := compare .lte field value

def allOf : List Predicate → Predicate
  | [p] => p
  | parts => and parts

def anyOf : List Predicate → Predicate
  | [p] => p
  | parts => or parts

mutual

def usesText : Predicate → Bool
  | text _ => true
  | and parts => someUsesText parts
  | or parts => someUsesText parts
  | _ => false

def someUsesText : List Predicate → Bool
  | [] => false
  | p :: ps => p.usesText || someUsesText ps

end

def operatorName : Relation → String
  | .eq => "$eq"
  | .ne => "$ne"
  | .gt => "$gt"
  | .gte => "$gte"
  | .lt => "$lt"
  | .lte => "$lte"

def single (name : String) (value : Bson) : Document := [(name, value)]

mutual

def document : Predicate → Document
  | compare r field value => single field (.document (single (operatorName r) value))
  | isIn field values => single field (.document (single "$in" (.array values)))
  | notIn field values => single field (.document (single "$nin" (.array values)))
  | regex field pattern fold =>
    single field (.document [("$regex", .string pattern), ("$options", .string (if fold then "i" else ""))])
  | isNull field => single field .null
  | notNull field => single field (.document (single "$ne" .null))
  | and parts => single "$and" (.array (documents parts))
  | or parts => single "$or" (.array (documents parts))
  | text search => single "$text" (.document (single "$search" (.string search)))

def documents : List Predicate → List Bson
  | [] => []
  | p :: ps => .document p.document :: documents ps

end

end Predicate

end DataGrid
