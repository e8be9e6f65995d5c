import DataGrid.Bson.ObjectId
import DataGrid.Number.Binary64

namespace DataGrid

/-- Values that a document store holds. A document keeps its fields in order, every name once. Two kinds that sort
with code are left out: code with a scope, and pointers into other databases. -/
inductive Bson
  | null
  | bool (b : Bool)
  | string (s : String)
  | int32 (n : Int32)
  | int64 (n : Int64)
  | double (x : Binary64)
  | dateTime (millis : Int)
  | objectId (id : ObjectId)
  | array (items : List Bson)
  | document (fields : List (String × Bson))
  | decimal128 (text : String)
  | binary (subtype : UInt8) (bytes : List UInt8)
  | timestamp (time increment : UInt32)
  | regex (pattern options : String)
  | symbol (s : String)
  | code (s : String)
  | undefined
  | minKey
  | maxKey
  deriving Inhabited, BEq

abbrev Document := List (String × Bson)

namespace Bson

mutual

/-- Equality of kind and content. Doubles are equal as numbers, so that NaN differs from itself, and
documents are equal when they give the same names equal values in whatever order. -/
def same : Bson → Bson → Bool
  | null, null => true
  | bool a, bool b => a == b
  | string a, string b => a == b
  | int32 a, int32 b => a == b
  | int64 a, int64 b => a == b
  | double a, double b => a.equal b
  | dateTime a, dateTime b => a == b
  | objectId a, objectId b => a == b
  | array a, array b => sameItems a b
  | document a, document b => a.length == b.length && sameFields a b
  | decimal128 a, decimal128 b => a == b
  | binary k a, binary l b => k == l && a == b
  | timestamp t i, timestamp u j => t == u && i == j
  | regex p o, regex q u => p == q && o == u
  | symbol a, symbol b => a == b
  | code a, code b => a == b
  | undefined, undefined => true
  | minKey, minKey => true
  | maxKey, maxKey => true
  | _, _ => false

def sameItems : List Bson → List Bson → Bool
  | [], [] => true
  | a :: as, b :: bs => same a b && sameItems as bs
  | _, _ => false

def sameFields : List (String × Bson) → List (String × Bson) → Bool
  | [], _ => true
  | (name, a) :: as, bs =>
    (match bs.lookup name with
      | some b => same a b
      | none => false) && sameFields as bs

end

end Bson

end DataGrid
