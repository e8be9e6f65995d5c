import DataGrid.Bson.Basic

/-!
The order of stored values. Whole numbers compare exactly and with doubles as doubles; other values
compare only within their kind, and only where the kind has an order. For sorting, kinds follow one
another in a fixed order and values that do not compare count as equal.
-/

namespace DataGrid.Bson

def integer? : Bson → Option Int
  | int32 n => some n.toInt
  | int64 n => some n.toInt
  | _ => none

def number? : Bson → Option Binary64
  | int32 n => some (.ofInt n.toInt)
  | int64 n => some (.ofInt n.toInt)
  | double x => some x
  | _ => none

def compareWithinKind? : Bson → Bson → Option Ordering
  | string a, string b => some (compare a b)
  | dateTime a, dateTime b => some (compare a b)
  | bool a, bool b => some (compare a b)
  | objectId a, objectId b => some (compare a.value.toNat b.value.toNat)
  | null, null => some .eq
  | _, _ => none

def compare? (a b : Bson) : Option Ordering :=
  match a.integer?, b.integer? with
  | some m, some n => some (compare m n)
  | _, _ =>
    match a.number?, b.number? with
    | some x, some y => x.compare? y
    | _, _ => compareWithinKind? a b

def equalValue (a b : Bson) : Bool :=
  match compare? a b with
  | some o => o == .eq
  | none => same a b

def rank : Option Bson → Nat
  | none | some null => 0
  | some (int32 _) | some (int64 _) | some (double _) | some (decimal128 _) => 1
  | some (string _) | some (symbol _) => 2
  | some (document _) => 3
  | some (array _) => 4
  | some (binary _ _) => 5
  | some (objectId _) => 6
  | some (bool _) => 7
  | some (dateTime _) => 8
  | some (timestamp _ _) => 9
  | some (regex _ _) => 10
  | some (code _) | some undefined | some minKey | some maxKey => 11

/-- The order for sorting, a missing value in the place of null. -/
def sortOrder (a b : Option Bson) : Ordering :=
  (compare (rank a) (rank b)).then
    (match a, b with
      | some x, some y => (compare? x y).getD .eq
      | _, _ => .eq)

end DataGrid.Bson
