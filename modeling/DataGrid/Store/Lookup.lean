import DataGrid.Bson.Basic
import DataGrid.Text.Split

/-!
Fields by their path. A path is field names between dots; it leads through documents only, so a list
on the way ends it, and a name that holds a dot itself is out of reach.
-/

namespace DataGrid.Document

def segments (path : String) : List String :=
  (Text.split (· == '.') path.toList).map String.ofList

theorem segments_ne_nil (path : String) : segments path ≠ [] :=
  mt List.map_eq_nil_iff.mp (Text.split_ne_nil (· == '.') path.toList)

theorem segments_append (path rest : String) : segments (path ++ "." ++ rest) = segments path ++ segments rest := by
  have hseam : (path ++ "." ++ rest).toList = path.toList ++ '.' :: rest.toList := by simp
  have hsplit : Text.split (· == '.') (path.toList ++ '.' :: rest.toList) =
      Text.split (· == '.') path.toList ++ Text.split (· == '.') rest.toList :=
    Text.split_append path.toList rest.toList rfl
  rw [segments, hseam, hsplit, List.map_append, segments, segments]

theorem segments_of_no_dot {path : String} (h : '.' ∉ path.toList) : segments path = [path] := by
  have hnone : ∀ c ∈ path.toList, (c == '.') = false := fun c hc => beq_false_of_ne fun he => h (he ▸ hc)
  rw [segments, Text.split_of_none hnone, List.map_singleton, String.ofList_toList]

def descend : Bson → List String → Option Bson
  | value, [] => some value
  | .document fields, name :: names => (fields.lookup name).bind fun value => descend value names
  | _, _ :: _ => none

def lookup (d : Document) (path : String) : Option Bson := descend (.document d) (segments path)

theorem lookup_of_segments {path first : String} {names : List String} (h : segments path = first :: names)
    (d : Document) : d.lookup path = (List.lookup first d).bind fun value => descend value names := by
  rw [lookup, h, descend]

theorem lookup_of_no_dot {path : String} (h : '.' ∉ path.toList) (d : Document) :
    d.lookup path = List.lookup path d := by
  rw [lookup_of_segments (segments_of_no_dot h)]
  cases List.lookup path d <;> rfl

end DataGrid.Document
