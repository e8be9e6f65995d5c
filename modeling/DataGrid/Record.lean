import DataGrid.Bson.Extended
import DataGrid.Calendar.Layout
import DataGrid.Fields

namespace DataGrid

namespace Bson

mutual

def toJson (layout : String) : Bson → Json
  | objectId id => .string id.hex
  | dateTime millis => .string (Layout.format layout (Instant.clampedMillis millis))
  | document fields => .object (toMembers layout fields)
  | array items => .array (toItems layout items)
  | value => value.extendedJson

def toItems (layout : String) : List Bson → List Json
  | [] => []
  | item :: items => item.toJson layout :: toItems layout items

def toMembers (layout : String) : List (String × Bson) → List (String × Json)
  | [] => []
  | (name, value) :: fields => (name, value.toJson layout) :: toMembers layout fields

end

end Bson

abbrev Record := List (String × Json)

namespace Document

def publicName (name : String) : String := if name = "_id" then "id" else name

def record (layout : String) (d : Document) : Record := Fields.rename publicName (Bson.toMembers layout d)

end Document

structure Found where
  documents : List Document
  total : Nat
  dateFormat : String

namespace Found

def records (f : Found) : List Record := f.documents.map (Document.record f.dateFormat)

def size (f : Found) : Nat := f.documents.length

def isEmpty (f : Found) : Bool := f.documents.isEmpty

end Found

end DataGrid
