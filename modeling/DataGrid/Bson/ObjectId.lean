import DataGrid.Text.Hex

namespace DataGrid

/-- An identifier of twelve bytes, held as the number that they write in base 256; the order of these
numbers is that of the bytes. -/
structure ObjectId where
  value : BitVec 96
  deriving DecidableEq, Inhabited

namespace ObjectId

def hex (id : ObjectId) : String := String.ofList (Text.hexFixed 24 id.value.toNat)

def ofHex? (s : String) : Option ObjectId :=
  if s.length = 24 then (Text.hexNumber? s.toList).map fun n => ⟨BitVec.ofNat 96 n⟩ else none

end ObjectId

end DataGrid
