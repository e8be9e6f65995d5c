import DataGrid.Pattern.CharSet

namespace DataGrid.Pattern

/-- A property of characters: its names, without case and separators, and the characters that have
it, as some whole categories, further spans, and spans to leave out. -/
structure Property where
  names : List String
  whole : List (List (Nat × Nat))
  besides : List (Nat × Nat)
  without : List (Nat × Nat)

namespace Property

def set (p : Property) : CharSet :=
  (CharSet.ofSpans (p.whole.flatten ++ p.besides)).minus (CharSet.ofSpans p.without)

def named? (properties : List Property) (name : String) : Option Property :=
  properties.find? fun p => p.names.contains name

end Property

end DataGrid.Pattern
