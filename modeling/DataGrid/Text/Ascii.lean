namespace DataGrid.Text

def asciiLower (s : String) : String := String.ofList (s.toList.map Char.toLower)

def sameAscii (s t : String) : Bool := s.toList.map Char.toLower == t.toList.map Char.toLower

def isAscii (c : Char) : Bool := c.toNat < 128

def isAsciiControl (c : Char) : Bool := c.toNat < 32 || c.toNat == 127

def isVisibleAscii (c : Char) : Bool := (32 ≤ c.toNat && c.toNat < 127) || c == '\t'

end DataGrid.Text
