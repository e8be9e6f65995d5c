namespace DataGrid.Pattern

def isMeta (c : Char) : Bool :=
  c == '\\' || c == '.' || c == '+' || c == '*' || c == '?' || c == '(' || c == ')' || c == '|' ||
    c == '[' || c == ']' || c == '\x7b' || c == '\x7d' || c == '^' || c == '$' || c == '#' || c == '&' ||
    c == '-' || c == '~'

def escapeChars (cs : List Char) : List Char := cs.flatMap fun c => if isMeta c then ['\\', c] else [c]

def escape (s : String) : String := String.ofList (escapeChars s.toList)

end DataGrid.Pattern
