namespace DataGrid.Pattern

inductive Fault
  | groupUnclosed
  | groupUnopened
  | groupName
  | groupNameRepeated
  | lookAround
  | flag
  | repetitionMissing
  | repetitionUnclosed
  | repetitionCount
  | repetitionOrder
  | setUnclosed
  | setOrder
  | setEnd
  | escapeUnfinished
  | escapeUnknown
  | backreference
  | property
  | wordEdge
  | notAscii
  | nesting
  | size
  deriving DecidableEq

def Fault.message : Fault → String
  | groupUnclosed => "unclosed group"
  | groupUnopened => "unopened group"
  | groupName => "invalid group name"
  | groupNameRepeated => "repeated group name"
  | lookAround => "look-around is not supported"
  | flag => "invalid flag"
  | repetitionMissing => "repetition without an expression"
  | repetitionUnclosed => "unclosed repetition count"
  | repetitionCount => "invalid repetition count"
  | repetitionOrder => "repetition range that runs backwards"
  | setUnclosed => "unclosed character set"
  | setOrder => "character range that runs backwards"
  | setEnd => "character range without a character at its end"
  | escapeUnfinished => "unfinished escape"
  | escapeUnknown => "unknown escape"
  | backreference => "backreferences are not supported"
  | property => "unknown character property"
  | wordEdge => "unknown word boundary"
  | notAscii => "characters beyond ASCII where none are allowed"
  | nesting => "expressions nested too deep"
  | size => "an expression that takes too much memory"

end DataGrid.Pattern
