namespace DataGrid.Text

def padLeft (width : Nat) (fill : Char) (cs : List Char) : List Char :=
  List.replicate (width - cs.length) fill ++ cs

def decimal (n : Nat) : List Char := Nat.toDigits 10 n

def zeroPadded (width n : Nat) : List Char := padLeft width '0' (decimal n)

/-- A number with its sign in front, the sign counting as one of `width` places; with zeros as fill
the sign comes first, with blanks last. -/
def signedPadded (width : Nat) (fill : Char) (plus : Bool) (n : Int) : List Char :=
  let sign := if n < 0 then ['-'] else if plus then ['+'] else []
  if fill == '0' then sign ++ padLeft (width - sign.length) '0' (decimal n.natAbs)
  else padLeft width fill (sign ++ decimal n.natAbs)

end DataGrid.Text
