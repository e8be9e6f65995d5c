import DataGrid.Text.Hex
import DataGrid.Text.Split
import DataGrid.Text.Utf8

namespace DataGrid.Form

/-- A percent sign without two digits behind it stands for itself. -/
def unescape : List UInt8 → List UInt8
  | [] => []
  | [a] => [a]
  | [a, b] => [a, b]
  | a :: b :: c :: rest =>
    if a = 37 then
      match Text.hexValue? (Char.ofNat b.toNat), Text.hexValue? (Char.ofNat c.toNat) with
      | some high, some low => UInt8.ofNat (high * 16 + low) :: unescape rest
      | _, _ => a :: unescape (b :: c :: rest)
    else a :: unescape (b :: c :: rest)

def decode (cs : List Char) : String :=
  let spaced := cs.map fun c => if c == '+' then ' ' else c
  String.ofList (Text.Utf8.decode (unescape (Text.Utf8.encode spaced)))

def pair (piece : List Char) : String × String :=
  let (name, value) := Text.cutAt '=' piece
  (decode name, decode (value.getD []))

def pairs (query : List Char) : List (String × String) :=
  ((Text.split (· == '&') query).filter (!·.isEmpty)).map pair

end DataGrid.Form
