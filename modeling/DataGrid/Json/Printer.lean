import DataGrid.Json.Basic
import DataGrid.Number.Text
import DataGrid.Text.Hex

namespace DataGrid.Json

def escapeChar (c : Char) : List Char :=
  if c == '"' then ['\\', '"']
  else if c == '\\' then ['\\', '\\']
  else if c.toNat = 8 then ['\\', 'b']
  else if c.toNat = 12 then ['\\', 'f']
  else if c == '\n' then ['\\', 'n']
  else if c == '\r' then ['\\', 'r']
  else if c == '\t' then ['\\', 't']
  else if c.toNat < 32 then '\\' :: 'u' :: Text.hexFixed 4 c.toNat
  else [c]

def quoted (s : String) : List Char := '"' :: (s.toList.flatMap escapeChar ++ ['"'])

def intDigits (n : Int) : List Char :=
  if n < 0 then '-' :: Nat.toDigits 10 n.natAbs else Nat.toDigits 10 n.natAbs

mutual

def written : Json → List Char
  | null => ['n', 'u', 'l', 'l']
  | bool true => ['t', 'r', 'u', 'e']
  | bool false => ['f', 'a', 'l', 's', 'e']
  | int n => intDigits n
  | float x => if x.isFinite then x.scientific.toList else ['n', 'u', 'l', 'l']
  | string s => quoted s
  | array items => '[' :: (writtenItems items ++ [']'])
  | object members => '\x7b' :: (writtenMembers members ++ ['\x7d'])

def writtenItems : List Json → List Char
  | [] => []
  | item :: items =>
    match items with
    | [] => item.written
    | _ :: _ => item.written ++ ',' :: writtenItems items

def writtenMembers : List (String × Json) → List Char
  | [] => []
  | (name, value) :: members =>
    match members with
    | [] => quoted name ++ ':' :: value.written
    | _ :: _ => quoted name ++ ':' :: (value.written ++ ',' :: writtenMembers members)

end

def compact (v : Json) : String := String.ofList v.written

end DataGrid.Json
