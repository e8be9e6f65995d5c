import DataGrid.Bson.Basic
import DataGrid.Calendar.Instant
import DataGrid.Json.Basic
import DataGrid.Text.Base64
import DataGrid.Text.Hex
import DataGrid.Text.Pad

namespace DataGrid.Bson

def tagged (name : String) (value : Json) : Json := .object [(name, value)]

def insertChar (c : Char) : List Char → List Char
  | [] => [c]
  | d :: ds => if c ≤ d then c :: d :: ds else d :: insertChar c ds

def sortChars (cs : List Char) : List Char := cs.foldr insertChar []

def doubleJson (x : Binary64) : Json :=
  if x.isNaN then tagged "$numberDouble" (.string (if x.isNegative then "-NaN" else "NaN"))
  else if x.isInfinite then
    tagged "$numberDouble" (.string (if x.isNegative then "-Infinity" else "Infinity"))
  else .float x

/-- Dates of the years 1970 to 9999 have a text, with the digits of a second that are not trailing zeros. -/
def dateJson (millis : Int) : Json :=
  let t := Instant.ofMillis millis
  let d := t.date
  if millis < 0 || 9999 < d.year then tagged "$numberLong" (.string (toString millis))
  else
    let fraction := ((Text.zeroPadded 3 (t.subsecond / 1000000)).reverse.dropWhile (· == '0')).reverse
    .string (String.ofList (Text.zeroPadded 4 d.year.natAbs ++ '-' :: (Text.zeroPadded 2 d.month ++ '-' ::
      (Text.zeroPadded 2 d.day ++ 'T' :: (Text.zeroPadded 2 t.hour ++ ':' :: (Text.zeroPadded 2 t.minute ++ ':' ::
        (Text.zeroPadded 2 t.second ++ (if fraction.isEmpty then [] else '.' :: fraction) ++ ['Z'])))))))

mutual

def extendedJson : Bson → Json
  | null => .null
  | bool b => .bool b
  | string s => .string s
  | int32 n => .int n.toInt
  | int64 n => .int n.toInt
  | double x => doubleJson x
  | dateTime millis => tagged "$date" (dateJson millis)
  | objectId id => tagged "$oid" (.string id.hex)
  | array items => .array (extendedItems items)
  | document fields => .object (extendedFields fields)
  | decimal128 text => tagged "$numberDecimal" (.string text)
  | binary subtype bytes =>
    tagged "$binary" (.object [("base64", .string (String.ofList (Text.base64 bytes))),
      ("subType", .string (String.ofList (Text.hexByte subtype)))])
  | timestamp time increment =>
    tagged "$timestamp" (.object [("t", .int time.toNat), ("i", .int increment.toNat)])
  | regex pattern options =>
    tagged "$regularExpression" (.object [("pattern", .string pattern),
      ("options", .string (String.ofList (sortChars options.toList)))])
  | symbol s => tagged "$symbol" (.string s)
  | code s => tagged "$code" (.string s)
  | undefined => tagged "$undefined" (.bool true)
  | minKey => tagged "$minKey" (.int 1)
  | maxKey => tagged "$maxKey" (.int 1)

def extendedItems : List Bson → List Json
  | [] => []
  | item :: items => item.extendedJson :: extendedItems items

def extendedFields : List (String × Bson) → List (String × Json)
  | [] => []
  | (name, value) :: fields => (name, value.extendedJson) :: extendedFields fields

end

end DataGrid.Bson
