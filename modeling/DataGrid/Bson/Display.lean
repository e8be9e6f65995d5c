import DataGrid.Bson.Basic
import DataGrid.Calendar.Instant
import DataGrid.Number.Text
import DataGrid.Text.Base64
import DataGrid.Text.Pad

namespace DataGrid.Bson

open Text

/-- Years within six digits have a clock text; times of others are shown as their milliseconds. -/
def clockText (millis : Int) : String :=
  let t := Instant.ofMillis millis
  let d := t.date
  if d.year < -999999 || 999999 < d.year then toString millis
  else
    let fraction := (zeroPadded 3 (t.subsecond / 1000000)).reverse.dropWhile (· == '0')
    let fraction := if fraction.isEmpty then ['0'] else fraction.reverse
    let year := (if d.year < 0 then ['-'] else if 10000 ≤ d.year then ['+'] else []) ++ zeroPadded 4 d.year.natAbs
    String.ofList (year ++ '-' :: (zeroPadded 2 d.month ++ '-' :: (zeroPadded 2 d.day ++
      ' ' :: (decimal t.hour ++ ':' :: (zeroPadded 2 t.minute ++ ':' :: (zeroPadded 2 t.second ++
        '.' :: fraction)))))) ++ " +00:00:00"

def hexShort (n : UInt8) : String := String.ofList (Nat.toDigits 16 n.toNat)

mutual

def display : Bson → String
  | null => "null"
  | bool b => if b then "true" else "false"
  | string s => "\"" ++ s ++ "\""
  | int32 n => toString n.toInt
  | int64 n => toString n.toInt
  | double x => x.plain
  | dateTime millis => "DateTime(\"" ++ clockText millis ++ "\")"
  | objectId id => "ObjectId(\"" ++ id.hex ++ "\")"
  | array items => "[" ++ displayItems items ++ "]"
  | document [] => "\x7b\x7d"
  | document fields => "\x7b " ++ displayFields fields ++ " \x7d"
  | decimal128 text => text
  | binary subtype bytes => "Binary(0x" ++ hexShort subtype ++ ", " ++ String.ofList (base64 bytes) ++ ")"
  | timestamp time increment => "Timestamp(" ++ toString time.toNat ++ ", " ++ toString increment.toNat ++ ")"
  | regex pattern options => "/" ++ pattern ++ "/" ++ options
  | symbol s => "Symbol(\"" ++ s ++ "\")"
  | code s => s
  | undefined => "undefined"
  | minKey => "MinKey"
  | maxKey => "MaxKey"

def displayItems : List Bson → String
  | [] => ""
  | item :: items =>
    match items with
    | [] => item.display
    | _ :: _ => item.display ++ ", " ++ displayItems items

def displayFields : List (String × Bson) → String
  | [] => ""
  | (name, value) :: fields =>
    match fields with
    | [] => "\"" ++ name ++ "\": " ++ value.display
    | _ :: _ => "\"" ++ name ++ "\": " ++ value.display ++ ", " ++ displayFields fields

end

def literal : Bson → String
  | string s => s
  | null => ""
  | value => value.display

end DataGrid.Bson
