import DataGrid.Pattern.Age
import DataGrid.Pattern.BinaryProperty
import DataGrid.Pattern.Category
import DataGrid.Pattern.Contributory
import DataGrid.Pattern.Script
import DataGrid.Pattern.Segmentation

namespace DataGrid.Pattern.Property

def foldedName (cs : List Char) : List Char :=
  (cs.filter fun c => c.toNat < 128 && c != ' ' && c != '_' && c != '-').map Char.toLower

/-- A name as the tables spell it. The name `isc` is that of a comment and not of a category. -/
def plainName (cs : List Char) : String :=
  match cs with
  | i :: s :: rest =>
    if i.toLower == 'i' && s.toLower == 's' then
      if foldedName rest == ['c'] then "isc" else String.ofList (foldedName rest)
    else String.ofList (foldedName cs)
  | _ => String.ofList (foldedName cs)

def extended (script : Property) : CharSet :=
  match script.names.head?.bind fun name => extensions.lookup name with
  | some (shared, elsewhere) => (script.set.union (CharSet.ofSpans shared)).minus (CharSet.ofSpans elsewhere)
  | none => script.set

def bare? (name : List Char) : Option CharSet :=
  let name := plainName name
  (named? binary name <|> named? contributory name <|> named? categories name <|> named? scripts name).map set

def valued? (name value : List Char) : Option CharSet :=
  let value := plainName value
  match plainName name with
  | "gc" | "generalcategory" => (named? categories value).map set
  | "sc" | "script" => (named? scripts value).map set
  | "scx" | "scriptextensions" => (named? scripts value).map extended
  | "age" => assignedBy? value versions
  | "gcb" | "graphemeclusterbreak" => (named? graphemeBreaks value).map set
  | "wb" | "wordbreak" => (named? wordBreaks value).map set
  | "sb" | "sentencebreak" => (named? sentenceBreaks value).map set
  | _ => none

def cutAt (mark : List Char) : List Char → Option (List Char × List Char)
  | [] => none
  | c :: cs =>
    if mark.isPrefixOf (c :: cs) then some ([], (c :: cs).drop mark.length)
    else (cutAt mark cs).map fun p => (c :: p.1, p.2)

def ofText? (cs : List Char) : Option (Bool × CharSet) :=
  match cutAt ['!', '='] cs with
  | some (name, value) => (valued? name value).map (true, ·)
  | none =>
    match cutAt [':'] cs <|> cutAt ['='] cs with
    | some (name, value) => (valued? name value).map (false, ·)
    | none => (bare? cs).map (false, ·)

end DataGrid.Pattern.Property
