import DataGrid.Json.Reader

/-!
Records with known fields, read from JSON text. A record is an object, whose unknown members are
skipped and whose known ones occur at most once, or an array of the field values in order.
-/

namespace DataGrid.Json.Raw

def text? : Raw → Option String
  | string pieces => decodeString pieces
  | _ => none

def flag? : Raw → Option Bool
  | bool b => some b
  | _ => none

def count? : Raw → Option Nat
  | number n =>
    let value := NumberText.natOfDigits n.whole
    if n.isWhole && !n.negative && value ≤ Count.most then some value else none
  | _ => none

def texts? : Raw → Option (List String)
  | array items => items.mapM text?
  | _ => none

def textMember? (member : List Piece × Raw) : Option (String × String) := do
  return (← decodeString member.1, ← member.2.text?)

def textFields? : Raw → Option (List (String × String))
  | object members => (members.mapM textMember?).map Fields.ofList
  | _ => none

def optionalText? : Raw → Option (Option String)
  | null => some none
  | raw => raw.text?.map some

def name? : Raw → Option String
  | string pieces => decodeString pieces
  | object [(name, null)] => decodeString name
  | _ => none

def knownMembers? (names : List String) : List (List Piece × Raw) → Option (List (String × Raw))
  | [] => some []
  | (name, value) :: members => do
    let name ← decodeString name
    let known ← knownMembers? names members
    if !names.contains name then some known
    else if Fields.has known name then none
    else some ((name, value) :: known)

/-- The fields of a record by name; an array may leave out fields at its end. -/
def record? (names : List String) : Raw → Option (List (String × Raw))
  | object members => knownMembers? names members
  | array items => if items.length ≤ names.length then some (names.zip items) else none
  | _ => none

def fullRecord? (names : List String) : Raw → Option (List (String × Raw))
  | array items => if items.length = names.length then some (names.zip items) else none
  | raw => raw.record? names

def fieldOr {α : Type} (fields : List (String × Raw)) (name : String) (read : Raw → Option α) (missing : α) : Option α :=
  match fields.lookup name with
  | none => some missing
  | some raw => read raw

def field? {α : Type} (fields : List (String × Raw)) (name : String) (read : Raw → Option α) : Option α :=
  (fields.lookup name).bind read

end DataGrid.Json.Raw
