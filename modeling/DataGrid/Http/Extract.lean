import DataGrid.Http.Form
import DataGrid.Http.Uri
import DataGrid.Json.Record
import DataGrid.Request.Basic

/-!
Requests from the wire: parameters come from the query of the target and from headers, and headers
win. Only headers that mean something to a grid count, and only if their values are visible ASCII.
-/

namespace DataGrid

/-- Headers as stores of headers list them: names in order of their first mention, the values of a
name together. -/
def groupHeaders (headers : List (String × String)) : List (String × String) :=
  let lowered := headers.map fun h => (Text.asciiLower h.1, h.2)
  let names := lowered.foldl (fun names h => if names.contains h.1 then names else names ++ [h.1]) []
  names.flatMap fun name => lowered.filter (·.1 == name)

def Params.ofHeaders (headers : List (String × String)) : Params :=
  Params.ofList ((groupHeaders headers).filter fun h =>
    Params.names.contains (Params.normalize h.1) && h.2.toList.all Text.isVisibleAscii)

def Request.extract? (target : String) (headers : List (String × String)) : Option Request := do
  let query ← Uri.query? target
  return .new ((Params.ofList (Form.pairs (query.getD []))).insertAll (Params.ofHeaders headers).entries)

structure Options where
  fields : List (String × String)

namespace Options

def ofRaw? (raw : Json.Raw) : Option Options := do
  let fields ← raw.fullRecord? Params.names
  let values ← Params.names.mapM fun name =>
    (Json.Raw.fieldOr fields name Json.Raw.optionalText? none).map fun value => (name, value)
  return ⟨values.filterMap fun (name, value) => value.map fun v => (name, v)⟩

def parse? (s : String) : Option Options := do ofRaw? (← Json.Raw.read? s)

def request (o : Options) : Request := .new (Params.ofList o.fields)

end Options

end DataGrid
