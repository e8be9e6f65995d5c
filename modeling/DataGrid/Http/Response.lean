import DataGrid.Envelope
import DataGrid.Error

namespace DataGrid

structure Response where
  status : Nat
  contentRange : Option String
  body : String
  deriving DecidableEq

def Envelope.response (e : Envelope) : Response := ⟨200, some e.contentRange, e.toJson.compact⟩

def Error.response (e : Error) : Response :=
  ⟨e.status, none, (Json.object [("error", .string e.publicMessage)]).compact⟩

end DataGrid
