import DataGrid.Pattern.Footprint
import DataGrid.Pattern.Program
import DataGrid.Pattern.Reader

namespace DataGrid.Pattern

def parse (fold : Bool) (source : String) : Except Fault Program := do
  let p ← read fold source
  if p.fits then return p.program else throw .size

end DataGrid.Pattern
