import DataGrid.Grid.Config

namespace DataGrid.Order

/-- The first sign decides the direction, and without one the order descends; a sign in front is not
part of the column. -/
def parse? (raw : String) : Option Order :=
  let cs := Text.trimRight (Text.trimLeft raw.toList)
  let direction := match cs.find? fun c => c == '+' || c == '-' with
    | some '+' => Direction.asc
    | _ => .desc
  let unsigned := match cs with
    | '+' :: rest => rest
    | '-' :: rest => rest
    | cs => cs
  let column := Text.trimRight (Text.trimLeft unsigned)
  if column.isEmpty then none else some ⟨String.ofList column, direction⟩

def resolve (config : Config) (o : Order) : Except Error Order :=
  match config.orderColumn? o.key with
  | some path => .ok ⟨path, o.direction⟩
  | none => .error (.orderColumn o.key config.name)

end DataGrid.Order
