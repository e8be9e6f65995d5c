import DataGrid.Text.Alphanumeric
import DataGrid.Text.Lowercase
import DataGrid.Text.Split

namespace DataGrid.Text

def words (s : String) : List (List Char) :=
  ((split (fun c => !isAlphanumeric c) s.toList).filter (!·.isEmpty)).map lower

end DataGrid.Text
