import DataGrid.Text.Alphanumeric
import DataGrid.Text.CaseFold
import DataGrid.Text.Lowercase
import DataGrid.Text.Unprintable
import DataGrid.Text.Blank
import DataGrid.Text.Ascii
import DataGrid.Text.Word
import DataGrid.Text.Hex
import DataGrid.Text.Base64
import DataGrid.Text.Utf8
import DataGrid.Number.Count
import DataGrid.Number.Text
import DataGrid.Json.Record
import DataGrid.Json.Printer
import DataGrid.Calendar.Reader
import DataGrid.Calendar.Layout
import DataGrid.Bson.Display
import DataGrid.Bson.Extended
import DataGrid.Bson.OfJson
import DataGrid.Pattern.Parse
import DataGrid.Pattern.Search
import DataGrid.Grid.Definition
import DataGrid.Grid.Describe
import DataGrid.Compiled
import DataGrid.Grid.Run
import DataGrid.Store.Memory
import DataGrid.Http.Extract
import DataGrid.Http.Response
import DataGrid.Proofs.Outcome
import DataGrid.Proofs.Compilation
import DataGrid.Proofs.Calls
import DataGrid.Proofs.Requests
import DataGrid.Proofs.Numerals
import DataGrid.Proofs.Matching
import DataGrid.Proofs.Pages
import DataGrid.Proofs.ServerFilter
import DataGrid.Proofs.Pattern.Closure
import DataGrid.Proofs.Pattern.Program
import DataGrid.Proofs.Pattern.Search
import DataGrid.Proofs.Pattern.Literal
import DataGrid.Proofs.Pattern.Standing
import DataGrid.Proofs.Matchers
import DataGrid.Proofs.Meaning
import DataGrid.Proofs.Operators
import DataGrid.Proofs.Refusal
import DataGrid.Proofs.Confinement
import DataGrid.Proofs.Counting
import DataGrid.Proofs.Json.Values
import DataGrid.Proofs.Json.RoundTrip
import DataGrid.Proofs.HeaderParams
import DataGrid.Proofs.TextOperators
import DataGrid.Proofs.DateTexts
import DataGrid.Proofs.DateConditions
import DataGrid.Proofs.TextIndex
import DataGrid.Proofs.PageRange
import DataGrid.Proofs.Rendering
import DataGrid.Proofs.StoreRuns
import DataGrid.Proofs.NullFilters
import DataGrid.Proofs.SameParts
import DataGrid.Proofs.Reordering
import DataGrid.Proofs.WholeDoubles
import DataGrid.Proofs.SortOrder
import DataGrid.Proofs.MissingFields
import DataGrid.Proofs.StableSort
import DataGrid.Proofs.IntegerWidth
import DataGrid.Proofs.SearchWords
import DataGrid.Proofs.LastEntry
import DataGrid.Proofs.RequestState
import DataGrid.Proofs.ParamNames
import DataGrid.Proofs.Extraction
import DataGrid.Proofs.SingleFilters
import DataGrid.Proofs.ConditionGrammar
import DataGrid.Proofs.RangeOperators
import DataGrid.Proofs.OppositeOperators
import DataGrid.Proofs.HeardSearches
import DataGrid.Proofs.CalendarDays
import DataGrid.Proofs.WrittenDates
import DataGrid.Proofs.DateReading
import DataGrid.Proofs.Pattern.Reading
import DataGrid.Proofs.Pattern.Blocks
import DataGrid.Proofs.Pattern.Spelling
import DataGrid.Proofs.DateShape
import DataGrid.Proofs.RecordShape
import DataGrid.Proofs.StoredJson
import DataGrid.Proofs.EchoedFilter
import DataGrid.Proofs.Pieces
import DataGrid.Proofs.WordSearch
import DataGrid.Proofs.ReadPatterns
import DataGrid.Proofs.PageLinks
import DataGrid.Proofs.CountWindow
import DataGrid.Proofs.RangeReading
import DataGrid.Proofs.ColumnMappings
import DataGrid.Proofs.FieldPaths
