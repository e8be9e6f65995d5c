import DataGrid.Filter.Tree

namespace DataGrid

namespace Search

def sanitize (maxLength : Nat) (words : String) : Option String :=
  let cut := Text.trimRight ((Text.trimRight (Text.trimLeft words.toList)).take maxLength)
  if cut.isEmpty then none else some (String.ofList cut)

/-- The words of the advanced filter win over those of the plain one only if it has conditions too. -/
def token (plain : Option Json) (tree : Tree) (maxLength : Nat) : Option String :=
  let plain := plain.bind fun value => sanitize maxLength value.param
  let advanced := tree.search.bind (sanitize maxLength)
  if tree.predicate.isSome && advanced.isSome then advanced else plain <|> advanced

end Search

namespace Config

def searchPart (c : Config) (query : Query) (words path : String) : Option Predicate :=
  match c.override? path with
  | some override => override query (.string words) path (some .like)
  | none => some (Operator.like.predicate path (.string words))

def searchPredicates (c : Config) (query : Query) (words : String) : Except Error (List Predicate) :=
  if c.searchableColumns.isEmpty then .error (.searchableColumn c.name)
  else
    let parts := c.searchableColumns.filterMap (c.searchPart query words)
    .ok ((if c.settings.textSearch then [.text words] else []) ++
      (if parts.isEmpty then [] else [.anyOf parts]))

end Config

end DataGrid
