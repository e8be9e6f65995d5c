import DataGrid.Error
import DataGrid.Pattern.Parse
import DataGrid.Pattern.Search
import DataGrid.Query.Predicate
import DataGrid.Store.Compare
import DataGrid.Store.Lookup
import DataGrid.Text.Word

/-!
When a document meets a condition. A missing field is like one that is null; a field that holds a list
meets a condition on single values when one of its items does.
-/

namespace DataGrid

namespace Bson

def isArray : Bson → Bool
  | array _ => true
  | _ => false

def isNull : Bson → Bool
  | null => true
  | _ => false

def fieldEquals (actual : Option Bson) (wanted : Bson) : Bool :=
  match actual with
  | none => wanted.isNull
  | some (array items) =>
    if wanted.isArray then equalValue (array items) wanted else items.any fun item => equalValue item wanted
  | some value => equalValue value wanted

def comparesTo (passes : Ordering → Bool) (wanted value : Bson) : Bool :=
  (compare? value wanted).any passes

def fieldCompares (passes : Ordering → Bool) (actual : Option Bson) (wanted : Bson) : Bool :=
  match actual with
  | none => false
  | some (array items) => items.any (comparesTo passes wanted)
  | some value => comparesTo passes wanted value

def fieldIsNull (actual : Option Bson) : Bool := actual.all isNull

def stringMatches (p : Pattern.Program) : Bson → Bool
  | string s => p.findsIn s
  | _ => false

def fieldMatches (p : Pattern.Program) (actual : Option Bson) : Bool :=
  match actual with
  | some (array items) => items.any (stringMatches p)
  | some value => stringMatches p value
  | none => false

mutual

def strings : Bson → List String
  | string s => [s]
  | array items => stringsOfItems items
  | document fields => stringsOfFields fields
  | _ => []

def stringsOfItems : List Bson → List String
  | [] => []
  | item :: items => item.strings ++ stringsOfItems items

def stringsOfFields : List (String × Bson) → List String
  | [] => []
  | (_, value) :: fields => value.strings ++ stringsOfFields fields

end

end Bson

namespace Relation

def passes : Relation → Ordering → Bool
  | eq, o => o == .eq
  | ne, o => o != .eq
  | gt, o => o.isGT
  | gte, o => o.isGE
  | lt, o => o.isLT
  | lte, o => o.isLE

def holds (r : Relation) (actual : Option Bson) (wanted : Bson) : Bool :=
  match r with
  | eq => Bson.fieldEquals actual wanted
  | ne => !Bson.fieldEquals actual wanted
  | r => Bson.fieldCompares r.passes actual wanted

end Relation

def Document.hasWord (d : Document) (search : String) : Bool :=
  (Bson.stringsOfFields d).any fun s => (Text.words s).any (Text.words search).contains

namespace Predicate

mutual

/-- Whether a document meets a condition, where patterns are taken from a table; one that is not in
the table matches nothing. -/
def meets (table : String → Bool → Option Pattern.Program) (d : Document) : Predicate → Bool
  | compare r field value => r.holds (d.lookup field) value
  | isIn field values => values.any (Bson.fieldEquals (d.lookup field))
  | notIn field values => !values.any (Bson.fieldEquals (d.lookup field))
  | regex field source fold => (table source fold).any fun p => Bson.fieldMatches p (d.lookup field)
  | isNull field => Bson.fieldIsNull (d.lookup field)
  | notNull field => !Bson.fieldIsNull (d.lookup field)
  | and parts => meetsAll table d parts
  | or parts => meetsSome table d parts
  | text search => d.hasWord search

def meetsAll (table : String → Bool → Option Pattern.Program) (d : Document) : List Predicate → Bool
  | [] => true
  | p :: ps => p.meets table d && meetsAll table d ps

def meetsSome (table : String → Bool → Option Pattern.Program) (d : Document) : List Predicate → Bool
  | [] => false
  | p :: ps => p.meets table d || meetsSome table d ps

end

def readPattern? (source : String) (fold : Bool) : Option Pattern.Program :=
  (Pattern.parse fold source).toOption

def holds (p : Predicate) (d : Document) : Bool := p.meets readPattern? d

end Predicate

structure Matcher where
  patterns : List ((String × Bool) × Pattern.Program)

namespace Matcher

/-- What a store says of a pattern that it cannot read; the words behind the first colon are this library's own. -/
def invalidPattern (source : String) (fault : Pattern.Fault) : StoreError :=
  ⟨none, "invalid regular expression: " ++ fault.message ++ " in " ++ source⟩

def pattern? (m : Matcher) (source : String) (fold : Bool) : Option Pattern.Program :=
  m.patterns.lookup (source, fold)

def add (m : Matcher) (source : String) (fold : Bool) : Except StoreError Matcher :=
  match m.pattern? source fold with
  | some _ => .ok m
  | none =>
    match Pattern.parse fold source with
    | .ok p => .ok ⟨((source, fold), p) :: m.patterns⟩
    | .error fault => .error (invalidPattern source fault)

mutual

def collect (m : Matcher) : Predicate → Except StoreError Matcher
  | .regex _ source fold => m.add source fold
  | .and parts => collectAll m parts
  | .or parts => collectAll m parts
  | _ => .ok m

def collectAll (m : Matcher) : List Predicate → Except StoreError Matcher
  | [] => .ok m
  | p :: ps => do collectAll (← collect m p) ps

end

def compile (p : Predicate) : Except StoreError Matcher := collect ⟨[]⟩ p

def admits (m : Matcher) (p : Predicate) (d : Document) : Bool := p.meets m.pattern? d

end Matcher

end DataGrid
