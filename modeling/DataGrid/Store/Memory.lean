import DataGrid.Fields
import DataGrid.Sort.Stable
import DataGrid.Store.Basic
import DataGrid.Store.Match

namespace DataGrid

structure Collection where
  documents : List Document
  textIndex : Bool
  deriving Inhabited

structure MemoryStore where
  collections : List (String × Collection)
  deriving Inhabited

def Document.idField : String := "_id"

def Document.withId (d : Document) (fresh : ObjectId) : Document :=
  if Fields.has d idField then d else d ++ [(idField, .objectId fresh)]

def Order.less (o : Order) (d e : Document) : Bool :=
  Bson.sortOrder (d.lookup o.key) (e.lookup o.key) == match o.direction with
    | .asc => .lt
    | .desc => .gt

/-- The documents in the order of a query; `none` where that turned out to be no order and the sort stopped. -/
def Query.arrange (q : Query) (documents : List Document) : Option (List Document) :=
  match q.order with
  | none => some documents
  | some o => Sort.sort o.less documents

def Query.cut (q : Query) (documents : List Document) : List Document :=
  let rest := documents.drop (q.skip.getD 0)
  match q.limit with
  | none => rest
  | some n => rest.take n

def Query.window (q : Query) (documents : List Document) : Option (List Document) := (q.arrange documents).map q.cut

namespace MemoryStore

def empty : MemoryStore := ⟨[]⟩

def collection (s : MemoryStore) (name : String) : Collection := (s.collections.lookup name).getD ⟨[], false⟩

def update (s : MemoryStore) (name : String) (f : Collection → Collection) : MemoryStore :=
  ⟨Fields.insert s.collections name (f (s.collection name))⟩

def insertMany (s : MemoryStore) (name : String) (documents : List (Document × ObjectId)) : MemoryStore :=
  s.update name fun c => { c with documents := c.documents ++ documents.map fun d => d.1.withId d.2 }

def insertOne (s : MemoryStore) (name : String) (d : Document) (fresh : ObjectId) : MemoryStore × Bson :=
  (s.insertMany name [(d, fresh)], ((d.withId fresh).lookup Document.idField).getD .null)

def createTextIndex (s : MemoryStore) (name : String) : MemoryStore :=
  s.update name fun c => { c with textIndex := true }

def indexRequired (name : String) : StoreError :=
  ⟨some StoreError.indexMissing, "text index required for $text query on '" ++ name ++ "'"⟩

/-- The documents that meet the conditions of a query. An unknown collection has none; in a known one
a search for words needs an index, and all patterns have to be valid. -/
def matching (s : MemoryStore) (q : Query) : Except StoreError (List Document) :=
  match s.collections.lookup q.collection with
  | none => .ok []
  | some c =>
    if q.usesText && !c.textIndex then .error (indexRequired q.collection)
    else match q.filter with
      | none => .ok c.documents
      | some p => (Matcher.compile p).map fun m => c.documents.filter (m.admits p)

/-- What a query finds. Nothing comes back, not even an error, where sorting stopped. -/
def find (s : MemoryStore) (q : Query) : Option (Except StoreError (List Document)) :=
  match s.matching q with
  | .error e => some (.error e)
  | .ok documents => (q.window documents).map .ok

def count (s : MemoryStore) (q : Query) : Except StoreError Nat := (s.matching q).map List.length

def store (s : MemoryStore) : Store Option := ⟨s.find, fun q => some (s.count q)⟩

end MemoryStore

end DataGrid
