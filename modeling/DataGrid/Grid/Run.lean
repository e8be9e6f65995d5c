import DataGrid.Compiled
import DataGrid.Envelope
import DataGrid.Store.Basic

/-!
A grid call: the request is compiled, both queries run one after the other, and the first failure
ends the call. Only a call that succeeds changes the request, by the total it found.
-/

namespace DataGrid.Config

/-- A store that lacks a text index cannot search, which is the grid's fault. -/
def storeFailure (c : Config) (e : StoreError) : Error :=
  if e.isIndexMissing then .searchIndexMissing c.name e.message else .store e

def runFind {m : Type → Type} [Monad m] (c : Config) (s : Store m) (q : Query) : ExceptT Error m (List Document) :=
  ExceptT.mk do return (← s.find q).mapError c.storeFailure

def runCount {m : Type → Type} [Monad m] (c : Config) (s : Store m) (q : Query) : ExceptT Error m Nat :=
  ExceptT.mk do return (← s.count q).mapError c.storeFailure

def runBoth {m : Type → Type} [Monad m] (c : Config) (s : Store m) (q : Compiled) :
    ExceptT Error m (List Document × Nat) :=
  if q.countsFirst then do
    let total ← c.runCount s q.count
    let documents ← c.runFind s q.query
    return (documents, total)
  else do
    let documents ← c.runFind s q.query
    let total ← c.runCount s q.count
    return (documents, total)

def fetch {m : Type → Type} [Monad m] (c : Config) (s : Store m) (r : Request) : ExceptT Error m Found := do
  let q ← ExceptT.mk (pure (c.compile r))
  let (documents, total) ← c.runBoth s q
  return ⟨documents, total, c.settings.dateFormat⟩

def getData {m : Type → Type} [Monad m] (c : Config) (s : Store m) (r : Request) :
    m (Except Error Found × Request) := do
  match ← (c.fetch s r).run with
  | .ok found => return (.ok found, r.setTotal found.total)
  | .error e => return (.error e, r)

def grid {m : Type → Type} [Monad m] (c : Config) (s : Store m) (r : Request) :
    m (Except Error Envelope × Request) := do
  let (found, r) ← c.getData s r
  return (found.map fun f => (Envelope.ofFound r f).withResource c.collection, r)

end DataGrid.Config
