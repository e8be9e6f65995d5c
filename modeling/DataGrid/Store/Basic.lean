import DataGrid.Error
import DataGrid.Query.Basic

namespace DataGrid

structure Store (m : Type → Type) where
  find : Query → m (Except StoreError (List Document))
  count : Query → m (Except StoreError Nat)

inductive Call
  | find (q : Query)
  | count (q : Query)

def Store.logged {m : Type → Type} [Monad m] (s : Store m) : Store (StateT (List Call) m) where
  find q := do
    modify (· ++ [.find q])
    s.find q
  count q := do
    modify (· ++ [.count q])
    s.count q

end DataGrid
