import DataGrid.Text.Ascii
import DataGrid.Text.Blank

/-!
The parameters of a request, by name in the order of names. Names are alike up to the case of ASCII
letters, to blanks around them, and to hyphens for underscores.
-/

namespace DataGrid

structure Params where
  entries : List (String × String)
  deriving DecidableEq, Inhabited

namespace Params

def empty : Params := ⟨[]⟩

def normalize (name : String) : String :=
  String.ofList ((Text.trim name).toList.map fun c => if c == '-' then '_' else c.toLower)

def insertSorted (name value : String) : List (String × String) → List (String × String)
  | [] => [(name, value)]
  | (k, v) :: rest =>
    if name < k then (name, value) :: (k, v) :: rest
    else if k = name then (name, value) :: rest
    else (k, v) :: insertSorted name value rest

theorem lookup_insertSorted_self (name value : String) (entries : List (String × String)) :
    (insertSorted name value entries).lookup name = some value := by
  induction entries with
  | nil => simp [insertSorted]
  | cons entry entries ih =>
    obtain ⟨k, v⟩ := entry
    by_cases hlt : name < k
    · simp [insertSorted, hlt]
    · by_cases hk : k = name
      · simp [insertSorted, hk]
      · simp [insertSorted, hlt, hk, List.lookup_cons, beq_false_of_ne (Ne.symm hk), ih]

theorem lookup_insertSorted_of_ne {other name : String} (h : other ≠ name) (value : String)
    (entries : List (String × String)) :
    (insertSorted name value entries).lookup other = entries.lookup other := by
  have ho := beq_false_of_ne h
  induction entries with
  | nil => simp [insertSorted, List.lookup_cons, ho]
  | cons entry entries ih =>
    obtain ⟨k, v⟩ := entry
    by_cases hlt : name < k
    · simp [insertSorted, hlt, List.lookup_cons, ho]
    · by_cases hk : k = name
      · subst hk
        simp [insertSorted, List.lookup_cons, ho]
      · simp [insertSorted, hlt, hk, List.lookup_cons, ih]

def insert (p : Params) (name value : String) : Params := ⟨insertSorted (normalize name) value p.entries⟩

def insertAll (p : Params) (pairs : List (String × String)) : Params :=
  pairs.foldl (fun p pair => p.insert pair.1 pair.2) p

def ofList (pairs : List (String × String)) : Params := empty.insertAll pairs

def get? (p : Params) (name : String) : Option String := p.entries.lookup (normalize name)

@[simp]
theorem get?_insert_self (p : Params) (name value : String) : (p.insert name value).get? name = some value :=
  lookup_insertSorted_self (normalize name) value p.entries

theorem get?_insert_of_ne (p : Params) {other name : String} (h : normalize other ≠ normalize name) (value : String) :
    (p.insert name value).get? other = p.get? other :=
  lookup_insertSorted_of_ne h value p.entries

def isEmpty (p : Params) : Bool := p.entries.isEmpty

def filterName : String := "filter"

def advancedName : String := "advanced_filter"

def searchName : String := "search"

def orderName : String := "orderby"

def pageName : String := "page"

def limitName : String := "limit"

def names : List String := [filterName, advancedName, searchName, orderName, pageName, limitName]

end Params

end DataGrid
