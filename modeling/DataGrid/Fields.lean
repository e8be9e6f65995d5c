/-!
Named values in an order. `insert` gives a name its value where the name already stands, and else at
the end, so that a list built by it has every name once, at the place of its first mention.
-/

namespace DataGrid.Fields

def insert {α : Type} : List (String × α) → String → α → List (String × α)
  | [], name, x => [(name, x)]
  | (k, v) :: fields, name, x => if k = name then (k, x) :: fields else (k, v) :: insert fields name x

@[simp]
theorem lookup_insert_self {α : Type} (fields : List (String × α)) (name : String) (x : α) :
    (insert fields name x).lookup name = some x := by
  induction fields with
  | nil => simp [insert]
  | cons field fields ih =>
    obtain ⟨k, v⟩ := field
    by_cases h : k = name
    · simp [insert, h]
    · simp [insert, h, List.lookup_cons, beq_false_of_ne (Ne.symm h), ih]

theorem lookup_insert_of_ne {α : Type} {other name : String} (h : other ≠ name) (fields : List (String × α)) (x : α) :
    (insert fields name x).lookup other = fields.lookup other := by
  induction fields with
  | nil => simp [insert, List.lookup_cons, beq_false_of_ne h]
  | cons field fields ih =>
    obtain ⟨k, v⟩ := field
    by_cases hk : k = name
    · subst hk
      simp [insert, List.lookup_cons, beq_false_of_ne h]
    · simp [insert, hk, List.lookup_cons, ih]

theorem lookup_map {α β : Type} (f : α → β) (fields : List (String × α)) (name : String) :
    (fields.map fun field => (field.1, f field.2)).lookup name = (fields.lookup name).map f := by
  induction fields with
  | nil => rfl
  | cons field fields ih =>
    rw [List.map_cons, List.lookup_cons, List.lookup_cons, ih]
    cases name == field.1 <;> rfl

theorem mem_of_mem_insert {α : Type} {fields : List (String × α)} {name : String} {x : α} {field : String × α}
    (h : field ∈ insert fields name x) : field = (name, x) ∨ field ∈ fields := by
  induction fields with
  | nil => simpa [insert] using h
  | cons first fields ih =>
    obtain ⟨k, v⟩ := first
    by_cases hk : k = name
    · rw [insert, if_pos hk] at h
      cases List.mem_cons.mp h with
      | inl he => exact .inl (hk ▸ he)
      | inr hm => exact .inr (List.mem_cons_of_mem _ hm)
    · rw [insert, if_neg hk] at h
      cases List.mem_cons.mp h with
      | inl he => exact .inr (he ▸ List.mem_cons_self)
      | inr hm => exact (ih hm).imp_right (List.mem_cons_of_mem _)

def insertAll {α : Type} (fields more : List (String × α)) : List (String × α) :=
  more.foldl (fun acc field => insert acc field.1 field.2) fields

def ofList {α : Type} (fields : List (String × α)) : List (String × α) := insertAll [] fields

def names {α : Type} (fields : List (String × α)) : List String := fields.map Prod.fst

theorem mem_names_insert {α : Type} (fields : List (String × α)) (name : String) (x : α) (other : String) :
    other ∈ names (insert fields name x) ↔ other = name ∨ other ∈ names fields := by
  induction fields with
  | nil => simp [insert, names]
  | cons field fields ih =>
    obtain ⟨k, v⟩ := field
    by_cases hk : k = name
    · simp [insert, names, hk]
    · simp only [names] at ih
      simp [insert, names, hk, ih, or_left_comm]

theorem insert_of_not_mem {α : Type} {fields : List (String × α)} {name : String} (h : name ∉ names fields) (x : α) :
    insert fields name x = fields ++ [(name, x)] := by
  induction fields with
  | nil => rfl
  | cons field fields ih =>
    obtain ⟨k, v⟩ := field
    have hk : k ≠ name := fun he => h (he ▸ List.mem_cons_self)
    rw [insert, if_neg hk, ih fun hm => h (List.mem_cons_of_mem k hm)]
    rfl

theorem nodup_names_insert {α : Type} {fields : List (String × α)} (h : (names fields).Nodup) (name : String) (x : α) :
    (names (insert fields name x)).Nodup := by
  induction fields with
  | nil => simp [insert, names]
  | cons field fields ih =>
    obtain ⟨k, v⟩ := field
    obtain ⟨hk, hf⟩ := List.nodup_cons.mp h
    by_cases he : k = name
    · simpa [insert, names, he] using h
    · have hi := mem_names_insert fields name x k
      rw [insert, if_neg he]
      exact List.nodup_cons.mpr ⟨fun hm => (hi.mp hm).elim he hk, ih hf⟩

theorem mem_of_mem_insertAll {α : Type} {fields more : List (String × α)} {field : String × α}
    (h : field ∈ insertAll fields more) : field ∈ fields ∨ field ∈ more := by
  induction more generalizing fields with
  | nil => exact .inl h
  | cons first more ih =>
    cases ih h with
    | inl hi => exact (mem_of_mem_insert hi).elim (fun he => .inr (he ▸ List.mem_cons_self)) .inl
    | inr hm => exact .inr (List.mem_cons_of_mem _ hm)

theorem nodup_names_insertAll {α : Type} {fields : List (String × α)} (h : (names fields).Nodup)
    (more : List (String × α)) : (names (insertAll fields more)).Nodup := by
  induction more generalizing fields with
  | nil => exact h
  | cons field more ih => exact ih (nodup_names_insert h field.1 field.2)

theorem insertAll_of_nodup {α : Type} {fields more : List (String × α)} (h : (names (fields ++ more)).Nodup) :
    insertAll fields more = fields ++ more := by
  induction more generalizing fields with
  | nil => simp [insertAll]
  | cons field more ih =>
    have hname : field.1 ∉ names fields := by
      simp only [names, List.map_append, List.map_cons] at h ⊢
      exact fun hm => (List.nodup_append.mp h).2.2 _ hm _ List.mem_cons_self rfl
    change insertAll (insert fields field.1 field.2) more = _
    rw [insert_of_not_mem hname, ih (by simpa using h), List.append_assoc]
    rfl

theorem lookup_insertAll {α : Type} {more : List (String × α)} (h : (names more).Nodup)
    (fields : List (String × α)) (name : String) :
    (insertAll fields more).lookup name = (more.lookup name <|> fields.lookup name) := by
  induction more generalizing fields with
  | nil => simp [insertAll]
  | cons field more ih =>
    obtain ⟨k, v⟩ := field
    obtain ⟨hk, hm⟩ := List.nodup_cons.mp h
    change (insertAll (insert fields k v) more).lookup name = _
    rw [ih hm]
    by_cases he : name = k
    · subst he
      have hn : more.lookup name = none := by
        refine List.lookup_eq_none_iff.mpr fun field hf => bne_iff_ne.mpr ?_
        rintro rfl
        exact hk (List.mem_map.mpr ⟨field, hf, rfl⟩)
      simp [hn]
    · rw [lookup_insert_of_ne he, List.lookup_cons, beq_false_of_ne he]

theorem nodup_names_ofList {α : Type} (fields : List (String × α)) : (names (ofList fields)).Nodup :=
  nodup_names_insertAll (show (names ([] : List (String × α))).Nodup from List.nodup_nil) fields

theorem mem_of_mem_ofList {α : Type} {fields : List (String × α)} {field : String × α} (h : field ∈ ofList fields) :
    field ∈ fields :=
  (mem_of_mem_insertAll h).resolve_left List.not_mem_nil

theorem ofList_of_nodup {α : Type} {fields : List (String × α)} (h : (names fields).Nodup) : ofList fields = fields :=
  insertAll_of_nodup h

def has {α : Type} (fields : List (String × α)) (name : String) : Bool := (fields.lookup name).isSome

/-- All names changed by a map; of names that become equal, the last value stands at the first place. -/
def rename {α : Type} (f : String → String) (fields : List (String × α)) : List (String × α) :=
  ofList (fields.map fun field => (f field.1, field.2))

end DataGrid.Fields
