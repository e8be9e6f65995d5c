import DataGrid.Proofs.Confinement
import DataGrid.Proofs.DateConditions
import DataGrid.Proofs.SortOrder

/-! A field that is null against one that is missing. Conditions and the order for sorting do not tell
them apart, but for a bound by null, which null itself keeps to and a missing field does not. -/

namespace DataGrid

namespace Fields

def erase {α : Type} (fields : List (String × α)) (name : String) : List (String × α) :=
  fields.filter fun field => field.1 != name

lemma lookup_erase {α : Type} (fields : List (String × α)) (name other : String) :
    (erase fields name).lookup other = if other = name then none else fields.lookup other := by
  induction fields with
  | nil => simp [erase]
  | cons field fields ih =>
    obtain ⟨k, v⟩ := field
    by_cases hk : k = name
    · subst hk
      have hskip : erase ((k, v) :: fields) k = erase fields k := by simp [erase]
      rw [hskip, ih]
      by_cases ho : other = k
      · rw [if_pos ho, if_pos ho]
      · rw [if_neg ho, if_neg ho, List.lookup_cons, beq_false_of_ne ho]
    · have hkeep : erase ((k, v) :: fields) name = (k, v) :: erase fields name := by simp [erase, hk]
      rw [hkeep, List.lookup_cons, List.lookup_cons, ih]
      by_cases ho : other = k
      · subst ho
        simp [hk]
      · rw [beq_false_of_ne ho]

end Fields

namespace Document

variable {d : Document} {name : String}

lemma lookup_own (hnull : List.lookup name d = some .null) {path : String} (hpath : segments path = [name]) :
    d.lookup path = some .null ∧ lookup (Fields.erase d name) path = none := by
  rw [lookup_of_segments hpath, lookup_of_segments hpath, Fields.lookup_erase, hnull, if_pos rfl]
  exact ⟨rfl, rfl⟩

lemma lookup_other (hnull : List.lookup name d = some .null) {path : String} (hpath : segments path ≠ [name]) :
    lookup (Fields.erase d name) path = d.lookup path := by
  obtain ⟨first, rest, hsegments⟩ := List.exists_cons_of_ne_nil (segments_ne_nil path)
  rw [lookup_of_segments hsegments, lookup_of_segments hsegments, Fields.lookup_erase]
  by_cases hfirst : first = name
  · -- below a null there is nothing
    have hrest : rest ≠ [] := fun h => hpath (by rw [hsegments, hfirst, h])
    obtain ⟨second, deeper, rfl⟩ := List.exists_cons_of_ne_nil hrest
    rw [if_pos hfirst, hfirst, hnull]
    rfl
  · rw [if_neg hfirst]

lemma reads_erase_null {α : Type} (read : Option Bson → α) (hnull : List.lookup name d = some .null) {path : String}
    (h : segments path = [name] → read (some .null) = read none) :
    read (d.lookup path) = read (lookup (Fields.erase d name) path) := by
  by_cases hpath : segments path = [name]
  · obtain ⟨hactual, hmissing⟩ := lookup_own hnull hpath
    rw [hactual, hmissing, h hpath]
  · rw [lookup_other hnull hpath]

lemma erase_of_not_mem {fields : List (String × Bson)} (h : name ∉ Fields.names fields) :
    Fields.erase fields name = fields := by
  refine List.filter_eq_self.mpr fun field hfield => bne_iff_ne.mpr ?_
  rintro rfl
  exact h (List.mem_map_of_mem hfield)

lemma strings_erase_null {fields : List (String × Bson)} (hd : (Fields.names fields).Nodup)
    (hnull : List.lookup name fields = some .null) :
    Bson.stringsOfFields (Fields.erase fields name) = Bson.stringsOfFields fields := by
  induction fields with
  | nil => rfl
  | cons field fields ih =>
    obtain ⟨k, v⟩ := field
    obtain ⟨hk, hfields⟩ := List.nodup_cons.mp hd
    by_cases hname : name = k
    · subst hname
      obtain rfl : v = .null := by simpa [List.lookup_cons] using hnull
      have hskip : Fields.erase ((name, .null) :: fields) name = Fields.erase fields name := by simp [Fields.erase]
      rw [hskip, erase_of_not_mem hk]
      rfl
    · have hkeep : Fields.erase ((k, v) :: fields) name = (k, v) :: Fields.erase fields name := by
        simp [Fields.erase, Ne.symm hname]
      rw [List.lookup_cons, beq_false_of_ne hname] at hnull
      rw [hkeep, Bson.stringsOfFields, Bson.stringsOfFields, ih hfields hnull]

lemma hasWord_erase_null (hd : (Fields.names d).Nodup) (hnull : List.lookup name d = some .null) (search : String) :
    hasWord (Fields.erase d name) search = d.hasWord search := by
  rw [hasWord, hasWord, strings_erase_null hd hnull]

end Document

namespace Bson

section Null

variable {v : Bson}

lemma sortOrder_null (v : Option Bson) : sortOrder (some .null) v = sortOrder none v := by
  rcases v with _ | v
  · rfl
  · cases v <;> rfl

lemma equalValue_null (v : Bson) : equalValue .null v = v.isNull := by
  cases v <;> rfl

lemma fieldEquals_null (v : Bson) : fieldEquals (some .null) v = fieldEquals none v := equalValue_null v

lemma compare?_null (h : v ≠ .null) : compare? .null v = none := by
  cases v <;> first | rfl | exact absurd rfl h

end Null

end Bson

namespace Predicate

variable {d : Document} {name : String}

inductive NullBound (name : String) : Predicate → Prop
  | atLeast {path : String} (h : Document.segments path = [name]) : NullBound name (.gte path .null)
  | atMost {path : String} (h : Document.segments path = [name]) : NullBound name (.lte path .null)

lemma holds_null {r : Relation} {v : Bson} (h : v = .null → r ≠ .gte ∧ r ≠ .lte) :
    r.holds (some .null) v = r.holds none v := by
  have hcompares : ∀ passes, (v = .null → passes .eq = false) →
      Bson.fieldCompares passes (some .null) v = Bson.fieldCompares passes none v := by
    intro passes hpasses
    by_cases hv : v = .null
    · subst hv
      exact hpasses rfl
    · change (Bson.compare? .null v).any passes = false
      rw [Bson.compare?_null hv]
      rfl
  cases r with
  | eq => exact Bson.fieldEquals_null v
  | ne => exact congrArg (!·) (Bson.fieldEquals_null v)
  | gt => exact hcompares _ fun _ => rfl
  | lt => exact hcompares _ fun _ => rfl
  | gte => exact hcompares _ fun hv => absurd rfl (h hv).1
  | lte => exact hcompares _ fun hv => absurd rfl (h hv).2

lemma accepts_null {table : PatternTable} {leaf : Predicate} {path : String} (hfield : leaf.field? = some path)
    (hpath : Document.segments path = [name]) (h : ¬leaf.NullBound name) :
    leaf.accepts table (some .null) = leaf.accepts table none := by
  cases leaf with
  | compare r field v =>
    obtain rfl : field = path := Option.some.inj hfield
    refine holds_null ?_
    rintro rfl
    refine ⟨?_, ?_⟩
    · rintro rfl
      exact h (.atLeast hpath)
    · rintro rfl
      exact h (.atMost hpath)
  | isIn field values => exact List.any_congr rfl Bson.fieldEquals_null
  | notIn field values => exact congrArg (!·) (List.any_congr rfl Bson.fieldEquals_null)
  | _ => rfl

lemma meets_nullBound {table : PatternTable} {leaf : Predicate} (hnull : List.lookup name d = some .null)
    (h : leaf.NullBound name) : leaf.meets table d = true ∧ leaf.meets table (Fields.erase d name) = false := by
  cases h with
  | atLeast hpath =>
    obtain ⟨hactual, hmissing⟩ := Document.lookup_own hnull hpath
    rw [meets, meets, hactual, hmissing]
    exact ⟨rfl, rfl⟩
  | atMost hpath =>
    obtain ⟨hactual, hmissing⟩ := Document.lookup_own hnull hpath
    rw [meets, meets, hactual, hmissing]
    exact ⟨rfl, rfl⟩

end Predicate

namespace Matcher

open Predicate

/-- A document with a field that is null meets a condition exactly if it meets it without the field, as far
as no leaf of the condition bounds the field by null; such a bound is met by null and not by a missing
field. In the order for sorting the two are one. -/
theorem null_admitted_as_missing (d : Document) (name : String) (hd : (Fields.names d).Nodup)
    (hnull : List.lookup name d = some .null) :
    let missing : Document := Fields.erase d name
    (∀ (m : Matcher) (p : Predicate), (∀ leaf ∈ p.leaves, ¬leaf.NullBound name) →
      m.admits p d = m.admits p missing) ∧
    (∀ (m : Matcher) (leaf : Predicate), leaf.NullBound name →
      m.admits leaf d = true ∧ m.admits leaf missing = false) ∧
    ∀ (key : String) (v : Option Bson),
      Bson.sortOrder (d.lookup key) v = Bson.sortOrder (missing.lookup key) v ∧
      Bson.sortOrder v (d.lookup key) = Bson.sortOrder v (missing.lookup key) := by
  intro missing
  refine ⟨fun m p h => ?_, fun m leaf h => meets_nullBound hnull h, fun key v => ⟨?_, ?_⟩⟩
  · refine meets_eq_of_accepts (fun search => (Document.hasWord_erase_null hd hnull search).symm) p ?_
    intro leaf hleaf path hfield
    refine Document.reads_erase_null (leaf.accepts m.pattern?) hnull fun hpath => ?_
    exact accepts_null hfield hpath (h leaf hleaf)
  · exact Document.reads_erase_null (fun actual => Bson.sortOrder actual v) hnull fun _ => Bson.sortOrder_null v
  · refine Document.reads_erase_null (fun actual => Bson.sortOrder v actual) hnull fun _ => ?_
    rw [Bson.sortOrder_swap .none v, Bson.sortOrder_swap (some .null) v, Bson.sortOrder_null]

theorem null_editor_as_missing :
    let d : Document := [("title", .string "Lean"), ("editor", .null)]
    let p : Predicate := .or [.gte "title" .null, .isIn "editor" [.string "Ada", .null]]
    (Fields.names d).Nodup ∧ List.lookup "editor" d = some .null ∧ (∀ leaf ∈ p.leaves, ¬leaf.NullBound "editor") ∧
      NullBound "editor" (.gte "editor" .null) ∧
      ∀ m : Matcher, m.admits p d = m.admits p [("title", .string "Lean")] ∧
        m.admits (.gte "editor" .null) d ≠ m.admits (.gte "editor" .null) [("title", .string "Lean")] ∧
        ∀ v : Option Bson, Bson.sortOrder (d.lookup "editor") v = Bson.sortOrder none v := by
  intro d p
  have hd : (Fields.names d).Nodup := by decide
  have hleaves : ∀ leaf ∈ p.leaves, ¬leaf.NullBound "editor" := by
    have htitle : Document.segments "title" ≠ ["editor"] := by decide
    intro leaf hmem hbound
    rcases hbound with hpath | hpath <;> simp [p, leaves, leavesOf] at hmem
    rw [hmem] at hpath
    exact htitle hpath
  have hbound : NullBound "editor" (.gte "editor" .null) := .atLeast rfl
  obtain ⟨hagree, hapart, horder⟩ := null_admitted_as_missing d "editor" hd rfl
  refine ⟨hd, rfl, hleaves, hbound, fun m => ⟨hagree m p hleaves, ?_, fun v => (horder "editor" v).1⟩⟩
  obtain ⟨hmet, hmissed⟩ := hapart m _ hbound
  exact fun h => Bool.false_ne_true ((hmissed.symm.trans h.symm).trans hmet)

/-- Articles bounded by null on either side: the one with a null editor is found, the one without an
editor is not. -/
theorem null_bound_misses_missing :
    let c := (Config.new "Articles" "articles").withFilterColumn "editor" "editor"
    let d : Document := [("title", .string "Lean"), ("editor", .null)]
    let s : MemoryStore := ⟨[("articles", ⟨[d, Fields.erase d "editor"], false⟩)]⟩
    let bound (op : Operator) := c.advancedTree (.on "articles") [[⟨"editor", op, .null⟩]]
    let matched (p : Predicate) := s.find { Query.on "articles" with conditions := [p] }
    bound .gte = .ok ⟨some (.gte "editor" .null), none⟩ ∧ matched (.gte "editor" .null) = some (.ok [d]) ∧
      bound .lte = .ok ⟨some (.lte "editor" .null), none⟩ ∧ matched (.lte "editor" .null) = some (.ok [d]) :=
  ⟨rfl, rfl, rfl, rfl⟩

end Matcher

end DataGrid
