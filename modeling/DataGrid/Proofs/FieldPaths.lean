import DataGrid.Proofs.Pieces
import DataGrid.Proofs.RecordShape
import DataGrid.Store.Lookup

namespace DataGrid

namespace Bson

lemma at?_cons (v : Bson) (key : Key) (path : List Key) : v.at? (key :: path) = (v.under? key).bind fun w => w.at? path :=
  rfl

lemma at?_append (v : Bson) (path rest : List Key) : v.at? (path ++ rest) = (v.at? path).bind fun w => w.at? rest :=
  List.foldlM_append

lemma at?_name_of_not_document {v : Bson} (h : ∀ fields, v ≠ document fields) (name : String) (path : List Key) :
    v.at? (.name name :: path) = none := by
  cases v with
  | document fields => exact absurd rfl (h fields)
  | _ => rfl

end Bson

namespace Document

variable {d : Document} {path : String}

lemma descend_eq_at? (v : Bson) (names : List String) : descend v names = v.at? (names.map .name) := by
  induction names generalizing v with
  | nil =>
    rw [descend]
    rfl
  | cons name names ih =>
    rw [List.map_cons, Bson.at?_cons]
    cases v with
    | document fields =>
      rw [descend, Bson.under?]
      simp only [ih]
    | _ => rfl

lemma lookup_eq_at? (d : Document) (path : String) :
    d.lookup path = (Bson.document d).at? ((segments path).map .name) :=
  descend_eq_at? (.document d) (segments path)

lemma lookup_append (d : Document) (path rest : String) :
    d.lookup (path ++ "." ++ rest) = (d.lookup path).bind fun v => v.at? ((segments rest).map .name) := by
  rw [lookup_eq_at?, segments_append, List.map_append, Bson.at?_append, ← lookup_eq_at?]

lemma segments_eq_iff {names : List String} :
    segments path = names ↔
      names ≠ [] ∧ (∀ name ∈ names, '.' ∉ name.toList) ∧ ".".intercalate names = path := by
  have hpieces : segments path = names ↔ Text.split (· == '.') path.toList = names.map String.toList := by
    constructor
    · rintro rfl
      simp [segments]
    · intro h
      simp [segments, h]
  have hjoin : ".".intercalate names = path ↔ ['.'].intercalate (names.map String.toList) = path.toList := by
    rw [← String.toList_inj, String.toList_intercalate]
    rfl
  rw [hpieces, hjoin, Text.split_eq_iff, List.forall_mem_map, ne_eq, List.map_eq_nil_iff]

lemma lookup_eq_some_iff {v : Bson} :
    d.lookup path = some v ↔ ∃ names, names ≠ [] ∧ (∀ name ∈ names, '.' ∉ name.toList) ∧
      ".".intercalate names = path ∧ (Bson.document d).at? (names.map .name) = some v := by
  rw [lookup_eq_at?]
  constructor
  · intro h
    obtain ⟨hne, hdotless, hpath⟩ := segments_eq_iff.mp (rfl : segments path = segments path)
    exact ⟨segments path, hne, hdotless, hpath, h⟩
  · rintro ⟨names, hne, hdotless, hpath, h⟩
    rwa [segments_eq_iff.mpr ⟨hne, hdotless, hpath⟩]

lemma lookup_of_dotted_field {name : String} (hname : '.' ∈ name.toList) (front back : Document) (v : Bson)
    (path : String) : lookup (front ++ (name, v) :: back) path = lookup (front ++ back) path := by
  obtain ⟨first, names, hsegments⟩ := List.exists_cons_of_ne_nil (segments_ne_nil path)
  obtain ⟨-, hdotless, -⟩ := segments_eq_iff.mp hsegments
  have hother : first ≠ name := by
    rintro rfl
    exact hdotless first List.mem_cons_self hname
  have hfirst : List.lookup first (front ++ (name, v) :: back) = List.lookup first (front ++ back) := by
    rw [List.lookup_append, List.lookup_append, List.lookup_cons, beq_false_of_ne hother]
  rw [lookup_of_segments hsegments, lookup_of_segments hsegments, hfirst]

/-- What stands behind a dot is looked up in the document that the path in front of it leads to, and not found where that
leads to anything else. Without a dot the path is the name of a field. So a path finds just what names without dots
lead to, from document to document and never through a list, and a field with a dot in its name might as well not be
there. -/
theorem lookup_composes (d : Document) (path rest : String) :
    (∀ inner, d.lookup path = some (.document inner) → d.lookup (path ++ "." ++ rest) = lookup inner rest) ∧
    ((∀ inner, d.lookup path ≠ some (.document inner)) → d.lookup (path ++ "." ++ rest) = none) ∧
    ('.' ∉ path.toList → d.lookup path = List.lookup path d) ∧
    (∀ v, d.lookup path = some v ↔ ∃ names, names ≠ [] ∧ (∀ name ∈ names, '.' ∉ name.toList) ∧
      ".".intercalate names = path ∧ (Bson.document d).at? (names.map .name) = some v) ∧
    ∀ front name v back, '.' ∈ name.toList → d = front ++ (name, v) :: back →
      d.lookup path = lookup (front ++ back) path := by
  refine ⟨fun inner h => ?_, fun h => ?_, fun h => lookup_of_no_dot h d, fun v => lookup_eq_some_iff, ?_⟩
  · rw [lookup_append, h, Option.bind_some, ← lookup_eq_at?]
  · rw [lookup_append]
    apply Option.bind_eq_none_iff.mpr
    intro v hv
    obtain ⟨name, names, hsegments⟩ := List.exists_cons_of_ne_nil (segments_ne_nil rest)
    rw [hsegments, List.map_cons]
    apply Bson.at?_name_of_not_document
    rintro fields rfl
    exact h fields hv
  · rintro front name v back hname rfl
    exact lookup_of_dotted_field hname front back v path

theorem lookup_past_empty_name :
    let inner : Document := [("b", .int32 2)]
    let listed : Bson := .array [.document inner]
    let d : Document := [("a.tags.b", .int32 1), ("a", .document [("", .document inner), ("tags", listed)])]
    d.lookup "a..b" = some (.int32 2) ∧ d.lookup "a.tags" = some listed ∧ d.lookup "a.tags.b" = none ∧
      d.lookup "a" = List.lookup "a" d ∧ d.lookup "a..b" = lookup d.tail "a..b" := by
  intro inner listed d
  have hinner : d.lookup "a." = some (.document inner) := rfl
  have hlisted : d.lookup "a.tags" = some listed := rfl
  have hnone : ∀ fields, d.lookup "a.tags" ≠ some (.document fields) := by
    intro fields h
    have hlist : listed = .document fields := Option.some_inj.mp (hlisted.symm.trans h)
    exact Bson.noConfusion hlist
  obtain ⟨hthrough, -⟩ := lookup_composes d "a." "b"
  obtain ⟨-, hstop, -⟩ := lookup_composes d "a.tags" "b"
  obtain ⟨-, -, hplain, -⟩ := lookup_composes d "a" ""
  obtain ⟨-, -, -, -, hdotted⟩ := lookup_composes d "a..b" ""
  exact ⟨hthrough inner hinner, hlisted, hstop hnone, hplain (by decide),
    hdotted [] "a.tags.b" (.int32 1) d.tail (by decide) rfl⟩

end Document

end DataGrid
