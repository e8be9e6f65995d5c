import DataGrid.Proofs.Confinement
import DataGrid.Proofs.DateConditions
import DataGrid.Proofs.SortOrder

namespace DataGrid

namespace Bson

def isScalar : Bson → Bool
  | array _ => false
  | document _ => false
  | _ => true

@[elab_as_elim]
theorem nestedInduction {motive : Bson → Prop} (array : ∀ items, (∀ v ∈ items, motive v) → motive (array items))
    (document : ∀ fields, (∀ field ∈ fields, motive field.2) → motive (document fields))
    (scalar : ∀ v, v.isScalar = true → motive v) : ∀ v, motive v
  | .array items => array items fun v _ => nestedInduction array document scalar v
  | .document fields => document fields fun field _ => nestedInduction array document scalar field.2
  | .null | .bool _ | .string _ | .int32 _ | .int64 _ | .double _ | .dateTime _ | .objectId _ | .decimal128 _
  | .binary .. | .timestamp .. | .regex .. | .symbol _ | .code _ | .undefined | .minKey | .maxKey => scalar _ rfl
termination_by v => sizeOf v
decreasing_by
  all_goals simp_wf
  · have := List.sizeOf_lt_of_mem ‹_›
    omega
  · have hfield := List.sizeOf_lt_of_mem ‹field ∈ fields›
    obtain ⟨name, v⟩ := field
    simp only [Prod.mk.sizeOf_spec] at hfield
    simp only
    omega

mutual

def mapScalars (f : Bson → Bson) : Bson → Bson
  | array items => array (mapItems f items)
  | document fields => document (mapFields f fields)
  | v => f v

def mapItems (f : Bson → Bson) : List Bson → List Bson
  | [] => []
  | item :: items => item.mapScalars f :: mapItems f items

def mapFields (f : Bson → Bson) : List (String × Bson) → List (String × Bson)
  | [] => []
  | (name, v) :: fields => (name, v.mapScalars f) :: mapFields f fields

end

section MapScalars

variable {f : Bson → Bson} {v : Bson}

lemma mapItems_eq (items : List Bson) : mapItems f items = items.map (mapScalars f) := by
  induction items with
  | nil => rfl
  | cons item items ih => rw [mapItems, ih, List.map_cons]

lemma mapFields_eq (fields : List (String × Bson)) :
    mapFields f fields = fields.map fun field => (field.1, field.2.mapScalars f) := by
  induction fields with
  | nil => rfl
  | cons field fields ih => rw [mapFields, ih, List.map_cons]

lemma mapScalars_array (items : List Bson) : (array items).mapScalars f = array (items.map (mapScalars f)) := by
  rw [mapScalars, mapItems_eq]

lemma mapScalars_document (fields : List (String × Bson)) :
    (document fields).mapScalars f = document (fields.map fun field => (field.1, field.2.mapScalars f)) := by
  rw [mapScalars, mapFields_eq]

lemma mapScalars_scalar (h : v.isScalar = true) : v.mapScalars f = f v := by
  cases v <;> first | rfl | cases h

lemma mapScalars_array_eq_iff {items : List Bson} :
    (array items).mapScalars f = array items ↔ ∀ v ∈ items, v.mapScalars f = v := by
  have hself : items = items.map id := items.map_id.symm
  rw [mapScalars_array, array.injEq]
  conv_lhs => rw [hself, List.map_map]
  exact List.map_inj_left

lemma mapScalars_document_eq_iff {fields : List (String × Bson)} :
    (document fields).mapScalars f = document fields ↔ ∀ field ∈ fields, field.2.mapScalars f = field.2 := by
  have hself : fields = fields.map id := fields.map_id.symm
  rw [mapScalars_document, document.injEq]
  conv_lhs => rhs; rw [hself]
  rw [List.map_inj_left]
  exact forall₂_congr fun field _ => Prod.ext_iff.trans (and_iff_right rfl)

end MapScalars

def long : Bson → Bson
  | int32 n => int64 n.toInt64
  | v => v

def short : Bson → Bson
  | int64 n => if n.toInt32.toInt64 = n then int32 n.toInt32 else int64 n
  | v => v

def widen : Bson → Bson := mapScalars long

def narrow : Bson → Bson := mapScalars short

mutual

/-- A whole number that fits 32 bits stands in the value at some depth, in either width. -/
def holdsShort : Bson → Bool
  | int32 _ => true
  | int64 n => n.toInt32.toInt64 = n
  | array items => someHoldsShort items
  | document fields => fieldHoldsShort fields
  | _ => false

def someHoldsShort : List Bson → Bool
  | [] => false
  | item :: items => item.holdsShort || someHoldsShort items

def fieldHoldsShort : List (String × Bson) → Bool
  | [] => false
  | (_, v) :: fields => v.holdsShort || fieldHoldsShort fields

end

lemma holdsShort_array (items : List Bson) : (array items).holdsShort = items.any holdsShort := by
  rw [holdsShort]
  induction items with
  | nil => rfl
  | cons item items ih => rw [someHoldsShort, ih, List.any_cons]

lemma holdsShort_document (fields : List (String × Bson)) :
    (document fields).holdsShort = fields.any fun field => field.2.holdsShort := by
  rw [holdsShort]
  induction fields with
  | nil => rfl
  | cons field fields ih => rw [fieldHoldsShort, ih, List.any_cons]

section Same

variable {f : Bson → Bson}

lemma sameItems_map {as bs : List Bson} (h : ∀ a ∈ as, ∀ b ∈ bs, same (f a) b = same a b) :
    sameItems (as.map f) bs = sameItems as bs := by
  induction as generalizing bs with
  | nil => rfl
  | cons a as ih =>
    cases bs with
    | nil => rfl
    | cons b bs =>
      have hrest : ∀ a' ∈ as, ∀ b' ∈ bs, same (f a') b' = same a' b' := fun a' ha b' hb =>
        h a' (List.mem_cons_of_mem a ha) b' (List.mem_cons_of_mem b hb)
      rw [List.map_cons, sameItems, sameItems, h a List.mem_cons_self b List.mem_cons_self, ih hrest]

lemma sameFields_map {as bs : List (String × Bson)}
    (h : ∀ field ∈ as, ∀ other ∈ bs, same (f field.2) other.2 = same field.2 other.2) :
    sameFields (as.map fun field => (field.1, f field.2)) bs = sameFields as bs := by
  induction as with
  | nil => rfl
  | cons field as ih =>
    obtain ⟨name, a⟩ := field
    rw [List.map_cons, sameFields, sameFields, ih fun field hfield => h field (List.mem_cons_of_mem _ hfield)]
    cases hb : bs.lookup name with
    | none => rfl
    | some b =>
      obtain ⟨front, back, rfl, -⟩ := List.lookup_eq_some_iff.mp hb
      have hmem : (name, b) ∈ front ++ (name, b) :: back := List.mem_append_right front List.mem_cons_self
      exact congrArg (· && _) (h (name, a) List.mem_cons_self (name, b) hmem)

lemma items_fixed {as bs : List Bson} (h : ∀ a ∈ as, ∀ b, same a b = true → same (f a) b = true → f a = a)
    (hs : sameItems as bs = true) (hf : sameItems (as.map f) bs = true) : as.map f = as := by
  induction as generalizing bs with
  | nil => rfl
  | cons a as ih =>
    cases bs with
    | nil => cases hs
    | cons b bs =>
      rw [sameItems, Bool.and_eq_true] at hs
      rw [List.map_cons, sameItems, Bool.and_eq_true] at hf
      rw [List.map_cons, h a List.mem_cons_self b hs.1 hf.1,
        ih (fun a' ha => h a' (List.mem_cons_of_mem a ha)) hs.2 hf.2]

lemma fields_fixed {as bs : List (String × Bson)}
    (h : ∀ field ∈ as, ∀ b, same field.2 b = true → same (f field.2) b = true → f field.2 = field.2)
    (hs : sameFields as bs = true) (hf : sameFields (as.map fun field => (field.1, f field.2)) bs = true) :
    (as.map fun field => (field.1, f field.2)) = as := by
  induction as with
  | nil => rfl
  | cons field as ih =>
    obtain ⟨name, a⟩ := field
    rw [sameFields, Bool.and_eq_true] at hs
    rw [List.map_cons, sameFields, Bool.and_eq_true] at hf
    rw [List.map_cons, ih (fun field hfield => h field (List.mem_cons_of_mem _ hfield)) hs.2 hf.2]
    cases hb : bs.lookup name with
    | none => simp [hb] at hs
    | some b =>
      rw [hb] at hs hf
      rw [h (name, a) List.mem_cons_self b hs.1 hf.1]

lemma mapScalars_eq_of_same (hscalar : ∀ a b, same a b = true → same (f a) b = true → f a = a) (a : Bson) :
    ∀ b, same a b = true → same (a.mapScalars f) b = true → a.mapScalars f = a := by
  induction a using nestedInduction with
  | array items ih =>
    intro b hs hf
    rw [mapScalars_array] at hf ⊢
    cases b with
    | array others => rw [items_fixed ih hs hf]
    | _ => cases hs
  | document fields ih =>
    intro b hs hf
    rw [mapScalars_document] at hf ⊢
    cases b with
    | document others =>
      rw [same, Bool.and_eq_true] at hs hf
      rw [fields_fixed ih hs.2 hf.2]
    | _ => cases hs
  | scalar a ha =>
    intro b hs hf
    rw [mapScalars_scalar ha] at hf ⊢
    exact hscalar a b hs hf

lemma long_eq_of_same (a b : Bson) (hs : same a b = true) (hl : same a.long b = true) : a.long = a := by
  cases a with
  | int32 n => cases b <;> first | cases hs | cases hl
  | _ => rfl

lemma short_eq_of_same (a b : Bson) (hs : same a b = true) (hl : same a.short b = true) : a.short = a := by
  cases a with
  | int64 n =>
    rw [short] at hl ⊢
    split at hl
    · cases b <;> first | cases hs | cases hl
    · rw [if_neg ‹_›]
  | _ => rfl

end Same

section Width

variable {v : Bson}

lemma widen_narrow (v : Bson) : v.narrow.widen = v.widen := by
  induction v using nestedInduction with
  | array items ih =>
    rw [widen, narrow, mapScalars_array, mapScalars_array, mapScalars_array, List.map_map]
    exact congrArg array (List.map_congr_left ih)
  | document fields ih =>
    rw [widen, narrow, mapScalars_document, mapScalars_document, mapScalars_document, List.map_map]
    exact congrArg document (List.map_congr_left fun field hfield => congrArg (field.1, ·) (ih field hfield))
  | scalar v hv =>
    cases v with
    | int64 n =>
      rw [narrow, mapScalars_scalar rfl, short]
      split
      · exact congrArg int64 ‹_›
      · rfl
    | array _ => cases hv
    | document _ => cases hv
    | _ => rfl

lemma not_holdsShort_of_fixed (v : Bson) : v.widen = v → v.narrow = v → v.holdsShort = false := by
  induction v using nestedInduction with
  | array items ih =>
    intro hw hn
    rw [widen, mapScalars_array_eq_iff] at hw
    rw [narrow, mapScalars_array_eq_iff] at hn
    rw [holdsShort_array, List.any_eq_false]
    exact fun item hitem => ne_true_of_eq_false (ih item hitem (hw item hitem) (hn item hitem))
  | document fields ih =>
    intro hw hn
    rw [widen, mapScalars_document_eq_iff] at hw
    rw [narrow, mapScalars_document_eq_iff] at hn
    rw [holdsShort_document, List.any_eq_false]
    exact fun field hfield => ne_true_of_eq_false (ih field hfield (hw field hfield) (hn field hfield))
  | scalar v hv =>
    intro hw hn
    cases v with
    | int32 n => cases hw
    | int64 n =>
      rw [narrow, mapScalars_scalar rfl, short] at hn
      split at hn
      · cases hn
      · exact decide_eq_false ‹_›
    | array _ => cases hv
    | document _ => cases hv
    | _ => rfl

lemma same_widen (a : Bson) : ∀ b, b.holdsShort = false → same a.widen b = same a b := by
  induction a using nestedInduction with
  | array items ih =>
    intro b hb
    rw [widen, mapScalars_array]
    cases b with
    | array others =>
      rw [holdsShort_array, List.any_eq_false] at hb
      exact sameItems_map fun a ha b hmem => ih a ha b (Bool.eq_false_of_not_eq_true (hb b hmem))
    | _ => rfl
  | document fields ih =>
    intro b hb
    rw [widen, mapScalars_document]
    cases b with
    | document others =>
      rw [holdsShort_document, List.any_eq_false] at hb
      have hfields : sameFields (fields.map fun field => (field.1, field.2.widen)) others = sameFields fields others :=
        sameFields_map fun field hfield other hother =>
          ih field hfield other.2 (Bool.eq_false_of_not_eq_true (hb other hother))
      rw [same, same, List.length_map]
      exact congrArg (_ && ·) hfields
    | _ => rfl
  | scalar a ha =>
    intro b hb
    rw [widen, mapScalars_scalar ha]
    cases a with
    | int32 n =>
      cases b with
      | int32 k => cases hb
      | int64 k =>
        have hk : k.toInt32.toInt64 ≠ k := of_decide_eq_false hb
        refine beq_false_of_ne fun hn => hk ?_
        rw [← hn, Int32.toInt32_toInt64]
      | _ => rfl
    | _ => rfl

end Width

section Readings

variable {v : Bson}

lemma integer?_widen (v : Bson) : v.widen.integer? = v.integer? := by
  cases v with
  | int32 n => exact congrArg some (Int32.toInt_toInt64 n)
  | _ => rfl

lemma number?_widen (v : Bson) : v.widen.number? = v.number? := by
  cases v with
  | int32 n => exact congrArg (fun k => some (Binary64.ofInt k)) (Int32.toInt_toInt64 n)
  | _ => rfl

lemma compareWithinKind?_widen (a b : Bson) : compareWithinKind? a.widen b = compareWithinKind? a b := by
  cases a <;> rfl

lemma compare?_widen (a b : Bson) : compare? a.widen b = compare? a b := by
  rw [compare?, compare?, integer?_widen, number?_widen, compareWithinKind?_widen]

lemma stringsOfItems_eq (items : List Bson) : stringsOfItems items = items.flatMap strings := by
  induction items with
  | nil => rfl
  | cons item items ih => rw [stringsOfItems, ih, List.flatMap_cons]

lemma stringsOfFields_eq (fields : List (String × Bson)) :
    stringsOfFields fields = fields.flatMap fun field => field.2.strings := by
  induction fields with
  | nil => rfl
  | cons field fields ih => rw [stringsOfFields, ih, List.flatMap_cons]

lemma strings_widen (v : Bson) : v.widen.strings = v.strings := by
  induction v using nestedInduction with
  | array items ih =>
    rw [widen, mapScalars_array, strings, strings, stringsOfItems_eq, stringsOfItems_eq, List.flatMap_map]
    exact List.flatMap_congr ih
  | document fields ih =>
    rw [widen, mapScalars_document, strings, strings, stringsOfFields_eq, stringsOfFields_eq, List.flatMap_map]
    exact List.flatMap_congr ih
  | scalar v hv =>
    rw [widen, mapScalars_scalar hv]
    cases v <;> rfl

/-- A list or a document with a whole number inside that fits 32 bits. -/
def showsWidth (v : Bson) : Bool := !v.isScalar && v.holdsShort

lemma equalValue_widen (a : Bson) (h : v.showsWidth = false) : equalValue a.widen v = equalValue a v := by
  rw [equalValue, equalValue, compare?_widen]
  cases hcompare : compare? a v with
  | some o => rfl
  | none =>
    by_cases hv : v.isScalar = true
    · cases a with
      | int32 n => cases v <;> first | rfl | cases hcompare
      | array items => cases v <;> first | rfl | cases hv
      | document fields => cases v <;> first | rfl | cases hv
      | _ => rfl
    · rw [showsWidth, Bool.eq_false_of_not_eq_true hv] at h
      exact same_widen a v h

lemma fieldEquals_widen (actual : Option Bson) (h : v.showsWidth = false) :
    fieldEquals (actual.map widen) v = fieldEquals actual v := by
  rcases actual with _ | a
  · rfl
  have hvalue : equalValue a.widen v = equalValue a v := equalValue_widen a h
  cases a with
  | array items =>
    rw [widen, mapScalars_array] at hvalue
    rw [Option.map_some, widen, mapScalars_array, fieldEquals, fieldEquals, hvalue, List.any_map]
    exact congrArg (ite _ _ ·) (List.any_congr rfl fun item => equalValue_widen item h)
  | _ => exact hvalue

lemma any_fieldEquals_widen {values : List Bson} (actual : Option Bson) (h : ∀ v ∈ values, v.showsWidth = false) :
    values.any (fieldEquals (actual.map widen)) = values.any (fieldEquals actual) := by
  rw [Bool.eq_iff_iff, List.any_eq_true, List.any_eq_true]
  exact exists_congr fun v => and_congr_right fun hv => by rw [fieldEquals_widen actual (h v hv)]

lemma fieldCompares_widen (passes : Ordering → Bool) (actual : Option Bson) (v : Bson) :
    fieldCompares passes (actual.map widen) v = fieldCompares passes actual v := by
  have hcompares : ∀ a : Bson, comparesTo passes v a.widen = comparesTo passes v a := fun a => by
    rw [comparesTo, comparesTo, compare?_widen]
  rcases actual with _ | a
  · rfl
  have hvalue := hcompares a
  cases a with
  | array items =>
    rw [Option.map_some, widen, mapScalars_array, fieldCompares, fieldCompares, List.any_map]
    exact List.any_congr rfl hcompares
  | _ => exact hvalue

lemma fieldMatches_widen (p : Pattern.Program) (actual : Option Bson) :
    fieldMatches p (actual.map widen) = fieldMatches p actual := by
  have hmatches : ∀ a : Bson, stringMatches p a.widen = stringMatches p a := fun a => by cases a <;> rfl
  rcases actual with _ | a
  · rfl
  have hvalue := hmatches a
  cases a with
  | array items =>
    rw [Option.map_some, widen, mapScalars_array, fieldMatches, fieldMatches, List.any_map]
    exact List.any_congr rfl hmatches
  | _ => exact hvalue

lemma fieldIsNull_widen (actual : Option Bson) : fieldIsNull (actual.map widen) = fieldIsNull actual := by
  rcases actual with _ | a
  · rfl
  · cases a <;> rfl

lemma fieldEquals_of_isArray {a : Bson} (h : a.isArray = v.isArray) (hv : v.isScalar = false) :
    fieldEquals (some a) v = same a v := by
  cases v with
  | array others =>
    cases a with
    | array items => rfl
    | _ => cases h
  | document fields =>
    cases a with
    | array items => cases h
    | _ => rfl
  | _ => cases hv

lemma isArray_widen (v : Bson) : v.widen.isArray = v.isArray := by
  cases v <;> rfl

lemma isArray_narrow (v : Bson) : v.narrow.isArray = v.isArray := by
  cases v with
  | int64 n =>
    rw [narrow, mapScalars_scalar rfl, short]
    split <;> rfl
  | _ => rfl

lemma exists_told_apart (hv : v.showsWidth = true) (hself : same v v = true) :
    ∃ a, fieldEquals (some a.widen) v ≠ fieldEquals (some a) v := by
  rw [showsWidth, Bool.and_eq_true, Bool.not_eq_true'] at hv
  obtain ⟨hscalar, hshort⟩ := hv
  suffices h : ∃ a : Bson, a.isArray = v.isArray ∧ same a.widen v ≠ same a v by
    obtain ⟨a, harray, ha⟩ := h
    refine ⟨a, ?_⟩
    rwa [fieldEquals_of_isArray harray hscalar, fieldEquals_of_isArray ((isArray_widen a).trans harray) hscalar]
  by_cases hwide : v.widen = v
  · -- all of its numbers have 64 bits, so that it differs from itself with short ones
    refine ⟨v.narrow, isArray_narrow v, fun h => ?_⟩
    rw [widen_narrow, hwide, hself] at h
    have hnarrow : v.narrow = v := mapScalars_eq_of_same short_eq_of_same v v hself h.symm
    exact Bool.false_ne_true ((not_holdsShort_of_fixed v hwide hnarrow).symm.trans hshort)
  · refine ⟨v, rfl, fun h => hwide ?_⟩
    exact mapScalars_eq_of_same long_eq_of_same v v hself (h.trans hself)

end Readings

end Bson

namespace Document

def widen (d : Document) : Document := d.map fun field => (field.1, field.2.widen)

lemma descend_widen (v : Bson) (names : List String) : descend v.widen names = (descend v names).map Bson.widen := by
  induction names generalizing v with
  | nil => rw [descend, descend, Option.map_some]
  | cons name names ih =>
    cases v with
    | document fields =>
      rw [Bson.widen, Bson.mapScalars_document, descend, descend, Fields.lookup_map]
      cases fields.lookup name with
      | none => rfl
      | some v => exact ih v
    | _ => rfl

lemma lookup_widen (d : Document) (path : String) : d.widen.lookup path = (d.lookup path).map Bson.widen := by
  rw [lookup, lookup, ← descend_widen, Bson.widen, Bson.mapScalars_document]
  rfl

lemma hasWord_widen (d : Document) (search : String) : d.widen.hasWord search = d.hasWord search := by
  rw [hasWord, hasWord, Bson.stringsOfFields_eq, Bson.stringsOfFields_eq, widen, List.flatMap_map]
  simp only [Bson.strings_widen]

end Document

namespace Predicate

def equalities : Predicate → List Bson
  | compare .eq _ v => [v]
  | compare .ne _ v => [v]
  | isIn _ values => values
  | notIn _ values => values
  | _ => []

lemma accepts_widen {table : PatternTable} {leaf : Predicate} (h : ∀ v ∈ leaf.equalities, v.showsWidth = false)
    (actual : Option Bson) : leaf.accepts table (actual.map Bson.widen) = leaf.accepts table actual := by
  cases leaf with
  | compare r field v =>
    cases r with
    | eq => exact Bson.fieldEquals_widen actual (h v (List.mem_singleton_self v))
    | ne => exact congrArg (!·) (Bson.fieldEquals_widen actual (h v (List.mem_singleton_self v)))
    | _ => exact Bson.fieldCompares_widen _ actual v
  | isIn field values => exact Bson.any_fieldEquals_widen actual h
  | notIn field values => exact congrArg (!·) (Bson.any_fieldEquals_widen actual h)
  | regex field source fold => simp only [accepts, Bson.fieldMatches_widen]
  | isNull field => exact Bson.fieldIsNull_widen actual
  | notNull field => exact congrArg (!·) (Bson.fieldIsNull_widen actual)
  | _ => rfl

end Predicate

namespace Matcher

open Predicate

/-- The width of the whole numbers of a document does not matter to a condition that compares with no list
and no document in which a number fits 32 bits. With every such list or document, if it equals itself,
it does: some document equals it in one width and not in the other. -/
theorem width_told_by_compounds (m : Matcher) (p : Predicate) (path : String) (v : Bson) :
    ((∀ leaf ∈ p.leaves, ∀ w ∈ leaf.equalities, w.showsWidth = false) →
      ∀ d : Document, m.admits p d.widen = m.admits p d) ∧
    (v.showsWidth = true → Bson.same v v = true →
      ∃ d : Document, ∀ leaf ∈ [.eq path v, .ne path v, .isIn path [v], .notIn path [v]],
        m.admits leaf d.widen ≠ m.admits leaf d) := by
  refine ⟨fun h d => ?_, fun hv hself => ?_⟩
  · refine meets_eq_of_accepts (Document.hasWord_widen d) p fun leaf hleaf path _ => ?_
    rw [Document.lookup_widen]
    exact accepts_widen (h leaf hleaf) (d.lookup path)
  · obtain ⟨a, ha⟩ := Bson.exists_told_apart hv hself
    obtain ⟨d, hd⟩ := Document.exists_lookup path a
    have hequal : Bson.fieldEquals (d.widen.lookup path) v ≠ Bson.fieldEquals (d.lookup path) v := by
      rwa [Document.lookup_widen, hd]
    have hlist : ∀ d : Document, [v].any (Bson.fieldEquals (d.lookup path)) = Bson.fieldEquals (d.lookup path) v :=
      fun d => Bool.or_false _
    refine ⟨d, fun leaf hleaf => ?_⟩
    simp only [List.mem_cons, List.not_mem_nil, or_false] at hleaf
    obtain rfl | rfl | rfl | rfl := hleaf
    · exact hequal
    · exact fun h => hequal (Bool.not_inj h)
    · rwa [admits, admits, meets, meets, hlist, hlist]
    · rw [admits, admits, meets, meets, hlist, hlist]
      exact fun h => hequal (Bool.not_inj h)

theorem views_of_either_width :
    let p : Predicate := .and [.isIn "views" [.int64 10, .int64 20], .eq "size" (.document [("unit", .string "cm")])]
    let d : Document := [("views", .int32 10), ("size", .document [("unit", .string "cm")])]
    let ten : Bson := .document [("width", .int64 10)]
    (∀ leaf ∈ p.leaves, ∀ v ∈ leaf.equalities, v.showsWidth = false) ∧ ten.showsWidth = true ∧
      Bson.same ten ten = true ∧ ∀ m : Matcher, m.admits p d.widen = m.admits p d ∧ m.admits p d = true ∧
        ∃ d' : Document, m.admits (.eq "size" ten) d'.widen ≠ m.admits (.eq "size" ten) d' := by
  intro p d ten
  have hp : ∀ leaf ∈ p.leaves, ∀ v ∈ leaf.equalities, v.showsWidth = false := by decide
  have hten : ten.showsWidth = true := by decide
  have hself : Bson.same ten ten = true := by decide
  refine ⟨hp, hten, hself, fun m => ?_⟩
  obtain ⟨hagree, hapart⟩ := width_told_by_compounds m p "size" ten
  obtain ⟨d', hd'⟩ := hapart hten hself
  exact ⟨hagree hp d, rfl, d', hd' _ List.mem_cons_self⟩

/-- Articles of one size in two widths: a filter for the size finds the one in 64 bits and misses the other. -/
theorem size_missed_by_width :
    let c := (Config.new "Articles" "articles").withFilterColumn "size" "size"
    let article (width : Bson) : Document := [("title", .string "Lean"), ("size", .document [("width", width)])]
    let s : MemoryStore := ⟨[("articles", ⟨[article (.int32 10), article (.int64 10)], false⟩)]⟩
    let p : Predicate := .eq "size" (.document [("width", .int64 10)])
    c.plainFilter (.on "articles") [("size", .object [("width", .int 10)])] = .ok (some p) ∧
      c.advancedTree (.on "articles") [[⟨"size", .eq, .object [("width", .int 10)]⟩]] = .ok ⟨some p, none⟩ ∧
      (article (.int32 10)).widen = article (.int64 10) ∧
      s.find { Query.on "articles" with conditions := [p] } = some (.ok [article (.int64 10)]) :=
  ⟨rfl, rfl, rfl, rfl⟩

end Matcher

end DataGrid
