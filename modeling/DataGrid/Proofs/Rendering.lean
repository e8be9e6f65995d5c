import DataGrid.Query.Predicate
import Mathlib.Data.Option.Basic

namespace DataGrid.Predicate

mutual

/-- The same tree, where a leaf may ask in either way for a field to be other than null. -/
inductive Alike : Predicate → Predicate → Prop
  | same (p : Predicate) : Alike p p
  | ofNe (field : String) : Alike (ne field .null) (notNull field)
  | ofNotNull (field : String) : Alike (notNull field) (ne field .null)
  | and {ps qs : List Predicate} (h : AlikeAll ps qs) : Alike (and ps) (and qs)
  | or {ps qs : List Predicate} (h : AlikeAll ps qs) : Alike (or ps) (or qs)

inductive AlikeAll : List Predicate → List Predicate → Prop
  | nil : AlikeAll [] []
  | cons {p q : Predicate} {ps qs : List Predicate} (h : Alike p q) (hs : AlikeAll ps qs) : AlikeAll (p :: ps) (q :: qs)

end

mutual

theorem Alike.symm {p q : Predicate} : Alike p q → Alike q p
  | .same p => .same p
  | .ofNe field => .ofNotNull field
  | .ofNotNull field => .ofNe field
  | .and h => .and h.symm
  | .or h => .or h.symm

theorem AlikeAll.symm {ps qs : List Predicate} : AlikeAll ps qs → AlikeAll qs ps
  | .nil => .nil
  | .cons h hs => .cons h.symm hs.symm

end

mutual

theorem Alike.trans {p q r : Predicate} : Alike p q → Alike q r → Alike p r
  | .same _, h => h
  | h, .same _ => h
  | .ofNe field, .ofNotNull _ => .same (ne field .null)
  | .ofNotNull field, .ofNe _ => .same (notNull field)
  | .and h, .and h' => .and (h.trans h')
  | .or h, .or h' => .or (h.trans h')

theorem AlikeAll.trans {ps qs rs : List Predicate} : AlikeAll ps qs → AlikeAll qs rs → AlikeAll ps rs
  | .nil, h => h
  | .cons h hs, .cons h' hs' => .cons (h.trans h') (hs.trans hs')

end

mutual

theorem Alike.document_eq {p q : Predicate} : Alike p q → p.document = q.document
  | .same _ | .ofNe _ | .ofNotNull _ => rfl
  | .and h | .or h => by rw [document, document, h.documents_eq]

theorem AlikeAll.documents_eq {ps qs : List Predicate} : AlikeAll ps qs → documents ps = documents qs
  | .nil => rfl
  | .cons h hs => by rw [documents, documents, h.document_eq, hs.documents_eq]

end

def ofOperator? (name operator : String) (value : Bson) : Option Predicate :=
  match operator, value with
  | "$eq", value => some (compare .eq name value)
  | "$ne", .null => some (notNull name)
  | "$ne", value => some (compare .ne name value)
  | "$gt", value => some (compare .gt name value)
  | "$gte", value => some (compare .gte name value)
  | "$lt", value => some (compare .lt name value)
  | "$lte", value => some (compare .lte name value)
  | "$in", .array items => some (isIn name items)
  | "$nin", .array items => some (notIn name items)
  | "$search", .string words => some (text words)
  | _, _ => none

mutual

def ofDocument? : Document → Option Predicate
  | [(name, value)] => ofField? name value
  | _ => none

-- what stands under a name is null, a list or a document, so that no name makes a leaf of a group
def ofField? (name : String) : Bson → Option Predicate
  | .null => some (isNull name)
  | .array items => (ofItems? items).map (if name = "$and" then and else or)
  | .document [(operator, value)] => ofOperator? name operator value
  | .document [("$regex", .string pattern), ("$options", .string options)] => some (regex name pattern (options = "i"))
  | _ => none

def ofItems? : List Bson → Option (List Predicate)
  | [] => some []
  | .document fields :: items =>
    match ofDocument? fields, ofItems? items with
    | some p, some ps => some (p :: ps)
    | _, _ => none
  | _ => none

end

lemma ofOperator?_operatorName (r : Relation) (field : String) (value : Bson) :
    ∃ p, ofOperator? field (operatorName r) value = some p ∧ Alike (compare r field value) p := by
  cases r with
  | ne =>
    by_cases hn : value = .null
    · subst hn
      exact ⟨notNull field, rfl, .ofNe field⟩
    · exact ⟨_, by simp [ofOperator?, operatorName], .same _⟩
  | _ => exact ⟨_, rfl, .same _⟩

mutual

theorem ofDocument?_document : ∀ p : Predicate, ∃ q, ofDocument? p.document = some q ∧ Alike p q
  | compare r field value => ofOperator?_operatorName r field value
  | isIn .. | notIn .. | isNull _ | notNull _ | text _ => ⟨_, rfl, .same _⟩
  | regex field pattern fold => by
    cases fold
    · exact ⟨_, rfl, .same _⟩
    · exact ⟨_, rfl, .same _⟩
  | and parts => by
    obtain ⟨qs, hqs, h⟩ := ofItems?_documents parts
    refine ⟨and qs, ?_, .and h⟩
    rw [document, single, ofDocument?, ofField?, hqs]
    rfl
  | or parts => by
    obtain ⟨qs, hqs, h⟩ := ofItems?_documents parts
    refine ⟨or qs, ?_, .or h⟩
    rw [document, single, ofDocument?, ofField?, hqs]
    rfl

theorem ofItems?_documents : ∀ ps : List Predicate, ∃ qs, ofItems? (documents ps) = some qs ∧ AlikeAll ps qs
  | [] => ⟨[], rfl, .nil⟩
  | p :: ps => by
    obtain ⟨q, hq, h⟩ := ofDocument?_document p
    obtain ⟨qs, hqs, hs⟩ := ofItems?_documents ps
    exact ⟨q :: qs, by rw [documents, ofItems?, hq, hqs], .cons h hs⟩

end

/-- Conditions have one filter document exactly if they are the same tree, up to the two ways to ask for a
field other than null: neither names of fields nor values make a leaf look like a group, an operator like
another, or all of some parts like one of them. -/
theorem document_eq_iff_alike (p q : Predicate) : p.document = q.document ↔ Alike p q := by
  constructor
  · intro h
    obtain ⟨p', hp', hp⟩ := ofDocument?_document p
    obtain ⟨q', hq', hq⟩ := ofDocument?_document q
    rw [h, hq'] at hp'
    obtain rfl : q' = p' := Option.some.inj hp'
    exact hp.trans hq.symm
  · exact Alike.document_eq

end DataGrid.Predicate
