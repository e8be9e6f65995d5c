import DataGrid.Proofs.Matching
import DataGrid.Proofs.SortOrder

/-! Documents that an order sorts: their values are in order with one another, so that sorting by it does not stop
and comes to one result. -/

namespace DataGrid

namespace Order

variable {o : Order} {d e f : Document} {documents : List Document}

def compares (o : Order) (d e : Document) : Ordering := Bson.sortOrder (d.lookup o.key) (e.lookup o.key)

def Allows (o : Order) (d e : Document) : Prop :=
  match o.direction with
  | .asc => o.compares d e ≠ .gt
  | .desc => o.compares d e ≠ .lt

def Precedes (o : Order) (a b : Document × Nat) : Prop :=
  o.Allows a.1 b.1 ∧ (o.compares a.1 b.1 = .eq → a.2 < b.2)

/-- All documents hold a value to order by that is in order with all others. -/
def Sorts (o : Order) (documents : List Document) : Prop :=
  ∀ d ∈ documents, (d.lookup o.key).all Bson.keepsOrder = true

lemma compares_swap (d e : Document) : o.compares e d = (o.compares d e).swap := Bson.sortOrder_swap _ _

lemma less_eq_false_iff : o.less e d = false ↔ o.Allows d e := by
  have hless : o.less e d = (o.compares e d == match o.direction with | .asc => .lt | .desc => .gt) := rfl
  rw [hless, compares_swap d e, Allows]
  cases o.direction <;> cases o.compares d e <;> decide

lemma less_asymm (h : o.less d e = true) : o.less e d = false := by
  have hless : o.less d e = (o.compares d e == match o.direction with | .asc => .lt | .desc => .gt) := rfl
  rw [hless, beq_iff_eq] at h
  rw [less_eq_false_iff, Allows]
  cases hdirection : o.direction <;> simp [h, hdirection]

lemma allows_of_equal (h : o.compares d e = .eq) : o.Allows e d := by
  rw [Allows, compares_swap d e, h]
  cases o.direction <;> decide

lemma allows_trans (he : (e.lookup o.key).all Bson.keepsOrder = true) (hde : o.Allows d e) (hef : o.Allows e f) :
    o.Allows d f := by
  unfold Allows at hde hef ⊢
  cases hdirection : o.direction with
  | asc =>
    rw [hdirection] at hde hef
    exact Bson.sortOrder_trans he hde hef
  | desc =>
    rw [hdirection] at hde hef
    have hback : ∀ {d e : Document}, o.compares d e ≠ .lt ↔ o.compares e d ≠ .gt := by
      intro d e
      rw [compares_swap d e]
      cases o.compares d e <;> decide
    exact hback.mpr (Bson.sortOrder_trans he (hback.mp hef) (hback.mp hde))

lemma Sorts.orders (h : o.Sorts documents) : Sort.OrdersOn o.less (· ∈ documents) where
  asymm _ _ hless := less_asymm hless
  trans _ he _ hde hef :=
    less_eq_false_iff.mpr (allows_trans (h _ he) (less_eq_false_iff.mp hde) (less_eq_false_iff.mp hef))

lemma Sorts.sublist {kept : List Document} (h : o.Sorts documents) (hkept : kept.Sublist documents) : o.Sorts kept :=
  fun d hd => h d (hkept.subset hd)

end Order

namespace Query

variable {q : Query} {documents : List Document}

/-- Documents that a query can arrange for sure: it has no order, they are few, or it sorts them. -/
def Arranges (q : Query) (documents : List Document) : Prop :=
  ∀ o, q.order = some o → documents.length ≤ 20 ∨ o.Sorts documents

lemma arranges_of_order_none (h : q.order = none) : q.Arranges documents := by
  intro o ho
  cases h.symm.trans ho

lemma Arranges.sublist {kept : List Document} (h : q.Arranges documents) (hkept : kept.Sublist documents) :
    q.Arranges kept :=
  fun o ho => (h o ho).imp hkept.length_le.trans (·.sublist hkept)

lemma Arranges.exists_arrange (h : q.Arranges documents) : ∃ all, q.arrange documents = some all := by
  cases ho : q.order with
  | none => exact ⟨documents, arrange_of_order_none ho documents⟩
  | some o =>
    rw [arrange, ho]
    obtain hfew | hsorts := h o ho
    · exact ⟨_, Sort.sort_of_few o.less hfew⟩
    · exact ⟨_, Sort.sort_eq_mergeSort hsorts.orders⟩

end Query

end DataGrid
