import Mathlib.Data.List.Pairwise
import Mathlib.Data.List.Perm.Basic
import Mathlib.Tactic.Lemma
import DataGrid.Sort.Small

/-! What it is to sort stably, for a comparison that is an order among the items at hand: there is one result
only, and appended parts may be sorted on their own. -/

namespace DataGrid.Sort

variable {α : Type} {less : α → α → Bool} {P : α → Prop}

lemma all_take {items : List α} (h : ∀ x ∈ items, P x) (n : Nat) : ∀ x ∈ items.take n, P x :=
  fun x hx => h x (List.mem_of_mem_take hx)

lemma all_drop {items : List α} (h : ∀ x ∈ items, P x) (n : Nat) : ∀ x ∈ items.drop n, P x :=
  fun x hx => h x (List.mem_of_mem_drop hx)

/-- An order among the items with a property, in which items may be equal. -/
structure OrdersOn (less : α → α → Bool) (P : α → Prop) : Prop where
  asymm : ∀ {a b}, P a → P b → less a b = true → less b a = false
  trans : ∀ {a b c}, P a → P b → P c → less b a = false → less c b = false → less c a = false

namespace OrdersOn

variable {a b c : α}

lemma irrefl (h : OrdersOn less P) (ha : P a) : less a a = false := by
  cases haa : less a a with
  | false => rfl
  | true => exact haa.symm.trans (h.asymm ha ha haa)

lemma less_of_le_of_less (h : OrdersOn less P) (ha : P a) (hb : P b) (hc : P c) (hab : less b a = false)
    (hbc : less b c = true) : less a c = true := by
  by_contra hac
  have hbc' : less b c = false := h.trans hc ha hb (Bool.eq_false_iff.mpr hac) hab
  exact Bool.false_ne_true (hbc'.symm.trans hbc)

lemma less_of_less_of_le (h : OrdersOn less P) (ha : P a) (hb : P b) (hc : P c) (hab : less a b = true)
    (hbc : less c b = false) : less a c = true := by
  by_contra hac
  have hab' : less a b = false := h.trans hb hc ha hbc (Bool.eq_false_iff.mpr hac)
  exact Bool.false_ne_true (hab'.symm.trans hab)

lemma less_trans (h : OrdersOn less P) (ha : P a) (hb : P b) (hc : P c) (hab : less a b = true)
    (hbc : less b c = true) : less a c = true :=
  h.less_of_less_of_le ha hb hc hab (h.asymm hb hc hbc)

lemma flip (h : OrdersOn less P) : OrdersOn (fun a b => less b a) P where
  asymm ha hb hba := h.asymm hb ha hba
  trans ha hb hc hab hbc := h.trans hc hb ha hbc hab

end OrdersOn

def tied (less : α → α → Bool) (a b : α) : Bool := !less a b && !less b a

lemma tied_iff {a b : α} : tied less a b = true ↔ less a b = false ∧ less b a = false := by
  simp [tied]

lemma OrdersOn.not_tied_both {x y z : α} (h : OrdersOn less P) (hx : P x) (hy : P y) (hz : P z)
    (hless : less x y = true) : ¬(tied less z x = true ∧ tied less z y = true) := by
  rintro ⟨hzx, hzy⟩
  obtain ⟨-, hxz⟩ := tied_iff.mp hzx
  obtain ⟨hzy, -⟩ := tied_iff.mp hzy
  -- `y ≤ z` and `z ≤ x` leave no room for `x < y`
  have hxy : less x y = false := h.trans hy hz hx hzy hxz
  exact Bool.false_ne_true (hxy.symm.trans hless)

def Sorted (less : α → α → Bool) (items : List α) : Prop := items.Pairwise fun a b => less b a = false

/-- Among the items that are equal, all stand as they stood. -/
def Keeps (less : α → α → Bool) (P : α → Prop) (items out : List α) : Prop :=
  ∀ z, P z → out.filter (tied less z) = items.filter (tied less z)

namespace Keeps

variable {items items' out out' : List α}

lemma refl (items : List α) : Keeps less P items items := fun _ _ => rfl

lemma symm (h : Keeps less P items out) : Keeps less P out items := fun z hz => (h z hz).symm

lemma trans (h : Keeps less P items out) (h' : Keeps less P out out') : Keeps less P items out' :=
  fun z hz => (h' z hz).trans (h z hz)

lemma append (h : Keeps less P items out) (h' : Keeps less P items' out') :
    Keeps less P (items ++ items') (out ++ out') := by
  intro z hz
  rw [List.filter_append, List.filter_append, h z hz, h' z hz]

lemma reverse (h : Keeps less P items out) : Keeps less P items.reverse out.reverse := by
  intro z hz
  rw [List.filter_reverse, List.filter_reverse, h z hz]

lemma flip (h : Keeps (fun a b => less b a) P items out) : Keeps less P items out := by
  have htied : ∀ z, tied (fun a b => less b a) z = tied less z := fun z => funext fun x => Bool.and_comm _ _
  intro z hz
  simpa only [htied] using h z hz

lemma swap (horder : OrdersOn less P) (hitems : ∀ x ∈ items, P x) (hitems' : ∀ y ∈ items', P y)
    (h : ∀ x ∈ items, ∀ y ∈ items', less y x = true) : Keeps less P (items ++ items') (items' ++ items) := by
  intro z hz
  rw [List.filter_append, List.filter_append]
  by_cases hempty : items.filter (tied less z) = []
  · simp [hempty]
  · obtain ⟨x, hx⟩ := List.exists_mem_of_ne_nil _ hempty
    obtain ⟨hx, hzx⟩ := List.mem_filter.mp hx
    have hnone : items'.filter (tied less z) = [] := by
      rw [List.filter_eq_nil_iff]
      exact fun y hy hzy => horder.not_tied_both (hitems' y hy) (hitems x hx) hz (h x hx y hy) ⟨hzy, hzx⟩
    simp [hnone]

end Keeps

lemma Sorted.flip {items : List α} (h : Sorted less items) : Sorted (fun a b => less b a) items.reverse :=
  List.pairwise_reverse.mpr h

structure Settles (less : α → α → Bool) (P : α → Prop) (items out : List α) : Prop where
  perm : out.Perm items
  sorted : Sorted less out
  keeps : Keeps less P items out

lemma Settles.all {items out : List α} (h : Settles less P items out) (hitems : ∀ x ∈ items, P x) : ∀ x ∈ out, P x :=
  fun x hx => hitems x (h.perm.mem_iff.mp hx)

lemma Settles.of_keeps {items items' out : List α} (hperm : items'.Perm items) (hkeeps : Keeps less P items items')
    (h : Settles less P items' out) : Settles less P items out :=
  ⟨h.perm.trans hperm, h.sorted, hkeeps.trans h.keeps⟩

lemma Settles.reverse {items out : List α} (h : Settles (fun a b => less b a) P items out) :
    Settles less P items.reverse out.reverse :=
  ⟨(List.reverse_perm _).trans (h.perm.trans (List.reverse_perm _).symm), h.sorted.flip, h.keeps.flip.reverse⟩

lemma eq_of_keeps (horder : OrdersOn less P) {items out : List α} (hitems : ∀ x ∈ items, P x)
    (hout : ∀ x ∈ out, P x) (hsorted : Sorted less items) (hsorted' : Sorted less out)
    (hkeeps : Keeps less P items out) : out = items := by
  have hself : ∀ {x}, P x → tied less x x = true := fun hx => tied_iff.mpr ⟨horder.irrefl hx, horder.irrefl hx⟩
  have hmem : ∀ {l l' : List α} {x : α}, Keeps less P l l' → P x → x ∈ l' → x ∈ l := by
    intro l l' x h hx hmem
    have hfilter : x ∈ l'.filter (tied less x) := List.mem_filter.mpr ⟨hmem, hself hx⟩
    rw [h x hx] at hfilter
    exact List.mem_of_mem_filter hfilter
  induction items generalizing out with
  | nil =>
    refine List.eq_nil_iff_forall_not_mem.mpr fun x hx => ?_
    exact List.not_mem_nil (hmem hkeeps (hout x hx) hx)
  | cons a items ih =>
    cases out with
    | nil => exact absurd (hmem hkeeps.symm (hitems a List.mem_cons_self) List.mem_cons_self) List.not_mem_nil
    | cons b out =>
      have ha := hitems a List.mem_cons_self
      have hb := hout b List.mem_cons_self
      obtain ⟨hfirst, hrest⟩ := List.pairwise_cons.mp hsorted
      obtain ⟨hfirst', hrest'⟩ := List.pairwise_cons.mp hsorted'
      -- each head is in the other list, so that neither is less than the other one
      have hba : less b a = false := by
        obtain rfl | hin := List.mem_cons.mp (hmem hkeeps hb List.mem_cons_self)
        · exact horder.irrefl hb
        · exact hfirst b hin
      have hab : less a b = false := by
        obtain rfl | hin := List.mem_cons.mp (hmem hkeeps.symm ha List.mem_cons_self)
        · exact horder.irrefl ha
        · exact hfirst' a hin
      have hheads := hkeeps a ha
      rw [List.filter_cons_of_pos (hself ha), List.filter_cons_of_pos (tied_iff.mpr ⟨hab, hba⟩)] at hheads
      obtain ⟨rfl, -⟩ := List.cons.inj hheads
      have htails : Keeps less P items out := by
        intro z hz
        have hboth := hkeeps z hz
        rw [List.filter_cons, List.filter_cons] at hboth
        split at hboth
        · exact (List.cons.inj hboth).2
        · exact hboth
      rw [ih (fun x hx => hitems x (List.mem_cons_of_mem _ hx)) (fun x hx => hout x (List.mem_cons_of_mem _ hx))
        hrest hrest' htails]

end DataGrid.Sort
