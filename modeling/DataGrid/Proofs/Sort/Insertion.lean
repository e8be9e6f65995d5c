import DataGrid.Proofs.Sort.Ties

namespace DataGrid.Sort

variable {α : Type} {less : α → α → Bool} {P : α → Prop} {items sorted : List α}

section Insertion

lemma insertBack_perm (less : α → α → Bool) (x : α) (items : List α) :
    (insertBack less x items).Perm (x :: items) := by
  induction items with
  | nil => exact .refl _
  | cons y items ih =>
    rw [insertBack]
    split
    · exact (ih.cons y).trans (.swap x y items)
    · exact .refl _

lemma insertBack_settles (h : OrdersOn less P) {x : α} (hx : P x) (hitems : ∀ y ∈ items, P y)
    (hsorted : Sorted (fun a b => less b a) items) :
    Settles (fun a b => less b a) P (x :: items) (insertBack less x items) := by
  induction items with
  | nil => exact ⟨.refl _, List.pairwise_singleton _ _, .refl _⟩
  | cons y items ih =>
    obtain ⟨hy, hrest⟩ := List.forall_mem_cons.mp hitems
    obtain ⟨hfirst, htail⟩ := List.pairwise_cons.mp hsorted
    rw [insertBack]
    split
    case isTrue hless =>
      have hinserted := ih hrest htail
      have hperm := (hinserted.perm.cons y).trans (.swap x y items)
      refine ⟨hperm, List.pairwise_cons.mpr ⟨fun z hz => ?_, hinserted.sorted⟩, ?_⟩
      · obtain rfl | hz := List.mem_cons.mp (hinserted.perm.mem_iff.mp hz)
        · exact h.asymm hx hy hless
        · exact hfirst z hz
      · have hswap : Keeps (fun a b => less b a) P ([x] ++ [y]) ([y] ++ [x]) :=
          .swap h.flip (by simpa using hx) (by simpa using hy) (by simpa using hless)
        exact (hswap.append (.refl items)).trans ((Keeps.refl [y]).append hinserted.keeps)
    case isFalse hnot =>
      refine ⟨.refl _, List.pairwise_cons.mpr ⟨fun z hz => ?_, hsorted⟩, .refl _⟩
      have hxy : less x y = false := Bool.eq_false_iff.mpr hnot
      obtain rfl | hz := List.mem_cons.mp hz
      · exact hxy
      · exact h.trans (hrest z hz) hy hx (hfirst z hz) hxy

lemma insertAll_perm (less : α → α → Bool) (sorted items : List α) :
    (insertAll less sorted items).Perm (sorted ++ items) := by
  have hfold : ∀ reversed : List α,
      (items.foldl (fun reversed x => insertBack less x reversed) reversed).Perm (items.reverse ++ reversed) := by
    induction items with
    | nil => exact fun reversed => .refl _
    | cons x items ih =>
      intro reversed
      rw [List.foldl_cons, List.reverse_cons, List.append_assoc]
      exact (ih _).trans ((insertBack_perm less x reversed).append_left _)
  refine (List.reverse_perm _).trans ((hfold sorted.reverse).trans ?_)
  rw [← List.reverse_append]
  exact List.reverse_perm _

lemma foldl_insertBack_settles (h : OrdersOn less P) {reversed : List α} (hitems : ∀ x ∈ items, P x)
    (hreversed : ∀ x ∈ reversed, P x) (hback : Sorted (fun a b => less b a) reversed) :
    Settles (fun a b => less b a) P (items.reverse ++ reversed)
      (items.foldl (fun reversed x => insertBack less x reversed) reversed) := by
  induction items generalizing reversed with
  | nil => exact ⟨.refl _, hback, .refl _⟩
  | cons x items ih =>
    obtain ⟨hx, hitems⟩ := List.forall_mem_cons.mp hitems
    have hinserted := insertBack_settles h hx hreversed hback
    have hrest := ih hitems (hinserted.all (List.forall_mem_cons.mpr ⟨hx, hreversed⟩)) hinserted.sorted
    rw [List.foldl_cons, List.reverse_cons, List.append_assoc]
    exact ⟨hrest.perm.trans (hinserted.perm.append_left _), hrest.sorted,
      ((Keeps.refl _).append hinserted.keeps).trans hrest.keeps⟩

lemma insertAll_settles (h : OrdersOn less P) (hall : ∀ x ∈ sorted ++ items, P x) (hsorted : Sorted less sorted) :
    Settles less P (sorted ++ items) (insertAll less sorted items) := by
  obtain ⟨hleft, hright⟩ := List.forall_mem_append.mp hall
  have hreversed := foldl_insertBack_settles h hright (fun x hx => hleft x (List.mem_reverse.mp hx)) hsorted.flip
  rw [← List.reverse_append] at hreversed
  have hback := hreversed.reverse
  rwa [List.reverse_reverse] at hback

lemma insertionSort_settles (h : OrdersOn less P) (hall : ∀ x ∈ items, P x) :
    Settles less P items (insertionSort less items) :=
  insertAll_settles h hall .nil

end Insertion

section Network

variable {a b c d : α}

lemma orderPair_perm (less : α → α → Bool) (a b : α) :
    [(orderPair less a b).1, (orderPair less a b).2].Perm [a, b] := by
  unfold orderPair
  split
  · exact .swap a b []
  · exact .refl _

lemma orderPair_settles (h : OrdersOn less P) (ha : P a) (hb : P b) :
    Settles less P [a, b] [(orderPair less a b).1, (orderPair less a b).2] := by
  unfold orderPair
  split
  case isTrue hless =>
    have hswap : Keeps less P ([a] ++ [b]) ([b] ++ [a]) :=
      .swap h (by simpa using ha) (by simpa using hb) (by simpa using hless)
    exact ⟨.swap a b [], List.pairwise_pair.mpr (h.asymm hb ha hless), hswap⟩
  case isFalse hnot => exact ⟨.refl _, List.pairwise_pair.mpr (Bool.eq_false_iff.mpr hnot), .refl _⟩

lemma orderPair_between (h : OrdersOn less P) (first last : α) (hb : P b) (hc : P c)
    (hfirst : ∀ x ∈ [b, c, last], less x first = false) (hlast : ∀ x ∈ [b, c], less last x = false) :
    Settles less P [first, b, c, last] [first, (orderPair less b c).1, (orderPair less b c).2, last] := by
  have hmiddle := orderPair_settles h hb hc
  refine ⟨(hmiddle.perm.append_right [last]).cons first, ?_,
    (Keeps.refl [first]).append (hmiddle.keeps.append (.refl [last]))⟩
  refine List.pairwise_cons.mpr ⟨fun x hx => hfirst x ?_, List.pairwise_append.mpr ⟨hmiddle.sorted,
    List.pairwise_singleton _ last, fun x hx y hy => ?_⟩⟩
  · exact (hmiddle.perm.append_right [last]).mem_iff.mp hx
  · rw [List.mem_singleton.mp hy]
    exact hlast x (hmiddle.perm.mem_iff.mp hx)

lemma mergePairs_perm (less : α → α → Bool) (a b c d : α) : (mergePairs less a b c d).Perm [a, b, c, d] := by
  have hmiddle (first left right last : α) :
      [first, (orderPair less left right).1, (orderPair less left right).2, last].Perm [first, left, right, last] :=
    ((orderPair_perm less left right).append_right [last]).cons first
  have hfront : ([c] ++ [a, b] ++ [d]).Perm ([a, b] ++ [c] ++ [d]) := List.perm_append_comm.append_right [d]
  have hback : ([a] ++ ([c, d] ++ [b])).Perm ([a] ++ ([b] ++ [c, d])) := List.perm_append_comm.append_left [a]
  unfold mergePairs
  split
  · split
    · exact (hmiddle c a d b).trans ((((List.Perm.swap b d []).cons a).cons c).trans hfront)
    · exact (hmiddle c a b d).trans hfront
  · split
    · exact (hmiddle a c d b).trans hback
    · exact hmiddle a b c d

lemma mergePairs_settles (h : OrdersOn less P) (ha : P a) (hb : P b) (hc : P c) (hd : P d) (hab : less b a = false)
    (hcd : less d c = false) : Settles less P [a, b, c, d] (mergePairs less a b c d) := by
  have hperm := mergePairs_perm less a b c d
  have hpair : ∀ {x y : α}, P x → P y → ∀ z ∈ [x, y], P z := by simp +contextual
  have hone : ∀ {x : α}, P x → ∀ z ∈ [x], P z := by simp
  unfold mergePairs at hperm ⊢
  cases hca : less c a <;> cases hdb : less d b <;>
    simp only [hca, hdb, if_true, Bool.false_eq_true, if_false] at hperm ⊢
  case true.true =>
    have hcb := h.less_of_less_of_le hc ha hb hca hab
    have hfront : Keeps less P ([a, b] ++ [c] ++ [d]) ([c] ++ [a, b] ++ [d]) :=
      (Keeps.swap h (hpair ha hb) (hone hc) (by simp [hca, hcb])).append (.refl [d])
    have hback : Keeps less P ([c, a] ++ ([b] ++ [d])) ([c, a] ++ ([d] ++ [b])) :=
      (Keeps.refl [c, a]).append (.swap h (hone hb) (hone hd) (by simp [hdb]))
    have hmiddle := orderPair_between h c b ha hd
      (by simp [hcd, h.asymm hc ha hca, h.asymm hc hb hcb]) (by simp [hab, h.asymm hd hb hdb])
    exact ⟨hperm, hmiddle.sorted, (hfront.trans hback).trans hmiddle.keeps⟩
  case true.false =>
    have hcb := h.less_of_less_of_le hc ha hb hca hab
    have hfront : Keeps less P ([a, b] ++ [c] ++ [d]) ([c] ++ [a, b] ++ [d]) :=
      (Keeps.swap h (hpair ha hb) (hone hc) (by simp [hca, hcb])).append (.refl [d])
    have hmiddle := orderPair_between h c d ha hb
      (by simp [hcd, h.asymm hc ha hca, h.asymm hc hb hcb]) (by simp [hdb, h.trans ha hb hd hab hdb])
    exact ⟨hperm, hmiddle.sorted, hfront.trans hmiddle.keeps⟩
  case false.true =>
    have hcb := h.less_of_le_of_less hc hd hb hcd hdb
    have hback : Keeps less P ([a] ++ ([b] ++ [c, d])) ([a] ++ ([c, d] ++ [b])) :=
      (Keeps.refl [a]).append (.swap h (hone hb) (hpair hc hd) (by simp [hcb, hdb]))
    have hmiddle := orderPair_between h a b hc hd
      (by simp [hca, hab, h.trans ha hc hd hca hcd]) (by simp [h.asymm hc hb hcb, h.asymm hd hb hdb])
    exact ⟨hperm, hmiddle.sorted, hback.trans hmiddle.keeps⟩
  case false.false =>
    have hmiddle := orderPair_between h a d hb hc
      (by simp [hab, hca, h.trans ha hb hd hab hdb]) (by simp [hdb, hcd])
    exact ⟨hperm, hmiddle.sorted, hmiddle.keeps⟩

lemma sortFour_perm (less : α → α → Bool) (items : List α) : (sortFour less items).Perm items := by
  unfold sortFour
  split
  case h_1 a b c d =>
    exact (mergePairs_perm _ _ _ _ _).trans ((orderPair_perm less a b).append (orderPair_perm less c d))
  case h_2 => exact .refl _

lemma sortFour_settles (h : OrdersOn less P) (hlength : items.length = 4) (hall : ∀ x ∈ items, P x) :
    Settles less P items (sortFour less items) := by
  match items with
  | [a, b, c, d] =>
    have hall' : ∀ x ∈ [a, b] ++ [c, d], P x := hall
    obtain ⟨hab, hcd⟩ := List.forall_mem_append.mp hall'
    have hleft := orderPair_settles h (hab a (by simp)) (hab b (by simp))
    have hright := orderPair_settles h (hcd c (by simp)) (hcd d (by simp))
    obtain ⟨hl, hl'⟩ : P (orderPair less a b).1 ∧ P (orderPair less a b).2 := by simpa using hleft.all hab
    obtain ⟨hr, hr'⟩ : P (orderPair less c d).1 ∧ P (orderPair less c d).2 := by simpa using hright.all hcd
    have hmerged := mergePairs_settles h hl hl' hr hr' (List.pairwise_pair.mp hleft.sorted :)
      (List.pairwise_pair.mp hright.sorted :)
    exact ⟨sortFour_perm less _, hmerged.sorted, (hleft.keeps.append hright.keeps).trans hmerged.keeps⟩

end Network

end DataGrid.Sort
