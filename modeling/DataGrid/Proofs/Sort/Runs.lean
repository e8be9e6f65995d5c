import DataGrid.Proofs.Sort.Merging

/-! Sorting a few items, and sorting by runs. -/

namespace DataGrid.Sort

variable {α : Type} {less : α → α → Bool} {P : α → Prop} {items out : List α}

def Permutes (f : List α → Option (List α)) : Prop := ∀ {items out}, f items = some out → out.Perm items

def SettlesOn (less : α → α → Bool) (P : α → Prop) (f : List α → Option (List α)) : Prop :=
  ∀ {items}, (∀ x ∈ items, P x) → ∃ out, f items = some out ∧ Settles less P items out

section Small

lemma mergeEnds_halves_perm {k : Nat} {left right : List α} (hk : 2 * k ≤ items.length)
    (hleft : left.Perm (items.take k)) (hright : right.Perm (items.drop k)) (h : mergeEnds less left right = some out) :
    out.Perm items := by
  have hle : left.length ≤ right.length := by
    rw [hleft.length_eq, hright.length_eq, List.length_take, List.length_drop]
    omega
  have hperm := (mergeEnds_perm hle h).trans (hleft.append hright)
  rwa [List.take_append_drop] at hperm

lemma mergeEnds_halves_settles (h : OrdersOn less P) (hall : ∀ x ∈ items, P x) {k : Nat} {left right : List α}
    (hk : 2 * k ≤ items.length) (hk' : items.length ≤ 2 * k + 1) (hleft : Settles less P (items.take k) left)
    (hright : Settles less P (items.drop k) right) :
    ∃ out, mergeEnds less left right = some out ∧ Settles less P items out := by
  have hlengths : left.length = min k items.length := hleft.perm.length_eq.trans List.length_take
  have hlengths' : right.length = items.length - k := hright.perm.length_eq.trans List.length_drop
  obtain ⟨out, hout, hmerged⟩ := mergeEnds_settles h (hleft.all (all_take hall k)) (hright.all (all_drop hall k))
    hleft.sorted hright.sorted (by omega) (by omega)
  have hparts := Settles.of_keeps (hleft.perm.append hright.perm) (hleft.keeps.append hright.keeps) hmerged
  rw [List.take_append_drop] at hparts
  exact ⟨out, hout, hparts⟩

lemma sortEight_perm (hlength : items.length = 8) (h : sortEight less items = some out) : out.Perm items :=
  mergeEnds_halves_perm (by omega) (sortFour_perm less _) (sortFour_perm less _) h

lemma sortEight_settles (h : OrdersOn less P) (hlength : items.length = 8) (hall : ∀ x ∈ items, P x) :
    ∃ out, sortEight less items = some out ∧ Settles less P items out :=
  mergeEnds_halves_settles h hall (by omega) (by omega)
    (sortFour_settles h (by simp [hlength]) (all_take hall 4)) (sortFour_settles h (by simp [hlength]) (all_drop hall 4))

variable {n : Nat}

lemma sortHalf_perm (hn : n / 2 ≤ items.length) (h : sortHalf less n items = some out) : out.Perm items := by
  unfold sortHalf at h
  split at h
  · obtain ⟨first, hfirst, h⟩ := Option.bind_eq_some_iff.mp h
    obtain rfl := Option.some.inj h
    have hperm := sortEight_perm (by rw [List.length_take]; omega) hfirst
    have hall := (insertAll_perm less first (items.drop 8)).trans (hperm.append_right _)
    rwa [List.take_append_drop] at hall
  · split at h
    · obtain rfl := Option.some.inj h
      have hall := (insertAll_perm less _ (items.drop 4)).trans ((sortFour_perm less (items.take 4)).append_right _)
      rwa [List.take_append_drop] at hall
    · obtain rfl := Option.some.inj h
      exact insertAll_perm less [] items

lemma sortHalf_settles (h : OrdersOn less P) (hn : n / 2 ≤ items.length) (hall : ∀ x ∈ items, P x) :
    ∃ out, sortHalf less n items = some out ∧ Settles less P items out := by
  have hinsert : ∀ {first : List α} {k : Nat}, Settles less P (items.take k) first →
      Settles less P items (insertAll less first (items.drop k)) := by
    intro first k hfirst
    have hrest := insertAll_settles h (List.forall_mem_append.mpr ⟨hfirst.all (all_take hall k), all_drop hall k⟩)
      hfirst.sorted
    have hparts := Settles.of_keeps (hfirst.perm.append_right _) (hfirst.keeps.append (.refl _)) hrest
    rwa [List.take_append_drop] at hparts
  unfold sortHalf
  split
  · obtain ⟨first, hfirst, hsettled⟩ := sortEight_settles h (by rw [List.length_take]; omega) (all_take hall 8)
    exact ⟨_, by rw [hfirst]; rfl, hinsert hsettled⟩
  · split
    · exact ⟨_, rfl, hinsert (sortFour_settles h (by rw [List.length_take]; omega) (all_take hall 4))⟩
    · exact ⟨_, rfl, insertionSort_settles h hall⟩

lemma smallSort_permutes : Permutes (smallSort less) := by
  intro items out h
  unfold smallSort at h
  dsimp only at h
  split at h
  · obtain rfl := Option.some.inj h
    exact .refl _
  · obtain ⟨left, hleft, h⟩ := Option.bind_eq_some_iff.mp h
    obtain ⟨right, hright, h⟩ := Option.bind_eq_some_iff.mp h
    have hl := sortHalf_perm (by rw [List.length_take]; omega) hleft
    have hr := sortHalf_perm (by rw [List.length_drop]; omega) hright
    exact mergeEnds_halves_perm (by omega) hl hr h

lemma smallSort_settles (h : OrdersOn less P) : SettlesOn less P (smallSort less) := by
  intro items hall
  unfold smallSort
  dsimp only
  split
  case isTrue hshort => exact ⟨items, rfl, .refl _, sorted_of_length_le_one (by omega), .refl _⟩
  case isFalse =>
    obtain ⟨left, hl, hleft⟩ := sortHalf_settles (n := items.length) h (by rw [List.length_take]; omega)
      (all_take hall (items.length / 2))
    obtain ⟨right, hr, hright⟩ := sortHalf_settles (n := items.length) h (by rw [List.length_drop]; omega)
      (all_drop hall (items.length / 2))
    obtain ⟨out, hout, hmerged⟩ := mergeEnds_halves_settles h hall (by omega) (by omega) hleft hright
    exact ⟨out, by rw [hl, hr]; exact hout, hmerged⟩

end Small

section Natural

lemma runLength_pairwise (h : OrdersOn less P) (falling : Bool) {last : α} {xs : List α} (hlast : P last)
    (hxs : ∀ x ∈ xs, P x) :
    (last :: xs.take (runLength less falling last xs)).Pairwise fun a b => less b a = falling := by
  have htrans : ∀ {a b c}, P a → P b → P c → less b a = falling → less c b = falling → less c a = falling := by
    intro a b c ha hb hc hba hcb
    cases falling with
    | true => exact h.less_trans hc hb ha hcb hba
    | false => exact h.trans ha hb hc hba hcb
  induction xs generalizing last with
  | nil => exact List.pairwise_singleton _ last
  | cons x xs ih =>
    obtain ⟨hx, hxs⟩ := List.forall_mem_cons.mp hxs
    rw [runLength]
    split
    case isTrue hgoes =>
      have hgoes := eq_of_beq hgoes
      have hrest := ih hx hxs
      rw [List.take_succ_cons]
      refine List.pairwise_cons.mpr ⟨fun y hy => ?_, hrest⟩
      obtain rfl | hy := List.mem_cons.mp hy
      · exact hgoes
      · exact htrans hlast hx (hxs y (List.mem_of_mem_take hy)) hgoes ((List.pairwise_cons.mp hrest).1 y hy)
    case isFalse => exact List.pairwise_singleton _ last

lemma reverse_settles (h : OrdersOn less P) (hall : ∀ x ∈ items, P x)
    (hfalls : items.Pairwise fun a b => less b a = true) : Settles less P items items.reverse := by
  refine ⟨List.reverse_perm items, ?_, ?_⟩
  · refine List.pairwise_reverse.mpr (hfalls.imp_of_mem fun ha hb hba => ?_)
    exact h.asymm (hall _ hb) (hall _ ha) hba
  · induction items with
    | nil => exact .refl _
    | cons x items ih =>
      obtain ⟨hx, hall⟩ := List.forall_mem_cons.mp hall
      obtain ⟨hbehind, hfalls⟩ := List.pairwise_cons.mp hfalls
      have hback : Keeps less P ([x] ++ items) (items ++ [x]) :=
        .swap h (by simpa using hx) hall (by simpa using hbehind)
      rw [List.reverse_cons]
      exact hback.trans ((ih hall hfalls).append (.refl [x]))

lemma naturalRun_settles (h : OrdersOn less P) (hall : ∀ x ∈ items, P x) {length : Nat} {falling : Bool}
    (hrun : naturalRun less items = (length, falling)) :
    Settles less P (items.take length) (if falling then (items.take length).reverse else items.take length) := by
  unfold naturalRun at hrun
  split at hrun
  case h_1 x y items =>
    obtain ⟨rfl, rfl⟩ := Prod.mk.inj hrun
    obtain ⟨hx, hrest⟩ := List.forall_mem_cons.mp hall
    have hpairs := runLength_pairwise h (less y x) hx hrest
    rw [← List.take_succ_cons] at hpairs
    split
    case isTrue hyx =>
      rw [hyx] at hpairs ⊢
      exact reverse_settles h (all_take hall _) hpairs
    case isFalse hyx =>
      rw [Bool.eq_false_iff.mpr hyx] at hpairs ⊢
      exact ⟨.refl _, hpairs, .refl _⟩
  case h_2 hshort =>
    obtain ⟨rfl, rfl⟩ := Prod.mk.inj hrun
    have hle : items.length ≤ 1 := by
      match items with
      | [] | [_] => simp
      | x :: y :: items => exact absurd rfl (hshort x y items)
    rw [List.take_length]
    exact ⟨.refl _, sorted_of_length_le_one hle, .refl _⟩

end Natural

section Split

variable {eager : Bool} {good : { n : Nat // 0 < n }} {runs : List (Run α)}

def Run.Settled (less : α → α → Bool) (r : Run α) : Prop := r.sorted = true → Sorted less r.items

lemma splitRuns_perm (h : splitRuns less eager good items = some runs) : (runs.flatMap Run.items).Perm items := by
  have hparts : ∀ {items first : List α} {rest : List (Run α)} {k : Nat}, first.Perm (items.take k) →
      (rest.flatMap Run.items).Perm (items.drop k) → (first ++ rest.flatMap Run.items).Perm items := by
    intro items first rest k hfirst hrest
    have hboth := hfirst.append hrest
    rwa [List.take_append_drop] at hboth
  induction items using splitRuns.induct less eager good generalizing runs with
  | case1 =>
    rw [splitRuns] at h
    obtain rfl := Option.some.inj h
    exact .refl _
  | case2 x xs length falling hrun hlong ih =>
    simp only [splitRuns, hrun, dif_pos hlong] at h
    obtain ⟨rest, hrest, h⟩ := Option.bind_eq_some_iff.mp h
    obtain rfl := Option.some.inj h
    refine hparts ?_ (ih hrest)
    split
    · exact List.reverse_perm _
    · exact .refl _
  | case3 x xs length falling hrun hshort heager ih =>
    simp only [splitRuns, hrun, dif_neg hshort, if_pos heager] at h
    obtain ⟨first, hfirst, h⟩ := Option.bind_eq_some_iff.mp h
    obtain ⟨rest, hrest, h⟩ := Option.bind_eq_some_iff.mp h
    obtain rfl := Option.some.inj h
    exact hparts (smallSort_permutes hfirst) (ih hrest)
  | case4 x xs length falling hrun hshort heager ih =>
    simp only [splitRuns, hrun, dif_neg hshort, if_neg heager] at h
    obtain ⟨rest, hrest, h⟩ := Option.bind_eq_some_iff.mp h
    obtain rfl := Option.some.inj h
    exact hparts (.refl _) (ih hrest)

lemma splitRuns_settles (h : OrdersOn less P) (hall : ∀ x ∈ items, P x) :
    ∃ runs, splitRuns less eager good items = some runs ∧ (∀ r ∈ runs, r.Settled less) ∧
      Keeps less P items (runs.flatMap Run.items) := by
  have hparts : ∀ {items : List α} {r : Run α} {rest : List (Run α)} {k : Nat}, r.Settled less →
      Keeps less P (items.take k) r.items → (∀ r ∈ rest, r.Settled less) →
      Keeps less P (items.drop k) (rest.flatMap Run.items) →
      (∀ r' ∈ r :: rest, r'.Settled less) ∧ Keeps less P items ((r :: rest).flatMap Run.items) := by
    intro items r rest k hr hkeeps hrest hkeeps'
    have hboth := hkeeps.append hkeeps'
    rw [List.take_append_drop] at hboth
    exact ⟨List.forall_mem_cons.mpr ⟨hr, hrest⟩, hboth⟩
  induction items using splitRuns.induct less eager good with
  | case1 => exact ⟨[], by rw [splitRuns], by simp, .refl _⟩
  | case2 x xs length falling hrun hlong ih =>
    obtain ⟨rest, hrest, hsettled, hkeeps⟩ := ih (all_drop hall _)
    have hfirst := naturalRun_settles h hall hrun
    exact ⟨_, by simp only [splitRuns, hrun, dif_pos hlong, hrest]; rfl,
      hparts (fun _ => hfirst.sorted) hfirst.keeps hsettled hkeeps⟩
  | case3 x xs length falling hrun hshort heager ih =>
    obtain ⟨rest, hrest, hsettled, hkeeps⟩ := ih (all_drop hall _)
    obtain ⟨first, hsmall, hfirst⟩ := smallSort_settles h (all_take hall 32)
    exact ⟨_, by simp only [splitRuns, hrun, dif_neg hshort, if_pos heager, hsmall, hrest]; rfl,
      hparts (fun _ => hfirst.sorted) hfirst.keeps hsettled hkeeps⟩
  | case4 x xs length falling hrun hshort heager ih =>
    obtain ⟨rest, hrest, hsettled, hkeeps⟩ := ih (all_drop hall _)
    exact ⟨_, by simp only [splitRuns, hrun, dif_neg hshort, if_neg heager, hrest]; rfl,
      hparts (fun hsorted => absurd hsorted Bool.false_ne_true) (.refl _) hsettled hkeeps⟩

end Split

section Join

variable {quick : List α → Option (List α)} {room depth scale place : Nat} {r s t : Run α}
  {stack stack' : List (Run α × Nat)} {runs : List (Run α)}

lemma Run.settle_perm (hquick : Permutes quick) (h : r.settle quick = some out) : out.Perm r.items := by
  unfold settle at h
  split at h
  · obtain rfl := Option.some.inj h
    exact .refl _
  · exact hquick h

lemma Run.settle_settles (hquick : SettlesOn less P quick) (hr : r.Settled less) (hall : ∀ x ∈ r.items, P x) :
    ∃ out, r.settle quick = some out ∧ Settles less P r.items out := by
  unfold settle
  split
  case isTrue hsorted => exact ⟨_, rfl, .refl _, hr hsorted, .refl _⟩
  case isFalse => exact hquick hall

lemma Run.join_perm (hquick : Permutes quick) (h : r.join less quick room s = some t) :
    t.items.Perm (r.items ++ s.items) := by
  unfold join at h
  split at h
  · obtain rfl := Option.some.inj h
    exact .refl _
  · obtain ⟨left, hleft, h⟩ := Option.bind_eq_some_iff.mp h
    obtain ⟨right, hright, h⟩ := Option.bind_eq_some_iff.mp h
    obtain rfl := Option.some.inj h
    exact (merge_perm less left right).trans ((settle_perm hquick hleft).append (settle_perm hquick hright))

lemma Run.join_settles (h : OrdersOn less P) (hquick : SettlesOn less P quick) (hr : r.Settled less)
    (hs : s.Settled less) (hall : ∀ x ∈ r.items ++ s.items, P x) :
    ∃ t, r.join less quick room s = some t ∧ t.Settled less ∧ Keeps less P (r.items ++ s.items) t.items := by
  obtain ⟨hleft, hright⟩ := List.forall_mem_append.mp hall
  unfold join
  split
  · exact ⟨_, rfl, fun hsorted => absurd hsorted Bool.false_ne_true, .refl _⟩
  · obtain ⟨left, hl, hl'⟩ := settle_settles hquick hr hleft
    obtain ⟨right, hr, hr'⟩ := settle_settles hquick hs hright
    have hmerged := merge_settles h (hl'.all hleft) (hr'.all hright) hl'.sorted hr'.sorted
    exact ⟨_, by rw [hl, hr]; rfl, fun _ => hmerged.sorted, (hl'.keeps.append hr'.keeps).trans hmerged.keeps⟩

def stackItems (stack : List (Run α × Nat)) : List α := stack.reverse.flatMap fun entry => entry.1.items

lemma stackItems_cons (entry : Run α × Nat) (stack : List (Run α × Nat)) :
    stackItems (entry :: stack) = stackItems stack ++ entry.1.items := by
  simp [stackItems]

lemma collapse_perm (hquick : Permutes quick) (h : collapse less quick room depth stack r = some (stack', t)) :
    (stackItems stack' ++ t.items).Perm (stackItems stack ++ r.items) := by
  induction stack generalizing r with
  | nil =>
    obtain ⟨rfl, rfl⟩ := Prod.mk.inj (Option.some.inj h)
    exact .refl _
  | cons entry stack ih =>
    obtain ⟨left, seam⟩ := entry
    rw [collapse] at h
    split at h
    · obtain ⟨joined, hjoined, h⟩ := Option.bind_eq_some_iff.mp h
      rw [stackItems_cons, List.append_assoc]
      exact (ih h).trans ((Run.join_perm hquick hjoined).append_left _)
    · obtain ⟨rfl, rfl⟩ := Prod.mk.inj (Option.some.inj h)
      exact .refl _

lemma collapse_nil (h : collapse less quick room 0 stack r = some (stack', t)) : stack' = [] := by
  induction stack generalizing r with
  | nil => exact (Prod.mk.inj (Option.some.inj h)).1.symm
  | cons entry stack ih =>
    obtain ⟨left, seam⟩ := entry
    rw [collapse, if_pos (Nat.zero_le seam)] at h
    obtain ⟨joined, -, h⟩ := Option.bind_eq_some_iff.mp h
    exact ih h

lemma collapse_settles (h : OrdersOn less P) (depth : Nat) (hquick : SettlesOn less P quick)
    (hpermutes : Permutes quick) (hstack : ∀ entry ∈ stack, entry.1.Settled less) (hr : r.Settled less)
    (hall : ∀ x ∈ stackItems stack ++ r.items, P x) :
    ∃ stack' t, collapse less quick room depth stack r = some (stack', t) ∧
      (∀ entry ∈ stack', entry.1.Settled less) ∧ t.Settled less ∧
      Keeps less P (stackItems stack ++ r.items) (stackItems stack' ++ t.items) := by
  induction stack generalizing r with
  | nil => exact ⟨[], r, rfl, by simp, hr, .refl _⟩
  | cons entry stack ih =>
    obtain ⟨left, seam⟩ := entry
    obtain ⟨hleft, hstack'⟩ := List.forall_mem_cons.mp hstack
    rw [collapse]
    split
    · rw [stackItems_cons, List.append_assoc] at hall ⊢
      obtain ⟨hbelow, hboth⟩ := List.forall_mem_append.mp hall
      obtain ⟨joined, hjoin, hjoined, hkeeps⟩ := Run.join_settles h hquick hleft hr hboth
      have hperm := Run.join_perm hpermutes hjoin
      obtain ⟨stack', t, hcollapse, hsettled, ht, hrest⟩ := ih hstack' hjoined
        (List.forall_mem_append.mpr ⟨hbelow, fun x hx => hboth x (hperm.mem_iff.mp hx)⟩)
      exact ⟨stack', t, by rw [hjoin]; exact hcollapse, hsettled, ht, ((Keeps.refl _).append hkeeps).trans hrest⟩
    · exact ⟨_, r, rfl, hstack, hr, .refl _⟩

lemma joinRuns_perm (hquick : Permutes quick) (h : joinRuns less quick room scale stack r place runs = some t) :
    t.items.Perm (stackItems stack ++ r.items ++ runs.flatMap Run.items) := by
  induction runs generalizing stack r place with
  | nil =>
    obtain ⟨⟨stack', t'⟩, hcollapse, h⟩ := Option.bind_eq_some_iff.mp h
    obtain rfl := Option.some.inj h
    have hperm := collapse_perm hquick hcollapse
    obtain rfl := collapse_nil hcollapse
    rw [List.flatMap_nil, List.append_nil]
    exact hperm
  | cons next runs ih =>
    obtain ⟨⟨stack', t'⟩, hcollapse, h⟩ := Option.bind_eq_some_iff.mp h
    have hperm := (collapse_perm hquick hcollapse).append_right (next.items ++ runs.flatMap Run.items)
    have hrest := ih h
    rw [stackItems_cons, List.append_assoc _ next.items] at hrest
    exact hrest.trans hperm

lemma joinRuns_settles (h : OrdersOn less P) (room scale place : Nat) (hquick : SettlesOn less P quick)
    (hpermutes : Permutes quick) (hstack : ∀ entry ∈ stack, entry.1.Settled less) (hr : r.Settled less)
    (hruns : ∀ r ∈ runs, r.Settled less)
    (hall : ∀ x ∈ stackItems stack ++ r.items ++ runs.flatMap Run.items, P x) :
    ∃ t, joinRuns less quick room scale stack r place runs = some t ∧ t.Settled less ∧
      Keeps less P (stackItems stack ++ r.items ++ runs.flatMap Run.items) t.items := by
  induction runs generalizing stack r place with
  | nil =>
    rw [List.flatMap_nil, List.append_nil] at hall ⊢
    obtain ⟨stack', t, hcollapse, -, ht, hkeeps⟩ := collapse_settles h 0 hquick hpermutes hstack hr hall
    obtain rfl := collapse_nil hcollapse
    exact ⟨t, by rw [joinRuns, hcollapse]; rfl, ht, hkeeps⟩
  | cons next runs ih =>
    obtain ⟨hnext, hruns⟩ := List.forall_mem_cons.mp hruns
    obtain ⟨hbefore, hbehind⟩ := List.forall_mem_append.mp hall
    let seam := seamDepth scale (place - r.items.length) place (place + next.items.length)
    obtain ⟨stack', joined, hcollapse, hstack', hjoined, hkeeps⟩ :=
      collapse_settles h seam hquick hpermutes hstack hr hbefore
    have hperm := collapse_perm hpermutes hcollapse
    have hall' : ∀ x ∈ stackItems stack' ++ joined.items ++ (next.items ++ runs.flatMap Run.items), P x :=
      List.forall_mem_append.mpr ⟨fun x hx => hbefore x (hperm.mem_iff.mp hx), hbehind⟩
    rw [← List.append_assoc _ next.items, ← stackItems_cons (joined, seam)] at hall'
    obtain ⟨t, hjoin, ht, hrest⟩ := ih _ (List.forall_mem_cons.mpr ⟨hjoined, hstack'⟩) hnext hruns hall'
    refine ⟨t, by rw [joinRuns, hcollapse]; exact hjoin, ht, ?_⟩
    rw [stackItems_cons, List.append_assoc _ next.items] at hrest
    exact (hkeeps.append (.refl (next.items ++ runs.flatMap Run.items))).trans hrest

lemma sortRuns_permutes (less : α → α → Bool) (eager : Bool) (hquick : Permutes quick) :
    Permutes (sortRuns less quick eager) := by
  intro items out h
  unfold sortRuns at h
  split at h
  · obtain rfl := Option.some.inj h
    exact .refl _
  · obtain ⟨runs, hruns, h⟩ := Option.bind_eq_some_iff.mp h
    have hperm := splitRuns_perm hruns
    cases runs with
    | nil =>
      obtain rfl := Option.some.inj h
      exact hperm
    | cons first runs =>
      obtain ⟨joined, hjoined, h⟩ := Option.bind_eq_some_iff.mp h
      exact (Run.settle_perm hquick h).trans ((joinRuns_perm hquick hjoined).trans hperm)

lemma sortRuns_settles (h : OrdersOn less P) (eager : Bool) (hquick : SettlesOn less P quick)
    (hpermutes : Permutes quick) : SettlesOn less P (sortRuns less quick eager) := by
  intro items hall
  unfold sortRuns
  split
  case isTrue hshort => exact ⟨items, rfl, .refl _, sorted_of_length_le_one (by omega), .refl _⟩
  case isFalse =>
    dsimp only
    obtain ⟨runs, hruns, hsettled, hkeeps⟩ := splitRuns_settles h hall
    have hperm := splitRuns_perm hruns
    rw [hruns]
    cases runs with
    | nil => exact ⟨[], rfl, hperm, .nil, hkeeps⟩
    | cons first runs =>
      have hall' : ∀ x ∈ stackItems [] ++ first.items ++ runs.flatMap Run.items, P x :=
        fun x hx => hall x (hperm.mem_iff.mp hx)
      obtain ⟨hfirst, hrest⟩ := List.forall_mem_cons.mp hsettled
      let n := items.length
      obtain ⟨joined, hjoin, hjoined, hkeeps'⟩ := joinRuns_settles h (max (n - n / 2) (min n 1000000))
        ((Nat.pow 2 62 + n - 1) / n) first.items.length hquick hpermutes (by simp) hfirst hrest hall'
      have hperm' := joinRuns_perm hpermutes hjoin
      obtain ⟨out, hout, hsorted⟩ := joined.settle_settles hquick hjoined fun x hx => hall' x (hperm'.mem_iff.mp hx)
      refine ⟨out, ?_, .of_keeps (hperm'.trans hperm) (hkeeps.trans hkeeps') hsorted⟩
      exact Option.bind_eq_some_iff.mpr ⟨_, rfl, Option.bind_eq_some_iff.mpr ⟨joined, hjoin, hout⟩⟩

end Join

end DataGrid.Sort
