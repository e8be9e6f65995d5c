import DataGrid.Proofs.Sort.Runs
import DataGrid.Sort.Stable

namespace DataGrid.Sort

variable {α : Type} {less : α → α → Bool} {P : α → Prop} {items out : List α}

section Partition

variable {test : α → Bool} {place : Nat} {passes : Bool}

lemma take_append_pivot (items : List α) (place : Nat) :
    items.take place ++ (items.drop place).take 1 ++ items.drop (place + 1) = items := by
  rw [List.append_assoc, ← List.drop_drop, List.take_append_drop, List.take_append_drop]

lemma partitionAt_perm (test : α → Bool) (place : Nat) (passes : Bool) (items : List α) :
    ((partitionAt test place passes items).1 ++ (partitionAt test place passes items).2).Perm items := by
  classical
  rw [List.perm_iff_count]
  intro z
  have hbefore := (List.filter_append_perm test (items.take place)).count_eq z
  have hbehind := (List.filter_append_perm test (items.drop (place + 1))).count_eq z
  conv_rhs => rw [← take_append_pivot items place]
  simp only [partitionAt, List.count_append] at hbefore hbehind ⊢
  cases passes <;> simp only [if_true, Bool.false_eq_true, if_false, List.count_nil] <;> omega

lemma partitionAt_eq (h : ∀ x, items[place]? = some x → test x = passes) :
    partitionAt test place passes items = (items.filter test, items.filter (!test ·)) := by
  have hpivot : ∀ x ∈ (items.drop place).take 1, test x = passes := by
    intro x hx
    rw [List.take_one, List.head?_drop] at hx
    exact h x (Option.mem_toList.mp hx)
  conv_rhs => rw [← take_append_pivot items place]
  simp only [partitionAt, List.filter_append]
  cases passes with
  | true =>
    have hin : ((items.drop place).take 1).filter test = (items.drop place).take 1 := List.filter_eq_self.mpr hpivot
    have hout : ((items.drop place).take 1).filter (!test ·) = [] := by
      rw [List.filter_eq_nil_iff]
      intro x hx
      simp [hpivot x hx]
    simp only [hin, hout, if_true]
  | false =>
    have hin : ((items.drop place).take 1).filter (!test ·) = (items.drop place).take 1 :=
      List.filter_eq_self.mpr fun x hx => by simp [hpivot x hx]
    have hout : ((items.drop place).take 1).filter test = [] := by
      rw [List.filter_eq_nil_iff]
      intro x hx
      simp [hpivot x hx]
    simp only [hin, hout, Bool.false_eq_true, if_false]

lemma partition_keeps (horder : OrdersOn less P) (hall : ∀ x ∈ items, P x)
    (h : ∀ x ∈ items, ∀ y ∈ items, test x = true → test y = false → less x y = true) :
    Keeps less P items (items.filter test ++ items.filter (!test ·)) := by
  intro z hz
  rw [List.filter_append, List.filter_filter, List.filter_filter]
  by_cases hsome : ∃ x ∈ items, tied less z x = true ∧ test x = true
  · obtain ⟨x, hx, hzx, htest⟩ := hsome
    -- an equal of `x` that fails the test would be less than it
    have hpass : ∀ y ∈ items, tied less z y = true → test y = true := by
      intro y hy hzy
      by_contra hfails
      have hless := h x hx y hy htest (Bool.eq_false_iff.mpr hfails)
      exact horder.not_tied_both (hall x hx) (hall y hy) hz hless ⟨hzx, hzy⟩
    have hin : items.filter (fun y => tied less z y && test y) = items.filter (tied less z) := by
      refine List.filter_congr fun y hy => ?_
      cases hzy : tied less z y with
      | true => exact hpass y hy hzy
      | false => rfl
    have hout : items.filter (fun y => tied less z y && !test y) = [] := by
      refine List.filter_eq_nil_iff.mpr fun y hy hboth => ?_
      obtain ⟨hzy, hfails⟩ := Bool.and_eq_true_iff.mp hboth
      simp [hpass y hy hzy] at hfails
    rw [hin, hout, List.append_nil]
  · have hin : items.filter (fun y => tied less z y && test y) = [] := by
      refine List.filter_eq_nil_iff.mpr fun y hy hboth => ?_
      exact hsome ⟨y, hy, Bool.and_eq_true_iff.mp hboth⟩
    have hout : items.filter (fun y => tied less z y && !test y) = items.filter (tied less z) := by
      refine List.filter_congr fun y hy => ?_
      cases hzy : tied less z y with
      | true => simpa using fun htest => hsome ⟨y, hy, hzy, htest⟩
      | false => rfl
    rw [hin, hout, List.nil_append]

lemma partition_settles (horder : OrdersOn less P) (hall : ∀ x ∈ items, P x)
    (h : ∀ x ∈ items, ∀ y ∈ items, test x = true → test y = false → less x y = true) {left right : List α}
    (hleft : Settles less P (items.filter test) left) (hright : Settles less P (items.filter (!test ·)) right) :
    Settles less P items (left ++ right) := by
  refine ⟨(hleft.perm.append hright.perm).trans (List.filter_append_perm test items), ?_,
    (partition_keeps horder hall h).trans (hleft.keeps.append hright.keeps)⟩
  refine List.pairwise_append.mpr ⟨hleft.sorted, hright.sorted, fun x hx y hy => ?_⟩
  obtain ⟨hx, htest⟩ := List.mem_filter.mp (hleft.perm.mem_iff.mp hx)
  obtain ⟨hy, hfails⟩ := List.mem_filter.mp (hright.perm.mem_iff.mp hy)
  exact horder.asymm (hall x hx) (hall y hy) (h x hx y hy htest (by simpa using hfails))

variable {pivot : α} {left right : List α}

lemma partitionAt_pivot (hirrefl : less pivot pivot = false) (hplace : items[place]? = some pivot) :
    partitionAt (less · pivot) place false items = (items.filter (less · pivot), items.filter (!less · pivot)) ∧
      partitionAt (!less pivot ·) place true items =
        (items.filter (!less pivot ·), items.filter (!!less pivot ·)) := by
  have hat : ∀ x, items[place]? = some x → x = pivot := fun x hx => Option.some.inj (hx.symm.trans hplace)
  constructor
  · exact partitionAt_eq fun x hx => by rw [hat x hx, hirrefl]
  · exact partitionAt_eq fun x hx => by rw [hat x hx, hirrefl]; rfl

lemma sides_settle (h : OrdersOn less P) (hall : ∀ x ∈ items, P x) (hp : P pivot)
    (hleft : Settles less P (items.filter (less · pivot)) left)
    (hright : Settles less P (items.filter (!less · pivot)) right) : Settles less P items (left ++ right) := by
  refine partition_settles h hall ?_ hleft hright
  intro x hx y hy hxp hyp
  exact h.less_of_less_of_le (hall x hx) hp (hall y hy) hxp hyp

lemma equals_settle (h : OrdersOn less P) (hall : ∀ x ∈ items, P x) (hp : P pivot)
    (hleast : ∀ x ∈ items, less x pivot = false)
    (hright : Settles less P (items.filter (!!less pivot ·)) right) :
    Settles less P items (items.filter (!less pivot ·) ++ right) := by
  have hequal : Sorted less (items.filter (!less pivot ·)) := by
    refine List.pairwise_of_forall_mem_list fun x hx y hy => ?_
    obtain ⟨hx, hxp⟩ := List.mem_filter.mp hx
    have hy := List.mem_of_mem_filter hy
    exact h.trans (hall x hx) hp (hall y hy) (by simpa using hxp) (hleast y hy)
  refine partition_settles h hall ?_ ⟨.refl _, hequal, .refl _⟩ hright
  intro x hx y hy hxp hyp
  exact h.less_of_le_of_less (hall x hx) hp (hall y hy) (by simpa using hxp) (by simpa using hyp)

end Partition

section Quick

variable {limit : Nat} {beside : Option α} {pivot : α}

lemma least_of_beside (h : OrdersOn less P) (hall : ∀ x ∈ items, P x) (hp : P pivot)
    (hbeside : ∀ a, beside = some a → P a ∧ ∀ x ∈ items, less x a = false)
    (hleast : ((items.filter (less · pivot)).isEmpty || beside.any (!less · pivot)) = true) :
    ∀ x ∈ items, less x pivot = false := by
  intro x hx
  obtain hempty | hbeside' := Bool.or_eq_true_iff.mp hleast
  · exact Bool.eq_false_iff.mpr (List.filter_eq_nil_iff.mp (List.isEmpty_iff.mp hempty) x hx)
  · cases beside with
    | none => cases hbeside'
    | some a =>
      obtain ⟨hpa, hbehind⟩ := hbeside a rfl
      exact h.trans hp hpa (hall x hx) (by simpa using hbeside') (hbehind x hx)

lemma quickSort_permutes (less : α → α → Bool) (limit : Nat) (beside : Option α) :
    Permutes (quickSort less limit beside) := by
  induction limit generalizing beside with
  | zero =>
    intro items out h
    rw [quickSort] at h
    split at h
    · exact smallSort_permutes h
    · exact sortRuns_permutes less true smallSort_permutes h
  | succ limit ih =>
    intro items out h
    rw [quickSort] at h
    split at h
    · exact smallSort_permutes h
    · dsimp only at h
      split at h
      · obtain ⟨larger, hlarger, h⟩ := Option.bind_eq_some_iff.mp h
        obtain rfl := Option.some.inj h
        exact ((ih none hlarger).append_left _).trans (partitionAt_perm _ _ _ _)
      · obtain ⟨right, hright, h⟩ := Option.bind_eq_some_iff.mp h
        obtain ⟨left, hleft, h⟩ := Option.bind_eq_some_iff.mp h
        obtain rfl := Option.some.inj h
        exact ((ih _ hleft).append (ih _ hright)).trans (partitionAt_perm _ _ _ _)

lemma quickSort_settles (h : OrdersOn less P) (hall : ∀ x ∈ items, P x)
    (hbeside : ∀ a, beside = some a → P a ∧ ∀ x ∈ items, less x a = false) :
    ∃ out, quickSort less limit beside items = some out ∧ Settles less P items out := by
  induction limit generalizing beside items with
  | zero =>
    rw [quickSort]
    split
    · exact smallSort_settles h hall
    · exact sortRuns_settles h true (smallSort_settles h) smallSort_permutes hall
  | succ limit ih =>
    rw [quickSort]
    split
    case isTrue => exact smallSort_settles h hall
    case isFalse hlong =>
      dsimp only
      have hlength : 8 ≤ items.length := by omega
      have hplace := List.getElem?_eq_getElem (pivotPlace less items hlength).isLt
      generalize items[(pivotPlace less items hlength).val] = pivot at hplace
      have hp := hall pivot (List.mem_of_getElem? hplace)
      obtain ⟨hsmaller, hequals⟩ := partitionAt_pivot (h.irrefl hp) hplace
      rw [hsmaller, hequals]
      have hfilter : ∀ test : α → Bool, ∀ x ∈ items.filter test, P x :=
        fun _ x hx => hall x (List.mem_of_mem_filter hx)
      split
      case isTrue hleast =>
        have hnone := least_of_beside h hall hp hbeside hleast
        have hfree : ∀ a, none = some a → P a ∧ ∀ x ∈ items.filter (!!less pivot ·), less x a = false := by
          intro a ha
          cases ha
        obtain ⟨larger, hlarger, hsettled⟩ := ih (hfilter (!!less pivot ·)) hfree
        exact ⟨_, by rw [hlarger]; rfl, equals_settle h hall hp hnone hsettled⟩
      case isFalse =>
        have hpivot' : ∀ a, some pivot = some a → P a ∧ ∀ x ∈ items.filter (!less · pivot), less x a = false := by
          intro a ha
          obtain rfl := Option.some.inj ha
          exact ⟨hp, fun x hx => by simpa using (List.mem_filter.mp hx).2⟩
        obtain ⟨right, hr, hright⟩ := ih (hfilter (!less · pivot)) hpivot'
        obtain ⟨left, hl, hleft⟩ := ih (hfilter (less · pivot)) fun a ha =>
          (hbeside a ha).imp_right fun hbehind x hx => hbehind x (List.mem_of_mem_filter hx)
        exact ⟨_, by rw [hr, hl]; rfl, sides_settle h hall hp hleft hright⟩

end Quick

lemma partitionSort_permutes (less : α → α → Bool) : Permutes (partitionSort less) := quickSort_permutes less _ none

lemma partitionSort_settles (h : OrdersOn less P) : SettlesOn less P (partitionSort less) :=
  fun hall => quickSort_settles h hall (by simp)

theorem sort_permutes (less : α → α → Bool) : Permutes (sort less) := by
  intro items out h
  unfold sort at h
  split at h
  · obtain rfl := Option.some.inj h
    exact insertAll_perm less [] items
  · exact sortRuns_permutes less _ (partitionSort_permutes less) h

/-- Where the comparison is an order, the sort does not stop, and it is stable. -/
theorem sort_settles (h : OrdersOn less P) : SettlesOn less P (sort less) := by
  intro items hall
  unfold sort
  split
  · exact ⟨_, rfl, insertionSort_settles h hall⟩
  · exact sortRuns_settles h _ (partitionSort_settles h) (partitionSort_permutes less) hall

section Ranking

variable {le : α → α → Bool} {l : List α}

lemma zipIdx_places (l : List α) : l.zipIdx.Pairwise fun a b => a.2 < b.2 := by
  have hplaces : (l.zipIdx.map Prod.snd).Pairwise (· < ·) := by
    rw [List.zipIdx_map_snd]
    exact List.pairwise_lt_range'
  exact List.pairwise_map.mp hplaces

lemma zipIdxLE_iff {a b : α × Nat} :
    List.zipIdxLE le a b = true ↔ le a.1 b.1 = true ∧ (le b.1 a.1 = true → a.2 ≤ b.2) := by
  unfold List.zipIdxLE
  split
  case isTrue h => split <;> simp_all
  case isFalse h => simp [h]

lemma exists_ranked (htrans : ∀ a ∈ l, ∀ b ∈ l, ∀ c ∈ l, le a b = true → le b c = true → le a c = true)
    (htotal : ∀ a ∈ l, ∀ b ∈ l, (le a b || le b a) = true) :
    ∃ ranked : List (α × Nat), ranked.Perm l.zipIdx ∧ ranked.map Prod.fst = l.mergeSort le ∧
      ranked.Pairwise fun a b => le a.1 b.1 = true ∧ (le b.1 a.1 = true → a.2 < b.2) := by
  -- the laws hold among the items of the list only, so that these are sorted with their membership
  let le' (a b : { x // x ∈ l }) : Bool := le a b
  have htrans' : ∀ a b c, le' a b = true → le' b c = true → le' a c = true :=
    fun a b c => htrans a a.2 b b.2 c c.2
  have htotal' : ∀ a b, (le' a b || le' b a) = true := fun a b => htotal a a.2 b b.2
  let sorted := l.attach.zipIdx.mergeSort (List.zipIdxLE le')
  have hperm : sorted.Perm l.attach.zipIdx := List.mergeSort_perm _ _
  have hsorted : sorted.Pairwise fun a b => List.zipIdxLE le' a b = true :=
    List.pairwise_mergeSort (List.zipIdxLE_trans htrans') (List.zipIdxLE_total htotal') _
  have hplaces : sorted.Pairwise fun a b => a.2 ≠ b.2 :=
    (hperm.pairwise_iff fun h => h.symm).mpr ((zipIdx_places l.attach).imp Nat.ne_of_lt)
  refine ⟨sorted.map (Prod.map Subtype.val id), ?_, ?_, ?_⟩
  · have hzip : l.attach.zipIdx.map (Prod.map Subtype.val id) = l.zipIdx := by
      rw [← List.zipIdx_map, List.attach_map_subtype_val]
    exact hzip ▸ hperm.map _
  · have hfirst : sorted.map Prod.fst = l.attach.mergeSort le' := List.mergeSort_zipIdx
    have hvalues : (l.attach.mergeSort le').map Subtype.val = (l.attach.map Subtype.val).mergeSort le :=
      List.map_mergeSort fun _ _ _ _ => rfl
    rw [List.attach_map_subtype_val, ← hfirst, List.map_map] at hvalues
    rw [← hvalues, List.map_map]
    rfl
  · rw [List.pairwise_map]
    refine (hsorted.and hplaces).imp fun {a b} h => ?_
    obtain ⟨hle, hne⟩ := h
    obtain ⟨hbefore, htie⟩ := zipIdxLE_iff.mp hle
    exact ⟨hbefore, fun hback => Nat.lt_of_le_of_ne (htie hback) hne⟩

lemma settles_of_ranked (h : OrdersOn less P) (hall : ∀ x ∈ items, P x) {ranked : List (α × Nat)}
    (hperm : ranked.Perm items.zipIdx)
    (hpairs : ranked.Pairwise fun a b => less b.1 a.1 = false ∧ (less a.1 b.1 = false → a.2 < b.2)) :
    Settles less P items (ranked.map Prod.fst) := by
  have hitems : items.zipIdx.map Prod.fst = items := List.zipIdx_map_fst 0 items
  have hfirst := hperm.map Prod.fst
  rw [hitems] at hfirst
  refine ⟨hfirst, List.pairwise_map.mpr (hpairs.imp And.left), fun z hz => ?_⟩
  conv_rhs => rw [← hitems]
  rw [List.filter_map, List.filter_map]
  -- the equals of an item stand by their places on both sides
  have hranked : (ranked.filter (tied less z ∘ Prod.fst)).Pairwise fun a b => a.2 < b.2 := by
    rw [List.pairwise_filter]
    refine hpairs.imp_of_mem fun {a b} ha hb hab hza hzb => hab.2 ?_
    have hmem : ∀ {c}, c ∈ ranked → P c.1 := fun hc => hall _ (hfirst.mem_iff.mp (List.mem_map_of_mem hc))
    exact h.trans (hmem hb) hz (hmem ha) (tied_iff.mp hzb).1 (tied_iff.mp hza).2
  have hplaces := (zipIdx_places items).filter (tied less z ∘ Prod.fst)
  have hequal := List.Perm.eq_of_pairwise (fun a b _ _ hab hba => absurd hab (Nat.lt_asymm hba)) hranked hplaces
    (hperm.filter _)
  rw [hequal]

end Ranking

theorem sort_eq_mergeSort (h : OrdersOn less (· ∈ items)) :
    sort less items = some (items.mergeSort fun a b => !less b a) := by
  obtain ⟨out, hout, hsettled⟩ := sort_settles h fun x hx => hx
  let le (a b : α) : Bool := !less b a
  have htrans : ∀ a ∈ items, ∀ b ∈ items, ∀ c ∈ items, le a b = true → le b c = true → le a c = true := by
    intro a ha b hb c hc hab hbc
    simpa [le] using h.trans ha hb hc (by simpa [le] using hab) (by simpa [le] using hbc)
  have htotal : ∀ a ∈ items, ∀ b ∈ items, (le a b || le b a) = true := by
    intro a ha b hb
    cases hba : less b a with
    | false => simp [le, hba]
    | true => simp [le, h.asymm hb ha hba]
  obtain ⟨ranked, hperm, hsorted, hpairs⟩ := exists_ranked htrans htotal
  have hranked := settles_of_ranked h (fun x hx => hx) hperm (by simpa [le] using hpairs)
  rw [hsorted] at hranked
  have hequal := eq_of_keeps h (hranked.all fun x hx => hx) (hsettled.all fun x hx => hx) hranked.sorted
    hsettled.sorted (hranked.keeps.symm.trans hsettled.keeps)
  rw [hout, hequal]

lemma sort_of_few (less : α → α → Bool) (h : items.length ≤ 20) :
    sort less items = some (insertionSort less items) := by
  rw [sort, if_pos h]

lemma sort_stops (hmany : 20 < items.length) (hfew : items.length ≤ 32)
    (hrun : (naturalRun less items).1 < goodLength items.length) (hsmall : smallSort less items = none) :
    sort less items = none := by
  have hsplit : splitRuns less true ⟨goodLength items.length, goodLength_pos (by omega)⟩ items = none := by
    cases items with
    | nil => cases hmany
    | cons x xs =>
      rw [splitRuns]
      simp only [dif_neg (Nat.not_le_of_lt hrun), if_true, List.take_of_length_le hfew, hsmall]
      rfl
  rw [sort, if_neg (by omega), decide_eq_true (by omega), sortRuns, dif_neg (by omega)]
  dsimp only
  rw [hsplit]
  rfl

end DataGrid.Sort
