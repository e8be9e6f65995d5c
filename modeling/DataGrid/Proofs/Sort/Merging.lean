import DataGrid.Proofs.Sort.Insertion
import DataGrid.Sort.Runs

/-! Merging from the front, from the back and from both ends. -/

namespace DataGrid.Sort

variable {α : Type} {less : α → α → Bool} {P : α → Prop} {xs ys : List α}

section Sides

lemma frontMerge_settles (h : OrdersOn less P) (hxs : ∀ x ∈ xs, P x) (hys : ∀ y ∈ ys, P y) (hleft : Sorted less xs)
    (hright : Sorted less ys) : Settles less P (xs ++ ys) (xs.merge ys fun x y => !less y x) := by
  induction xs generalizing ys with
  | nil =>
    rw [List.nil_merge, List.nil_append]
    exact ⟨.refl _, hright, .refl _⟩
  | cons x xs ihx =>
    obtain ⟨hx, hxs'⟩ := List.forall_mem_cons.mp hxs
    obtain ⟨hfirst, hleft'⟩ := List.pairwise_cons.mp hleft
    induction ys with
    | nil =>
      rw [List.merge_right, List.append_nil]
      exact ⟨.refl _, hleft, .refl _⟩
    | cons y ys ihy =>
      obtain ⟨hy, hys'⟩ := List.forall_mem_cons.mp hys
      obtain ⟨hfirst', hright'⟩ := List.pairwise_cons.mp hright
      rw [List.cons_merge_cons]
      cases hyx : less y x with
      | true =>
        have hbefore : ∀ z ∈ x :: xs, less y z = true := by
          intro z hz
          obtain rfl | hz := List.mem_cons.mp hz
          · exact hyx
          · exact h.less_of_less_of_le hy hx (hxs' z hz) hyx (hfirst z hz)
        have hrest := ihy hys' hright'
        have hswap : Keeps less P ((x :: xs) ++ [y] ++ ys) ([y] ++ (x :: xs) ++ ys) :=
          (Keeps.swap h hxs (by simpa using hy) (by simpa using hbefore)).append (.refl ys)
        simp only [List.append_assoc, List.singleton_append] at hswap
        refine ⟨(hrest.perm.cons y).trans List.perm_middle.symm, List.pairwise_cons.mpr ⟨fun z hz => ?_, hrest.sorted⟩,
          hswap.trans ((Keeps.refl [y]).append hrest.keeps)⟩
        obtain hz | hz := List.mem_append.mp (hrest.perm.mem_iff.mp hz)
        · exact h.asymm hy (hxs z hz) (hbefore z hz)
        · exact hfirst' z hz
      | false =>
        have hrest := ihx hxs' hys hleft' hright
        refine ⟨hrest.perm.cons x, List.pairwise_cons.mpr ⟨fun z hz => ?_, hrest.sorted⟩,
          (Keeps.refl [x]).append hrest.keeps⟩
        obtain hz | hz := List.mem_append.mp (hrest.perm.mem_iff.mp hz)
        · exact hfirst z hz
        · obtain rfl | hz := List.mem_cons.mp hz
          · exact hyx
          · exact h.trans hx hy (hys' z hz) hyx (hfirst' z hz)

lemma backMerge_perm (less : α → α → Bool) (xs ys : List α) :
    (ys.reverse.merge xs.reverse fun y x => !less y x).reverse.Perm (xs ++ ys) := by
  refine (List.reverse_perm _).trans ((List.merge_perm_append _).trans ?_)
  rw [← List.reverse_append]
  exact List.reverse_perm _

lemma backMerge_settles (h : OrdersOn less P) (hxs : ∀ x ∈ xs, P x) (hys : ∀ y ∈ ys, P y) (hleft : Sorted less xs)
    (hright : Sorted less ys) :
    Settles less P (xs ++ ys) (ys.reverse.merge xs.reverse fun y x => !less y x).reverse := by
  have hback := frontMerge_settles h.flip (by simpa using hys) (by simpa using hxs) hright.flip hleft.flip
  rw [← List.reverse_append] at hback
  have hmerged := hback.reverse
  rwa [List.reverse_reverse] at hmerged

lemma merge_perm (less : α → α → Bool) (xs ys : List α) : (merge less xs ys).Perm (xs ++ ys) := by
  unfold merge
  split
  · exact List.merge_perm_append _
  · exact backMerge_perm less xs ys

lemma merge_settles (h : OrdersOn less P) (hxs : ∀ x ∈ xs, P x) (hys : ∀ y ∈ ys, P y) (hleft : Sorted less xs)
    (hright : Sorted less ys) : Settles less P (xs ++ ys) (merge less xs ys) := by
  unfold merge
  split
  · exact frontMerge_settles h hxs hys hleft hright
  · exact backMerge_settles h hxs hys hleft hright

end Sides

section Ends

/-- What stands in front of a cut through both lists goes before all that stands behind it. -/
structure Cut (less : α → α → Bool) (xs ys : List α) (i j : Nat) : Prop where
  left : ∀ x ∈ xs.take i, ∀ y ∈ ys.drop j, less y x = false
  right : ∀ y ∈ ys.take j, ∀ x ∈ xs.drop i, less y x = true

lemma mergeFirst_eq (less : α → α → Bool) {n : Nat} (hxs : n ≤ xs.length) (hys : n ≤ ys.length) :
    ∃ k ≤ n, mergeFirst less n xs ys = ((xs.take k).merge (ys.take (n - k)) fun x y => !less y x, k) := by
  induction n generalizing xs ys with
  | zero => exact ⟨0, Nat.le_refl 0, by simp [mergeFirst]⟩
  | succ n ih =>
    obtain ⟨x, xs, rfl⟩ := List.exists_cons_of_length_pos (Nat.zero_lt_of_lt hxs)
    obtain ⟨y, ys, rfl⟩ := List.exists_cons_of_length_pos (Nat.zero_lt_of_lt hys)
    rw [mergeFirst]
    cases hyx : less y x with
    | true =>
      have hlong : n ≤ (x :: xs).length := Nat.le_of_succ_le hxs
      obtain ⟨k, hk, heq⟩ := ih hlong (Nat.le_of_succ_le_succ hys)
      refine ⟨k, Nat.le_succ_of_le hk, ?_⟩
      rw [heq, Nat.succ_sub hk, List.take_succ_cons]
      cases k with
      | zero => simp
      | succ k => simp [hyx]
    | false =>
      have hlong : n ≤ (y :: ys).length := Nat.le_of_succ_le hys
      obtain ⟨k, hk, heq⟩ := ih (Nat.le_of_succ_le_succ hxs) hlong
      refine ⟨k + 1, Nat.succ_le_succ hk, ?_⟩
      rw [heq, Nat.succ_sub_succ, List.take_succ_cons]
      cases hrest : n - k with
      | zero => simp
      | succ m => simp [hyx]

lemma cut_of_mergeFirst (h : OrdersOn less P) (hxs : ∀ x ∈ xs, P x) (hys : ∀ y ∈ ys, P y) (hleft : Sorted less xs)
    (hright : Sorted less ys) {n : Nat} (hn : n ≤ xs.length) (hn' : n ≤ ys.length) :
    Cut less xs ys (mergeFirst less n xs ys).2 (n - (mergeFirst less n xs ys).2) := by
  induction n generalizing xs ys with
  | zero => exact ⟨by simp [mergeFirst], by simp⟩
  | succ n ih =>
    obtain ⟨x, xs, rfl⟩ := List.exists_cons_of_length_pos (Nat.zero_lt_of_lt hn)
    obtain ⟨y, ys, rfl⟩ := List.exists_cons_of_length_pos (Nat.zero_lt_of_lt hn')
    obtain ⟨hx, hxs'⟩ := List.forall_mem_cons.mp hxs
    obtain ⟨hy, hys'⟩ := List.forall_mem_cons.mp hys
    obtain ⟨hfirst, hleft'⟩ := List.pairwise_cons.mp hleft
    obtain ⟨hfirst', hright'⟩ := List.pairwise_cons.mp hright
    rw [mergeFirst]
    cases hyx : less y x with
    | true =>
      have hlong : n ≤ (x :: xs).length := Nat.le_of_succ_le hn
      have hlong' : n ≤ ys.length := Nat.le_of_succ_le_succ hn'
      obtain ⟨k, hk, heq⟩ := mergeFirst_eq less hlong hlong'
      have hrest := ih hxs hys' hleft hright' hlong hlong'
      simp only [heq, if_true] at hrest ⊢
      rw [Nat.succ_sub hk]
      refine ⟨by simpa using hrest.left, fun z hz w hw => ?_⟩
      obtain rfl | hz := List.mem_cons.mp hz
      · obtain rfl | hw := List.mem_cons.mp (List.mem_of_mem_drop hw)
        · exact hyx
        · exact h.less_of_less_of_le hy hx (hxs' w hw) hyx (hfirst w hw)
      · exact hrest.right z hz w hw
    | false =>
      have hlong : n ≤ xs.length := Nat.le_of_succ_le_succ hn
      have hlong' : n ≤ (y :: ys).length := Nat.le_of_succ_le hn'
      obtain ⟨k, hk, heq⟩ := mergeFirst_eq less hlong hlong'
      have hrest := ih hxs' hys hleft' hright hlong hlong'
      simp only [heq, Bool.false_eq_true, if_false] at hrest ⊢
      rw [Nat.succ_sub_succ]
      refine ⟨fun z hz w hw => ?_, by simpa using hrest.right⟩
      obtain rfl | hz := List.mem_cons.mp hz
      · obtain rfl | hw := List.mem_cons.mp (List.mem_of_mem_drop hw)
        · exact hyx
        · exact h.trans hx hy (hys' w hw) hyx (hfirst' w hw)
      · exact hrest.left z hz w hw

def frontTaken (less : α → α → Bool) (xs ys : List α) : Nat := (mergeFirst less xs.length xs ys).2

def backLeft (less : α → α → Bool) (xs ys : List α) : Nat :=
  (mergeFirst (fun a b => less b a) xs.length ys.reverse xs.reverse).2

lemma mergeEnds_eq (less : α → α → Bool) (hle : xs.length ≤ ys.length) :
    let i := frontTaken less xs ys
    let j := backLeft less xs ys
    i ≤ xs.length ∧ j ≤ xs.length ∧ mergeEnds less xs ys =
      if i ≤ j ∧ xs.length - i ≤ ys.length - j then
        some (((xs.take i).merge (ys.take (xs.length - i)) fun x y => !less y x) ++ (xs.take j).drop i ++
          (ys.take (ys.length - j)).drop (xs.length - i) ++
          ((ys.drop (ys.length - j)).reverse.merge (xs.drop j).reverse fun y x => !less y x).reverse)
      else none := by
  obtain ⟨i, hi, hfront⟩ := mergeFirst_eq less (Nat.le_refl xs.length) hle
  have hle' : xs.length ≤ ys.reverse.length := by rwa [List.length_reverse]
  have hsame : xs.length ≤ xs.reverse.length := Nat.le_of_eq List.length_reverse.symm
  obtain ⟨j, hj, hback⟩ := mergeFirst_eq (fun a b => less b a) hle' hsame
  rw [List.take_reverse, List.take_reverse, Nat.sub_sub_self hj] at hback
  simp only [frontTaken, backLeft, mergeEnds, hfront, hback]
  exact ⟨hi, hj, trivial⟩

lemma cut_front (h : OrdersOn less P) (hxs : ∀ x ∈ xs, P x) (hys : ∀ y ∈ ys, P y) (hleft : Sorted less xs)
    (hright : Sorted less ys) (hle : xs.length ≤ ys.length) :
    Cut less xs ys (frontTaken less xs ys) (xs.length - frontTaken less xs ys) :=
  cut_of_mergeFirst h hxs hys hleft hright (Nat.le_refl _) hle

lemma cut_back (h : OrdersOn less P) (hxs : ∀ x ∈ xs, P x) (hys : ∀ y ∈ ys, P y) (hleft : Sorted less xs)
    (hright : Sorted less ys) (hle : xs.length ≤ ys.length) :
    Cut less xs ys (backLeft less xs ys) (ys.length - backLeft less xs ys) := by
  obtain ⟨-, hj, -⟩ := mergeEnds_eq less hle
  have hle' : xs.length ≤ ys.reverse.length := by rwa [List.length_reverse]
  have hcut := cut_of_mergeFirst h.flip (by simpa using hys) (by simpa using hxs) hright.flip hleft.flip hle' (by simp)
  change Cut _ _ _ (backLeft less xs ys) (xs.length - backLeft less xs ys) at hcut
  obtain ⟨hbehind, hbefore⟩ := hcut
  rw [List.take_reverse, List.drop_reverse, Nat.sub_sub_self hj] at hbehind hbefore
  exact ⟨fun x hx y hy => hbehind y (List.mem_reverse.mpr hy) x (List.mem_reverse.mpr hx),
    fun y hy x hx => hbefore x (List.mem_reverse.mpr hx) y (List.mem_reverse.mpr hy)⟩

lemma exists_mem_between {l : List α} {i j : Nat} (hij : i < j) (hj : j ≤ l.length) :
    ∃ x, x ∈ l.take j ∧ x ∈ l.drop i :=
  ⟨l[i], List.mem_take_iff_getElem.mpr ⟨i, by omega, rfl⟩, List.mem_drop_iff_getElem.mpr ⟨0, by omega, by simp⟩⟩

lemma Cut.le {i j i' j' : Nat} (h : Cut less xs ys i j) (h' : Cut less xs ys i' j') (hi : i ≤ xs.length)
    (hj : j ≤ ys.length) (hi' : i' ≤ xs.length) (hj' : j' ≤ ys.length) (hle : i + j ≤ i' + j') : i ≤ i' ∧ j ≤ j' := by
  constructor
  · by_contra hlt
    obtain ⟨x, hx, hx'⟩ := exists_mem_between (Nat.lt_of_not_le hlt) hi
    obtain ⟨y, hy', hy⟩ := exists_mem_between (by omega : j < j') hj'
    exact Bool.false_ne_true ((h.left x hx y hy).symm.trans (h'.right y hy' x hx'))
  · by_contra hlt
    obtain ⟨y, hy, hy'⟩ := exists_mem_between (Nat.lt_of_not_le hlt) hj
    obtain ⟨x, hx', hx⟩ := exists_mem_between (by omega : i < i') hi'
    exact Bool.false_ne_true ((h'.left x hx' y hy').symm.trans (h.right y hy x hx))

lemma Cut.before {i j : Nat} (hcut : Cut less xs ys i j) (h : OrdersOn less P) (hxs : ∀ x ∈ xs, P x)
    (hys : ∀ y ∈ ys, P y) (hleft : Sorted less xs) (hright : Sorted less ys) :
    ∀ a ∈ xs.take i ++ ys.take j, ∀ b ∈ xs.drop i ++ ys.drop j, less b a = false := by
  have hown : ∀ {l : List α} (n : Nat), Sorted less l → ∀ a ∈ l.take n, ∀ b ∈ l.drop n, less b a = false := by
    intro l n hsorted
    rw [← List.take_append_drop n l] at hsorted
    exact (List.pairwise_append.mp hsorted).2.2
  intro a ha b hb
  rcases List.mem_append.mp ha with ha | ha <;> rcases List.mem_append.mp hb with hb | hb
  · exact hown i hleft a ha b hb
  · exact hcut.left a ha b hb
  · exact h.asymm (hys a (List.mem_of_mem_take ha)) (hxs b (List.mem_of_mem_drop hb)) (hcut.right a ha b hb)
  · exact hown j hright a ha b hb

lemma sorted_of_length_le_one {l : List α} (h : l.length ≤ 1) : Sorted less l := by
  match l with
  | [] => exact .nil
  | [x] => exact List.pairwise_singleton _ x

lemma take_drop_drop {l : List α} {i j : Nat} (hij : i ≤ j) : l.take i ++ (l.take j).drop i ++ l.drop j = l := by
  have hfront : l.take i ++ (l.take j).drop i = l.take j := by
    conv_rhs => rw [← List.take_append_drop i (l.take j), List.take_take, Nat.min_eq_left hij]
  rw [hfront, List.take_append_drop]

lemma mem_drop_of_mem_between {l : List α} {i j : Nat} {x : α} (h : x ∈ (l.take j).drop i) : x ∈ l.drop i := by
  rw [List.drop_take] at h
  exact List.mem_of_mem_take h

lemma mem_drop_of_le {l : List α} {i j : Nat} {x : α} (hij : i ≤ j) (h : x ∈ l.drop j) : x ∈ l.drop i := by
  rw [← Nat.add_sub_of_le hij, ← List.drop_drop] at h
  exact List.mem_of_mem_drop h

lemma perm_pieces (as bs cs ds es fs : List α) :
    ((as ++ bs) ++ cs ++ ds ++ (es ++ fs)).Perm ((as ++ cs ++ es) ++ (bs ++ ds ++ fs)) := by
  classical
  rw [List.perm_iff_count]
  intro z
  simp only [List.count_append]
  omega

lemma keeps_pieces (h : OrdersOn less P) {as bs cs ds es fs : List α} (hleft : ∀ x ∈ cs ++ es, P x)
    (hright : ∀ y ∈ bs ++ ds, P y) (hfront : ∀ y ∈ bs, ∀ x ∈ cs ++ es, less y x = true)
    (hback : ∀ y ∈ ds, ∀ x ∈ es, less y x = true) :
    Keeps less P ((as ++ cs ++ es) ++ (bs ++ ds ++ fs)) ((as ++ bs) ++ cs ++ ds ++ (es ++ fs)) := by
  obtain ⟨hbs, hds⟩ := List.forall_mem_append.mp hright
  have hfirst : Keeps less P ((cs ++ es) ++ bs) (bs ++ (cs ++ es)) :=
    .swap h hleft hbs fun x hx y hy => hfront y hy x hx
  have hlast : Keeps less P (es ++ ds) (ds ++ es) :=
    .swap h (List.forall_mem_append.mp hleft).2 hds fun x hx y hy => hback y hy x hx
  have hone := ((Keeps.refl as).append hfirst).append (.refl (ds ++ fs))
  have htwo := ((Keeps.refl (as ++ bs ++ cs)).append hlast).append (.refl fs)
  simp only [List.append_assoc] at hone htwo ⊢
  exact hone.trans htwo

lemma mergeEnds_perm {out : List α} (hle : xs.length ≤ ys.length) (h : mergeEnds less xs ys = some out) :
    out.Perm (xs ++ ys) := by
  obtain ⟨-, -, heq⟩ := mergeEnds_eq less hle
  generalize frontTaken less xs ys = i at heq
  generalize backLeft less xs ys = j at heq
  rw [heq] at h
  split at h
  case isFalse => cases h
  case isTrue hmeet =>
    obtain rfl := Option.some.inj h
    refine ((((List.merge_perm_append _).append_right _).append_right _).append (backMerge_perm less _ _)).trans ?_
    refine (perm_pieces _ _ _ _ _ _).trans ?_
    rw [take_drop_drop hmeet.1, take_drop_drop hmeet.2]

lemma mergeEnds_settles (h : OrdersOn less P) (hxs : ∀ x ∈ xs, P x) (hys : ∀ y ∈ ys, P y) (hleft : Sorted less xs)
    (hright : Sorted less ys) (hle : xs.length ≤ ys.length) (hlt : ys.length ≤ xs.length + 1) :
    ∃ out, mergeEnds less xs ys = some out ∧ Settles less P (xs ++ ys) out := by
  obtain ⟨hi, hj, heq⟩ := mergeEnds_eq less hle
  have hcut := cut_front h hxs hys hleft hright hle
  have hcut' := cut_back h hxs hys hleft hright hle
  generalize frontTaken less xs ys = i at hi hj heq hcut hcut'
  generalize backLeft less xs ys = j at hi hj heq hcut hcut'
  have hmeet := hcut.le hcut' hi (by omega) hj (by omega) (by omega)
  rw [if_pos hmeet] at heq
  have hfront := frontMerge_settles h (all_take hxs i) (all_take hys (xs.length - i)) hleft.take hright.take
  have hback := backMerge_settles h (all_drop hxs j) (all_drop hys (ys.length - j)) hleft.drop hright.drop
  refine ⟨_, heq, mergeEnds_perm hle heq, ?_, ?_⟩
  · have hbefore := hcut.before h hxs hys hleft hright
    have hbefore' := hcut'.before h hxs hys hleft hright
    have hmiddle : Sorted less ((xs.take j).drop i ++ (ys.take (ys.length - j)).drop (xs.length - i)) := by
      refine sorted_of_length_le_one ?_
      rw [List.length_append, List.length_drop, List.length_drop, List.length_take, List.length_take]
      omega
    rw [List.append_assoc _ ((xs.take j).drop i)]
    refine List.pairwise_append.mpr ⟨List.pairwise_append.mpr ⟨hfront.sorted, hmiddle, fun a ha b hb => ?_⟩,
      hback.sorted, fun a ha b hb => ?_⟩
    · refine hbefore a (hfront.perm.mem_iff.mp ha) b (List.mem_append.mpr ?_)
      exact (List.mem_append.mp hb).imp mem_drop_of_mem_between mem_drop_of_mem_between
    · have hb := hback.perm.mem_iff.mp hb
      obtain ha | ha := List.mem_append.mp ha
      · refine hbefore a (hfront.perm.mem_iff.mp ha) b (List.mem_append.mpr ?_)
        exact (List.mem_append.mp hb).imp (mem_drop_of_le hmeet.1) (mem_drop_of_le hmeet.2)
      · refine hbefore' a (List.mem_append.mpr ?_) b hb
        exact (List.mem_append.mp ha).imp List.mem_of_mem_drop List.mem_of_mem_drop
  · have hdrops : ∀ {x}, x ∈ (xs.take j).drop i ++ xs.drop j → x ∈ xs.drop i :=
      fun hx => (List.mem_append.mp hx).elim mem_drop_of_mem_between (mem_drop_of_le hmeet.1)
    have hpieces : Keeps less P ((xs.take i ++ (xs.take j).drop i ++ xs.drop j) ++ (ys.take (xs.length - i) ++
        (ys.take (ys.length - j)).drop (xs.length - i) ++ ys.drop (ys.length - j))) _ :=
      keeps_pieces h (fun x hx => all_drop hxs i x (hdrops hx))
        (List.forall_mem_append.mpr ⟨all_take hys _, all_drop (all_take hys _) _⟩)
        (fun y hy x hx => hcut.right y hy x (hdrops hx))
        fun y hy x hx => hcut'.right y (List.mem_of_mem_drop hy) x hx
    rw [take_drop_drop hmeet.1, take_drop_drop hmeet.2] at hpieces
    exact hpieces.trans (((hfront.keeps.append (.refl _)).append (.refl _)).append hback.keeps)

end Ends

end DataGrid.Sort
