import DataGrid.Proofs.Sort.Stable
import DataGrid.Proofs.WholeDoubles
import DataGrid.Store.Memory
import Mathlib.Tactic.ByContra

namespace DataGrid

section Double

variable {x y : Binary64}

lemma Binary64.compare?_swap (x y : Binary64) : y.compare? x = (x.compare? y).map Ordering.swap := by
  unfold compare?
  rw [Bool.or_comm]
  split
  · rfl
  · rw [Option.map_some, Std.OrientedOrd.eq_swap (a := y.key)]

lemma Binary64.compare?_eq_some_iff {o : Ordering} :
    x.compare? y = some o ↔ x.isNaN = false ∧ y.isNaN = false ∧ compare x.key y.key = o := by
  unfold compare?
  split
  case isTrue h => simp only [reduceCtorEq, false_iff]; rintro ⟨hx, hy, -⟩; simp [hx, hy] at h
  case isFalse h => simp_all

end Double

namespace Bson

section Compare

variable {a b : Bson} {m n : Int} {x y : Binary64}

lemma number?_of_integer? (h : a.integer? = some m) : a.number? = some (.ofInt m) := by
  cases a <;> simp_all [integer?, number?]

lemma ofInt_eq_number? (hm : a.integer? = some m) (hx : a.number? = some x) : .ofInt m = x :=
  Option.some.inj ((number?_of_integer? hm).symm.trans hx)

lemma integers_or_mixed (a b : Bson) : (∃ m n, a.integer? = some m ∧ b.integer? = some n) ∨
    (a.integer? = none ∨ b.integer? = none) := by
  cases a.integer? <;> cases b.integer? <;> simp

lemma numbers_or_other (a b : Bson) : (∃ x y, a.number? = some x ∧ b.number? = some y) ∨
    (a.number? = none ∨ b.number? = none) := by
  cases a.number? <;> cases b.number? <;> simp

lemma compare?_integers (ha : a.integer? = some m) (hb : b.integer? = some n) : compare? a b = some (compare m n) := by
  rw [compare?, ha, hb]

lemma compare?_numbers (h : a.integer? = none ∨ b.integer? = none) (ha : a.number? = some x) (hb : b.number? = some y) :
    compare? a b = x.compare? y := by
  rw [compare?, ha, hb]
  obtain h | h := h
  · rw [h]
  · rw [h]
    cases a.integer? <;> rfl

lemma compare?_others (h : a.number? = none ∨ b.number? = none) : compare? a b = compareWithinKind? a b := by
  obtain ⟨m, n, hm, hn⟩ | hmixed := integers_or_mixed a b
  · simp [number?_of_integer? hm, number?_of_integer? hn] at h
  · unfold compare?
    split
    · simp_all
    · split
      · simp_all
      · rfl

lemma compareWithinKind?_swap (a b : Bson) : compareWithinKind? b a = (compareWithinKind? a b).map Ordering.swap := by
  cases a <;> cases b <;> first | rfl | exact congrArg some Std.OrientedOrd.eq_swap

lemma compare?_swap (a b : Bson) : compare? b a = (compare? a b).map Ordering.swap := by
  obtain ⟨m, n, hm, hn⟩ | hmixed := integers_or_mixed a b
  · rw [compare?_integers hm hn, compare?_integers hn hm, Option.map_some, Std.OrientedOrd.eq_swap (a := n)]
  · obtain ⟨x, y, hx, hy⟩ | hothers := numbers_or_other a b
    · rw [compare?_numbers hmixed hx hy, compare?_numbers hmixed.symm hy hx, Binary64.compare?_swap]
    · rw [compare?_others hothers, compare?_others hothers.symm, compareWithinKind?_swap]

end Compare

section Rank

variable {a b : Option Bson}

lemma sortOrder_of_rank_eq {x y : Bson} (h : rank (some x) = rank (some y)) :
    sortOrder (some x) (some y) = (compare? x y).getD .eq := by
  rw [sortOrder, h, Std.ReflOrd.compare_self]
  rfl

lemma sortOrder_of_rank_zero (ha : rank a = 0) (hb : rank b = 0) : sortOrder a b = .eq := by
  have hnull : ∀ {v : Option Bson}, rank v = 0 → v = none ∨ v = some .null := by
    intro v hv
    rcases v with _ | v
    · exact .inl rfl
    · cases v <;> first | exact .inr rfl | cases hv
  obtain rfl | rfl := hnull ha <;> obtain rfl | rfl := hnull hb <;> rfl

lemma rank_le_of_sortOrder (h : sortOrder a b ≠ .gt) : rank a ≤ rank b := by
  by_contra! hlt
  have hgt : compare (rank a) (rank b) = .gt := Nat.compare_eq_gt.mpr hlt
  exact h (by unfold sortOrder; rw [hgt]; rfl)

lemma sortOrder_swap (a b : Option Bson) : sortOrder b a = (sortOrder a b).swap := by
  have hwithin : ∀ x y : Bson, (compare? y x).getD .eq = ((compare? x y).getD .eq).swap := by
    intro x y
    rw [compare?_swap]
    cases compare? x y <;> rfl
  unfold sortOrder
  rw [Ordering.swap_then, Std.OrientedOrd.eq_swap (a := rank b)]
  cases a <;> cases b <;> first | rfl | rw [← hwithin]

end Rank

/-- A value that the order has beside two others of its rank, as an equal of both. -/
inductive Blurs (a c : Option Bson) : Option Bson → Prop
  | nan {x : Binary64} (ha : rank a = 1) (hc : rank c = 1) (hx : x.isNaN = true) : Blurs a c (some (.double x))
  | decimal {text : String} (ha : rank a = 1) (hc : rank c = 1) : Blurs a c (some (.decimal128 text))
  | symbol {s : String} (ha : rank a = 2) (hc : rank c = 2) : Blurs a c (some (.symbol s))
  | rounded {m n : Int} {x : Binary64} (ha : a.bind integer? = some m) (hc : c.bind integer? = some n)
      (hm : (Binary64.ofInt m).compare? x = some .eq) (hn : (Binary64.ofInt n).compare? x = some .eq) :
      Blurs a c (some (.double x))

section Blurs

variable {a b c : Option Bson} {v : Bson}

lemma Blurs.symm (h : Blurs a c b) : Blurs c a b := by
  cases h with
  | nan ha hc hx => exact .nan hc ha hx
  | decimal ha hc => exact .decimal hc ha
  | symbol ha hc => exact .symbol hc ha
  | rounded ha hc hm hn => exact .rounded hc ha hn hm

lemma sortOrder_of_incomparable (hrank : rank a = rank (some v)) (h : ∀ u, compare? u v = none) :
    sortOrder a (some v) = .eq := by
  unfold sortOrder
  rw [hrank, Std.ReflOrd.compare_self]
  cases a with
  | none => rfl
  | some u => simp [h u]

lemma compare?_nan {x : Binary64} (hx : x.isNaN = true) (u : Bson) : compare? u (.double x) = none := by
  cases hu : u.number? with
  | none =>
    rw [compare?_others (.inl hu)]
    cases u <;> rfl
  | some y =>
    rw [compare?_numbers (.inr rfl) hu rfl, Binary64.compare?, hx, Bool.or_true]
    rfl

lemma compare?_decimal {text : String} (u : Bson) : compare? u (.decimal128 text) = none := by
  cases u <;> rfl

lemma compare?_symbol {s : String} (u : Bson) : compare? u (.symbol s) = none := by
  cases u <;> rfl

lemma rank_of_number? {x : Binary64} (h : v.number? = some x) : rank (some v) = 1 := by
  cases v <;> first | rfl | cases h

lemma Blurs.sortOrder_left (h : Blurs a c b) : sortOrder a b = .eq := by
  cases h with
  | nan ha hc hx => exact sortOrder_of_incomparable ha (compare?_nan hx)
  | decimal ha hc => exact sortOrder_of_incomparable ha compare?_decimal
  | symbol ha hc => exact sortOrder_of_incomparable ha compare?_symbol
  | rounded ha hc hm hn =>
    obtain ⟨u, rfl, hu⟩ := Option.bind_eq_some_iff.mp ha
    have hnumber := number?_of_integer? hu
    rw [sortOrder_of_rank_eq (rank_of_number? hnumber), compare?_numbers (.inr rfl) hnumber rfl, hm]
    rfl

lemma Blurs.sortOrder_right (h : Blurs a c b) : sortOrder b c = .eq := by
  rw [sortOrder_swap c b, h.symm.sortOrder_left]
  rfl

end Blurs

section Transitivity

lemma compare_trans {α : Type} [Ord α] [Std.TransOrd α] {a b c : α} (hab : compare a b ≠ .gt)
    (hbc : compare b c ≠ .gt) : compare a c ≠ .gt := by
  have hab' := Ordering.isLE_iff_ne_gt.mpr hab
  have hbc' := Ordering.isLE_iff_ne_gt.mpr hbc
  exact Ordering.isLE_iff_ne_gt.mp (Std.TransCmp.isLE_trans hab' hbc')

variable {x y z : Bson}

lemma blurs_of_kind (hrank : rank (some x) = rank (some y)) (hxz : compareWithinKind? x z = some .gt)
    (hxy : compare? x y ≠ some .gt) (hyz : compare? y z ≠ some .gt) : Blurs (some x) (some z) (some y) := by
  have hordered : ∀ {α : Type} [Ord α] [Std.TransOrd α] {a b c : α}, some (compare a b) ≠ some .gt →
      some (compare b c) ≠ some .gt → some (compare a c) ≠ some .gt := by
    intro α _ _ a b c hab hbc hac
    exact compare_trans (fun h => hab (congrArg some h)) (fun h => hbc (congrArg some h)) (Option.some.inj hac)
  unfold compareWithinKind? at hxz
  split at hxz
  case h_1 a c =>
    cases y <;> try cases hrank
    case string b => exact absurd hxz (hordered hxy hyz)
    case symbol s => exact .symbol rfl rfl
  case h_2 a c =>
    cases y <;> try cases hrank
    case dateTime b => exact absurd hxz (hordered hxy hyz)
  case h_3 a c =>
    cases y <;> try cases hrank
    case bool b => exact absurd hxz (hordered hxy hyz)
  case h_4 a c =>
    cases y <;> try cases hrank
    case objectId b => exact absurd hxz (hordered hxy hyz)
  case h_5 => cases hxz
  case h_6 => cases hxz

lemma key_le_of_compare? {p q : Binary64} (hp : x.number? = some p) (hq : y.number? = some q)
    (hpn : p.isNaN = false) (hqn : q.isNaN = false) (h : compare? x y ≠ some .gt) : p.key ≤ q.key := by
  obtain ⟨m, n, hm, hn⟩ | hmixed := integers_or_mixed x y
  · obtain rfl := ofInt_eq_number? hm hp
    obtain rfl := ofInt_eq_number? hn hq
    rw [compare?_integers hm hn] at h
    refine Binary64.key_ofInt_mono ?_
    by_contra! hlt
    exact h (congrArg some (Int.compare_eq_gt.mpr hlt))
  · rw [compare?_numbers hmixed hp hq] at h
    by_contra! hlt
    exact h (Binary64.compare?_eq_some_iff.mpr ⟨hpn, hqn, Int.compare_eq_gt.mpr hlt⟩)

lemma isNaN_of_compare? {p r : Binary64} {o : Ordering} (hp : x.number? = some p) (hr : z.number? = some r)
    (h : compare? x z = some o) : p.isNaN = false ∧ r.isNaN = false := by
  obtain ⟨m, n, hm, hn⟩ | hmixed := integers_or_mixed x z
  · obtain rfl := ofInt_eq_number? hm hp
    obtain rfl := ofInt_eq_number? hn hr
    exact ⟨Binary64.isNaN_ofInt m, Binary64.isNaN_ofInt n⟩
  · rw [compare?_numbers hmixed hp hr] at h
    obtain ⟨hpn, hrn, -⟩ := Binary64.compare?_eq_some_iff.mp h
    exact ⟨hpn, hrn⟩

lemma double_of_number? {q : Binary64} (hq : y.number? = some q) (h : y.integer? = none) : y = .double q := by
  cases y with
  | double x => rw [Option.some.inj hq]
  | int32 n => cases h
  | int64 n => cases h
  | _ => cases hq

lemma blurs_of_integers {m n : Int} {q : Binary64} (hm : x.integer? = some m) (hn : z.integer? = some n)
    (hq : y.number? = some q) (hqn : q.isNaN = false) (hlt : n < m) (hxy : compare? x y ≠ some .gt)
    (hyz : compare? y z ≠ some .gt) : Blurs (some x) (some z) (some y) := by
  have hxq := key_le_of_compare? (number?_of_integer? hm) hq (Binary64.isNaN_ofInt m) hqn hxy
  have hqz := key_le_of_compare? hq (number?_of_integer? hn) hqn (Binary64.isNaN_ofInt n) hyz
  have hmono := Binary64.key_ofInt_mono hlt.le
  cases hy : y.integer? with
  | some k =>
    rw [compare?_integers hm hy] at hxy
    rw [compare?_integers hy hn] at hyz
    have hmk : ¬k < m := fun h => hxy (congrArg some (Int.compare_eq_gt.mpr h))
    have hkn : ¬n < k := fun h => hyz (congrArg some (Int.compare_eq_gt.mpr h))
    omega
  | none =>
    obtain rfl := double_of_number? hq hy
    have hmq : (Binary64.ofInt m).key = q.key := by omega
    have hnq : (Binary64.ofInt n).key = q.key := by omega
    refine .rounded hm hn ?_ ?_
    · exact Binary64.compare?_eq_some_iff.mpr ⟨Binary64.isNaN_ofInt m, hqn, Int.compare_eq_eq.mpr hmq⟩
    · exact Binary64.compare?_eq_some_iff.mpr ⟨Binary64.isNaN_ofInt n, hqn, Int.compare_eq_eq.mpr hnq⟩

lemma blurs_of_numbers {p r : Binary64} (hp : x.number? = some p) (hr : z.number? = some r)
    (hrank : rank (some y) = 1) (hxz : compare? x z = some .gt) (hxy : compare? x y ≠ some .gt)
    (hyz : compare? y z ≠ some .gt) : Blurs (some x) (some z) (some y) := by
  have hx : rank (some x) = 1 := rank_of_number? hp
  have hz : rank (some z) = 1 := rank_of_number? hr
  obtain ⟨hpn, hrn⟩ := isNaN_of_compare? hp hr hxz
  cases hq : y.number? with
  | none =>
    -- the only kind of this rank without a double is that of decimals
    cases y with
    | decimal128 text => exact .decimal hx hz
    | int32 n => cases hq
    | int64 n => cases hq
    | double q => cases hq
    | _ => cases hrank
  | some q =>
    cases hqn : q.isNaN with
    | true =>
      have hy : y.integer? = none := by
        by_contra hne
        obtain ⟨k, hk⟩ := Option.ne_none_iff_exists'.mp hne
        obtain rfl := ofInt_eq_number? hk hq
        cases (Binary64.isNaN_ofInt k).symm.trans hqn
      obtain rfl := double_of_number? hq hy
      exact .nan hx hz hqn
    | false =>
      obtain ⟨m, n, hm, hn⟩ | hmixed := integers_or_mixed x z
      · rw [compare?_integers hm hn] at hxz
        exact blurs_of_integers hm hn hq hqn (Int.compare_eq_gt.mp (Option.some.inj hxz)) hxy hyz
      · rw [compare?_numbers hmixed hp hr] at hxz
        obtain ⟨-, -, hgt⟩ := Binary64.compare?_eq_some_iff.mp hxz
        have hrp : r.key < p.key := Int.compare_eq_gt.mp hgt
        have hpq := key_le_of_compare? hp hq hpn hqn hxy
        have hqr := key_le_of_compare? hq hr hqn hrn hyz
        omega

lemma blurs_of_out_of_order {a b c : Option Bson} (hab : sortOrder a b ≠ .gt) (hbc : sortOrder b c ≠ .gt)
    (hac : sortOrder a c = .gt) : Blurs a c b := by
  have hca : sortOrder c a ≠ .gt := by
    rw [sortOrder_swap, hac]
    decide
  have hrank : rank a = rank b ∧ rank b = rank c := by
    have h₁ := rank_le_of_sortOrder hab
    have h₂ := rank_le_of_sortOrder hbc
    have h₃ := rank_le_of_sortOrder hca
    omega
  have hranked : rank a ≠ 0 := by
    intro hzero
    rw [sortOrder_of_rank_zero hzero (by omega)] at hac
    cases hac
  obtain ⟨x, rfl⟩ : ∃ x, a = some x := Option.ne_none_iff_exists'.mp fun h => hranked (h ▸ rfl)
  obtain ⟨y, rfl⟩ : ∃ y, b = some y := Option.ne_none_iff_exists'.mp fun h => hranked (hrank.1.trans (h ▸ rfl))
  obtain ⟨z, rfl⟩ : ∃ z, c = some z :=
    Option.ne_none_iff_exists'.mp fun h => hranked (hrank.1.trans (hrank.2.trans (h ▸ rfl)))
  rw [sortOrder_of_rank_eq hrank.1] at hab
  rw [sortOrder_of_rank_eq hrank.2] at hbc
  rw [sortOrder_of_rank_eq (hrank.1.trans hrank.2)] at hac
  have hxz : compare? x z = some .gt := by
    cases h : compare? x z <;> simp_all
  have hxy : compare? x y ≠ some .gt := fun h => hab (by rw [h]; rfl)
  have hyz : compare? y z ≠ some .gt := fun h => hbc (by rw [h]; rfl)
  obtain ⟨p, r, hp, hr⟩ | hothers := numbers_or_other x z
  · exact blurs_of_numbers hp hr (hrank.1.symm.trans (rank_of_number? hp)) hxz hxy hyz
  · exact blurs_of_kind hrank.1 ((compare?_others hothers).symm.trans hxz) hxy hyz

def keepsOrder : Bson → Bool
  | double _ => false
  | decimal128 _ => false
  | symbol _ => false
  | _ => true

lemma sortOrder_trans {a b c : Option Bson} (hb : b.all keepsOrder = true) (hab : sortOrder a b ≠ .gt)
    (hbc : sortOrder b c ≠ .gt) : sortOrder a c ≠ .gt := by
  intro hac
  cases blurs_of_out_of_order hab hbc hac <;> cases hb

end Transitivity

/-- The order for sorting turns around with its two sides. It is transitive over three values exactly if
the middle one does not stand as an equal between two that differ: it has no order within its rank (a
double that is no number, a decimal, a symbol), or it is a double that two whole numbers are rounded to. -/
theorem sortOrder_transitive_iff (a b c : Option Bson) :
    sortOrder b a = (sortOrder a b).swap ∧
      ((sortOrder a b ≠ .gt → sortOrder b c ≠ .gt → sortOrder a c ≠ .gt) ↔
        (Blurs a c b → sortOrder a c ≠ .gt)) := by
  refine ⟨sortOrder_swap a b, fun htrans hblurs => ?_, fun hblurs hab hbc hac => ?_⟩
  · have hab : sortOrder a b ≠ .gt := by rw [hblurs.sortOrder_left]; decide
    have hbc : sortOrder b c ≠ .gt := by rw [hblurs.sortOrder_right]; decide
    exact htrans hab hbc
  · exact hblurs (blurs_of_out_of_order hab hbc hac) hac

/-- A double stands between two whole numbers that are rounded to it, and a sort leaves the larger one in
front of the smaller. -/
theorem double_between_whole_numbers :
    let large : Bson := .int64 9007199254740993
    let small : Bson := .int64 9007199254740992
    let double : Bson := .double ⟨0x4340000000000000⟩
    let documents : List Document := [large, double, double, small].map fun v => [("views", v)]
    sortOrder (some large) (some double) = .eq ∧ sortOrder (some double) (some small) = .eq ∧
      sortOrder (some large) (some small) = .gt ∧
      MemoryStore.find ⟨[("articles", ⟨documents, false⟩)]⟩
        { Query.on "articles" with order := some ⟨"views", .asc⟩ } = some (.ok documents) := by
  intro large small double documents
  have hld : sortOrder (some large) (some double) = .eq := by decide +kernel
  have hds : sortOrder (some double) (some small) = .eq := by decide +kernel
  have hdd : sortOrder (some double) (some double) = .eq := by decide +kernel
  have hlookup : ∀ v : Bson, Document.lookup [("views", v)] "views" = some v := fun _ => rfl
  refine ⟨hld, hds, by decide +kernel, ?_⟩
  have hsorted : Sort.sort (Order.less ⟨"views", .asc⟩) documents = some documents := by
    rw [Sort.sort_of_few _ (by decide)]
    simp [documents, Sort.insertionSort, Sort.insertAll, Sort.insertBack, Order.less, hlookup, hld, hds, hdd,
      sortOrder_swap]
  exact congrArg (Option.map Except.ok) hsorted

end Bson

end DataGrid
