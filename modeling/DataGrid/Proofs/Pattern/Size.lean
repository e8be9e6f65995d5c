import DataGrid.Pattern.Footprint
import DataGrid.Proofs.Pattern.Literal
import Mathlib.Algebra.BigOperators.Group.List.Basic
import Mathlib.Algebra.Order.Group.Nat
import Mathlib.Data.List.Forall2
import Mathlib.Tactic.Lemma
import Mathlib.Tactic.SplitIfs

/-! A text of 14000 characters is never too large a pattern: a character up to case takes 704 bytes at most,
as no character has more than three others in its case class. -/

namespace DataGrid

namespace Text

namespace Span

def low (s : Span) : Nat := (s.first + s.shift).toNat

def high (s : Span) : Nat := (s.last + s.shift).toNat

def reaches (s : Span) (n : Nat) : Bool := s.low.ble n && n.ble s.high

lemma reaches_iff {s : Span} {n : Nat} : s.reaches n = true ↔ s.low ≤ n ∧ n ≤ s.high := by
  simp [reaches]

lemma reaches_of_preimage {s : Span} (hs : 0 < s.first) {c d : Char} (h : s.preimage? c = some d) :
    s.reaches c.toNat = true := by
  dsimp only [preimage?] at h
  split at h
  case isFalse => cases h
  case isTrue hhas =>
    simp only [has, Bool.and_eq_true, decide_eq_true_eq] at hhas
    rw [reaches_iff, low, high]
    omega

lemma countP_reaches_le {spans : List Span} {most : Nat} (hpos : ∀ s ∈ spans, 0 < s.low)
    (hstart : ∀ s ∈ spans, (spans.countP fun t => t.reaches s.low) ≤ most) (n : Nat) :
    (spans.countP fun t => t.reaches n) ≤ most := by
  induction n with
  | zero =>
    have hnone : (spans.countP fun t => t.reaches 0) = 0 := by
      refine List.countP_eq_zero.mpr fun s hs hreaches => ?_
      have := hpos s hs
      have := (reaches_iff.mp hreaches).1
      omega
    omega
  | succ n ih =>
    by_cases hbegins : ∃ s ∈ spans, s.low = n + 1
    · obtain ⟨s, hs, hn⟩ := hbegins
      exact hn ▸ hstart s hs
    -- a span that reaches the next code point and does not begin there reaches this one
    · refine le_trans (List.countP_mono_left fun s hs hreaches => ?_) ih
      have hne : s.low ≠ n + 1 := fun he => hbegins ⟨s, hs, he⟩
      rw [reaches_iff] at hreaches ⊢
      omega

end Span

lemma length_caseClass_le (c : Char) : (caseClass c).length ≤ 4 := by
  have hpos : ∀ s ∈ foldSpans, 0 < s.first ∧ 0 < s.low := by decide +kernel
  have hstart : (foldSpans.all fun s => (foldSpans.countP fun t => t.reaches s.low).ble 3) = true := by
    decide +kernel
  simp only [List.all_eq_true, Nat.ble_eq] at hstart
  have hreached := Span.countP_reaches_le (fun s hs => (hpos s hs).2) hstart (fold c).toNat
  have hlength : (foldSpans.filterMap fun s => s.preimage? (fold c)).length ≤
      foldSpans.countP fun s => s.reaches (fold c).toNat := by
    rw [List.length_filterMap_eq_countP]
    refine List.countP_mono_left fun s hs hsome => ?_
    obtain ⟨d, hd⟩ := Option.isSome_iff_exists.mp hsome
    exact Span.reaches_of_preimage (hpos s hs).1 hd
  rw [caseClass, List.length_cons]
  omega

end Text

namespace CharSet

def weight (spans : List (Nat × Nat)) : Nat := (spans.map fun r => r.2 - r.1 + 1).sum

def Ordered (spans : List (Nat × Nat)) : Prop := ∀ r ∈ spans, r.1 ≤ r.2

lemma weight_cons (r : Nat × Nat) (spans : List (Nat × Nat)) :
    weight (r :: spans) = r.2 - r.1 + 1 + weight spans := by
  simp [weight]

lemma length_le_weight (spans : List (Nat × Nat)) : spans.length ≤ weight spans := by
  induction spans with
  | nil => simp
  | cons r spans ih =>
    rw [weight_cons, List.length_cons]
    omega

lemma weight_joinFrom {rest : List (Nat × Nat)} (hrest : Ordered rest) {first last : Nat} (h : first ≤ last) :
    weight (joinFrom first last rest) ≤ weight ((first, last) :: rest) ∧ Ordered (joinFrom first last rest) := by
  induction rest generalizing first last with
  | nil => exact ⟨Nat.le_refl _, by simpa [joinFrom, Ordered] using h⟩
  | cons r rest ih =>
    obtain ⟨a, b⟩ := r
    obtain ⟨hab, hrest⟩ := List.forall_mem_cons.mp hrest
    dsimp only at hab
    rw [joinFrom]
    split
    · obtain ⟨hweight, hordered⟩ := ih hrest (show first ≤ max last b by omega)
      refine ⟨?_, hordered⟩
      simp only [weight_cons] at hweight ⊢
      omega
    · obtain ⟨hweight, hordered⟩ := ih hrest hab
      refine ⟨?_, List.forall_mem_cons.mpr ⟨h, hordered⟩⟩
      simp only [weight_cons] at hweight ⊢
      omega

lemma weight_ofSpans {spans : List (Nat × Nat)} (h : Ordered spans) :
    weight (ofSpans spans).spans ≤ weight spans ∧ Ordered (ofSpans spans).spans := by
  have hperm : (spans.mergeSort fun s t => s.1 ≤ t.1).Perm spans := List.mergeSort_perm _ _
  have hsorted : Ordered (spans.mergeSort fun s t => s.1 ≤ t.1) := fun r hr => h r (hperm.mem_iff.mp hr)
  have hweight : weight (spans.mergeSort fun s t => s.1 ≤ t.1) = weight spans := (hperm.map _).sum_eq
  rw [ofSpans, ← hweight]
  cases hs : spans.mergeSort fun s t => s.1 ≤ t.1 with
  | nil => exact ⟨Nat.le_refl _, by simp [join, Ordered]⟩
  | cons r rest =>
    rw [hs] at hsorted
    obtain ⟨hr, hrest⟩ := List.forall_mem_cons.mp hsorted
    exact weight_joinFrom hrest hr

lemma weight_points (cs : List Char) : weight (cs.map point) = cs.length := by
  induction cs with
  | nil => rfl
  | cons c cs ih =>
    rw [List.map_cons, weight_cons, ih, List.length_cons]
    simp [point, Nat.add_comm]

lemma weight_caseClass (c : Char) : let s := ofSpans ((Text.caseClass c).map point)
    weight s.spans ≤ 4 ∧ Ordered s.spans := by
  have hpoints : Ordered ((Text.caseClass c).map point) := by simp [Ordered, point]
  obtain ⟨hweight, hordered⟩ := weight_ofSpans hpoints
  rw [weight_points] at hweight
  exact ⟨hweight.trans (Text.length_caseClass_le c), hordered⟩

end CharSet

namespace Pattern

namespace ByteSpans

lemma cut_between {a b c : Nat} (h : a ≤ b) (hc : cut? a b = some c) : a < c ∧ c ≤ b := by
  unfold cut? at hc
  split_ifs at hc with h₁ h₂ h₃ h₄
  · simp only [Bool.and_eq_true, decide_eq_true_eq] at h₁
    simp only [Option.some.injEq] at hc
    omega
  · simp only [Bool.and_eq_true, decide_eq_true_eq] at h₂
    simp only [Option.some.injEq] at hc
    omega
  · simp only [Bool.and_eq_true, decide_eq_true_eq] at h₃
    simp only [Option.some.injEq] at hc
    omega
  · obtain ⟨w, hw, hcut⟩ := List.exists_of_findSome?_eq_some hc
    have hpos : 0 < w := by
      simp only [List.mem_cons, List.not_mem_nil, or_false] at hw
      omega
    split_ifs at hcut with hsame hstart hend
    · have hblocks : a / w < b / w := lt_of_le_of_ne (Nat.div_le_div_right h) (by simpa using hsame)
      have hnext : (a / w + 1) * w ≤ b / w * w := Nat.mul_le_mul_right w hblocks
      have hb := Nat.div_mul_le_self b w
      have ha := Nat.lt_div_mul_add (a := a) hpos
      rw [Nat.add_one_mul] at hnext
      simp only [Option.some.injEq, Nat.add_one_mul] at hcut
      omega
    · have hblocks : a / w < b / w := lt_of_le_of_ne (Nat.div_le_div_right h) (by simpa using hsame)
      have hnext : (a / w + 1) * w ≤ b / w * w := Nat.mul_le_mul_right w hblocks
      have hb := Nat.div_mul_le_self b w
      have ha := Nat.lt_div_mul_add (a := a) hpos
      rw [Nat.add_one_mul] at hnext
      simp only [Option.some.injEq] at hcut
      omega

lemma length_ofSpan_le (fuel : Nat) {a b : Nat} (h : a ≤ b) : (ofSpan fuel (a, b)).length ≤ b - a + 1 := by
  induction fuel generalizing a b with
  | zero => exact Nat.zero_le _
  | succ fuel ih =>
    rw [ofSpan]
    split
    case h_1 c hc =>
      obtain ⟨hac, hcb⟩ := cut_between h hc
      have hfront := ih (a := a) (b := c - 1) (by omega)
      have hback := ih hcb
      rw [List.length_append]
      omega
    case h_2 => simp

lemma length_ofSet_le {s : CharSet} (h : CharSet.Ordered s.spans) : (ofSet s).length ≤ CharSet.weight s.spans := by
  obtain ⟨spans⟩ := s
  rw [ofSet]
  induction spans with
  | nil => simp
  | cons r spans ih =>
    obtain ⟨hr, hspans⟩ := List.forall_mem_cons.mp h
    have hfirst : (ofSpan 16 r).length ≤ r.2 - r.1 + 1 := length_ofSpan_le 16 hr
    have hrest : (spans.flatMap (ofSpan 16)).length ≤ CharSet.weight spans := ih hspans
    rw [List.flatMap_cons, List.length_append, CharSet.weight_cons]
    omega

end ByteSpans

namespace SpanTree

lemma length_grouped_le (groups : List ((Nat × Nat) × List (List (Nat × Nat)))) (seqs : List (List (Nat × Nat))) :
    (grouped groups seqs).length ≤ groups.length + seqs.length ∧
      ((grouped groups seqs).map fun g => g.2.length).sum ≤ (groups.map fun g => g.2.length).sum + seqs.length := by
  fun_induction grouped groups seqs with
  | case1 groups => simp
  | case2 groups seqs ih => exact ⟨ih.1.trans (by simp), ih.2.trans (by simp)⟩
  | case3 r rest seqs q rests others hq ih =>
    simp only [List.length_cons, List.map_cons, List.sum_cons] at ih ⊢
    omega
  | case4 r rest seqs q rests others hq ih =>
    simp only [List.length_cons, List.map_cons, List.sum_cons, List.length_nil] at ih ⊢
    omega
  | case5 r rest seqs ih =>
    simp only [List.length_cons, List.map_cons, List.sum_cons, List.length_nil, List.map_nil, List.sum_nil] at ih ⊢
    omega

lemma countAll_le {branches : List ((Nat × Nat) × SpanTree)} {sizes : List Nat} {depth : Nat}
    (h : List.Forall₂ (fun b n => b.2.count ≤ depth * n) branches sizes) :
    countAll branches ≤ branches.length + depth * sizes.sum := by
  induction h with
  | nil => simp [countAll]
  | cons hb _ ih =>
    simp only [countAll, List.length_cons, List.sum_cons, Nat.mul_add]
    omega

lemma count_ofSequences_le (depth : Nat) (seqs : List (List (Nat × Nat))) :
    (ofSequences depth seqs).count ≤ depth * seqs.length := by
  induction depth generalizing seqs with
  | zero => simp [ofSequences, count, countAll]
  | succ depth ih =>
    obtain ⟨hgroups, hrests⟩ := length_grouped_le [] seqs
    have hall : List.Forall₂ (fun b n => b.2.count ≤ depth * n)
        ((grouped [] seqs).map fun g => (g.1, ofSequences depth g.2.reverse))
        ((grouped [] seqs).map fun g => g.2.length) := by
      rw [List.forall₂_map_left_iff, List.forall₂_map_right_iff, List.forall₂_same]
      intro g _
      simpa using ih g.2.reverse
    have hcount := countAll_le hall
    have hmul := Nat.mul_le_mul_left depth hrests
    rw [ofSequences, count, Nat.add_one_mul]
    simp only [List.length_map, List.length_nil, List.map_nil, List.sum_nil, Nat.zero_add] at *
    omega

def keySize (k : List Nat) : Nat := 32 + 8 * k.headD 0

mutual

theorem sum_keys_le : ∀ t : SpanTree, (t.keys.map keySize).sum ≤ 32 + 40 * t.count
  | node [] => by simp [keys]
  | node (b :: branches) => by
    have h := sum_keysAll_le (b :: branches)
    rw [keys, List.map_cons, List.sum_cons, count]
    simp only [keySize, key, List.headD_cons]
    omega

theorem sum_keysAll_le : ∀ branches : List ((Nat × Nat) × SpanTree),
    ((keysAll branches).map keySize).sum + 8 * branches.length ≤ 40 * countAll branches
  | [] => by simp [keysAll, countAll]
  | (r, t) :: branches => by
    have hfirst := sum_keys_le t
    have hrest := sum_keysAll_le branches
    simp only [keysAll, countAll, List.map_append, List.sum_append, List.length_cons]
    omega

end

lemma sum_eraseReps_le {α : Type} [BEq α] (f : α → Nat) (xs : List α) :
    (xs.eraseReps.map f).sum ≤ (xs.map f).sum := by
  have hloop : ∀ (a : α) (xs done : List α), ((List.eraseRepsBy.loop (· == ·) a xs done).map f).sum ≤
      (done.map f).sum + (f a + (xs.map f).sum) := by
    intro a xs
    induction xs generalizing a with
    | nil =>
      intro done
      simp [List.eraseRepsBy.loop]
    | cons x xs ih =>
      intro done
      rw [List.eraseRepsBy.loop]
      split
      · have := ih a done
        simp only [List.map_cons, List.sum_cons]
        omega
      · have := ih x (a :: done)
        simp only [List.map_cons, List.sum_cons] at this ⊢
        omega
  cases xs with
  | nil => simp [List.eraseReps, List.eraseRepsBy]
  | cons x xs => simpa [List.eraseReps, List.eraseRepsBy] using hloop x xs []

end SpanTree

namespace Normal

variable {back : Bool}

lemma setSize_le (back : Bool) {s : CharSet} (h : CharSet.Ordered s.spans) :
    setSize back s ≤ 64 + 160 * CharSet.weight s.spans := by
  have hspans := CharSet.length_le_weight s.spans
  have hseqs := ByteSpans.length_ofSet_le h
  have hcount := SpanTree.count_ofSequences_le 4 (ByteSpans.ofSet s)
  have hfold : ∀ (keys : List (List Nat)) (start : Nat),
      keys.foldl (fun n k => n + 32 + 8 * k.headD 0) start = start + (keys.map SpanTree.keySize).sum := by
    intro keys
    induction keys with
    | nil => simp
    | cons k keys ih =>
      intro start
      rw [List.foldl_cons, ih, List.map_cons, List.sum_cons, SpanTree.keySize]
      omega
  rw [setSize]
  split
  · omega
  · dsimp only
    split
    · omega
    · have hreps := SpanTree.sum_eraseReps_le SpanTree.keySize
        ((SpanTree.ofSequences 4 (ByteSpans.ofSet s)).keys.mergeSort fun k l => !l.lex k fun a b => decide (a < b))
      have hperm := ((List.mergeSort_perm (SpanTree.ofSequences 4 (ByteSpans.ofSet s)).keys
        fun k l => !l.lex k fun a b => decide (a < b)).map SpanTree.keySize).sum_eq
      have hkeys := SpanTree.sum_keys_le (SpanTree.ofSequences 4 (ByteSpans.ofSet s))
      rw [hfold]
      omega

lemma size_ofChar_le (back : Bool) (c : Char) : (ofChar true c).size back ≤ 704 := by
  obtain ⟨hweight, hordered⟩ := CharSet.weight_caseClass c
  rw [ofChar, if_pos rfl, ofSet]
  split
  case h_1 d _ =>
    have hwidth : utf8Width d.toNat ≤ 4 := by
      unfold utf8Width
      split_ifs <;> omega
    simp only [size, bytes, List.foldl_cons, List.foldl_nil]
    omega
  case h_2 =>
    have := setSize_le back hordered
    rw [size]
    omega

lemma sizeAll_eq (sum : Nat) (ns : List Normal) : sizeAll back sum ns = sum + (ns.map (size back)).sum := by
  induction ns generalizing sum with
  | nil => simp [sizeAll]
  | cons n ns ih =>
    rw [sizeAll, ih, List.map_cons, List.sum_cons]
    omega

lemma bytes_append (cs ds : List Char) : bytes (cs ++ ds) = bytes cs + bytes ds := by
  have hstart : ∀ (ds : List Char) (start : Nat),
      ds.foldl (fun n c => n + utf8Width c.toNat) start = start + bytes ds := by
    intro ds
    induction ds with
    | nil => simp [bytes]
    | cons d ds ih =>
      intro start
      rw [bytes, List.foldl_cons, List.foldl_cons, ih, ih]
      omega
  rw [bytes, List.foldl_append, hstart ds]
  rfl

lemma sum_joinText (n : Normal) (ns : List Normal) :
    ((joinText n ns).map (size back)).sum = size back n + (ns.map (size back)).sum := by
  unfold joinText
  split
  · simp only [List.map_cons, List.sum_cons, size, bytes_append]
    omega
  · rw [List.map_cons, List.sum_cons]

lemma sum_parts_le (back : Bool) (n : Normal) : ((parts n).map (size back)).sum ≤ size back n := by
  cases n with
  | empty => simp [parts]
  | seq ns => simp [parts, size, sizeAll_eq]
  | _ => simp [parts]

lemma size_concat_le (back : Bool) (ns : List Normal) : (concat ns).size back ≤ 32 + (ns.map (size back)).sum := by
  have hjoined : ∀ ns : List Normal,
      ((ns.foldr joinText []).map (size back)).sum = (ns.map (size back)).sum := by
    intro ns
    induction ns with
    | nil => rfl
    | cons n ns ih => rw [List.foldr_cons, sum_joinText, ih, List.map_cons, List.sum_cons]
  have hparts : ((ns.flatMap parts).map (size back)).sum ≤ (ns.map (size back)).sum := by
    induction ns with
    | nil => exact Nat.le_refl _
    | cons n ns ih =>
      have := sum_parts_le back n
      simp only [List.flatMap_cons, List.map_append, List.sum_append, List.map_cons, List.sum_cons]
      omega
  have hsum := hjoined (ns.flatMap parts)
  unfold concat
  split
  · rw [size]
    omega
  case h_2 n hn =>
    simp only [hn, List.map_cons, List.map_nil, List.sum_cons, List.sum_nil] at hsum
    omega
  case h_3 =>
    rw [size, sizeAll_eq]
    omega

end Normal

lemma normals_eq (done : List Normal) (ps : List Pattern) : normals done ps = done.reverse ++ ps.map normal := by
  induction ps generalizing done with
  | nil => simp [normals]
  | cons p ps ih => rw [normals, ih, List.reverse_cons, List.append_assoc, List.singleton_append, List.map_cons]

lemma sum_quoted_le (back atStart atEnd : Bool) (cs : List Char) :
    (((quoted atStart atEnd cs).map normal).map (Normal.size back)).sum ≤ 64 + 704 * cs.length := by
  have hchars : (((cs.map (char true)).map normal).map (Normal.size back)).sum ≤ 704 * cs.length := by
    induction cs with
    | nil => exact Nat.le_refl _
    | cons c cs ih =>
      have hfirst := Normal.size_ofChar_le back c
      simp only [List.map_cons, List.sum_cons, List.length_cons, normal] at ih ⊢
      omega
  simp only [quoted, List.map_append, List.sum_append]
  have hplace : ∀ (b : Bool) (p : Place),
      (((if b then [place p] else []).map normal).map (Normal.size back)).sum ≤ 32 := by
    intro b p
    cases b <;> simp [normal, Normal.size]
  have hfirst := hplace atStart .textStart
  have hlast := hplace atEnd .textEnd
  omega

/-- A text of 14000 characters is never too large to look for. -/
lemma fits_quoted (atStart atEnd : Bool) {cs : List Char} (h : cs.length ≤ 14000) :
    (seq (quoted atStart atEnd cs)).fits = true := by
  have hfootprint : ∀ back, (seq (quoted atStart atEnd cs)).normal.footprint back ≤ memoryLimit := by
    intro back
    have hconcat := Normal.size_concat_le back ((quoted atStart atEnd cs).map normal)
    have hsum := sum_quoted_le back atStart atEnd cs
    have hlimit : memoryLimit = 10485760 := rfl
    rw [normal, normals_eq, List.reverse_nil, List.nil_append, Normal.footprint]
    split_ifs <;> omega
  simp [fits, hfootprint]

end Pattern

end DataGrid
