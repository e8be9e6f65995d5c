import DataGrid.Pattern.Parse
import DataGrid.Proofs.Outcome
import DataGrid.Proofs.Pattern.Search

namespace DataGrid.Pattern

def quotation (atStart atEnd : Bool) (cs : List Char) : List Char :=
  (if atStart then ['^'] else []) ++ (escapeChars cs ++ if atEnd then ['$'] else [])

def quoted (atStart atEnd : Bool) (cs : List Char) : List Pattern :=
  (if atStart then [.place .textStart] else []) ++
    (cs.map (.char true) ++ if atEnd then [.place .textEnd] else [])

lemma escapeChars_cons (c : Char) (cs : List Char) :
    escapeChars (c :: cs) = (if isMeta c then ['\\', c] else [c]) ++ escapeChars cs := by
  simp [escapeChars]

lemma length_le_escapeChars (cs : List Char) : cs.length ≤ (escapeChars cs).length := by
  induction cs with
  | nil => exact le_rfl
  | cons c cs ih =>
    rw [escapeChars_cons, List.length_append, List.length_cons]
    split <;> simp only [List.length_cons, List.length_nil] <;> omega

namespace Reader

variable {r : Reader} {fold : Bool}

def pushAll (r : Reader) (ps : List Pattern) : Reader := { r with items := (ps.map Item.leaf).reverse ++ r.items }

lemma pushAll_cons (p : Pattern) (ps : List Pattern) : r.pushAll (p :: ps) = (r.push (.leaf p)).pushAll ps := by
  simp [pushAll, push]

lemma pushAll_append (ps qs : List Pattern) : r.pushAll (ps ++ qs) = (r.pushAll ps).pushAll qs := by
  simp [pushAll]

lemma step_plain {c : Char} (hc : isMeta c = false) (hm : r.mode = .start fold) (fuel : Nat) (cs : List Char) :
    r.step fuel c cs = .ok (r.push (.leaf (.char fold c)), cs) := by
  have hlit : literal r.mode c = .char fold c := by simp [literal, hm, Mode.start]
  simp only [isMeta, Bool.or_eq_false_iff, beq_eq_false_iff_ne] at hc
  rw [step.eq_def]
  split <;> simp_all

lemma isDigit_of_isMeta {c : Char} (hc : isMeta c = true) : c.isDigit = false := by
  have hmetas : ∀ d ∈ ['\\', '.', '+', '*', '?', '(', ')', '|', '[', ']', '\x7b', '\x7d', '^', '$', '#', '&', '-', '~'],
      d.isDigit = false := by simp
  exact hmetas c (by simpa [isMeta, or_assoc] using hc)

lemma step_escaped {c : Char} (hc : isMeta c = true) (hm : r.mode = .start fold) (fuel : Nat) (cs : List Char) :
    r.step fuel '\\' (c :: cs) = .ok (r.push (.leaf (.char fold c)), cs) := by
  have hlit : literal r.mode c = .char fold c := by simp [literal, hm, Mode.start]
  have hread : Escape.read r.mode (c :: cs) = .ok (.char c, cs) := by
    unfold Escape.read
    simp [isDigit_of_isMeta hc, Escape.isEscapable, hc]
  simp only [step, hread, ← hlit]
  rfl

lemma readFrom_escapeChars (fuel : Nat) (hm : r.mode = .start fold) (cs rest : List Char) :
    readFrom (cs.length + fuel) r (escapeChars cs ++ rest) = readFrom fuel (r.pushAll (cs.map (.char fold))) rest := by
  induction cs generalizing r with
  | nil => simp [escapeChars, pushAll]
  | cons c cs ih =>
    have hskip : ∀ ds, r.mode.skip ds = ds := by simp [hm, Mode.skip, Mode.start]
    rw [escapeChars_cons, List.append_assoc, List.length_cons, Nat.add_right_comm, readFrom, hskip, List.map_cons,
      pushAll_cons]
    cases hc : isMeta c with
    | false =>
      simp only [Bool.false_eq_true, if_false, List.cons_append, List.nil_append, step_plain hc hm]
      exact ih hm
    | true =>
      simp only [if_true, List.cons_append, List.nil_append, step_escaped hc hm]
      exact ih hm

lemma readFrom_nil (fuel : Nat) (hm : r.mode = .start fold) : readFrom fuel r [] = .ok r := by
  cases fuel <;> simp [readFrom, hm, Mode.skip, Mode.start]

lemma readFrom_textStart (fuel : Nat) (hm : r.mode = .start fold) (cs : List Char) :
    readFrom (fuel + 1) r ('^' :: cs) = readFrom fuel (r.push (.leaf (.place .textStart))) cs := by
  simp [readFrom, hm, Mode.skip, Mode.start, step, bind, Except.bind, pure, Except.pure]

lemma readFrom_textEnd (fuel : Nat) (hm : r.mode = .start fold) (cs : List Char) :
    readFrom (fuel + 1) r ('$' :: cs) = readFrom fuel (r.push (.leaf (.place .textEnd))) cs := by
  simp [readFrom, hm, Mode.skip, Mode.start, step, bind, Except.bind, pure, Except.pure]

lemma readFrom_quotation (atStart atEnd : Bool) (cs : List Char) {fuel : Nat}
    (hf : (quotation atStart atEnd cs).length ≤ fuel) :
    readFrom fuel (start true) (quotation atStart atEnd cs) = .ok ((start true).pushAll (quoted atStart atEnd cs)) := by
  have hlen := length_le_escapeChars cs
  have hbody : ∀ (r : Reader) (fuel : Nat), r.mode = .start true →
      (escapeChars cs ++ if atEnd then ['$'] else []).length ≤ fuel →
      readFrom fuel r (escapeChars cs ++ if atEnd then ['$'] else []) =
        .ok (r.pushAll (cs.map (.char true) ++ if atEnd then [.place .textEnd] else [])) := by
    intro r fuel hm hf
    rw [List.length_append] at hf
    obtain ⟨left, rfl⟩ := Nat.exists_eq_add_of_le (show cs.length ≤ fuel by omega)
    rw [readFrom_escapeChars left hm, pushAll_append]
    cases atEnd with
    | false => exact readFrom_nil left hm
    | true =>
      obtain ⟨left, rfl⟩ := Nat.exists_eq_add_of_le' (show 1 ≤ left by simp at hf; omega)
      rw [if_pos rfl, if_pos rfl, readFrom_textEnd (r := r.pushAll _) left hm, pushAll_cons]
      exact readFrom_nil left hm
  cases atStart with
  | false => exact hbody _ fuel rfl hf
  | true =>
    obtain ⟨left, rfl⟩ := Nat.exists_eq_add_of_le' (show 1 ≤ fuel by simp [quotation] at hf; omega)
    rw [quotation, quoted, if_pos rfl, if_pos rfl, List.singleton_append, List.singleton_append,
      readFrom_textStart left rfl, pushAll_cons]
    exact hbody _ left rfl (by simpa [quotation] using hf)

end Reader

lemma nesting_le_one {is : List Item} (h : ∀ i ∈ is, i.depth = 0) : Item.nesting is ≤ 1 := by
  have hfold : ∀ js : List Item, (∀ j ∈ js, j.depth = 0) → js.foldl (fun d i => max d i.depth) 0 = 0 := by
    intro js hjs
    induction js with
    | nil => rfl
    | cons j js ih =>
      rw [List.foldl_cons, hjs j List.mem_cons_self, Nat.max_self]
      exact ih fun i hi => hjs i (List.mem_cons_of_mem j hi)
  rw [Item.nesting.eq_def]
  split
  · exact Nat.zero_le 1
  · exact (h _ (List.mem_singleton_self _)).trans_le (Nat.zero_le 1)
  · rw [hfold is h]

lemma read_quotation (atStart atEnd : Bool) (cs : List Char) :
    read true (String.ofList (quotation atStart atEnd cs)) = .ok (.seq (quoted atStart atEnd cs)) := by
  have hinside : ((Reader.start true).pushAll (quoted atStart atEnd cs)).inside =
      Item.sequence ((quoted atStart atEnd cs).map Item.leaf).reverse := by
    simp [Reader.inside, Reader.pushAll, Reader.start, Item.alternatives]
  have hpattern : (Item.sequence ((quoted atStart atEnd cs).map Item.leaf).reverse).pattern =
      .seq (quoted atStart atEnd cs) := by
    simp [Item.sequence, Item.leaf, Function.comp_def]
  have hdepth : (Item.sequence ((quoted atStart atEnd cs).map Item.leaf).reverse).depth ≤ 1 := by
    refine nesting_le_one fun i hi => ?_
    obtain ⟨p, -, rfl⟩ := List.mem_map.mp (List.mem_reverse.mp hi)
    rfl
  rw [read, String.toList_ofList, Reader.readFrom_quotation atStart atEnd cs (Nat.le_succ _)]
  have hshallow : ¬nestingLimit < ((Reader.start true).pushAll (quoted atStart atEnd cs)).inside.depth := by
    rw [hinside, nestingLimit]
    omega
  change (if nestingLimit < _ then Except.error Fault.nesting else Except.ok _) = _
  rw [if_neg hshallow, hinside, hpattern]

lemma parse_quotation (atStart atEnd : Bool) (cs : List Char) :
    parse true (String.ofList (quotation atStart atEnd cs)) =
      if (seq (quoted atStart atEnd cs)).fits then .ok (seq (quoted atStart atEnd cs)).program else .error .size := by
  rw [parse, read_quotation]
  rfl

end DataGrid.Pattern
