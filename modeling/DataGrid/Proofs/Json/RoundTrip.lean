import DataGrid.Json.Printer
import DataGrid.Proofs.Json.Values
import DataGrid.Proofs.Numerals
import Mathlib.Data.List.TakeWhile
import Mathlib.Tactic.IntervalCases

namespace DataGrid.Json

namespace Raw

def EndsNumber (rest : List Char) : Prop :=
  ∀ c cs, rest = c :: cs → c.isDigit = false ∧ c ≠ '.' ∧ c ≠ 'e' ∧ c ≠ 'E'

lemma endsNumber_nil : EndsNumber [] := by
  rintro _ _ ⟨⟩

lemma endsNumber_cons {c : Char} {cs : List Char} (h : c ∈ [',', ']', '\x7d']) : EndsNumber (c :: cs) := by
  rintro _ _ ⟨⟩
  simp only [List.mem_cons, List.not_mem_nil, or_false] at h
  rcases h with rfl | rfl | rfl <;> decide

lemma skipSpace_cons {c : Char} (h : isSpace c = false) (cs : List Char) : skipSpace (c :: cs) = c :: cs := by
  simp [skipSpace, h]

lemma readDigits_append {digits rest : List Char} (hd : ∀ c ∈ digits, c.isDigit = true) (hne : digits ≠ [])
    (hr : EndsNumber rest) : readDigits (digits ++ rest) = some (digits, rest) := by
  have hstop : rest.takeWhile Char.isDigit = [] ∧ rest.dropWhile Char.isDigit = rest := by
    cases rest with
    | nil => exact ⟨rfl, rfl⟩
    | cons c cs => simp [(hr c cs rfl).1]
  have htake : (digits ++ rest).takeWhile Char.isDigit = digits := by
    rw [List.takeWhile_append_of_pos hd, hstop.1, List.append_nil]
  have hdrop : (digits ++ rest).dropWhile Char.isDigit = rest := by
    rw [List.dropWhile_append_of_pos hd, hstop.2]
  rw [readDigits, htake, hdrop]
  cases digits with
  | nil => exact absurd rfl hne
  | cons c cs => rfl

lemma toDigits_ne_zero_cons {n : Nat} (h : 0 < n) (cs : List Char) : Nat.toDigits 10 n ≠ '0' :: cs := by
  induction n using Nat.strong_induction_on generalizing cs with
  | _ n ih =>
    rw [Nat.toDigits_eq_if (by decide)]
    split
    case isTrue hlt => interval_cases n <;> simp
    case isFalse hge =>
      have htens : 0 < n / 10 := by omega
      obtain ⟨c, ds, hcons, -⟩ := Count.toDigits_eq_cons (n / 10)
      rw [hcons]
      rintro ⟨⟩
      exact ih (n / 10) (by omega) htens ds hcons

lemma readWhole_toDigits (n : Nat) {rest : List Char} (hr : EndsNumber rest) :
    readWhole (Nat.toDigits 10 n ++ rest) = some (Nat.toDigits 10 n, rest) := by
  have hdigits : ∀ c ∈ Nat.toDigits 10 n, c.isDigit = true := fun _ hc => Count.isDigit_of_mem_toDigits hc
  rw [readWhole, readDigits_append hdigits Nat.toDigits_ne_nil hr]
  rcases Nat.eq_zero_or_pos n with rfl | hpos
  · simp
  · split
    case h_1 c cs _ he =>
      simp only [Option.some.injEq, Prod.mk.injEq] at he
      exact absurd he.1 (toDigits_ne_zero_cons hpos _)
    case h_2 => rfl

lemma readNumber_toDigits (negative : Bool) (n : Nat) {rest : List Char} (hr : EndsNumber rest) :
    readNumber negative (Nat.toDigits 10 n ++ rest) = some (⟨negative, Nat.toDigits 10 n, [], none⟩, rest) := by
  have hfraction : readFraction rest = some ([], rest) := by
    rw [readFraction]
    rintro cs rfl
    exact (hr _ cs rfl).2.1 rfl
  have hexponent : readExponent rest = some (none, rest) := by
    unfold readExponent
    split
    case h_1 cs => exact absurd rfl (hr _ cs rfl).2.2.1
    case h_2 cs => exact absurd rfl (hr _ cs rfl).2.2.2
    case h_3 => rfl
  simp [readNumber, readWhole_toDigits n hr, hfraction, hexponent]

end Raw

namespace NumberText

lemma natOfDigits_toDigits (n : Nat) : natOfDigits (Nat.toDigits 10 n) = n := Count.foldl_toDigits n

lemma value?_toDigits {n : Int} (h : Fits (.int n)) :
    value? ⟨decide (n < 0), Nat.toDigits 10 n.natAbs, [], none⟩ = some (.int n) := by
  obtain ⟨hlow, hhigh⟩ := h
  have hnone : (none : Option (Bool × List Char)).isNone = true := rfl
  simp only [value?, isWhole, natOfDigits_toDigits, List.isEmpty_nil, hnone, Bool.and_self, Bool.true_and]
  by_cases hn : n < 0
  · have hsmall : n.natAbs ≤ Nat.pow 2 63 := by omega
    have hpos : 0 < n.natAbs := by omega
    have hneg : -(n.natAbs : Int) = n := by omega
    simp only [hn, hpos, hsmall, hneg, decide_true, Bool.not_true, Bool.false_and, Bool.and_self, Bool.false_eq_true,
      if_false, if_true]
  · have hsmall : n.natAbs ≤ Count.most := by omega
    have hnat : (n.natAbs : Int) = n := by omega
    simp only [hn, hsmall, hnat, decide_true, decide_false, Bool.not_false, Bool.and_self, if_true]

end NumberText

lemma decodePieces_code {n : Nat} (h : n < 32) (pieces : List Piece) :
    decodePieces (.code n :: pieces) = (decodePieces pieces).map (Char.ofNat n :: ·) := by
  have hhigh : ¬0xD800 ≤ n := by omega
  have hlow : ¬0xDC00 ≤ n := by omega
  cases pieces with
  | nil => simp [decodePieces, hhigh]
  | cons piece pieces => cases piece <;> simp [decodePieces, hhigh, hlow]

lemma hexNumber?_hexFixed : ∀ n < 32, Text.hexNumber? (Text.hexFixed 4 n) = some n := by
  decide

lemma readString_short {short c : Char} (h : Raw.escaped? short = some c) (rest : List Char) :
    Raw.readString ('\\' :: short :: rest) = (Raw.readString rest).map fun read => (.plain c :: read.1, read.2) := by
  rw [Raw.readString.eq_def]
  split
  case h_1 he => cases he
  case h_2 he => cases he
  case h_3 he =>
    cases he
    cases h
  case h_4 he =>
    cases he
    simp [h, Option.map_eq_bind]
  case h_5 hne he =>
    cases he
    exact (hne _ _ rfl rfl).elim

lemma readString_code {n : Nat} (h : n < 32) (rest : List Char) :
    Raw.readString ('\\' :: 'u' :: Text.hexFixed 4 n ++ rest) =
      (Raw.readString rest).map fun read => (.code n :: read.1, read.2) := by
  obtain ⟨a, b, c, d, hdigits⟩ : ∃ a b c d, Text.hexFixed 4 n = [a, b, c, d] := ⟨_, _, _, _, rfl⟩
  have hn := hdigits ▸ hexNumber?_hexFixed n h
  rw [hdigits]
  simp only [List.cons_append, List.nil_append]
  rw [Raw.readString]
  simp [hn, Option.map_eq_bind]

lemma readString_plain {c : Char} (hq : c ≠ '"') (hb : c ≠ '\\') (h : 32 ≤ c.toNat) (rest : List Char) :
    Raw.readString (c :: rest) = (Raw.readString rest).map fun read => (.plain c :: read.1, read.2) := by
  have hc : ¬c.toNat < 32 := by omega
  rw [Raw.readString.eq_def]
  split
  case h_1 he => cases he
  case h_2 he => exact absurd (List.cons.inj he).1 hq
  case h_3 he => exact absurd (List.cons.inj he).1 hb
  case h_4 he => exact absurd (List.cons.inj he).1 hb
  case h_5 he =>
    cases he
    simp [hc, Option.map_eq_bind]

lemma readString_escapeChar (c : Char) : ∃ piece,
    (∀ rest, Raw.readString (escapeChar c ++ rest) = (Raw.readString rest).map fun read => (piece :: read.1, read.2)) ∧
    ∀ pieces, decodePieces (piece :: pieces) = (decodePieces pieces).map (c :: ·) := by
  have hplain : ∀ pieces, decodePieces (.plain c :: pieces) = (decodePieces pieces).map (c :: ·) := fun _ => by
    rw [decodePieces]
  unfold escapeChar
  split_ifs with hquote hback h8 h12 hn hr ht h32
  · obtain rfl := eq_of_beq hquote
    exact ⟨_, readString_short rfl, hplain⟩
  · obtain rfl := eq_of_beq hback
    exact ⟨_, readString_short rfl, hplain⟩
  · exact ⟨_, readString_short (by rw [← Char.ofNat_toNat c, h8]; rfl), hplain⟩
  · exact ⟨_, readString_short (by rw [← Char.ofNat_toNat c, h12]; rfl), hplain⟩
  · obtain rfl := eq_of_beq hn
    exact ⟨_, readString_short rfl, hplain⟩
  · obtain rfl := eq_of_beq hr
    exact ⟨_, readString_short rfl, hplain⟩
  · obtain rfl := eq_of_beq ht
    exact ⟨_, readString_short rfl, hplain⟩
  · refine ⟨_, readString_code h32, fun pieces => ?_⟩
    rw [decodePieces_code h32, Char.ofNat_toNat]
  · have hq : c ≠ '"' := fun he => hquote (by simp [he])
    have hb : c ≠ '\\' := fun he => hback (by simp [he])
    exact ⟨_, readString_plain hq hb (by omega), hplain⟩

lemma readString_escaped (s : List Char) (rest : List Char) : ∃ pieces,
    Raw.readString (s.flatMap escapeChar ++ '"' :: rest) = some (pieces, rest) ∧ decodePieces pieces = some s := by
  induction s with
  | nil => exact ⟨[], by rw [List.flatMap_nil, List.nil_append, Raw.readString], rfl⟩
  | cons c cs ih =>
    obtain ⟨pieces, hread, hdecode⟩ := ih
    obtain ⟨piece, hpiece, hchar⟩ := readString_escapeChar c
    refine ⟨piece :: pieces, ?_, ?_⟩
    · rw [List.flatMap_cons, List.append_assoc, hpiece, hread]
      rfl
    · rw [hchar, hdecode]
      rfl

lemma readString_quoted (s : String) (rest : List Char) : ∃ tail pieces,
    quoted s ++ rest = '"' :: tail ∧ Raw.readString tail = some (pieces, rest) ∧ decodeString pieces = some s := by
  obtain ⟨pieces, hread, hdecode⟩ := readString_escaped s.toList rest
  refine ⟨s.toList.flatMap escapeChar ++ '"' :: rest, pieces, by simp [quoted], hread, ?_⟩
  rw [decodeString, hdecode, Option.map_some, String.ofList_toList]

namespace Raw

lemma isSpace_of_isDigit {c : Char} (h : c.isDigit = true) : isSpace c = false := by
  by_contra hs
  simp only [isSpace, Bool.not_eq_false, Bool.or_eq_true, beq_iff_eq] at hs
  rcases hs with ((rfl | rfl) | rfl) | rfl <;> cases h

lemma readValue_digit {c : Char} (h : c.isDigit = true) (fuel : Nat) (cs : List Char) :
    readValue (fuel + 1) (c :: cs) = (readNumber false (c :: cs)).map fun read => (.number read.1, read.2) := by
  rw [readValue, skipSpace_cons (isSpace_of_isDigit h)]
  split
  case h_8 => rfl
  all_goals
    rename_i he
    cases he
    cases h

lemma readValue_intDigits {n : Int} (fuel : Nat) {rest : List Char} (hr : EndsNumber rest) :
    readValue (fuel + 1) (intDigits n ++ rest) =
      some (.number ⟨decide (n < 0), Nat.toDigits 10 n.natAbs, [], none⟩, rest) := by
  unfold intDigits
  split_ifs with hn
  · rw [List.cons_append, readValue, skipSpace_cons rfl]
    simp [readNumber_toDigits true n.natAbs hr, hn]
  · obtain ⟨c, cs, hcons, hdigit⟩ := Count.toDigits_eq_cons n.natAbs
    have hread := readNumber_toDigits false n.natAbs hr
    rw [hcons, List.cons_append] at hread
    rw [hcons, List.cons_append, readValue_digit hdigit, hread]
    simp [hn]

end Raw

lemma Raw.readValue_array {fuel : Nat} {c : Char} {cs : List Char} (hspace : Raw.isSpace c = false) (hc : c ≠ ']') :
    Raw.readValue (fuel + 1) ('[' :: c :: cs) =
      (Raw.readItems fuel (c :: cs)).map fun read => (.array read.1, read.2) := by
  rw [Raw.readValue, Raw.skipSpace_cons rfl]
  simp [Raw.skipSpace_cons hspace, hc]

lemma Raw.readValue_object {fuel : Nat} {cs : List Char} :
    Raw.readValue (fuel + 1) ('\x7b' :: '"' :: cs) =
      (Raw.readMembers fuel ('"' :: cs)).map fun read => (.object read.1, read.2) := by
  rw [Raw.readValue, Raw.skipSpace_cons rfl]
  simp [Raw.skipSpace_cons, Raw.isSpace]

section Sequences

variable {fuel : Nat} {cs rest : List Char} {raw : Raw}

lemma Raw.readItems_last (h : Raw.readValue fuel cs = some (raw, ']' :: rest)) :
    Raw.readItems (fuel + 1) cs = some ([raw], rest) := by
  simp [Raw.readItems, h, Raw.skipSpace_cons, Raw.isSpace]

lemma Raw.readItems_more {more : List Char} {raws : List Raw} (h : Raw.readValue fuel cs = some (raw, ',' :: more))
    (hmore : Raw.readItems fuel more = some (raws, rest)) : Raw.readItems (fuel + 1) cs = some (raw :: raws, rest) := by
  simp [Raw.readItems, h, Raw.skipSpace_cons, Raw.isSpace, hmore]

variable {name : List Char} {pieces : List Piece}

lemma Raw.readMembers_last (hname : Raw.readString name = some (pieces, ':' :: cs))
    (h : Raw.readValue fuel cs = some (raw, '\x7d' :: rest)) :
    Raw.readMembers (fuel + 1) ('"' :: name) = some ([(pieces, raw)], rest) := by
  simp [Raw.readMembers, hname, h, Raw.skipSpace_cons, Raw.isSpace]

lemma Raw.readMembers_more {more : List Char} {raws : List (List Piece × Raw)}
    (hname : Raw.readString name = some (pieces, ':' :: cs)) (h : Raw.readValue fuel cs = some (raw, ',' :: more))
    (hmore : Raw.readMembers fuel more = some (raws, rest)) :
    Raw.readMembers (fuel + 1) ('"' :: name) = some ((pieces, raw) :: raws, rest) := by
  simp [Raw.readMembers, hname, h, Raw.skipSpace_cons, Raw.isSpace, hmore]

end Sequences

lemma writtenItems_singleton (item : Json) : writtenItems [item] = item.written := by
  rw [writtenItems]

lemma writtenItems_cons (item next : Json) (items : List Json) :
    writtenItems (item :: next :: items) = item.written ++ ',' :: writtenItems (next :: items) := by
  rw [writtenItems]

lemma writtenMembers_singleton (name : String) (value : Json) :
    writtenMembers [(name, value)] = quoted name ++ ':' :: value.written := by
  rw [writtenMembers]

lemma writtenMembers_cons (name : String) (value : Json) (next : String × Json) (members : List (String × Json)) :
    writtenMembers ((name, value) :: next :: members) =
      quoted name ++ ':' :: (value.written ++ ',' :: writtenMembers (next :: members)) := by
  rw [writtenMembers]

lemma written_eq_cons {v : Json} (h : IsNoDouble v) :
    ∃ c cs, v.written = c :: cs ∧ Raw.isSpace c = false ∧ c ≠ ']' := by
  cases v with
  | null => exact ⟨_, _, by rw [written], rfl, by decide⟩
  | bool b => cases b <;> exact ⟨_, _, by rw [written], rfl, by decide⟩
  | float x => exact absurd rfl (h x)
  | string s => exact ⟨_, _, by rw [written, quoted], rfl, by decide⟩
  | array items => exact ⟨_, _, by rw [written], rfl, by decide⟩
  | object members => exact ⟨_, _, by rw [written], rfl, by decide⟩
  | int n =>
    rw [written, intDigits]
    split_ifs
    · exact ⟨_, _, rfl, rfl, by decide⟩
    · obtain ⟨c, cs, hcons, hdigit⟩ := Count.toDigits_eq_cons n.natAbs
      refine ⟨c, cs, hcons, Raw.isSpace_of_isDigit hdigit, ?_⟩
      rintro rfl
      cases hdigit

lemma writtenItems_eq_cons {item : Json} (items : List Json) (h : IsNoDouble item) :
    ∃ c cs, writtenItems (item :: items) = c :: cs ∧ Raw.isSpace c = false ∧ c ≠ ']' := by
  obtain ⟨c, cs, hcons, hstart⟩ := written_eq_cons h
  cases items with
  | nil => exact ⟨c, cs, by rw [writtenItems_singleton, hcons], hstart⟩
  | cons next items => exact ⟨c, _, by rw [writtenItems_cons, hcons, List.cons_append], hstart⟩

lemma writtenMembers_eq_cons (member : String × Json) (members : List (String × Json)) :
    ∃ cs, writtenMembers (member :: members) = '"' :: cs := by
  cases members with
  | nil => exact ⟨_, by rw [writtenMembers_singleton, quoted, List.cons_append]⟩
  | cons next members => exact ⟨_, by rw [writtenMembers_cons, quoted, List.cons_append]⟩

def Raw.Spells (raw : Raw) (v : Json) : Prop := raw.depth = v.depth ∧ raw.toJson? = some v

mutual

theorem readValue_written : ∀ (v : Json) {fuel : Nat} {rest : List Char}, v.Every Fits → v.Every IsNoDouble →
    2 * v.written.length ≤ fuel → Raw.EndsNumber rest →
    ∃ raw, Raw.readValue fuel (v.written ++ rest) = some (raw, rest) ∧ raw.Spells v
  | v, 0, _, _, hnum, hfuel, _ => by
    obtain ⟨c, cs, hcons, -⟩ := written_eq_cons hnum.self
    simp [hcons] at hfuel
  | .null, fuel + 1, rest, _, _, _, _ => by
    refine ⟨.null, ?_, rfl, rfl⟩
    simp [written, Raw.readValue, Raw.skipSpace_cons, Raw.isSpace]
  | .bool b, fuel + 1, rest, _, _, _, _ => by
    refine ⟨.bool b, ?_, rfl, rfl⟩
    cases b <;> simp [written, Raw.readValue, Raw.skipSpace_cons, Raw.isSpace]
  | .int n, fuel + 1, rest, hfits, _, _, hr => by
    refine ⟨.number _, ?_, rfl, NumberText.value?_toDigits hfits⟩
    rw [written, Raw.readValue_intDigits fuel hr]
  | .float x, fuel + 1, rest, _, hnum, _, _ => absurd rfl (hnum x)
  | .string s, fuel + 1, rest, _, _, _, _ => by
    obtain ⟨tail, pieces, hquoted, hread, hdecode⟩ := readString_quoted s rest
    refine ⟨.string pieces, ?_, rfl, by rw [Raw.toJson?, hdecode, Option.map_some]⟩
    rw [written, hquoted, Raw.readValue, Raw.skipSpace_cons rfl]
    simp [hread]
  | .array [], fuel + 1, rest, _, _, _, _ => by
    refine ⟨.array [], ?_, rfl, rfl⟩
    simp [written, writtenItems, Raw.readValue, Raw.skipSpace_cons, Raw.isSpace]
  | .array (item :: items), fuel + 1, rest, hfits, hnum, hfuel, _ => by
    have hlength : 2 * (writtenItems (item :: items)).length + 1 ≤ fuel := by
      simp only [written, List.length_cons, List.length_append] at hfuel
      omega
    obtain ⟨raws, hread, hdepth, hvalue⟩ := readItems_written item items hfits.2 hnum.2 hlength rest
    obtain ⟨c, cs, hcons, hspace, hc⟩ := writtenItems_eq_cons items hnum.2.1.self
    refine ⟨.array raws, ?_, by rw [Raw.depth, depth, hdepth], by rw [Raw.toJson?, hvalue, Option.map_some]⟩
    rw [hcons, List.cons_append] at hread
    rw [written, hcons, List.cons_append, List.cons_append, List.cons_append, List.append_assoc,
      Raw.readValue_array hspace hc, List.singleton_append, hread, Option.map_some]
  | .object [], fuel + 1, rest, _, _, _, _ => by
    refine ⟨.object [], ?_, rfl, rfl⟩
    simp [written, writtenMembers, Raw.readValue, Raw.skipSpace_cons, Raw.isSpace]
  | .object (member :: members), fuel + 1, rest, hfits, hnum, hfuel, _ => by
    have hlength : 2 * (writtenMembers (member :: members)).length + 1 ≤ fuel := by
      simp only [written, List.length_cons, List.length_append] at hfuel
      omega
    obtain ⟨raws, hread, hdepth, hvalue⟩ := readMembers_written member members hfits.2 hnum.2 hlength rest
    obtain ⟨cs, hcons⟩ := writtenMembers_eq_cons member members
    refine ⟨.object raws, ?_, by rw [Raw.depth, depth, hdepth], ?_⟩
    · rw [hcons, List.cons_append] at hread
      rw [written, hcons, List.cons_append, List.cons_append, List.cons_append, List.append_assoc,
        Raw.readValue_object, List.singleton_append, hread, Option.map_some]
    · rw [Raw.toJson?, hvalue, Option.map_some, Fields.ofList_of_nodup hfits.1]

theorem readItems_written : ∀ (item : Json) (items : List Json) {fuel : Nat}, EveryItem Fits (item :: items) →
    EveryItem IsNoDouble (item :: items) → 2 * (writtenItems (item :: items)).length + 1 ≤ fuel → ∀ rest,
    ∃ raws, Raw.readItems fuel (writtenItems (item :: items) ++ ']' :: rest) = some (raws, rest) ∧
      Raw.depthItems raws = depthItems (item :: items) ∧ Raw.toItems? raws = some (item :: items)
  | _, _, 0, _, _, hfuel, _ => by omega
  | item, [], fuel + 1, hfits, hnum, hfuel, rest => by
    rw [writtenItems_singleton] at hfuel ⊢
    have hitem : 2 * item.written.length ≤ fuel := by omega
    have hends : Raw.EndsNumber (']' :: rest) := Raw.endsNumber_cons (by decide)
    obtain ⟨raw, hread, hdepth, hvalue⟩ := readValue_written item hfits.1 hnum.1 hitem hends
    refine ⟨[raw], Raw.readItems_last hread, ?_, ?_⟩
    · rw [Raw.depthItems, depthItems, hdepth, Raw.depthItems, depthItems]
    · simp [Raw.toItems?, hvalue]
  | item, next :: items, fuel + 1, hfits, hnum, hfuel, rest => by
    rw [writtenItems_cons, List.length_append, List.length_cons] at hfuel
    have hitem : 2 * item.written.length ≤ fuel := by omega
    have hmore : 2 * (writtenItems (next :: items)).length + 1 ≤ fuel := by omega
    have hends : Raw.EndsNumber (',' :: (writtenItems (next :: items) ++ ']' :: rest)) := Raw.endsNumber_cons (by decide)
    obtain ⟨raw, hread, hdepth, hvalue⟩ := readValue_written item hfits.1 hnum.1 hitem hends
    obtain ⟨raws, hreads, hdepths, hvalues⟩ := readItems_written next items hfits.2 hnum.2 hmore rest
    refine ⟨raw :: raws, ?_, ?_, ?_⟩
    · rw [writtenItems_cons, List.append_assoc, List.cons_append]
      exact Raw.readItems_more hread hreads
    · rw [Raw.depthItems, depthItems, hdepth, hdepths]
    · simp [Raw.toItems?, hvalue, hvalues]

theorem readMembers_written : ∀ (member : String × Json) (members : List (String × Json)) {fuel : Nat},
    EveryMember Fits (member :: members) → EveryMember IsNoDouble (member :: members) →
    2 * (writtenMembers (member :: members)).length + 1 ≤ fuel → ∀ rest,
    ∃ raws, Raw.readMembers fuel (writtenMembers (member :: members) ++ '\x7d' :: rest) = some (raws, rest) ∧
      Raw.depthMembers raws = depthMembers (member :: members) ∧ Raw.toMembers? raws = some (member :: members)
  | _, _, 0, _, _, hfuel, _ => by omega
  | (name, value), [], fuel + 1, hfits, hnum, hfuel, rest => by
    rw [writtenMembers_singleton, List.length_append, List.length_cons] at hfuel
    have hlength : 2 * value.written.length ≤ fuel := by omega
    have hends : Raw.EndsNumber ('\x7d' :: rest) := Raw.endsNumber_cons (by decide)
    obtain ⟨raw, hread, hdepth, hvalue⟩ := readValue_written value hfits.1 hnum.1 hlength hends
    obtain ⟨tail, pieces, hquoted, hname, hdecode⟩ := readString_quoted name (':' :: (value.written ++ '\x7d' :: rest))
    refine ⟨[(pieces, raw)], ?_, ?_, ?_⟩
    · rw [writtenMembers_singleton, List.append_assoc, List.cons_append, hquoted]
      exact Raw.readMembers_last hname hread
    · rw [Raw.depthMembers, depthMembers, hdepth, Raw.depthMembers, depthMembers]
    · simp [Raw.toMembers?, hdecode, hvalue]
  | (name, value), next :: members, fuel + 1, hfits, hnum, hfuel, rest => by
    rw [writtenMembers_cons, List.length_append, List.length_cons, List.length_append, List.length_cons] at hfuel
    have hlength : 2 * value.written.length ≤ fuel := by omega
    have hmore : 2 * (writtenMembers (next :: members)).length + 1 ≤ fuel := by omega
    have hends : Raw.EndsNumber (',' :: (writtenMembers (next :: members) ++ '\x7d' :: rest)) :=
      Raw.endsNumber_cons (by decide)
    obtain ⟨raw, hread, hdepth, hvalue⟩ := readValue_written value hfits.1 hnum.1 hlength hends
    obtain ⟨raws, hreads, hdepths, hvalues⟩ := readMembers_written next members hfits.2 hnum.2 hmore rest
    obtain ⟨tail, pieces, hquoted, hname, hdecode⟩ :=
      readString_quoted name (':' :: (value.written ++ ',' :: (writtenMembers (next :: members) ++ '\x7d' :: rest)))
    refine ⟨(pieces, raw) :: raws, ?_, ?_, ?_⟩
    · rw [writtenMembers_cons, List.append_assoc, List.cons_append, List.append_assoc, List.cons_append, hquoted]
      exact Raw.readMembers_more hname hread hreads
    · rw [Raw.depthMembers, depthMembers, hdepth, hdepths]
    · simp [Raw.toMembers?, hdecode, hvalue, hvalues]

end

theorem parse?_compact {v : Json} (hfits : v.Every Fits) (hnum : v.Every IsNoDouble) (hdepth : v.depth < 128) :
    parse? v.compact = some v := by
  have hlength : 2 * v.written.length ≤ 2 * v.written.length + 2 := by omega
  obtain ⟨raw, hread, hraw, hvalue⟩ := readValue_written v hfits hnum hlength Raw.endsNumber_nil
  rw [List.append_nil] at hread
  have htext : Raw.read? v.compact = some raw := by
    rw [Raw.read?, compact, String.length_ofList, String.toList_ofList, hread]
    rfl
  have hlimit : ¬127 < raw.depth := by omega
  rw [parse?, htext, Option.bind_eq_bind, Option.bind_some, if_neg hlimit, hvalue]

end DataGrid.Json
