import DataGrid.Proofs.DateTexts
import DataGrid.Proofs.TextOperators

namespace DataGrid

namespace Document

def wrap : List String → Bson → Bson
  | [], value => value
  | name :: names, value => .document [(name, wrap names value)]

lemma descend_wrap (names : List String) (value : Bson) : descend (wrap names value) names = some value := by
  induction names with
  | nil => rw [wrap, descend]
  | cons name names ih => simp [wrap, descend, ih]

lemma exists_lookup (path : String) (value : Bson) : ∃ d : Document, d.lookup path = some value := by
  obtain ⟨name, names, hsegments⟩ := List.exists_cons_of_ne_nil (segments_ne_nil path)
  refine ⟨[(name, wrap names value)], ?_⟩
  rw [lookup, hsegments]
  exact descend_wrap (name :: names) value

end Document

namespace Operator

open Bson

variable {op : Operator} {s : String}

lemma coerceDates_of_no_date (h : Instant.parse? s = none) : coerceDates (.string s) = .string s := by
  rw [coerceDates, h]

lemma coerceDates_of_date {t : Instant} (h : Instant.parse? s = some t) :
    coerceDates (.string s) = .dateTime t.millis := by
  rw [coerceDates, h]

def sought (s : String) : String := (coerceDates (.string s)).literal

lemma sought_of_no_date (h : Instant.parse? s = none) : sought s = s := by
  rw [sought, coerceDates_of_no_date h, literal]

lemma not_finds_sought {t : Instant} (h : Instant.parse? s = some t) : ¬op.Finds (sought s) s := by
  intro hfinds
  have hsought : '(' ∈ (sought s).toList := by
    rw [sought, coerceDates_of_date h]
    exact bracket_mem_literal t.millis
  obtain ⟨c, hc, hfold⟩ := List.mem_map.mp (hfinds.mem_folded (List.mem_map_of_mem hsought))
  obtain rfl := Text.eq_of_fold_bracket (hfold.trans (by decide +kernel))
  exact Instant.no_bracket_of_parse h hc

lemma sought_agrees_iff (hop : op ∈ textual) (path : String) :
    (∀ d : Document, HasString (op.Finds (sought s)) (d.lookup path) ↔ HasString (op.Finds s) (d.lookup path)) ↔
      Instant.parse? s = none := by
  constructor
  · intro hagree
    by_contra hdate
    obtain ⟨t, ht⟩ := Option.ne_none_iff_exists'.mp hdate
    obtain ⟨d, hd⟩ := Document.exists_lookup path (.string s)
    obtain ⟨s', hfinds, hstring | ⟨items, hitems, -⟩⟩ := (hagree d).mpr ⟨s, finds_self hop s, .inl hd⟩
    · obtain rfl : s = s' := string.inj (Option.some.inj (hd.symm.trans hstring))
      exact not_finds_sought ht hfinds
    · cases hd.symm.trans hitems
  · intro hdate d
    rw [sought_of_no_date hdate]

end Operator

namespace Config

open Operator

variable {c : Config} {query : Query} {column : String} {found : Column} {op : Operator}

lemma advancedTree_single (hcolumn : c.filterColumn? column = some found) (ho : c.override? column = none)
    (hk : column ≠ searchKey) (value : Json) :
    c.advancedTree query [[⟨column, op, value⟩]] =
      .ok ⟨some (op.predicate found.path (Bson.coerceDates (.ofJson value))), none⟩ := by
  have hpart : c.advancedPart query ⟨column, op, value⟩ =
      .ok (some (op.predicate found.path (Bson.coerceDates (.ofJson value)))) := by
    rw [advancedPart_of_no_override ho, filterColumn_ok_iff.mpr hcolumn]
    rfl
  rw [advancedTree, treeParts, groupParts, if_neg hk, hpart]
  rfl

lemma advancedTree_search (value : Json) :
    c.advancedTree query [[⟨searchKey, op, value⟩]] = .ok ⟨none, some value.param⟩ := rfl

/-- A condition that looks for a text in a column without a condition of its own looks for what the text
is shown as once it is a date. It finds the text itself, as the search does, exactly if the text is no
date. On the search column it is no condition but the words of a search. -/
theorem text_condition_reaches (c : Config) (query : Query) (column : String) (found : Column) (op : Operator)
    (s : String) (hcolumn : c.filterColumn? column = some found) (ho : c.override? column = none)
    (hop : op ∈ textual) :
    let tree := c.advancedTree query [[⟨column, op, .string s⟩]]
    (column = searchKey → tree = .ok ⟨none, some s⟩) ∧
      (column ≠ searchKey → ∃ p, tree = .ok ⟨some p, none⟩ ∧
        ((sought s).length ≤ 14000 → ∃ m, Matcher.compile p = .ok m) ∧
        (∀ e, Matcher.compile p = .error e → e = Matcher.invalidPattern (op.sourceOf (sought s)) .size) ∧
        ∀ m, Matcher.compile p = .ok m →
          (∀ d, m.admits p d = true ↔ Bson.HasString (op.Finds (sought s)) (d.lookup found.path)) ∧
          ((∀ d, m.admits p d = true ↔ Bson.HasString (op.Finds s) (d.lookup found.path)) ↔
            Instant.parse? s = none) ∧
          (op = .like → c.override? found.path = none →
            ∃ searched, c.searchPart query s found.path = some searched ∧ ∀ m', Matcher.compile searched = .ok m' →
              ((∀ d, m.admits p d = m'.admits searched d) ↔ Instant.parse? s = none))) := by
  intro tree
  refine ⟨?_, fun hk => ⟨_, advancedTree_single hcolumn ho hk (.string s),
    exists_compile_textual hop found.path _, fun e => error_of_textual hop, fun m hm => ?_⟩⟩
  · rintro rfl
    exact advancedTree_search (.string s)
  · have hadmits := admits_textual_iff hop hm
    have hagree := sought_agrees_iff (s := s) hop found.path
    refine ⟨hadmits, ?_, ?_⟩
    · rw [← hagree]
      exact forall_congr' fun d => by rw [hadmits]; rfl
    · rintro rfl hpath
      refine ⟨like.predicate found.path (.string s), ?_, fun m' hm' => ?_⟩
      · rw [searchPart_eq, ownOr_of_no_override hpath]
      · rw [← hagree]
        exact forall_congr' fun d => by
          rw [Bool.eq_iff_iff, hadmits, admits_textual_iff hop hm']
          rfl

theorem word_reached_at_end :
    let c := (Config.new "Articles" "articles").withFilterColumn "title" "title"
    c.filterColumn? "title" = some ⟨"title", none⟩ ∧ c.override? "title" = none ∧ ends ∈ textual ∧
      ∃ p m, c.advancedTree (.on "articles") [[⟨"title", ends, .string "May"⟩]] = .ok ⟨some p, none⟩ ∧
        Matcher.compile p = .ok m ∧
        ∀ d, m.admits p d = true ↔ Bson.HasString (ends.Finds "May") (d.lookup "title") := by
  intro c
  have hcolumn : c.filterColumn? "title" = some ⟨"title", none⟩ := by decide
  have ho : c.override? "title" = none := rfl
  have hop : ends ∈ textual := by decide
  obtain ⟨-, hcondition⟩ := text_condition_reaches c (.on "articles") "title" _ ends "May" hcolumn ho hop
  obtain ⟨p, htree, hcompiled, -, hmatcher⟩ := hcondition (by decide)
  have hdate : Instant.parse? "May" = none := by decide
  obtain rfl : ends.predicate "title" (.string "May") = p := by
    rw [advancedTree_single hcolumn ho (by decide), Bson.ofJson, coerceDates_of_no_date hdate] at htree
    simpa using htree
  obtain ⟨m, hm⟩ := hcompiled (by decide)
  exact ⟨hcolumn, ho, hop, _, m, htree, hm, (hmatcher m hm).2.1.mpr hdate⟩

/-- A day that a document holds as text is missed by a condition that looks for this text, and found by
the search for it. -/
theorem day_missed_by_its_text :
    let c := (Config.new "Articles" "articles").withFilterColumn "released" "released"
    let d : Document := [("released", .string "2024-03-01")]
    Bson.HasString (like.Finds "2024-03-01") (d.lookup "released") ∧
      (∃ p m, c.advancedTree (.on "articles") [[⟨"released", like, .string "2024-03-01"⟩]] =
        .ok ⟨some p, none⟩ ∧ Matcher.compile p = .ok m ∧ m.admits p d = false) ∧
      ∃ p m, c.searchPart (.on "articles") "2024-03-01" "released" = some p ∧
        Matcher.compile p = .ok m ∧ m.admits p d = true := by
  intro c d
  have hop : like ∈ textual := by decide
  have hfound : d.lookup "released" = some (.string "2024-03-01") := rfl
  have hholds : Bson.HasString (like.Finds "2024-03-01") (d.lookup "released") :=
    ⟨"2024-03-01", finds_self hop _, .inl hfound⟩
  have hday : Instant.parse? "2024-03-01" = some ⟨1709251200, 0⟩ := by decide
  let moment : Bson := .dateTime 1709251200000
  have hshown : moment.literal = "DateTime(\"2024-03-01 0:00:00.0 +00:00:00\")" := by decide
  obtain ⟨m, hcondition⟩ := exists_compile_textual hop "released" moment (by rw [hshown]; decide)
  obtain ⟨m', hsearch⟩ := exists_compile_textual hop "released" (.string "2024-03-01") (by decide)
  refine ⟨hholds, ⟨_, m, ?_, hcondition, Bool.eq_false_iff.mpr fun hadmits => ?_⟩,
    _, m', rfl, hsearch, (admits_textual_iff hop hsearch d).mpr hholds⟩
  · have hcolumn : c.filterColumn? "released" = some ⟨"released", none⟩ := by decide
    rw [advancedTree_single hcolumn rfl (by decide), Bson.ofJson, coerceDates_of_date hday]
    rfl
  · obtain ⟨s, hfinds, hstring | ⟨items, hitems, -⟩⟩ := (admits_textual_iff hop hcondition d).mp hadmits
    · obtain rfl : "2024-03-01" = s := Bson.string.inj (Option.some.inj (hfound.symm.trans hstring))
      revert hfinds
      rw [hshown]
      decide
    · cases hfound.symm.trans hitems

end Config

end DataGrid
