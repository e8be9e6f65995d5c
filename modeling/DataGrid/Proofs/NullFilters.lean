import DataGrid.Proofs.DateConditions

namespace DataGrid

namespace Bson

def HoldsNull (actual : Option Bson) : Prop := ∃ items, actual = some (.array items) ∧ .null ∈ items

lemma equalValue_null_iff (value : Bson) : equalValue value .null = true ↔ value = .null := by
  cases value <;> simp [equalValue, compare?, integer?, number?, compareWithinKind?, same]

lemma not_absent_of_holdsNull {actual : Option Bson} (h : HoldsNull actual) : ¬Absent actual := by
  obtain ⟨items, rfl, -⟩ := h
  simp [Absent]

lemma fieldEquals_null_iff {actual : Option Bson} :
    fieldEquals actual .null = true ↔ Absent actual ∨ HoldsNull actual := by
  cases actual with
  | none => simp [fieldEquals, isNull, Absent]
  | some value =>
    by_cases ha : ∃ items, value = .array items
    · obtain ⟨items, rfl⟩ := ha
      simp [fieldEquals, isArray, equalValue_null_iff, Absent, HoldsNull]
    · have hnull : ¬HoldsNull (some value) := by
        rintro ⟨items, hitems, -⟩
        exact ha ⟨items, Option.some.inj hitems⟩
      have hvalue : fieldEquals (some value) .null = equalValue value .null := by
        cases value <;> first | rfl | exact absurd ⟨_, rfl⟩ ha
      simp [hvalue, equalValue_null_iff, Absent, hnull]

end Bson

namespace Config

open Bson

variable {c : Config} {query : Query} {column : String} {found : Column}

lemma plainFilter_single (hcolumn : c.filterColumn? column = some found) (ho : c.override? column = none)
    (hk : column ≠ searchKey) (value : Json) :
    c.plainFilter query [(column, value)] = .ok (some (plainPredicate found value)) := by
  rw [plainFilter, plainParts, if_neg hk, plainPart_of_no_override ho, filterColumn_ok_iff.mpr hcolumn]
  rfl

variable {m : Matcher} {field : String} {d : Document}

lemma admits_notNull : m.admits (.notNull field) d = !m.admits (.isNull field) d := by
  rw [Matcher.admits, Matcher.admits, Predicate.meets, Predicate.meets]

lemma admits_ne {value : Bson} : m.admits (.ne field value) d = !m.admits (.eq field value) d := by
  rw [Matcher.admits, Matcher.admits, Predicate.meets, Predicate.meets, Relation.holds, Relation.holds]

lemma admits_isNull_iff : m.admits (.isNull field) d = true ↔ Absent (d.lookup field) := by
  rw [Matcher.admits, Predicate.meets, fieldIsNull_iff]

lemma admits_notNull_iff : m.admits (.notNull field) d = true ↔ ¬Absent (d.lookup field) := by
  rw [admits_notNull, Bool.not_eq_true', ← admits_isNull_iff (m := m), Bool.not_eq_true]

lemma admits_eqNull_iff :
    m.admits (.eq field .null) d = true ↔ Absent (d.lookup field) ∨ HoldsNull (d.lookup field) := by
  rw [Matcher.admits, Predicate.meets, Relation.holds, fieldEquals_null_iff]

lemma null_agrees_iff : m.admits (.isNull field) d = m.admits (.eq field .null) d ↔ ¬HoldsNull (d.lookup field) := by
  have hapart : HoldsNull (d.lookup field) → ¬Absent (d.lookup field) := not_absent_of_holdsNull
  rw [Bool.eq_iff_iff, admits_isNull_iff, admits_eqNull_iff]
  by_cases hn : HoldsNull (d.lookup field)
  · simp [hn, hapart hn]
  · simp [hn]

lemma notNull_agrees_iff :
    m.admits (.notNull field) d = m.admits (.ne field .null) d ↔ ¬HoldsNull (d.lookup field) := by
  rw [admits_notNull, admits_ne, Bool.not_inj_iff, null_agrees_iff]

/-- The plain filter for null and the condition that a column equals null part ways, as do their
opposites, exactly on a list that holds a null. Yet the opposites have one filter document. -/
theorem null_filters_agree_iff (c : Config) (query : Query) (column : String) (found : Column)
    (hcolumn : c.filterColumn? column = some found) (ho : c.override? column = none) :
    let plain (value : Json) := c.plainFilter query [(column, value)]
    let advanced (op : Operator) := c.advancedTree query [[⟨column, op, .null⟩]]
    (column = searchKey → plain .null = .ok none ∧ plain (.string "__not_null__") = .ok none ∧
      ∀ op, advanced op = .ok ⟨none, some ""⟩) ∧
    (column ≠ searchKey → ∃ null null' filled filled',
      plain .null = .ok (some null) ∧ advanced .eq = .ok ⟨some null', none⟩ ∧
      plain (.string "__not_null__") = .ok (some filled) ∧ advanced .neq = .ok ⟨some filled', none⟩ ∧
      filled.document = filled'.document ∧
      (∀ p ∈ [null, null', filled, filled'], ∃ m, Matcher.compile p = .ok m) ∧
      ∀ (m : Matcher) (d : Document),
        let actual := d.lookup found.path
        (m.admits null d = true ↔ Absent actual) ∧ (m.admits filled d = true ↔ ¬Absent actual) ∧
        (m.admits null d = m.admits null' d ↔ ¬HoldsNull actual) ∧
        (m.admits filled d = m.admits filled' d ↔ ¬HoldsNull actual)) := by
  intro plain advanced
  refine ⟨?_, fun hk => ?_⟩
  · rintro rfl
    exact ⟨rfl, rfl, fun op => advancedTree_search .null⟩
  · refine ⟨.isNull found.path, .eq found.path .null, .notNull found.path, .ne found.path .null,
      plainFilter_single hcolumn ho hk .null, advancedTree_single hcolumn ho hk .null,
      plainFilter_single hcolumn ho hk (.string "__not_null__"), advancedTree_single hcolumn ho hk .null, rfl, ?_, ?_⟩
    · simp [Matcher.compile, Matcher.collect]
    · exact fun m d => ⟨admits_isNull_iff, admits_notNull_iff, null_agrees_iff, notNull_agrees_iff⟩

theorem null_filters_agree_on_missing :
    let c := (Config.new "Articles" "articles").withFilterColumn "tags" "meta.tags"
    c.filterColumn? "tags" = some ⟨"meta.tags", none⟩ ∧ c.override? "tags" = none ∧
      ∃ null null', c.plainFilter (.on "articles") [("tags", .null)] = .ok (some null) ∧
        c.advancedTree (.on "articles") [[⟨"tags", .eq, .null⟩]] = .ok ⟨some null', none⟩ ∧
        ∀ m : Matcher, m.admits null' [("title", .string "Lean")] = true := by
  intro c
  have hcolumn : c.filterColumn? "tags" = some ⟨"meta.tags", none⟩ := by decide
  obtain ⟨-, hfilters⟩ := null_filters_agree_iff c (.on "articles") "tags" _ hcolumn rfl
  obtain ⟨null, null', filled, filled', hnull, hnull', -, -, -, -, hagree⟩ := hfilters (by decide)
  refine ⟨hcolumn, rfl, null, null', hnull, hnull', fun m => ?_⟩
  have hmissing : Document.lookup [("title", .string "Lean")] "meta.tags" = none := rfl
  obtain ⟨habsent, -, hsame, -⟩ := hagree m [("title", .string "Lean")]
  rw [hmissing] at habsent hsame
  rw [← hsame.mpr (by simp [HoldsNull])]
  exact habsent.mpr (.inl rfl)

/-- A list that holds a null: the plain filter misses it where the condition finds it, and the mark for
not null finds it where the condition misses it, though both are one filter document. -/
theorem list_of_null_divides_filters :
    let c := (Config.new "Articles" "articles").withFilterColumn "tags" "tags"
    let d : Document := [("tags", .array [.null])]
    let s : MemoryStore := ⟨[("articles", ⟨[d], false⟩)]⟩
    let matched (p : Predicate) := s.find { Query.on "articles" with conditions := [p] }
    (∃ null null', c.plainFilter (.on "articles") [("tags", .null)] = .ok (some null) ∧
      c.advancedTree (.on "articles") [[⟨"tags", .eq, .null⟩]] = .ok ⟨some null', none⟩ ∧
      matched null = some (.ok []) ∧ matched null' = some (.ok [d])) ∧
    ∃ filled filled', c.plainFilter (.on "articles") [("tags", .string "__not_null__")] = .ok (some filled) ∧
      c.advancedTree (.on "articles") [[⟨"tags", .neq, .null⟩]] = .ok ⟨some filled', none⟩ ∧
      filled.document = filled'.document ∧ matched filled = some (.ok [d]) ∧ matched filled' = some (.ok []) :=
  ⟨⟨.isNull "tags", .eq "tags" .null, rfl, rfl, rfl, rfl⟩, .notNull "tags", .ne "tags" .null, rfl, rfl, rfl, rfl, rfl⟩

end Config

end DataGrid
