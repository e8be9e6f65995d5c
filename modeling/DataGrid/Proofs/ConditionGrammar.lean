import DataGrid.Proofs.HeaderParams

namespace DataGrid

namespace Operator

def NamedBy (op : Operator) (text : String) : Prop := Text.asciiLower (Text.trim text) = op.name

lemma mem_all (op : Operator) : op ∈ all := by cases op <;> decide

lemma name_inj : ∀ {op op' : Operator}, op.name = op'.name → op = op' := by
  have hall : ∀ op ∈ all, ∀ op' ∈ all, op.name = op'.name → op = op' := by decide
  exact fun {op op'} h => hall op (mem_all op) op' (mem_all op') h

lemma lower_name (op : Operator) : op.name.toList.map Char.toLower = op.name.toList := by
  cases op <;> decide

lemma sameAscii_name_iff {op : Operator} {text : String} :
    Text.sameAscii op.name (Text.trim text) = true ↔ op.NamedBy text := by
  rw [Text.sameAscii, beq_iff_eq, lower_name, NamedBy, Text.asciiLower, ← String.toList_inj, String.toList_ofList,
    eq_comm]

lemma parse_ok_iff {op : Operator} {text : String} : parse text = .ok op ↔ op.NamedBy text := by
  rw [parse]
  constructor
  · intro h
    split at h
    case h_1 found hfound =>
      obtain rfl := Except.ok.inj h
      have hsame := List.find?_some hfound
      exact sameAscii_name_iff.mp hsame
    case h_2 => cases h
  · intro h
    cases hfound : all.find? fun op => Text.sameAscii op.name (Text.trim text) with
    | none => exact absurd (sameAscii_name_iff.mpr h) (List.find?_eq_none.mp hfound op (mem_all op))
    | some op' =>
      have hsame := List.find?_some hfound
      have hnamed : op'.NamedBy text := sameAscii_name_iff.mp hsame
      rw [name_inj (hnamed.symm.trans h)]

lemma parse_error_iff {text : String} {why : Malformed} :
    parse text = .error why ↔ (∀ op : Operator, ¬op.NamedBy text) ∧ why = .unknownOperation (Text.trim text) := by
  cases hparse : parse text with
  | ok op => simpa using fun h => absurd (parse_ok_iff.mp hparse) (h op)
  | error fault =>
    have hnone : ∀ op : Operator, ¬op.NamedBy text := fun op h => by cases (parse_ok_iff.mpr h).symm.trans hparse
    have hfault : fault = .unknownOperation (Text.trim text) := by
      rw [parse] at hparse
      split at hparse
      · cases hparse
      · exact (Except.error.inj hparse).symm
    subst hfault
    simp [hnone, eq_comm]

lemma isNullCheck_iff {op : Operator} : op.isNullCheck = true ↔ op = .filled ∨ op = .notFilled := by
  simp [isNullCheck]

end Operator

namespace Condition

inductive Reads : Json → Condition → Prop
  | given {members : List (String × Json)} {column name : String} {op : Operator} {value : Json}
      (hcolumn : members.lookup "column" = some (.string column))
      (hname : members.lookup "operation" = some (.string name)) (hop : op.NamedBy name)
      (hvalue : members.lookup "value" = some value) :
      Reads (.object members) ⟨if column = "search" then "__search__" else column, op, value⟩
  | omitted {members : List (String × Json)} {column name : String} {op : Operator}
      (hcolumn : members.lookup "column" = some (.string column))
      (hname : members.lookup "operation" = some (.string name)) (hop : op.NamedBy name)
      (hcheck : op = .filled ∨ op = .notFilled) (hvalue : members.lookup "value" = none) :
      Reads (.object members) ⟨if column = "search" then "__search__" else column, op, .string ""⟩

inductive Faulty : Json → Malformed → Prop
  | notObject {raw : Json} (h : ∀ members, raw ≠ .object members) : Faulty raw (.notObject raw)
  | noColumn {members : List (String × Json)} (h : ∀ column, members.lookup "column" ≠ some (.string column)) :
      Faulty (.object members) .noColumn
  | noOperation {members : List (String × Json)} {column : String}
      (hcolumn : members.lookup "column" = some (.string column))
      (h : ∀ name, members.lookup "operation" ≠ some (.string name)) :
      Faulty (.object members) (.noOperation column)
  | unknownOperation {members : List (String × Json)} {column name : String}
      (hcolumn : members.lookup "column" = some (.string column))
      (hname : members.lookup "operation" = some (.string name)) (h : ∀ op : Operator, ¬op.NamedBy name) :
      Faulty (.object members) (.unknownOperation (Text.trim name))
  | noValue {members : List (String × Json)} {column name : String} {op : Operator}
      (hcolumn : members.lookup "column" = some (.string column))
      (hname : members.lookup "operation" = some (.string name)) (hop : op.NamedBy name)
      (hcheck : ¬(op = .filled ∨ op = .notFilled)) (hvalue : members.lookup "value" = none) :
      Faulty (.object members) (.noValue column)

variable {members : List (String × Json)} {raw : Json} {condition : Condition} {why : Malformed}

lemma textMember?_eq_some_iff {name text : String} :
    textMember? members name = some text ↔ members.lookup name = some (.string text) := by
  rw [textMember?]
  cases members.lookup name with
  | none => simp
  | some value => cases value <;> simp [Json.string?]

lemma textMember?_eq_none_iff {name : String} :
    textMember? members name = none ↔ ∀ text, members.lookup name ≠ some (.string text) := by
  rw [Option.eq_none_iff_forall_ne_some]
  exact forall_congr' fun text => not_congr textMember?_eq_some_iff

lemma ofMembers_named {column name : String} (hcolumn : members.lookup "column" = some (.string column))
    (hname : members.lookup "operation" = some (.string name)) :
    ofMembers members = Operator.parse name >>= fun op => value? members column op >>= fun value =>
      .ok ⟨if column = "search" then "__search__" else column, op, value⟩ := by
  rw [ofMembers, textMember?_eq_some_iff.mpr hcolumn, textMember?_eq_some_iff.mpr hname, Option.elim_some,
    Outcome.ok_bind, Option.elim_some, Outcome.ok_bind]
  rfl

lemma ofJson_of_reads (h : Reads raw condition) : ofJson raw = .ok condition := by
  cases h with
  | given hcolumn hname hop hvalue =>
    rw [ofJson, ofMembers_named hcolumn hname, Operator.parse_ok_iff.mpr hop, Outcome.ok_bind, value?, hvalue]
    rfl
  | omitted hcolumn hname hop hcheck hvalue =>
    rw [ofJson, ofMembers_named hcolumn hname, Operator.parse_ok_iff.mpr hop, Outcome.ok_bind, value?, hvalue]
    dsimp only
    rw [if_pos (Operator.isNullCheck_iff.mpr hcheck)]
    rfl

lemma ofJson_of_faulty (h : Faulty raw why) : ofJson raw = .error why := by
  cases h with
  | notObject h =>
    rw [ofJson]
    exact h
  | noColumn h => rw [ofJson, ofMembers, textMember?_eq_none_iff.mpr h, Option.elim_none, Outcome.error_bind]
  | noOperation hcolumn h =>
    rw [ofJson, ofMembers, textMember?_eq_some_iff.mpr hcolumn, textMember?_eq_none_iff.mpr h, Option.elim_some,
      Outcome.ok_bind, Option.elim_none, Outcome.error_bind]
  | unknownOperation hcolumn hname h =>
    rw [ofJson, ofMembers_named hcolumn hname, Operator.parse_error_iff.mpr ⟨h, rfl⟩, Outcome.error_bind]
  | noValue hcolumn hname hop hcheck hvalue =>
    rw [ofJson, ofMembers_named hcolumn hname, Operator.parse_ok_iff.mpr hop, Outcome.ok_bind, value?, hvalue]
    dsimp only
    rw [if_neg (mt Operator.isNullCheck_iff.mp hcheck), Outcome.error_bind]

lemma reads_object (column : String) {name : String} {op : Operator} (hop : op.NamedBy name) (value : Json) :
    Reads (.object [("column", .string column), ("operation", .string name), ("value", value)])
      ⟨if column = "search" then "__search__" else column, op, value⟩ :=
  .given rfl rfl hop rfl

lemma reads_or_faulty (raw : Json) : (∃ condition, Reads raw condition) ∨ ∃ why, Faulty raw why := by
  by_cases hobject : ∀ members, raw ≠ .object members
  · exact .inr ⟨_, .notObject hobject⟩
  obtain ⟨members, rfl⟩ := not_forall_not.mp hobject
  by_cases hcolumn : ∀ column, members.lookup "column" ≠ some (.string column)
  · exact .inr ⟨_, .noColumn hcolumn⟩
  obtain ⟨column, hcolumn⟩ := not_forall_not.mp hcolumn
  by_cases hname : ∀ name, members.lookup "operation" ≠ some (.string name)
  · exact .inr ⟨_, .noOperation hcolumn hname⟩
  obtain ⟨name, hname⟩ := not_forall_not.mp hname
  by_cases hop : ∀ op : Operator, ¬op.NamedBy name
  · exact .inr ⟨_, .unknownOperation hcolumn hname hop⟩
  obtain ⟨op, hop⟩ := not_forall_not.mp hop
  cases hvalue : members.lookup "value" with
  | some value => exact .inl ⟨_, .given hcolumn hname hop hvalue⟩
  | none =>
    by_cases hcheck : op = .filled ∨ op = .notFilled
    · exact .inl ⟨_, .omitted hcolumn hname hop hcheck hvalue⟩
    · exact .inr ⟨_, .noValue hcolumn hname hop hcheck hvalue⟩

lemma ofJson_ok_iff : ofJson raw = .ok condition ↔ Reads raw condition := by
  refine ⟨fun h => ?_, ofJson_of_reads⟩
  rcases reads_or_faulty raw with ⟨condition', hreads⟩ | ⟨why, hfaulty⟩
  · obtain rfl := Except.ok.inj (h.symm.trans (ofJson_of_reads hreads))
    exact hreads
  · cases h.symm.trans (ofJson_of_faulty hfaulty)

lemma ofJson_error_iff : ofJson raw = .error why ↔ Faulty raw why := by
  refine ⟨fun h => ?_, ofJson_of_faulty⟩
  rcases reads_or_faulty raw with ⟨condition, hreads⟩ | ⟨why', hfaulty⟩
  · cases h.symm.trans (ofJson_of_reads hreads)
  · obtain rfl := Except.error.inj (h.symm.trans (ofJson_of_faulty hfaulty))
    exact hfaulty

/-- An object with the members that a condition needs; only a check for null does without a value. -/
def IsWritten (raw : Json) : Prop :=
  ∃ (members : List (String × Json)) (column name : String) (op : Operator), raw = .object members ∧
    members.lookup "column" = some (.string column) ∧ members.lookup "operation" = some (.string name) ∧
    op.NamedBy name ∧ ((members.lookup "value").isSome = true ∨ op = .filled ∨ op = .notFilled)

lemma isWritten_iff : IsWritten raw ↔ ∃ condition, Reads raw condition := by
  constructor
  · rintro ⟨members, column, name, op, rfl, hcolumn, hname, hop, hgiven⟩
    cases hvalue : members.lookup "value" with
    | some value => exact ⟨_, .given hcolumn hname hop hvalue⟩
    | none => exact ⟨_, .omitted hcolumn hname hop (hgiven.resolve_left (by simp [hvalue])) hvalue⟩
  · rintro ⟨condition, h⟩
    cases h with
    | given hcolumn hname hop hvalue => exact ⟨_, _, _, _, rfl, hcolumn, hname, hop, .inl (by rw [hvalue]; rfl)⟩
    | omitted hcolumn hname hop hcheck => exact ⟨_, _, _, _, rfl, hcolumn, hname, hop, .inr hcheck⟩

lemma Reads.column_ne (h : Reads raw condition) : condition.column ≠ "search" := by
  have hinner : ∀ column : String, (if column = "search" then "__search__" else column) ≠ "search" := by
    intro column
    split
    · decide
    · assumption
  cases h <;> exact hinner _

inductive ReadsGroup : Json → List Condition → Prop
  | list {items : List Json} {conditions : List Condition} (h : List.Forall₂ Reads items conditions) :
      ReadsGroup (.array items) conditions

inductive FaultyGroup : Json → Malformed → Prop
  | notList {group : Json} (h : ∀ items, group ≠ .array items) : FaultyGroup group (.notList group)
  | condition {before later : List Json} {raw : Json} {why : Malformed} (hbefore : ∀ item ∈ before, IsWritten item)
      (h : Faulty raw why) : FaultyGroup (.array (before ++ raw :: later)) why

def IsWrittenGroup (group : Json) : Prop := ∃ items, group = .array items ∧ ∀ item ∈ items, IsWritten item

lemma exists_ofJson_iff : (∃ condition, ofJson raw = .ok condition) ↔ IsWritten raw := by
  simp only [isWritten_iff, ofJson_ok_iff]

lemma groupOfJson_of_not_list {group : Json} (h : ∀ items, group ≠ .array items) :
    groupOfJson group = .error (.notList group) := by
  rw [groupOfJson]
  exact h

lemma groupOfJson_ok_iff {group : Json} {conditions : List Condition} :
    groupOfJson group = .ok conditions ↔ ReadsGroup group conditions := by
  constructor
  · intro h
    by_cases hlist : ∀ items, group ≠ .array items
    · cases h.symm.trans (groupOfJson_of_not_list hlist)
    · obtain ⟨items, rfl⟩ := not_forall_not.mp hlist
      exact .list ((Outcome.mapM_ok_iff_forall₂.mp h).imp fun _ _ => ofJson_ok_iff.mp)
  · rintro ⟨h⟩
    exact Outcome.mapM_ok_iff_forall₂.mpr (h.imp fun _ _ => ofJson_of_reads)

lemma groupOfJson_error_iff {group : Json} : groupOfJson group = .error why ↔ FaultyGroup group why := by
  constructor
  · intro h
    by_cases hlist : ∀ items, group ≠ .array items
    · obtain rfl := Except.error.inj (h.symm.trans (groupOfJson_of_not_list hlist))
      exact .notList hlist
    · obtain ⟨items, rfl⟩ := not_forall_not.mp hlist
      obtain ⟨before, raw, later, rfl, hbefore, hraw⟩ := Outcome.mapM_error_iff.mp h
      exact .condition (fun item hitem => exists_ofJson_iff.mp (hbefore item hitem)) (ofJson_error_iff.mp hraw)
  · intro h
    cases h with
    | notList hlist => exact groupOfJson_of_not_list hlist
    | condition hbefore hraw =>
      exact Outcome.mapM_error_iff.mpr
        ⟨_, _, _, rfl, fun item hitem => exists_ofJson_iff.mpr (hbefore item hitem), ofJson_of_faulty hraw⟩

lemma exists_groupOfJson_iff {group : Json} :
    (∃ conditions, groupOfJson group = .ok conditions) ↔ IsWrittenGroup group := by
  constructor
  · rintro ⟨conditions, h⟩
    obtain ⟨hitems⟩ := groupOfJson_ok_iff.mp h
    refine ⟨_, rfl, fun item hitem => exists_ofJson_iff.mp ?_⟩
    exact Outcome.exists_mapM_ok_iff.mp ⟨conditions, h⟩ item hitem
  · rintro ⟨items, rfl, hitems⟩
    exact Outcome.exists_mapM_ok_iff.mpr fun item hitem => exists_ofJson_iff.mpr (hitems item hitem)

end Condition

namespace Request

open Condition

variable {r : Request} {groups : List Json}

lemma advancedFilter_of_sent (h : r.jsonParam? "advanced_filter" = some (.array groups)) :
    r.advancedFilter = (groups.mapM groupOfJson).mapError .malformedCondition := by
  rw [advancedFilter, Params.advancedName, h]

lemma advancedFilter_reads_iff (h : r.jsonParam? "advanced_filter" = some (.array groups))
    (tree : List (List Condition)) : r.advancedFilter = .ok tree ↔ List.Forall₂ ReadsGroup groups tree := by
  rw [advancedFilter_of_sent h, Outcome.mapError_ok_iff, Outcome.mapM_ok_iff_forall₂]
  simp only [groupOfJson_ok_iff]

lemma exists_advancedFilter_iff (h : r.jsonParam? "advanced_filter" = some (.array groups)) :
    (∃ tree, r.advancedFilter = .ok tree) ↔ ∀ group ∈ groups, IsWrittenGroup group := by
  simp only [advancedFilter_of_sent h, Outcome.mapError_ok_iff, Outcome.exists_mapM_ok_iff, exists_groupOfJson_iff]

lemma advancedFilter_error_iff (h : r.jsonParam? "advanced_filter" = some (.array groups)) (e : Error) :
    r.advancedFilter = .error e ↔ ∃ before group later why, groups = before ++ group :: later ∧
      (∀ g ∈ before, IsWrittenGroup g) ∧ FaultyGroup group why ∧ e = .malformedCondition why := by
  rw [advancedFilter_of_sent h, Outcome.mapError_error_iff]
  simp only [Outcome.mapM_error_iff, exists_groupOfJson_iff, groupOfJson_error_iff]
  constructor
  · rintro ⟨why, ⟨before, group, later, hsplit, hbefore, hfault⟩, rfl⟩
    exact ⟨before, group, later, why, hsplit, hbefore, hfault, rfl⟩
  · rintro ⟨before, group, later, why, hsplit, hbefore, hfault, rfl⟩
    exact ⟨why, ⟨before, group, later, hsplit, hbefore, hfault⟩, rfl⟩

lemma advancedFilter_of_unsent (h : ∀ groups, r.jsonParam? "advanced_filter" ≠ some (.array groups)) :
    r.advancedFilter = .ok [] := by
  rw [advancedFilter]
  split
  case h_1 groups hsent => exact absurd hsent (h groups)
  case h_2 => rfl

lemma jsonParam?_eq (r : Request) (name : String) :
    r.jsonParam? name = (r.params.get? name).bind fun text => Json.parse? (Text.trim text) := by
  have hempty : Json.parse? "" = none := rfl
  cases hparam : r.params.get? name with
  | none => simp only [jsonParam?, hparam, Option.bind_eq_bind, Option.bind_none]
  | some text =>
    simp only [jsonParam?, hparam, Option.bind_eq_bind, Option.bind_some]
    split
    case isTrue h => rw [String.isEmpty_iff.mp h, hempty]
    case isFalse => rfl

lemma advancedFilter_of_compact {tree : List (List Condition)}
    (hsent : r.params.get? "advanced_filter" = some (Json.array groups).compact)
    (hf : (Json.array groups).Every Json.Fits) (hn : (Json.array groups).Every Json.IsNoDouble)
    (hd : (Json.array groups).depth < 128) (h : List.Forall₂ ReadsGroup groups tree) : r.advancedFilter = .ok tree :=
  (advancedFilter_reads_iff (jsonParam?_compact_array hsent hf hn hd) tree).mpr h

/-- A parameter that is absent, blank, no JSON or no list is an empty filter. A list is read exactly if it is
made of groups, and these of conditions, that are written in full; group by group and condition by condition it
is then what was sent, the search by its inner name. Otherwise the first fault is reported and nothing is read. -/
theorem advancedFilter_by_grammar (r : Request) :
    let sent := r.params.get? "advanced_filter"
    (sent = none → r.advancedFilter = .ok []) ∧
    ∀ text, sent = some text →
      (Text.isBlankText text = true → r.advancedFilter = .ok []) ∧
      match Json.parse? (Text.trim text) with
      | some (.array groups) =>
        (∀ tree, r.advancedFilter = .ok tree ↔ List.Forall₂ ReadsGroup groups tree) ∧
        ((∃ tree, r.advancedFilter = .ok tree) ↔ ∀ group ∈ groups, IsWrittenGroup group) ∧
        (∀ e, r.advancedFilter = .error e ↔ ∃ before group later why, groups = before ++ group :: later ∧
          (∀ g ∈ before, IsWrittenGroup g) ∧ FaultyGroup group why ∧ e = .malformedCondition why) ∧
        ∀ tree, r.advancedFilter = .ok tree → ∀ conditions ∈ tree, ∀ condition ∈ conditions,
          condition.column ≠ "search"
      | _ => r.advancedFilter = .ok [] := by
  intro sent
  have hparam : r.jsonParam? "advanced_filter" = sent.bind fun text => Json.parse? (Text.trim text) :=
    jsonParam?_eq r "advanced_filter"
  refine ⟨fun habsent => ?_, fun text htext => ⟨fun hblank => ?_, ?_⟩⟩
  · apply advancedFilter_of_unsent
    simp [hparam, habsent]
  · apply advancedFilter_of_unsent
    have hempty : Text.trim text = "" := String.toList_eq_nil_iff.mp ((Text.toList_trim_eq_nil_iff text).mpr hblank)
    have hnone : Json.parse? "" = none := rfl
    simp [hparam, htext, hempty, hnone]
  · rw [htext, Option.bind_some] at hparam
    split
    case h_2 hlist =>
      apply advancedFilter_of_unsent
      exact fun groups hgroups => hlist groups (hparam.symm.trans hgroups)
    case h_1 groups hgroups =>
      have hsent := hparam.trans hgroups
      refine ⟨advancedFilter_reads_iff hsent, exists_advancedFilter_iff hsent, advancedFilter_error_iff hsent, ?_⟩
      intro tree htree conditions hconditions condition hcondition
      have hread := (advancedFilter_reads_iff hsent tree).mp htree
      obtain ⟨group, -, hgroup⟩ := Outcome.exists_of_forall₂ hread.flip hconditions
      obtain ⟨hitems⟩ := hgroup
      obtain ⟨item, -, hreads⟩ := Outcome.exists_of_forall₂ hitems.flip hcondition
      exact hreads.column_ne

theorem search_and_null_check_read :
    let search := "\x7b\"column\":\"search\",\"operation\":\" Like\",\"value\":null\x7d"
    let check := "\x7b\"column\":\"note\",\"operation\":\"NFL\"\x7d"
    (Request.new (Params.empty.insert "advanced_filter" (" [[" ++ search ++ "],[" ++ check ++ "]]"))).advancedFilter =
      .ok [[⟨"__search__", .like, .null⟩], [⟨"note", .notFilled, .string ""⟩]] := by
  let like : Json := .object [("column", .string "search"), ("operation", .string " Like"), ("value", .null)]
  let check : List (String × Json) := [("column", .string "note"), ("operation", .string "NFL")]
  let groups : List Json := [.array [like], .array [.object check]]
  have hread (text : String) (h : Json.parse? (Text.trim text) = some (.array groups))
      {tree : List (List Condition)} (htree : List.Forall₂ ReadsGroup groups tree) :
      (Request.new (Params.empty.insert "advanced_filter" text)).advancedFilter = .ok tree := by
    have hsent := Params.get?_insert_self .empty "advanced_filter" text
    have hgrammar := ((advancedFilter_by_grammar (Request.new (.insert .empty "advanced_filter" text))).2 text hsent).2
    rw [h] at hgrammar
    exact (hgrammar.1 tree).mpr htree
  have hlike : Operator.like.NamedBy " Like" := by
    rw [Operator.NamedBy]
    decide
  have hnfl : Operator.notFilled.NamedBy "NFL" := by
    rw [Operator.NamedBy]
    decide
  have hsearch := reads_object "search" hlike .null
  have hcheck := @Reads.omitted check "note" "NFL" .notFilled rfl rfl hnfl (.inr rfl) rfl
  rw [if_pos rfl] at hsearch
  rw [if_neg (by decide)] at hcheck
  have hgroups := List.Forall₂.cons (ReadsGroup.list (.cons hsearch .nil)) (.cons (.list (.cons hcheck .nil)) .nil)
  have htrimmed : Text.IsTrimmed (Json.array groups).written := by
    rw [Json.written]
    exact Text.isTrimmed_of_ends rfl rfl _
  have hblank : ∀ c ∈ [' '], Text.isBlank c = true := List.forall_mem_singleton.mpr rfl
  have hparse : Json.parse? (Text.trim (String.ofList (' ' :: (Json.array groups).written))) = some (.array groups) := by
    have hleft := Text.trimLeft_append hblank (Json.array groups).written
    rw [List.singleton_append] at hleft
    rw [Text.trim, String.toList_ofList, hleft, htrimmed.1, htrimmed.2]
    exact Json.parse?_compact (by decide) (by decide) (by decide)
  exact hread _ hparse hgroups

end Request

end DataGrid
