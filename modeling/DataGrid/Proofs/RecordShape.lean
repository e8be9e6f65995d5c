import DataGrid.Proofs.LastEntry
import DataGrid.Proofs.Reordering
import DataGrid.Record

namespace DataGrid

namespace Text

lemma length_hexFixed (width n : Nat) : (hexFixed width n).length = width := by
  induction width generalizing n with
  | zero => rfl
  | succ width ih => rw [hexFixed, List.length_append, ih, List.length_singleton]

lemma mem_of_mem_hexFixed {width n : Nat} {c : Char} (h : c ∈ hexFixed width n) : c ∈ "0123456789abcdef".toList := by
  have hdigits : ∀ k < 16, hexDigit k ∈ "0123456789abcdef".toList := by decide
  induction width generalizing n with
  | zero => cases h
  | succ width ih =>
    obtain h | h := List.mem_append.mp h
    · exact ih h
    · rw [List.mem_singleton.mp h]
      exact hdigits _ (Nat.mod_lt n (by decide))

lemma hexNumber?_hexFixed (width n : Nat) : hexNumber? (hexFixed width n) = some (n % 16 ^ width) := by
  have hvalue : ∀ k < 16, hexValue? (hexDigit k) = some k := by decide
  induction width generalizing n with
  | zero => simp [hexFixed, hexNumber?, Nat.mod_one]
  | succ width ih =>
    have hlast : hexNumber? (hexFixed (width + 1) n) = (hexNumber? (hexFixed width (n / 16))).bind fun m =>
        (hexValue? (hexDigit (n % 16))).bind fun k => some (m * 16 + k) := by
      rw [hexFixed, hexNumber?, List.foldl_append]
      rfl
    rw [hlast, ih, hvalue _ (Nat.mod_lt n (by decide)), Nat.pow_succ, Nat.mul_comm _ 16, Nat.mod_mul]
    simp [Nat.mul_comm, Nat.add_comm]

end Text

structure ObjectId.WrittenAs (id : ObjectId) (s : String) : Prop where
  length_eq : s.length = 24
  isHex_of_mem : ∀ c ∈ s.toList, c ∈ "0123456789abcdef".toList
  value_eq : Text.hexNumber? s.toList = some id.value.toNat

lemma ObjectId.writtenAs_hex (id : ObjectId) : id.WrittenAs id.hex where
  length_eq := by rw [hex, String.length_ofList, Text.length_hexFixed]
  isHex_of_mem := by
    rw [hex, String.toList_ofList]
    exact fun c => Text.mem_of_mem_hexFixed
  value_eq := by
    have hbound : id.value.toNat < 16 ^ 24 := id.value.isLt
    rw [hex, String.toList_ofList, Text.hexNumber?_hexFixed, Nat.mod_eq_of_lt hbound]

inductive Key
  | name (s : String)
  | index (i : Nat)

namespace Bson

def under? : Bson → Key → Option Bson
  | document fields, .name s => fields.lookup s
  | array items, .index i => items[i]?
  | _, _ => none

def at? (v : Bson) (path : List Key) : Option Bson := path.foldlM under? v

end Bson

namespace Json

def under? : Json → Key → Option Json
  | object members, .name s => members.lookup s
  | array items, .index i => items[i]?
  | _, _ => none

def at? (j : Json) (path : List Key) : Option Json := path.foldlM under? j

end Json

namespace Bson

variable {layout : String}

/-- What a value is shown as. Lists keep their length and documents their names; what stands in them has places
of its own. -/
def ShownAs (layout : String) : Bson → Json → Prop
  | objectId id, j => ∃ s, j = .string s ∧ id.WrittenAs s
  | dateTime millis, j => j = .string (Layout.format layout (Instant.clampedMillis millis))
  | array items, j => ∃ js, j = .array js ∧ js.length = items.length
  | document fields, j => ∃ members, j = .object members ∧ Fields.names members = Fields.names fields
  | v, j => j = v.extendedJson

lemma toItems_eq (items : List Bson) : toItems layout items = items.map (toJson layout) := by
  induction items with
  | nil => rfl
  | cons item items ih => rw [toItems, ih, List.map_cons]

lemma toMembers_eq (fields : List (String × Bson)) :
    toMembers layout fields = fields.map fun field => (field.1, field.2.toJson layout) := by
  induction fields with
  | nil => rfl
  | cons field fields ih => rw [toMembers, ih, List.map_cons]

lemma shownAs_toJson (v : Bson) : v.ShownAs layout (v.toJson layout) := by
  cases v with
  | objectId id => exact ⟨id.hex, rfl, id.writtenAs_hex⟩
  | array items => exact ⟨_, rfl, by rw [toItems_eq, List.length_map]⟩
  | document fields => exact ⟨_, rfl, by simp [toMembers_eq, Fields.names]⟩
  | _ => rfl

lemma under?_toJson {v w : Bson} {key : Key} (h : v.under? key = some w) :
    (v.toJson layout).under? key = some (w.toJson layout) := by
  cases v with
  | array items =>
    cases key with
    | name s => cases h
    | index i =>
      have hi : items[i]? = some w := h
      rw [toJson, Json.under?, toItems_eq, List.getElem?_map, hi, Option.map_some]
  | document fields =>
    cases key with
    | index i => cases h
    | name s =>
      have hs : fields.lookup s = some w := h
      rw [toJson, Json.under?, toMembers_eq, Fields.lookup_map, hs, Option.map_some]
  | _ => cases h

lemma at?_toJson {v w : Bson} {path : List Key} (h : v.at? path = some w) :
    (v.toJson layout).at? path = some (w.toJson layout) := by
  induction path generalizing v with
  | nil => exact congrArg (some <| toJson layout ·) (Option.some.inj h)
  | cons key path ih =>
    rw [at?, List.foldlM_cons, Option.bind_eq_bind, Option.bind_eq_some_iff] at h
    obtain ⟨u, hu, hw⟩ := h
    rw [Json.at?, List.foldlM_cons, under?_toJson hu]
    exact ih hw

end Bson

namespace Document

variable (layout : String) {d : Document}

lemma eq_of_publicName_eq (hid : ¬("_id" ∈ Fields.names d ∧ "id" ∈ Fields.names d)) {a b : String}
    (ha : a ∈ Fields.names d) (hb : b ∈ Fields.names d) (h : publicName a = publicName b) : a = b := by
  simp only [publicName] at h
  split_ifs at h with ha' hb' hb'
  · rw [ha', hb']
  · exact absurd ⟨ha' ▸ ha, h ▸ hb⟩ hid
  · exact absurd ⟨hb' ▸ hb, h ▸ ha⟩ hid
  · exact h

lemma record_eq_map (hnames : (Fields.names d).Nodup) (hid : ¬("_id" ∈ Fields.names d ∧ "id" ∈ Fields.names d)) :
    record layout d = d.map fun field => (publicName field.1, field.2.toJson layout) := by
  have hnodup : ((Fields.names d).map publicName).Nodup :=
    hnames.map_on fun a ha b hb => eq_of_publicName_eq hid ha hb
  rw [record, Fields.rename, Bson.toMembers_eq, List.map_map]
  exact Fields.ofList_of_nodup (by simpa [Fields.names, Function.comp_def] using hnodup)

lemma nodup_names_record (d : Document) : (Fields.names (record layout d)).Nodup := Fields.nodup_names_ofList _

lemma lookup_record (hnames : (Fields.names d).Nodup) (hid : ¬("_id" ∈ Fields.names d ∧ "id" ∈ Fields.names d))
    {name : String} {v : Bson} (h : List.lookup name d = some v) :
    (record layout d).lookup (publicName name) = some (v.toJson layout) := by
  rw [Fields.lookup_eq_some_iff_mem (nodup_names_record layout d), record_eq_map layout hnames hid]
  exact List.mem_map.mpr ⟨(name, v), (Fields.lookup_eq_some_iff_mem hnames).mp h, rfl⟩

/-- The record of a document with one name for its identifier has the same names in the same order, but `id` for
`_id`, and at every place within it stands what the value there is shown as. The records of what is found are
those of its documents, in order. -/
theorem record_mirrors (hnames : (Fields.names d).Nodup)
    (hid : ¬("_id" ∈ Fields.names d ∧ "id" ∈ Fields.names d)) :
    Fields.names (record layout d) = (Fields.names d).map publicName ∧
      (∀ name path v, (Bson.document d).at? (.name name :: path) = some v →
        ∃ j, (Json.object (record layout d)).at? (.name (publicName name) :: path) = some j ∧ v.ShownAs layout j) ∧
      ∀ f : Found, f.dateFormat = layout → f.records.length = f.documents.length ∧
        ∀ i : Nat, f.documents[i]? = some d → f.records[i]? = some (record layout d) := by
  refine ⟨?_, fun name path v h => ?_, ?_⟩
  · rw [record_eq_map layout hnames hid]
    simp [Fields.names]
  · rw [Bson.at?, List.foldlM_cons, Option.bind_eq_bind, Option.bind_eq_some_iff] at h
    obtain ⟨u, hu, hv⟩ := h
    have hfield : (Json.object (record layout d)).under? (.name (publicName name)) = some (u.toJson layout) :=
      lookup_record layout hnames hid hu
    refine ⟨v.toJson layout, ?_, v.shownAs_toJson⟩
    rw [Json.at?, List.foldlM_cons, hfield]
    exact Bson.at?_toJson hv
  · rintro f rfl
    refine ⟨List.length_map _, fun i hi => ?_⟩
    rw [Found.records, List.getElem?_map, hi, Option.map_some]

theorem record_of_article_seen :
    let d : Document := [("_id", .objectId ⟨7⟩), ("meta", .document [("_id", .objectId ⟨171⟩),
      ("seen", .array [.dateTime 1704164645000])]), ("views", .int64 10)]
    let r := record "%Y-%m-%d" d
    (Fields.names d).Nodup ∧ ¬("_id" ∈ Fields.names d ∧ "id" ∈ Fields.names d) ∧
      Fields.names r = ["id", "meta", "views"] ∧
      (∃ j, (Json.object r).at? [.name "meta", .name "_id"] = some j ∧
        (Bson.objectId ⟨171⟩).ShownAs "%Y-%m-%d" j) ∧
      ∃ j, (Json.object r).at? [.name "meta", .name "seen", .index 0] = some j ∧
        (Bson.dateTime 1704164645000).ShownAs "%Y-%m-%d" j := by
  intro d r
  have hnames : (Fields.names d).Nodup := by decide
  have hid : ¬("_id" ∈ Fields.names d ∧ "id" ∈ Fields.names d) := by decide
  obtain ⟨hr, hplaces, -⟩ := record_mirrors "%Y-%m-%d" hnames hid
  exact ⟨hnames, hid, hr, hplaces "meta" [.name "_id"] _ rfl, hplaces "meta" [.name "seen", .index 0] _ rfl⟩

section

variable (layout : String)

lemma lookup_record_last (d : Document) (name : String) : (record layout d).lookup name =
    (last? (valueIf fun k => publicName k = name) d).map (Bson.toJson layout) := by
  have hpick : (valueIf fun k => decide (publicName k = name)) ∘
      (fun field : String × Bson => (field.1, field.2.toJson layout)) =
        fun field => (valueIf (fun k => decide (publicName k = name)) field).map (Bson.toJson layout) := by
    funext field
    by_cases h : publicName field.1 = name <;> simp [valueIf, h]
  rw [record, Fields.lookup_rename, Bson.toMembers_eq, last?_map, hpick, last?, last?, ← List.getLast?_map,
    List.map_filterMap]

lemma last?_publicName {fields : List (String × Bson)} (hnames : (Fields.names fields).Nodup)
    (hid : "_id" ∉ Fields.names fields) (name : String) :
    last? (valueIf fun k => publicName k = name) fields = fields.lookup name := by
  rw [← Fields.last?_eq_lookup hnames]
  refine last?_congr fun field hfield => ?_
  have hne : field.1 ≠ "_id" := fun he => hid (he ▸ List.mem_map_of_mem hfield)
  simp [valueIf, publicName, hne]

variable {front back : List (String × Bson)} {v : Bson}

lemma nodup_around (hnames : (Fields.names (front ++ ("_id", v) :: back)).Nodup) :
    (Fields.names (front ++ back)).Nodup ∧ (Fields.names back).Nodup ∧ "_id" ∉ Fields.names (front ++ back) ∧
      "_id" ∉ Fields.names back := by
  have hperm : (Fields.names (front ++ ("_id", v) :: back)).Perm ("_id" :: Fields.names (front ++ back)) :=
    List.perm_middle.map Prod.fst
  obtain ⟨hid, hrest⟩ := List.nodup_cons.mp (hperm.nodup_iff.mp hnames)
  have hsub : (Fields.names back).Sublist (Fields.names (front ++ back)) :=
    (List.sublist_append_right front back).map Prod.fst
  exact ⟨hrest, hrest.sublist hsub, hid, fun hm => hid (hsub.subset hm)⟩

lemma lookup_record_id (hnames : (Fields.names (front ++ ("_id", v) :: back)).Nodup) :
    (record layout (front ++ ("_id", v) :: back)).lookup "id" = some (((back.lookup "id").getD v).toJson layout) := by
  obtain ⟨-, hback, -, hid⟩ := nodup_around hnames
  rw [lookup_record_last, last?_append, last?_cons, last?_publicName hback hid]
  cases back.lookup "id" <;> simp [valueIf, publicName]

lemma lookup_record_other (hnames : (Fields.names (front ++ ("_id", v) :: back)).Nodup) {name : String}
    (hname : name ≠ "id") : (record layout (front ++ ("_id", v) :: back)).lookup name =
      ((front ++ back).lookup name).map (Bson.toJson layout) := by
  obtain ⟨hrest, -, hid, -⟩ := nodup_around hnames
  have hskip : valueIf (fun k => decide (publicName k = name)) ("_id", v) = none := by
    simp [valueIf, publicName, hname.symm]
  rw [lookup_record_last, last?_append, last?_cons, hskip, Option.or_none, ← last?_append,
    last?_publicName hrest hid]

lemma names_record_perm (hnames : (Fields.names (front ++ ("_id", v) :: back)).Nodup) :
    (Fields.names (record layout (front ++ ("_id", v) :: back))).Perm
      ("id" :: (Fields.names (front ++ back)).erase "id") := by
  obtain ⟨hrest, -⟩ := nodup_around hnames
  have hnodup : ("id" :: (Fields.names (front ++ back)).erase "id").Nodup :=
    List.nodup_cons.mpr ⟨hrest.not_mem_erase, hrest.erase "id"⟩
  refine (List.perm_ext_iff_of_nodup (nodup_names_record layout _) hnodup).mpr fun name => ?_
  rw [List.mem_cons, hrest.mem_erase_iff, Fields.mem_names_iff, Fields.mem_names_iff]
  by_cases hname : name = "id"
  · simp [hname, lookup_record_id layout hnames]
  · simp [hname, lookup_record_other layout hnames hname]

/-- A document that has an identifier shows as `id` the last of its fields `_id` and `id`: its identifier if no
field `id` stands behind it. Every other field is shown as it is, under its own name, and there is nothing more. -/
theorem later_identity_shown (hnames : (Fields.names (front ++ ("_id", v) :: back)).Nodup) :
    let r := record layout (front ++ ("_id", v) :: back)
    r.lookup "id" = some (((back.lookup "id").getD v).toJson layout) ∧
      (r.lookup "id" = some (v.toJson layout) ↔ ∀ w, back.lookup "id" = some w → w.toJson layout = v.toJson layout) ∧
      (∀ name, name ≠ "id" → r.lookup name = ((front ++ back).lookup name).map (Bson.toJson layout)) ∧
      r.length = (front ++ back).length + if "id" ∈ Fields.names (front ++ back) then 0 else 1 := by
  intro r
  have hid : r.lookup "id" = some (((back.lookup "id").getD v).toJson layout) := lookup_record_id layout hnames
  refine ⟨hid, ?_, fun name hname => lookup_record_other layout hnames hname, ?_⟩
  · rw [hid, Option.some_inj]
    cases back.lookup "id" <;> simp
  · have hlength : r.length = ((Fields.names (front ++ back)).erase "id").length + 1 := by
      simpa [Fields.names] using (names_record_perm layout hnames).length_eq
    have hall : (Fields.names (front ++ back)).length = (front ++ back).length := List.length_map _
    split
    case isTrue hmem =>
      have hpos := List.length_pos_of_mem hmem
      rw [List.length_erase_of_mem hmem] at hlength
      omega
    case isFalse hmem => rw [hlength, List.erase_of_not_mem hmem, hall]

end

theorem identity_behind_other_id :
    let front : Document := [("id", .string "x")]
    let back : Document := [("title", .string "Rust")]
    let r := record "%Y-%m-%d" (front ++ ("_id", .string "a1") :: back)
    (Fields.names (front ++ ("_id", .string "a1") :: back)).Nodup ∧ r.lookup "id" = some (.string "a1") ∧
      r.lookup "title" = some (.string "Rust") ∧ r.length = 2 := by
  intro front back r
  have hnames : (Fields.names (front ++ ("_id", .string "a1") :: back)).Nodup := by decide
  obtain ⟨hid, -, hother, hlength⟩ := later_identity_shown "%Y-%m-%d" hnames
  exact ⟨hnames, hid, hother "title" (by decide), hlength⟩

/-- A field `id` behind the identifier takes its place, and one in front of it is lost. -/
theorem identity_hidden_by_id :
    let d : Document := [("_id", .string "a1"), ("id", .string "x")]
    let e : Document := [("id", .string "x"), ("_id", .string "a1")]
    List.lookup "_id" d = some (.string "a1") ∧ record "%Y-%m-%d" d = [("id", .string "x")] ∧
      List.lookup "id" e = some (.string "x") ∧ record "%Y-%m-%d" e = [("id", .string "a1")] :=
  ⟨rfl, rfl, rfl, rfl⟩

end Document

end DataGrid
