import DataGrid.Proofs.Json.Values
import DataGrid.Proofs.RecordShape
import DataGrid.Proofs.StoreRuns

namespace DataGrid

/-- What a store keeps as it is: whole numbers of 64 bits with a sign, and doubles that are numbers. -/
def Json.Storable : Json → Prop
  | .int n => -2 ^ 63 ≤ n ∧ n < 2 ^ 63
  | .float x => x.isFinite = true
  | _ => True

namespace Bson

variable {layout : String}

lemma toJson_ofInt {n : Int} (h : (Json.int n).Storable) : (ofInt n).toJson layout = .int n := by
  have hword : (Int64.ofInt n).toInt = n := Int64.toInt_ofInt_of_le h.1 h.2
  have hfits : Int64.minValue.toInt ≤ n ∧ n ≤ Int64.maxValue.toInt := by
    rw [Int64.toInt_minValue, Int64.toInt_maxValue]
    exact ⟨h.1, Int.le_sub_one_of_lt h.2⟩
  rw [ofInt, if_pos (by simpa using hfits), toJson, extendedJson, hword]
  all_goals rintro _ ⟨⟩

lemma doubleJson_of_finite {x : Binary64} (h : x.isFinite = true) : doubleJson x = .float x := by
  have hbelow : x.magnitude < Binary64.infinityMagnitude := by simpa [Binary64.isFinite] using h
  have hnumber : x.isNaN = false := by simpa [Binary64.isNaN] using hbelow.le
  have hbounded : x.isInfinite = false := by simpa [Binary64.isInfinite] using hbelow.ne
  simp [doubleJson, hnumber, hbounded]

mutual

theorem toJson_ofJson : ∀ v : Json, v.Every Json.Storable → (ofJson v).toJson layout = v
  | .null, _ | .bool _, _ | .string _, _ => rfl
  | .int _, h => toJson_ofInt h
  | .float _, h => doubleJson_of_finite h
  | .array items, h => congrArg Json.array (toItems_ofItems items h.2)
  | .object members, h => congrArg Json.object (toMembers_ofMembers members h.2)

theorem toItems_ofItems : ∀ items : List Json, Json.EveryItem Json.Storable items →
    toItems layout (ofItems items) = items
  | [], _ => rfl
  | item :: items, h => by
    rw [ofItems, toItems, toJson_ofJson item h.1, toItems_ofItems items h.2]

theorem toMembers_ofMembers : ∀ members : List (String × Json), Json.EveryMember Json.Storable members →
    toMembers layout (ofMembers members) = members
  | [], _ => rfl
  | (name, v) :: members, h => by
    rw [ofMembers, toMembers, toJson_ofJson v h.1, toMembers_ofMembers members h.2]

end

lemma names_ofMembers (members : List (String × Json)) : Fields.names (ofMembers members) = Fields.names members := by
  induction members with
  | nil => rfl
  | cons member members ih =>
    rw [Fields.names, Fields.names] at ih ⊢
    rw [ofMembers, List.map_cons, List.map_cons, ih]

end Bson

namespace Document

variable {layout : String} {members : List (String × Json)}

lemma record_withId (hnames : (Fields.names members).Nodup) (hid : "_id" ∉ Fields.names members)
    (hown : "id" ∉ Fields.names members) (hv : Json.EveryMember Json.Storable members) (fresh : ObjectId) :
    record layout (withId (Bson.ofMembers members) fresh) = members ++ [("id", .string fresh.hex)] := by
  have hfields := Bson.names_ofMembers members
  have hlacks : Fields.has (Bson.ofMembers members) "_id" = false := by
    rw [Bool.eq_false_iff, ne_eq, Fields.has, ← Fields.mem_names_iff, hfields]
    exact hid
  have hstored : withId (Bson.ofMembers members) fresh = Bson.ofMembers members ++ [("_id", .objectId fresh)] :=
    (MemoryStore.stored_withId (Bson.ofMembers members, fresh)).appended hlacks
  have hall : Fields.names (withId (Bson.ofMembers members) fresh) = Fields.names members ++ ["_id"] := by
    rw [hstored, ← hfields]
    exact List.map_append
  have hshown : ((Bson.ofMembers members).map fun field => (publicName field.1, field.2.toJson layout)) = members := by
    have hback : Bson.toMembers layout (Bson.ofMembers members) = members := Bson.toMembers_ofMembers members hv
    refine Eq.trans (List.map_congr_left fun field hfield => ?_) ((Bson.toMembers_eq _).symm.trans hback)
    have hne : field.1 ≠ "_id" := fun he => hid (hfields ▸ he ▸ List.mem_map_of_mem hfield)
    rw [publicName, if_neg hne]
  rw [record_eq_map, hstored, List.map_append, hshown]
  · rfl
  · rw [hall]
    simpa using hnames.concat hid
  · rw [hall]
    simpa using hown

end Document

namespace MemoryStore

/-- What is stored of JSON values is shown as the values that they are. A document of them, none under the name of
an identifier, is stored by any of the calls that insert; whatever calls come before and after, each query that
finds it shows its fields in their order and one more behind them, the identifier that it was given. -/
theorem json_survives_store (layout : String) {members : List (String × Json)}
    (hnames : (Fields.names members).Nodup) (hid : "_id" ∉ Fields.names members) (hown : "id" ∉ Fields.names members)
    (hv : ∀ member ∈ members, member.2.Every Json.Storable) :
    (∀ v : Json, v.Every Json.Storable → (Bson.ofJson v).toJson layout = v) ∧
    ∀ operations name (i : Nat) (fresh : ObjectId), (inserted name operations)[i]? = some (Bson.ofMembers members, fresh) →
      ∃ all stored, (after operations).find (.on name) = some (.ok all) ∧ all[i]? = some stored ∧
        ∀ q found total (j : Nat), (after operations).find q = some (.ok found) → found[j]? = some stored →
          (Found.mk found total layout).records[j]? = some (members ++ [("id", .string fresh.hex)]) := by
  refine ⟨fun v => Bson.toJson_ofJson v, fun operations name i fresh hinserted => ?_⟩
  refine ⟨_, Document.withId (Bson.ofMembers members) fresh, find_on _ name, ?_, fun q found total j hfound hj => ?_⟩
  · rw [documents_after, List.getElem?_map, hinserted, Option.map_some]
  · rw [Found.records, List.getElem?_map, hj, Option.map_some,
      Document.record_withId hnames hid hown (Json.everyMember_iff.mpr hv)]

theorem json_of_article_survives :
    let members : List (String × Json) := [("meta", .object [("$oid", .string "7"), ("_id", .null),
      ("id", .array [.float ⟨0x8000000000000000⟩, .bool true])]), ("views", .int (-9223372036854775808))]
    let operations : List Operation := [.insertOne "articles" [("_id", .int32 7)] ⟨2⟩, .createTextIndex "articles",
      .insertMany "articles" [(Bson.ofMembers members, ⟨171⟩)]]
    ∃ all stored, (after operations).find (.on "articles") = some (.ok all) ∧ all[1]? = some stored ∧
      (Found.mk all 2 "%Y-%m-%d").records[1]? = some (members ++ [("id", .string "0000000000000000000000ab")]) := by
  intro members operations
  have hv : ∀ member ∈ members, member.2.Every Json.Storable := by
    simp [members, Json.Every, Json.EveryItem, Json.EveryMember, Json.Storable]
    decide
  obtain ⟨-, hstored⟩ := json_survives_store "%Y-%m-%d" (by decide) (by decide) (by decide) hv
  obtain ⟨all, stored, hall, hplace, hshown⟩ := hstored operations "articles" 1 ⟨171⟩ rfl
  exact ⟨all, stored, hall, hplace, hshown _ _ 2 1 hall hplace⟩

end MemoryStore

end DataGrid
