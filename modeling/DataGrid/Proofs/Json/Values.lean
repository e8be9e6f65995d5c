import DataGrid.Json.Reader
import Mathlib.Tactic.Lemma

namespace DataGrid.Json

mutual

def Every (P : Json → Prop) : Json → Prop
  | array items => P (array items) ∧ EveryItem P items
  | object members => P (object members) ∧ EveryMember P members
  | v => P v

def EveryItem (P : Json → Prop) : List Json → Prop
  | [] => True
  | item :: items => item.Every P ∧ EveryItem P items

def EveryMember (P : Json → Prop) : List (String × Json) → Prop
  | [] => True
  | (_, value) :: members => value.Every P ∧ EveryMember P members

end

mutual

def depth : Json → Nat
  | array items => depthItems items + 1
  | object members => depthMembers members + 1
  | _ => 0

def depthItems : List Json → Nat
  | [] => 0
  | item :: items => max item.depth (depthItems items)

def depthMembers : List (String × Json) → Nat
  | [] => 0
  | (_, value) :: members => max value.depth (depthMembers members)

end

variable {P : Json → Prop}

lemma everyItem_iff {items : List Json} : EveryItem P items ↔ ∀ item ∈ items, item.Every P := by
  induction items with
  | nil => simp [EveryItem]
  | cons item items ih => simp [EveryItem, ih]

lemma everyMember_iff {members : List (String × Json)} :
    EveryMember P members ↔ ∀ member ∈ members, member.2.Every P := by
  induction members with
  | nil => simp [EveryMember]
  | cons member members ih => simp [EveryMember, ih]

lemma Every.self {v : Json} (h : v.Every P) : P v := by
  cases v with
  | array items => exact h.1
  | object members => exact h.1
  | _ => exact h

/-- What can be written of a value: a whole number fits 64 bits, an object names a member once. -/
def Fits : Json → Prop
  | int n => -(Nat.pow 2 63 : Nat) ≤ n ∧ n ≤ Count.most
  | object members => (Fields.names members).Nodup
  | _ => True

def IsNoDouble (v : Json) : Prop := ∀ x, v ≠ float x

instance : DecidablePred Fits
  | int n => inferInstanceAs (Decidable (-(Nat.pow 2 63 : Nat) ≤ n ∧ n ≤ Count.most))
  | object members => inferInstanceAs (Decidable (Fields.names members).Nodup)
  | null | bool _ | float _ | string _ | array _ => .isTrue trivial

instance : DecidablePred IsNoDouble
  | float x => .isFalse fun h => h x rfl
  | null | bool _ | int _ | string _ | array _ | object _ => .isTrue (by simp [IsNoDouble])

mutual

def decideEvery [DecidablePred P] : (v : Json) → Decidable (v.Every P)
  | array items =>
    have := decideEveryItem items
    inferInstanceAs (Decidable (P (array items) ∧ EveryItem P items))
  | object members =>
    have := decideEveryMember members
    inferInstanceAs (Decidable (P (object members) ∧ EveryMember P members))
  | null => inferInstanceAs (Decidable (P null))
  | bool b => inferInstanceAs (Decidable (P (bool b)))
  | int n => inferInstanceAs (Decidable (P (int n)))
  | float x => inferInstanceAs (Decidable (P (float x)))
  | string s => inferInstanceAs (Decidable (P (string s)))

def decideEveryItem [DecidablePred P] : (items : List Json) → Decidable (EveryItem P items)
  | [] => .isTrue trivial
  | item :: items =>
    have := decideEvery item
    have := decideEveryItem items
    inferInstanceAs (Decidable (item.Every P ∧ EveryItem P items))

def decideEveryMember [DecidablePred P] : (members : List (String × Json)) → Decidable (EveryMember P members)
  | [] => .isTrue trivial
  | (_, value) :: members =>
    have := decideEvery value
    have := decideEveryMember members
    inferInstanceAs (Decidable (value.Every P ∧ EveryMember P members))

end

instance [DecidablePred P] : DecidablePred (Every P) := decideEvery

lemma fits_of_value? {n : NumberText} {v : Json} (h : n.value? = some v) : v.Every Fits := by
  simp only [NumberText.value?] at h
  split at h
  case isTrue hw =>
    obtain rfl := Option.some.inj h
    simp only [Bool.and_eq_true, decide_eq_true_eq] at hw
    simp only [Every, Fits]
    omega
  case isFalse =>
    split at h
    case isTrue hw =>
      obtain rfl := Option.some.inj h
      simp only [Bool.and_eq_true, decide_eq_true_eq] at hw
      simp only [Every, Fits]
      omega
    case isFalse =>
      obtain ⟨x, -, rfl⟩ := Option.map_eq_some_iff.mp h
      exact trivial

mutual

theorem fits_of_toJson? : ∀ (raw : Raw) {v : Json}, raw.toJson? = some v → v.Every Fits
  | .null, v, h | .bool _, v, h => by
    obtain rfl := Option.some.inj h
    exact trivial
  | .number n, v, h => fits_of_value? h
  | .string pieces, v, h => by
    obtain ⟨s, -, rfl⟩ := Option.map_eq_some_iff.mp h
    exact trivial
  | .array items, v, h => by
    obtain ⟨values, hvalues, rfl⟩ := Option.map_eq_some_iff.mp h
    exact ⟨trivial, everyItem_iff.mpr (fits_of_toItems? items hvalues)⟩
  | .object members, v, h => by
    obtain ⟨values, hvalues, rfl⟩ := Option.map_eq_some_iff.mp h
    refine ⟨Fields.nodup_names_ofList values, everyMember_iff.mpr fun member hm => ?_⟩
    exact fits_of_toMembers? members hvalues member (Fields.mem_of_mem_ofList hm)

theorem fits_of_toItems? : ∀ (items : List Raw) {values : List Json}, Raw.toItems? items = some values →
    ∀ value ∈ values, value.Every Fits
  | [], values, h => by
    obtain rfl := Option.some.inj h
    simp
  | item :: items, values, h => by
    simp only [Raw.toItems?, Option.bind_eq_bind, Option.bind_eq_some_iff, Option.pure_def, Option.some.injEq] at h
    obtain ⟨value, hvalue, values, hvalues, rfl⟩ := h
    exact List.forall_mem_cons.mpr ⟨fits_of_toJson? item hvalue, fits_of_toItems? items hvalues⟩

theorem fits_of_toMembers? : ∀ (members : List (List Piece × Raw)) {values : List (String × Json)},
    Raw.toMembers? members = some values → ∀ value ∈ values, value.2.Every Fits
  | [], values, h => by
    obtain rfl := Option.some.inj h
    simp
  | (name, raw) :: members, values, h => by
    simp only [Raw.toMembers?, Option.bind_eq_bind, Option.bind_eq_some_iff, Option.pure_def, Option.some.injEq] at h
    obtain ⟨_, -, value, hvalue, values, hvalues, rfl⟩ := h
    exact List.forall_mem_cons.mpr ⟨fits_of_toJson? raw hvalue, fits_of_toMembers? members hvalues⟩

end

lemma fits_of_parse? {s : String} {v : Json} (h : parse? s = some v) : v.Every Fits := by
  simp only [parse?, Option.bind_eq_bind, Option.bind_eq_some_iff] at h
  obtain ⟨raw, -, h⟩ := h
  split at h
  · cases h
  · exact fits_of_toJson? raw h

end DataGrid.Json
