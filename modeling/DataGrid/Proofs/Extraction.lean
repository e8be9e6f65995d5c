import DataGrid.Http.Extract
import DataGrid.Proofs.ParamNames
import Mathlib.Data.List.Pairwise

namespace DataGrid

namespace Params

variable {headers : List (String × String)} {name : String}

def Readable (header : String × String) : Prop := header.2.toList.all Text.isVisibleAscii = true

/-- No parameter of a grid is sent by two headers. -/
def SentOnce (headers : List (String × String)) : Prop :=
  headers.Pairwise fun a b => normalize a.1 = normalize b.1 → normalize a.1 ∉ names

lemma SentOnce.eq (h : SentOnce headers) {a b : String × String} (ha : a ∈ headers) (hb : b ∈ headers)
    (hname : normalize a.1 = normalize b.1) (hmeant : normalize a.1 ∈ names) : a = b := by
  by_contra hne
  have hsymm : Std.Symm fun a b : String × String => normalize a.1 = normalize b.1 → normalize a.1 ∉ names := by
    refine ⟨fun a b hab hba => ?_⟩
    rw [hba]
    exact hab hba.symm
  exact List.Pairwise.forall h ha hb hne hname hmeant

lemma mem_firstMentions (headers : List (String × String)) (seen : List String) (name : String) :
    name ∈ headers.foldl (fun names h => if names.contains h.1 then names else names ++ [h.1]) seen ↔
      name ∈ seen ∨ ∃ header ∈ headers, header.1 = name := by
  induction headers generalizing seen with
  | nil => simp
  | cons header headers ih =>
    rw [List.foldl_cons, ih, List.exists_mem_cons_iff, ← or_assoc]
    apply or_congr_left
    split
    case isTrue hseen =>
      have hmem : header.1 ∈ seen := by simpa using hseen
      exact (or_iff_left_of_imp fun he => he ▸ hmem).symm
    case isFalse => simp [eq_comm]

lemma mem_groupHeaders_iff {header : String × String} :
    header ∈ groupHeaders headers ↔ ∃ sent ∈ headers, (Text.asciiLower sent.1, sent.2) = header := by
  simp only [groupHeaders, List.mem_flatMap, List.mem_filter, mem_firstMentions, beq_iff_eq]
  rw [← List.mem_map]
  constructor
  · rintro ⟨-, -, hsent, -⟩
    exact hsent
  · exact fun hsent => ⟨header.1, .inr ⟨header, hsent, rfl⟩, hsent, rfl⟩

def taken (headers : List (String × String)) : List (String × String) :=
  (groupHeaders headers).filter fun h => names.contains (normalize h.1) && h.2.toList.all Text.isVisibleAscii

lemma mem_taken_iff {header : String × String} : header ∈ taken headers ↔
    ∃ sent ∈ headers, (Text.asciiLower sent.1, sent.2) = header ∧ normalize sent.1 ∈ names ∧ Readable sent := by
  simp only [taken, List.mem_filter, mem_groupHeaders_iff, Bool.and_eq_true, List.contains_iff_mem]
  constructor
  · rintro ⟨⟨sent, hsent, rfl⟩, hmeant, hread⟩
    rw [normalize_asciiLower] at hmeant
    exact ⟨sent, hsent, rfl, hmeant, hread⟩
  · rintro ⟨sent, hsent, rfl, hmeant, hread⟩
    rw [normalize_asciiLower]
    exact ⟨⟨sent, hsent, rfl⟩, hmeant, hread⟩

lemma get?_ofHeaders (headers : List (String × String)) (name : String) :
    (ofHeaders headers).get? name = last? (valueIf fun k => normalize k = normalize name) (taken headers) := by
  rw [ofHeaders, ofList, get?_insertAll]
  exact Option.or_none

lemma get?_ofHeaders_of_readable (h : SentOnce headers) {header : String × String} (hheader : header ∈ headers)
    (hname : normalize header.1 = normalize name) (hmeant : normalize name ∈ names) (hread : Readable header) :
    (ofHeaders headers).get? name = some header.2 := by
  rw [← hname] at hmeant
  rw [get?_ofHeaders]
  refine last?_eq_some ⟨_, mem_taken_iff.mpr ⟨header, hheader, rfl, hmeant, hread⟩, ?_⟩ fun other hother => ?_
  · simp [valueIf, normalize_asciiLower, hname]
  · obtain ⟨sent, hsent, rfl, hmeant', -⟩ := mem_taken_iff.mp hother
    intro value hpick
    simp only [valueIf, normalize_asciiLower] at hpick
    split at hpick
    case isTrue hsame =>
      -- a header of this name can only be the one sent
      have hsame' : normalize sent.1 = normalize name := by simpa using hsame
      rw [h.eq hsent hheader (hsame'.trans hname.symm) hmeant'] at hpick
      exact (Option.some.inj hpick).symm
    case isFalse => cases hpick

lemma get?_ofHeaders_of_unread
    (h : ∀ header ∈ headers, normalize header.1 = normalize name → normalize name ∈ names → ¬Readable header) :
    (ofHeaders headers).get? name = none := by
  rw [get?_ofHeaders]
  refine last?_eq_none fun other hother => ?_
  obtain ⟨sent, hsent, rfl, hmeant, hread⟩ := mem_taken_iff.mp hother
  refine if_neg fun hsame => ?_
  have hsame' : normalize sent.1 = normalize name := by simpa [normalize_asciiLower] using hsame
  rw [hsame'] at hmeant
  exact h sent hsent hsame' hmeant hread

lemma get?_received (pairs headers : List (String × String)) (name : String) :
    ((ofList pairs).insertAll (ofHeaders headers).entries).get? name = ((ofHeaders headers).get? name).or
      (last? (valueIf fun k => normalize k = normalize name) pairs) := by
  have hpairs : (ofList pairs).get? name = last? (valueIf fun k => normalize k = normalize name) pairs := by
    rw [ofList, get?_insertAll]
    exact Option.or_none
  have hordered : (ofHeaders headers).Ordered := Ordered.empty.insertAll _
  rw [get?_insertAll_entries hordered, hpairs]

lemma get?_eq_iff (name other : String) : (∀ p : Params, p.get? name = p.get? other) ↔ SameName name other := by
  rw [← normalize_eq_iff]
  constructor
  · intro h
    by_contra hne
    -- parameters that hold the one name only
    have hfound := h (empty.insert name "")
    rw [get?_insert_self, get?_insert_of_ne empty (Ne.symm hne)] at hfound
    cases hfound
  · intro h p
    rw [get?, get?, h]

end Params

namespace Request

lemma extract?_of_query {target : String} {query : Option (List Char)} {pairs : List (String × String)}
    (hquery : Uri.query? target = some query) (hpairs : Form.pairs (query.getD []) = pairs)
    (headers : List (String × String)) : extract? target headers =
      some (new ((Params.ofList pairs).insertAll (Params.ofHeaders headers).entries)) := by
  rw [extract?, hquery, ← hpairs]
  rfl

/-- Of a request from the wire, where no parameter is sent by two headers: a parameter of the grid is what its
header says if that can be read, and else what the last pair of the query says that goes by its name. Anything
else is what the query says, whatever headers there are. Names that differ in the case of ASCII letters, in
hyphens for underscores or in blanks around them are one name, and no others are. -/
theorem extracted_params (pairs headers : List (String × String)) (h : Params.SentOnce headers) :
    let p := (Params.ofList pairs).insertAll (Params.ofHeaders headers).entries
    let asked (name : String) := last? (valueIf fun k => Params.normalize k = name) pairs
    (∀ target query, Uri.query? target = some query → Form.pairs (query.getD []) = pairs →
      extract? target headers = some (new p)) ∧
    (∀ name ∈ Params.names,
      (∀ header ∈ headers, Params.normalize header.1 = name → Params.Readable header → p.get? name = some header.2) ∧
      ((∀ header ∈ headers, Params.normalize header.1 = name → ¬Params.Readable header) → p.get? name = asked name)) ∧
    (∀ name, Params.normalize name ∉ Params.names → p.get? name = asked (Params.normalize name)) ∧
    ∀ name other, (∀ p : Params, p.get? name = p.get? other) ↔ Params.SameName name other := by
  intro p asked
  have hkept : ∀ name ∈ Params.names, Params.normalize name = name := by decide
  refine ⟨?_, fun name hname => ⟨fun header hheader hsame hread => ?_, fun hunread => ?_⟩, fun name hname => ?_,
    Params.get?_eq_iff⟩
  · intro target query hquery hpairs
    exact extract?_of_query hquery hpairs headers
  · have hmeant : Params.normalize name ∈ Params.names := by rwa [hkept name hname]
    have hsame' : Params.normalize header.1 = Params.normalize name := by rw [hkept name hname, hsame]
    rw [Params.get?_received, Params.get?_ofHeaders_of_readable h hheader hsame' hmeant hread, Option.some_or]
  · have hnone : (Params.ofHeaders headers).get? name = none := by
      refine Params.get?_ofHeaders_of_unread fun header hheader hsame _ => hunread header hheader ?_
      rw [hsame, hkept name hname]
    rw [Params.get?_received, hnone, Option.none_or, hkept name hname]
  · have hnone : (Params.ofHeaders headers).get? name = none :=
      Params.get?_ofHeaders_of_unread fun _ _ _ hmeant => absurd hmeant hname
    rw [Params.get?_received, hnone, Option.none_or]

theorem params_of_paged_target :
    let pairs := [("page", "2"), ("Limit ", "5"), ("limit", "20"), ("draft-of", "lean")]
    let headers := [("PAGE", "4"), ("Limit", "zwölf"), ("Draft-Of", "rust")]
    let p := (Params.ofList pairs).insertAll (Params.ofHeaders headers).entries
    Params.SentOnce headers ∧ p.get? "page" = some "4" ∧ p.get? "limit" = some "20" ∧
      p.get? "draft_of" = some "lean" ∧ p.get? " Draft-OF" = some "lean" ∧
      extract? "/articles?page=2&Limit+=5&limit=20&draft-of=lean" headers = some (new p) := by
  intro pairs headers p
  have honce : Params.SentOnce headers := by
    unfold Params.SentOnce
    decide
  obtain ⟨htarget, hmeant, hother, hsame⟩ := extracted_params pairs headers honce
  have hdraft : p.get? "draft_of" = some "lean" := (hother "draft_of" (by decide)).trans (by decide +kernel)
  have hspelled : Params.SameName " Draft-OF" "draft_of" := by
    rw [← Params.normalize_eq_iff]
    decide
  refine ⟨honce, ?_, ?_, hdraft, ?_, ?_⟩
  · exact (hmeant "page" (by decide)).1 ("PAGE", "4") (by simp [headers]) (by decide) (by unfold Params.Readable; decide)
  · refine ((hmeant "limit" (by decide)).2 ?_).trans (by decide +kernel)
    unfold Params.Readable
    decide
  · exact ((hsame " Draft-OF" "draft_of").mpr hspelled p).trans hdraft
  · exact htarget _ (some "page=2&Limit+=5&limit=20&draft-of=lean".toList) (by decide) (by decide)

/-- Letters beyond ASCII keep their case: a parameter of the query is not found by the other one. -/
theorem accented_name_missed :
    ∃ r, extract? "/articles?%C3%89tat=1" [] = some r ∧ r.params.get? "État" = some "1" ∧
      r.params.get? "état" = none := by
  have hquery : Uri.query? "/articles?%C3%89tat=1" = some "%C3%89tat=1".toList := by decide
  have hpairs : Form.pairs "%C3%89tat=1".toList = [("État", "1")] := by decide
  refine ⟨_, extract?_of_query hquery hpairs [], ?_, ?_⟩
  · decide
  · decide

end Request

end DataGrid
