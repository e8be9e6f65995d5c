import DataGrid.Http.Response
import DataGrid.Proofs.Pages

namespace DataGrid

namespace ContentRange

open Text

lemma printable_safeName (name : String) : ∀ c ∈ (safeName name).toList, 32 ≤ c.toNat ∧ c.toNat ≤ 126 := by
  intro c hc
  rw [safeName, String.toList_ofList, List.mem_filter] at hc
  have hascii := hc.2
  simp only [isAscii, isAsciiControl, Bool.and_eq_true, Bool.not_eq_true', Bool.or_eq_false_iff,
    decide_eq_true_eq, decide_eq_false_iff_not, beq_eq_false_iff_ne] at hascii
  omega

lemma printable_digits (n : Nat) : ∀ c ∈ Nat.toDigits 10 n, 32 ≤ c.toNat ∧ c.toNat ≤ 126 := by
  intro c hc
  have hdigit := Count.toNat_of_isDigit (Count.isDigit_of_mem_toDigits hc)
  omega

lemma toList_text (offset limit total : Nat) (name : String) : (text offset limit total name).toList =
    (safeName name).toList ++ ' ' :: (Nat.toDigits 10 offset ++ '-' ::
      (Nat.toDigits 10 (lastIndex offset limit total) ++ '/' :: Nat.toDigits 10 total)) := by
  simp [text, Nat.toString_eq_repr, Nat.toList_repr]

lemma printable_text (offset limit total : Nat) (name : String) :
    ∀ c ∈ (text offset limit total name).toList, 32 ≤ c.toNat ∧ c.toNat ≤ 126 := by
  rw [toList_text]
  simp only [List.forall_mem_append, List.forall_mem_cons]
  exact ⟨printable_safeName name, by decide, printable_digits _, by decide, printable_digits _, by decide,
    printable_digits _⟩

lemma visible_text (offset limit total : Nat) (name : String) :
    (text offset limit total name).toList.all isVisibleAscii = true := by
  rw [List.all_eq_true]
  intro c hc
  have hprintable := printable_text offset limit total name c hc
  simp only [isVisibleAscii, Bool.or_eq_true, Bool.and_eq_true, decide_eq_true_eq]
  omega

lemma header_eq_text (offset limit total : Nat) (name : String) :
    header offset limit total name = text offset limit total name := by
  rw [header, if_pos (visible_text offset limit total name)]

lemma lastIndex_eq {total : Nat} (ht : total ≤ Count.most) (offset limit : Nat) :
    lastIndex offset limit total = min (offset + limit - 1) (total - 1) := by
  rw [lastIndex, Count.add, Count.saturate]
  omega

lemma lastIndex_succ {offset limit total : Nat} (hl : 1 ≤ limit) (ho : offset < total) (ht : total < Count.most) :
    lastIndex offset limit total + 1 = offset + min limit (total - offset) := by
  rw [lastIndex_eq ht.le]
  omega

end ContentRange

lemma offset_eq {page limit : Nat} (h : (page - 1) * limit ≤ Count.most) :
    offset page limit = (page - 1) * limit := by
  rw [offset, Count.mul, Count.saturate, Nat.min_eq_left h]

namespace Config

lemma page_of_compile {c : Config} {r : Request} {q : Compiled} (h : c.compile r = .ok q) :
    q.query = q.query.paginate (offset r.page r.limit) r.limit := by
  obtain ⟨_, _, query, _, _, _, _, hp⟩ := compile_ok_iff.mp h
  rw [hp]
  rfl

lemma cut_of_compile {c : Config} {r : Request} {q : Compiled} (h : c.compile r = .ok q) {all : List Document}
    (hs : all.length ≤ Count.most) : q.query.cut all = (all.drop ((r.page - 1) * r.limit)).take r.limit := by
  rw [page_of_compile h, Query.cut_paginate, drop_offset hs]

lemma grid_ok_iff {c : Config} {s : Store Option} {r after : Request} {e : Envelope} :
    c.grid s r = some (.ok e, after) ↔ ∃ found, c.getData s r = some (.ok found, after) ∧
      e = (Envelope.ofFound after found).withResource c.collection := by
  rw [grid]
  rcases c.getData s r with _ | ⟨_ | found, r'⟩
  · simp
  · simp [Except.map]
  · simp only [Option.bind_eq_bind, Option.bind_some, Option.pure_def, Except.map, Option.some.injEq, Prod.mk.injEq,
      Except.ok.injEq]
    constructor
    · rintro ⟨rfl, rfl⟩
      exact ⟨found, ⟨rfl, rfl⟩, rfl⟩
    · rintro ⟨_, ⟨rfl, rfl⟩, rfl⟩
      exact ⟨rfl, rfl⟩

lemma contentRange_of_found {r : Request} (hl : 1 ≤ r.limit) (documents : List Document) (total : Nat)
    (layout resource : String) :
    ((Envelope.ofFound (r.setTotal total) ⟨documents, total, layout⟩).withResource resource).contentRange =
      ContentRange.text (offset r.page r.limit) r.limit total resource := by
  let paging := Paging.new r.page r.limit total
  have hitems : paging.itemsPerPage = r.limit := Nat.max_eq_left hl
  change ContentRange.header (offset paging.page paging.itemsPerPage) paging.itemsPerPage total resource = _
  rw [ContentRange.header_eq_text, hitems]
  rfl

/-- The range header of a page with records gives the positions, from zero and in natural numbers without
bound, that its first and its last record have among all documents found, in their order, and how many these
are; no name of a collection and no page or limit makes it say anything else. -/
theorem range_header_names_page (c : Config) (s : MemoryStore) (params : Params) (steps : List Request.Step)
    (page : Envelope) (after : Request) (hc : c.countQuery = none)
    (hs : (s.collection c.collection).documents.length < 2 ^ 64 - 1)
    (h : c.grid s.store (.build params steps) = some (.ok page, after)) (hne : page.items ≠ []) :
    let r := Request.build params steps
    let first := (r.page - 1) * r.limit
    ∃ (q : Compiled) (all : List Document) (last : Nat), c.compile r = .ok q ∧
      let matching := (s.collection c.collection).documents.filter fun d => q.query.conditions.all fun p => p.holds d
      s.find q.query.unpaged = some (.ok all) ∧ all.Perm matching ∧ first ≤ last ∧
      last - first + 1 = page.items.length ∧ last < matching.length ∧
      page.items = ((all.drop first).take (last - first + 1)).map (Document.record c.settings.dateFormat) ∧
      page.response.contentRange = some (ContentRange.safeName c.collection ++ " " ++ toString first ++ "-" ++
        toString last ++ "/" ++ toString matching.length) := by
  intro r first
  obtain ⟨found, hdata, rfl⟩ := grid_ok_iff.mp h
  obtain ⟨q, matching, all, hq, hm, hall, rfl, rfl⟩ := (getData_found_iff hc).mp hdata
  have hmatching := MemoryStore.matching_holds hm
  rw [collection_of_compile hq] at hmatching
  have hperm := Query.arrange_perm hall
  have hlen : all.length = matching.length := hperm.length_eq
  have hsize : matching.length < Count.most := by
    rw [hmatching]
    exact lt_of_le_of_lt (List.length_filter_le _ _) hs
  have hlimit : 1 ≤ r.limit := (Request.Proper.build params steps).limit_pos
  have hitems : ((Envelope.ofFound (r.setTotal matching.length) ⟨q.query.cut all, matching.length,
      c.settings.dateFormat⟩).withResource c.collection).items =
        ((all.drop first).take r.limit).map (Document.record c.settings.dateFormat) :=
    congrArg (List.map _) (cut_of_compile hq (hlen.trans_le hsize.le))
  have hlength : ((all.drop first).take r.limit).length = min r.limit (matching.length - first) := by
    rw [List.length_take, List.length_drop, hlen]
  have hfirst : first < matching.length := by
    by_contra hbehind
    refine hne ?_
    rw [hitems, List.drop_eq_nil_of_le (by omega), List.take_nil, List.map_nil]
  have hlast := ContentRange.lastIndex_succ hlimit hfirst hsize
  have hpos : 1 ≤ min r.limit (matching.length - first) := by omega
  refine ⟨q, all, ContentRange.lastIndex first r.limit matching.length, hq, ?_⟩
  dsimp only
  rw [← hmatching]
  refine ⟨MemoryStore.find_unpaged hm hall, hperm, by omega, ?_, by omega, ?_, ?_⟩
  · rw [hitems, List.length_map, hlength]
    omega
  · have hcut : ContentRange.lastIndex first r.limit matching.length - first + 1 =
        min r.limit (all.length - first) := by
      rw [hlen]
      omega
    rw [hitems, hcut, ← List.length_drop, ← List.take_eq_take_min]
  · rw [Envelope.response, contentRange_of_found hlimit, offset_eq (by omega)]
    rfl

theorem range_of_second_page :
    let s : MemoryStore := ⟨[("arti\ncles",
      ⟨[[("_id", .int32 1)], [("_id", .int32 2)], [("_id", .int32 3)]], false⟩)]⟩
    let c := Config.new "Articles" "arti\ncles"
    let r := Request.build (.ofList [("page", "2"), ("limit", "2")]) []
    ∃ page after, c.grid s.store r = some (.ok page, after) ∧ page.items = [[("id", .int 3)]] ∧
      page.response.contentRange = some "articles 2-2/3" := by
  intro s c r
  let found : Found := ⟨[[("_id", .int32 3)]], 3, "%Y-%m-%d %H:%M:%S"⟩
  let page := (Envelope.ofFound (r.setTotal 3) found).withResource "arti\ncles"
  have hgrid : c.grid s.store r = some (.ok page, r.setTotal 3) := rfl
  have hitems : page.items = [[("id", .int 3)]] := rfl
  refine ⟨page, _, hgrid, hitems, ?_⟩
  obtain ⟨q, all, last, hq, -, -, hle, hcount, -, -, hrange⟩ :=
    range_header_names_page c s _ [] page _ rfl (by decide) hgrid (by simp [hitems])
  have hfirst : (r.page - 1) * r.limit = 2 := rfl
  obtain rfl : 2 = last := by
    rw [hitems] at hcount
    rw [hfirst] at hcount hle
    simp only [List.length_cons, List.length_nil] at hcount
    omega
  have hcompile : c.compile r = .ok ⟨⟨"arti\ncles", [], none, some 2, some 2⟩,
      ⟨"arti\ncles", [], none, none, none⟩, false⟩ := rfl
  obtain rfl := Except.ok.inj (hcompile.symm.trans hq)
  have hname : ContentRange.safeName c.collection = "articles" := by decide
  rw [hrange, hfirst, hname]
  decide

end Config

end DataGrid
