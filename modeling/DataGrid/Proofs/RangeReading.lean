import DataGrid.Proofs.PageRange

namespace DataGrid

namespace ContentRange

/-- A range header as it is read: the name ends at the last space, and the two positions and the total stand behind. -/
structure Reading where
  name : String
  first : Nat
  last : Nat
  total : Nat
  deriving DecidableEq

def read? (value : String) : Option Reading := do
  let (range, name) := Text.cutAt ' ' value.toList.reverse
  let (first, rest) := Text.cutAt '-' range.reverse
  let (last, total) := Text.cutAt '/' (← rest)
  return ⟨String.ofList (← name).reverse, ← Count.ofDigits? first, ← Count.ofDigits? last, ← Count.ofDigits? (← total)⟩

lemma not_mem_toDigits {c : Char} (h : c.isDigit = false) (n : Nat) : c ∉ Nat.toDigits 10 n := by
  intro hc
  rw [Count.isDigit_of_mem_toDigits hc] at h
  cases h

lemma read?_text (offset limit total : Nat) (name : String) :
    read? (text offset limit total name) = some ⟨safeName name, offset, lastIndex offset limit total, total⟩ := by
  let range := Nat.toDigits 10 offset ++ '-' :: (Nat.toDigits 10 (lastIndex offset limit total) ++ '/' ::
    Nat.toDigits 10 total)
  -- a name may end in anything that looks like a range, but no space stands behind the one after it
  have hspace : ' ' ∉ range.reverse := by
    have hdigits := not_mem_toDigits (c := ' ') (by decide)
    simp [range, hdigits]
  have hvalue : (text offset limit total name).toList.reverse =
      range.reverse ++ ' ' :: (safeName name).toList.reverse := by
    rw [toList_text, List.reverse_append, List.reverse_cons, List.append_assoc, List.singleton_append]
  have hfirst : Text.cutAt '-' range = _ := Text.cutAt_append (not_mem_toDigits (by decide) offset) _
  have hlast : Text.cutAt '/' (Nat.toDigits 10 (lastIndex offset limit total) ++ '/' :: Nat.toDigits 10 total) = _ :=
    Text.cutAt_append (not_mem_toDigits (by decide) (lastIndex offset limit total)) _
  simp only [read?, hvalue, Text.cutAt_append hspace, List.reverse_reverse, hfirst, hlast, Option.bind_eq_bind,
    Option.bind_some, Count.ofDigits?_toDigits, String.ofList_toList]
  rfl

/-- Whatever a name holds, the header is its printable ASCII characters in their order and the three numbers, where the
last position is as in natural numbers without bound. A header can hold it, so that the one for what cannot be held is
never sent; no control character gets into it, and nothing in the name is read as a number of the page. -/
theorem header_reads_back (offset limit total : Nat) (name : String) (ht : total < 2 ^ 64) :
    let kept := String.ofList (name.toList.filter fun c => c.toNat < 128 && !(c.toNat < 32 || c.toNat == 127))
    let last := min (offset + limit - 1) (total - 1)
    let value := header offset limit total name
    value = kept ++ " " ++ toString offset ++ "-" ++ toString last ++ "/" ++ toString total ∧
    (text offset limit total name).toList.all Text.isVisibleAscii = true ∧
    (∀ c ∈ value.toList, 32 ≤ c.toNat ∧ c.toNat ≤ 126) ∧
    read? value = some ⟨kept, offset, last, total⟩ := by
  intro kept last value
  have hlast : lastIndex offset limit total = last := lastIndex_eq (Nat.le_sub_one_of_lt ht) offset limit
  have hvalue : value = text offset limit total name := header_eq_text offset limit total name
  refine ⟨?_, visible_text offset limit total name, ?_, ?_⟩
  · rw [hvalue, text, hlast]
    rfl
  · rw [hvalue]
    exact printable_text offset limit total name
  · rw [hvalue, read?_text, hlast]
    rfl

theorem header_of_forged_name :
    let value := header (2 ^ 64 - 1) (2 ^ 64 - 1) (2 ^ 64 - 1) "café 0-9/10\r\nAge: 1"
    value = "caf 0-9/10Age: 1 18446744073709551615-18446744073709551614/18446744073709551615" ∧
      read? value = some ⟨"caf 0-9/10Age: 1", 2 ^ 64 - 1, 2 ^ 64 - 2, 2 ^ 64 - 1⟩ := by
  intro value
  obtain ⟨hvalue, -, -, hread⟩ :=
    header_reads_back (2 ^ 64 - 1) (2 ^ 64 - 1) (2 ^ 64 - 1) "café 0-9/10\r\nAge: 1" (by decide)
  refine ⟨hvalue.trans (by decide), hread.trans (by decide)⟩

end ContentRange

lemma le_offset_iff {total : Nat} (ht : total ≤ Count.most) (page limit : Nat) :
    total ≤ offset page limit ↔ total ≤ (page - 1) * limit := by
  rw [offset, Count.mul, Count.saturate]
  omega

lemma offset_pos_iff {page limit : Nat} (hp : 1 ≤ page) (hl : 1 ≤ limit) : 0 < offset page limit ↔ page ≠ 1 := by
  have hone : 1 ≤ offset page limit ↔ 1 ≤ (page - 1) * limit := le_offset_iff (by decide) page limit
  have hproduct : (page - 1) * limit = 0 ↔ page - 1 = 0 ∨ limit = 0 := Nat.mul_eq_zero
  omega

lemma Paging.behind_lastPage_iff {limit total : Nat} (hl : 1 ≤ limit) :
    total / limit + 1 ≠ 1 ∧ total ≤ (total / limit + 1 - 1) * limit ↔ 0 < total ∧ limit ∣ total := by
  have hle := Nat.div_mul_le_self total limit
  rw [Nat.add_sub_cancel]
  constructor
  · rintro ⟨hne, hcover⟩
    have hdvd : limit ∣ total / limit * limit := Nat.dvd_mul_left limit (total / limit)
    rw [Nat.le_antisymm hle hcover] at hdvd
    refine ⟨Nat.pos_of_ne_zero ?_, hdvd⟩
    rintro rfl
    simp at hne
  · rintro ⟨hpos, hdvd⟩
    have hwhole : 0 < total / limit := Nat.div_pos (Nat.le_of_dvd hpos hdvd) hl
    exact ⟨by omega, (Nat.div_mul_cancel hdvd).ge⟩

lemma MemoryStore.count_lt {s : MemoryStore} {q : Query} {n total : Nat}
    (hs : ∀ name, (s.collection name).documents.length < n) (h : s.count q = .ok total) : total < n := by
  obtain ⟨counted, hm, rfl⟩ := Outcome.map_ok_iff.mp h
  exact lt_of_le_of_lt (matching_sublist hm).length_le (hs q.collection)

namespace Config

/-- The range header of a page gives the position that the page starts at and the last one that it has up to the total.
The last is before the start exactly if the page is not the first and starts behind all records counted. Of the pages
that the paging block goes through this can be the last only, and is where full pages hold all records. Such a page is
empty unless the grid counts by a query of its own. -/
theorem range_inverted_iff (c : Config) (s : MemoryStore) (params : Params) (steps : List Request.Step)
    (page : Envelope) (after : Request) (hs : ∀ name, (s.collection name).documents.length < 2 ^ 64 - 1)
    (h : c.grid s.store (.build params steps) = some (.ok page, after)) :
    let r := Request.build params steps
    let total := page.paging.total
    let first := offset r.page r.limit
    let last := min (first + r.limit - 1) (total - 1)
    page.response.contentRange.bind ContentRange.read? =
      some ⟨ContentRange.safeName c.collection, first, last, total⟩ ∧
    (last < first ↔ r.page ≠ 1 ∧ total ≤ (r.page - 1) * r.limit) ∧
    (r.page < page.paging.lastPage → first ≤ last) ∧
    (r.page = page.paging.lastPage → (last < first ↔ 0 < total ∧ r.limit ∣ total)) ∧
    (c.countQuery = none → last < first → page.items = []) := by
  intro r
  obtain ⟨found, hdata, rfl⟩ := grid_ok_iff.mp h
  obtain ⟨q, documents, total, hq, hf, hn, rfl, rfl⟩ := getData_ok_iff.mp hdata
  have hlimit : 1 ≤ r.limit := (Request.Proper.build params steps).limit_pos
  have hpage : 1 ≤ r.page := r.page_bounds.1
  have htotal : total < Count.most := MemoryStore.count_lt hs hn
  have hlast : (Paging.new r.page r.limit total).lastPage = total / r.limit + 1 := Paging.lastPage_new _ _ _ hlimit
  have hinverted : min (offset r.page r.limit + r.limit - 1) (total - 1) < offset r.page r.limit ↔
      r.page ≠ 1 ∧ total ≤ (r.page - 1) * r.limit := by
    rw [← offset_pos_iff hpage hlimit, ← le_offset_iff htotal.le]
    omega
  have hrange : (((Envelope.ofFound (r.setTotal total) ⟨documents, total, c.settings.dateFormat⟩).withResource
      c.collection).response.contentRange).bind ContentRange.read? = some ⟨ContentRange.safeName c.collection,
        offset r.page r.limit, min (offset r.page r.limit + r.limit - 1) (total - 1), total⟩ := by
    rw [Envelope.response, contentRange_of_found hlimit, Option.bind_some, ContentRange.read?_text,
      ContentRange.lastIndex_eq htotal.le]
  refine ⟨hrange, hinverted, fun hbefore => ?_, fun hat => ?_, fun hc hturned => ?_⟩
  · by_contra hturned
    obtain ⟨-, hbehind⟩ := hinverted.mp (Nat.lt_of_not_le hturned)
    have hpages : total / r.limit ≤ r.page - 1 := Nat.div_le_of_le_mul (by rwa [Nat.mul_comm])
    have hless : r.page < total / r.limit + 1 := hbefore.trans_eq hlast
    omega
  · have hpages : r.page = total / r.limit + 1 := hat.trans hlast
    refine hinverted.trans ?_
    rw [hpages]
    exact Paging.behind_lastPage_iff hlimit
  · obtain ⟨-, hbehind⟩ := hinverted.mp hturned
    obtain ⟨q', matching, all, hq', -, hall, hfound, -⟩ := (getData_found_iff hc).mp hdata
    obtain ⟨rfl, rfl, -⟩ := Found.mk.inj hfound
    have hlength : all.length = matching.length := (Query.arrange_perm hall).length_eq
    have hnone : q'.query.cut all = [] := by
      rw [cut_of_compile hq' (hlength.trans_le htotal.le), List.drop_eq_nil_of_le (hlength.trans_le hbehind),
        List.take_nil]
    change (q'.query.cut all).map _ = []
    rw [hnone, List.map_nil]

theorem range_of_miscounted_page :
    let s : MemoryStore := ⟨[("articles", ⟨[[("_id", .int32 1)], [("_id", .int32 2)]], false⟩)]⟩
    let c := (Config.new "Articles" "articles").withCountQuery fun _ => .on "archive"
    let r := Request.build (.ofList [("page", "2"), ("limit", "1")]) []
    ∃ page after, c.grid s.store r = some (.ok page, after) ∧ page.items = [[("id", .int 2)]] ∧
      page.response.contentRange.bind ContentRange.read? = some ⟨"articles", 1, 0, 0⟩ := by
  intro s c r
  let found : Found := ⟨[[("_id", .int32 2)]], 0, "%Y-%m-%d %H:%M:%S"⟩
  let page := (Envelope.ofFound (r.setTotal 0) found).withResource "articles"
  have hgrid : c.grid s.store r = some (.ok page, r.setTotal 0) := rfl
  have hs : ∀ name, (s.collection name).documents.length < 2 ^ 64 - 1 := by
    intro name
    rw [MemoryStore.collection, List.lookup_cons, List.lookup_nil]
    split
    · decide
    · decide
  obtain ⟨hrange, -⟩ := range_inverted_iff c s _ [] page _ hs hgrid
  have hname : ContentRange.safeName c.collection = "articles" := by decide
  refine ⟨page, _, hgrid, rfl, ?_⟩
  rw [hrange, hname]
  rfl

/-- Two articles on pages of two have a second page, the last of the block, with the range 2 to 1. -/
theorem trailing_page_inverted :
    let s : MemoryStore := ⟨[("articles", ⟨[[("_id", .int32 1)], [("_id", .int32 2)]], false⟩)]⟩
    let c := Config.new "Articles" "articles"
    let r := Request.build (.ofList [("page", "2"), ("limit", "2")]) []
    ∃ page after, c.grid s.store r = some (.ok page, after) ∧ page.paging.lastPage = 2 ∧
      page.response.contentRange = some "articles 2-1/2" := by
  intro s c r
  let page := (Envelope.ofFound (r.setTotal 2) ⟨[], 2, "%Y-%m-%d %H:%M:%S"⟩).withResource "articles"
  have hgrid : c.grid s.store r = some (.ok page, r.setTotal 2) := rfl
  exact ⟨page, _, hgrid, by decide, by decide⟩

end Config

end DataGrid
