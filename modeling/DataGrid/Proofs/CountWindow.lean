import DataGrid.Proofs.Counting

namespace DataGrid

namespace Config

variable {c : Config} {r r' : Request} {q q' : Compiled}

def countBase (c : Config) : Query := (c.countQuery.map fun build => build c.toSchema).getD (.on c.collection)

lemma conditions_eq_of_alike (ho : c.OverridesQueryless) (hr : r.AsksAlike r') (h : c.compile r = .ok q)
    (h' : c.compile r' = .ok q') : q'.query.conditions = q.query.conditions := by
  obtain ⟨groups, hgroups, hconditions⟩ := conditions_of_compile ho h
  obtain ⟨groups', hgroups', hconditions'⟩ := conditions_of_compile ho h'
  obtain rfl : groups = groups' := Except.ok.inj (hgroups.symm.trans (hr.advancedFilter_eq.symm.trans hgroups'))
  rw [hr.filter_eq, hconditions] at hconditions'
  exact (Except.ok.inj hconditions').symm

lemma count_eq_base (ho : c.OverridesQueryless) (h : c.compile r = .ok q) :
    q.count = (c.countBase.requireAll q.query.conditions).unordered := by
  cases hc : c.countQuery with
  | none =>
    obtain ⟨_, _, _, -, -, hr, hn, hq⟩ := compile_ok_iff.mp h
    obtain ⟨_, _, _, _, rfl⟩ := restrict_ok_iff.mp hr
    simp only [countQueryFor, hc, Except.ok.injEq, Prod.mk.injEq] at hn
    rw [← hn.1, hq, countBase, hc]
    rfl
  | some build =>
    obtain ⟨_, -, -, hcount, -⟩ := count_of_compile hc ho h
    rw [hcount, countBase, hc]
    rfl

/-- Requests that ask for the same documents, on whatever page, up to whatever limit and in whatever order, are counted
by one query. It is never ordered. One that is derived of the page query has no window; one that is made of a grid's
own has the window of that, be there one or not. -/
theorem count_keeps_own_window (c : Config) (r r' : Request) (q q' : Compiled) (ho : c.OverridesQueryless)
    (hr : r.AsksAlike r') (h : c.compile r = .ok q) (h' : c.compile r' = .ok q') :
    q'.count = q.count ∧ q.count.order = none ∧
    (c.countQuery = none → q.count.skip = none ∧ q.count.limit = none) ∧
    ∀ build, c.countQuery = some build →
      q.count.skip = (build c.toSchema).skip ∧ q.count.limit = (build c.toSchema).limit := by
  have hcount := count_eq_base ho h
  refine ⟨?_, ?_, fun hc => ?_, fun build hc => ?_⟩
  · rw [hcount, count_eq_base ho h', conditions_eq_of_alike ho hr h h']
  · rw [hcount]
    rfl
  · rw [hcount, countBase, hc]
    exact ⟨rfl, rfl⟩
  · rw [hcount, countBase, hc]
    exact ⟨rfl, rfl⟩

theorem drafts_counted_alike :
    let own : Override := fun _ value field _ => some (.eq field value)
    let c := (((Config.new "Articles" "articles").withFilterColumn "status" "status").withOrderColumn "title" "title"
      ).withOverride "status" own
    let r := Request.build (.ofList [("page", "3"), ("limit", "20"), ("orderby", "+title")])
      [.filter "status" (.string "draft")]
    let r' := Request.build .empty [.filter "status" (.string "draft")]
    c.OverridesQueryless ∧ r.AsksAlike r' ∧ ∃ q q', c.compile r = .ok q ∧ c.compile r' = .ok q' ∧
      q.query.skip = some 40 ∧ q'.query.skip = some 0 ∧ q'.count = q.count ∧ q.count.order = none ∧
      q.count.skip = none ∧ q.count.limit = none := by
  intro own c r r'
  have ho : c.OverridesQueryless := by
    intro column override hlookup query query' value field op
    obtain ⟨-, rfl⟩ := override?_of_single rfl hlookup
    rfl
  have hr : r.AsksAlike r' := ⟨by decide, rfl⟩
  let conditions : List Predicate := [.eq "status" (.string "draft")]
  let count : Query := ⟨"articles", conditions, none, none, none⟩
  let q : Compiled := ⟨⟨"articles", conditions, some ⟨"title", .asc⟩, some 40, some 20⟩, count, false⟩
  let q' : Compiled := ⟨⟨"articles", conditions, none, some 0, some 10⟩, count, false⟩
  have hq : c.compile r = .ok q := by
    dsimp only [c, r, q]
    exact rfl
  have hq' : c.compile r' = .ok q' := by
    dsimp only [c, r', q']
    exact rfl
  obtain ⟨hsame, horder, hwindow, -⟩ := count_keeps_own_window c r r' q q' ho hr hq hq'
  exact ⟨ho, hr, q, q', hq, hq', rfl, rfl, hsame, horder, hwindow rfl⟩

/-- A counting query of a grid's own loses its order but not its window. -/
theorem own_count_windowed :
    let build (_ : Schema) : Query := ⟨"articles", [], some ⟨"title", .asc⟩, some 2, some 5⟩
    let c := ((Config.new "Articles" "articles").withOrderColumn "title" "title").withCountQuery build
    let r := Request.build (.ofList [("page", "3"), ("limit", "20"), ("orderby", "+title")]) []
    c.OverridesQueryless ∧ ∃ q, c.compile r = .ok q ∧ q.count = ⟨"articles", [], none, some 2, some 5⟩ := by
  intro build c r
  have ho : c.OverridesQueryless := fun column override hlookup => by cases hlookup
  exact ⟨ho, _, rfl, rfl⟩

end Config

end DataGrid
