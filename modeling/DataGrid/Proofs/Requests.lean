import DataGrid.Proofs.Numerals
import DataGrid.Request.Basic

namespace DataGrid.Request

inductive Step
  | defaultLimit (limit : Nat)
  | limit (limit : Nat)
  | filter (column : String) (value : Json)
  | total (total : Nat)

def Step.apply (r : Request) : Step → Request
  | defaultLimit n => r.withDefaultLimit n
  | limit n => r.setLimit n
  | filter column value => r.addFilter column value
  | total n => r.setTotal n

def after (r : Request) (steps : List Step) : Request := steps.foldl Step.apply r

def build (params : Params) (steps : List Step) : Request := (new params).after steps

lemma after_append (r : Request) (steps steps' : List Step) :
    r.after (steps ++ steps') = (r.after steps).after steps' := List.foldl_append

lemma params_after (r : Request) (steps : List Step) : (r.after steps).params = r.params := by
  induction steps generalizing r with
  | nil => rfl
  | cons step steps ih =>
    refine (ih (step.apply r)).trans ?_
    cases step <;> rfl

structure Proper (r : Request) : Prop where
  default_pos : 1 ≤ r.defaultLimit
  override_pos : ∀ n, r.limitOverride = some n → 1 ≤ n
  names_nodup : (Fields.names r.addedFilters).Nodup

lemma Proper.new (params : Params) : (new params).Proper :=
  ⟨by simp [Request.new], by simp [Request.new], by simp [Request.new, Fields.names]⟩

lemma Proper.step {r : Request} (h : r.Proper) (step : Step) : (step.apply r).Proper := by
  obtain ⟨hd, ho, hn⟩ := h
  cases step with
  | defaultLimit n => exact ⟨Nat.le_max_right n 1, ho, hn⟩
  | limit n =>
    refine ⟨hd, fun m hm => ?_, hn⟩
    obtain rfl : max n 1 = m := by simpa [Step.apply, setLimit] using hm
    exact Nat.le_max_right n 1
  | filter column value => exact ⟨hd, ho, Fields.nodup_names_insert hn _ _⟩
  | total n => exact ⟨hd, ho, hn⟩

lemma Proper.after {r : Request} (h : r.Proper) (steps : List Step) : (r.after steps).Proper := by
  induction steps generalizing r with
  | nil => exact h
  | cons step steps ih => exact ih (h.step step)

lemma Proper.build (params : Params) (steps : List Step) : (build params steps).Proper :=
  (Proper.new params).after steps

lemma positiveParam?_bounds {r : Request} {name : String} {n : Nat} (h : r.positiveParam? name = some n) :
    1 ≤ n ∧ n ≤ Count.most := by
  obtain ⟨hread, hpos⟩ := Option.filter_eq_some_iff.mp h
  obtain ⟨text, -, htext⟩ := Option.bind_eq_some_iff.mp hread
  exact ⟨by simpa using hpos, by simpa using (Option.filter_eq_some_iff.mp htext).2⟩

lemma page_bounds (r : Request) : 1 ≤ r.page ∧ r.page ≤ Count.most := by
  rw [page]
  cases hp : r.positiveParam? Params.pageName with
  | none => decide
  | some n => exact positiveParam?_bounds hp

lemma Proper.limit_pos {r : Request} (h : r.Proper) : 1 ≤ r.limit := by
  cases ho : r.limitOverride with
  | some n => simpa [limit, ho] using h.override_pos n ho
  | none =>
    cases hl : r.positiveParam? Params.limitName with
    | some n => simpa [limit, ho, hl] using (positiveParam?_bounds hl).1
    | none => simpa [limit, ho, hl] using h.default_pos

lemma positiveParam?_toString {r : Request} {name : String} {n : Nat} (h : r.params.get? name = some (toString n))
    (hpos : 1 ≤ n) (hmost : n ≤ Count.most) : r.positiveParam? name = some n := by
  simp only [positiveParam?, h, Option.bind_some, Count.trim_toString, Count.ofText?_toString hmost]
  simp [Option.filter, hpos]

lemma step_lookup {column : String} (hk : column ≠ searchKey) (r : Request) {step : Step}
    (h : ∀ value, step ≠ .filter column value) :
    (step.apply r).addedFilters.lookup column = r.addedFilters.lookup column := by
  cases step with
  | filter column' value =>
    have hne : column ≠ innerName column' := by
      unfold innerName
      split
      · exact hk
      · rintro rfl
        exact h value rfl
    exact Fields.lookup_insert_of_ne hne _ _
  | _ => rfl

lemma after_lookup {column : String} (hk : column ≠ searchKey) (r : Request) {steps : List Step}
    (h : ∀ value, .filter column value ∉ steps) :
    (r.after steps).addedFilters.lookup column = r.addedFilters.lookup column := by
  induction steps generalizing r with
  | nil => rfl
  | cons step steps ih =>
    have hstep : ∀ value, step ≠ .filter column value := fun value he => h value (he ▸ List.mem_cons_self)
    exact (ih (step.apply r) fun value hm => h value (List.mem_cons_of_mem _ hm)).trans (step_lookup hk r hstep)

lemma mem_filter_of_added (params : Params) (before later : List Step) {column : String} (value : Json)
    (hs : column ≠ Params.searchName) (hk : column ≠ searchKey) (h : ∀ v, .filter column v ∉ later) :
    (column, value) ∈ (build params (before ++ .filter column value :: later)).filter := by
  have hp : (build params (before ++ .filter column value :: later)).Proper := .build _ _
  have hl : (build params (before ++ .filter column value :: later)).addedFilters.lookup column = some value := by
    have hi : innerName column = column := by rw [innerName, if_neg hs]
    rw [build, after_append]
    refine (after_lookup hk _ h).trans ?_
    change (Fields.insert _ (innerName column) value).lookup column = _
    rw [hi, Fields.lookup_insert_self]
  have hf : (build params (before ++ .filter column value :: later)).filter.lookup column = some value := by
    rw [filter, Fields.lookup_insertAll hp.names_nodup, hl]
    rfl
  obtain ⟨front, back, he, -⟩ := List.lookup_eq_some_iff.mp hf
  rw [he]
  exact List.mem_append_right _ List.mem_cons_self

/-- Two requests that ask for the same documents; the page, the limit, the order and what is known of
the total may differ. -/
structure AsksAlike (r r' : Request) : Prop where
  params : ∀ name ∈ [Params.filterName, Params.advancedName, Params.searchName],
    r'.params.get? name = r.params.get? name
  added : r'.addedFilters = r.addedFilters

lemma AsksAlike.filter_eq {r r' : Request} (h : r.AsksAlike r') : r'.filter = r.filter := by
  have hf := h.params Params.filterName (by simp)
  have hs := h.params Params.searchName (by simp)
  simp only [filter, withSearch, sentFilter, jsonParam?, hf, hs, h.added]
  rfl

lemma AsksAlike.advancedFilter_eq {r r' : Request} (h : r.AsksAlike r') : r'.advancedFilter = r.advancedFilter := by
  have ha := h.params Params.advancedName (by simp)
  simp only [advancedFilter, jsonParam?, ha]

def atPage (r : Request) (page : Nat) : Request :=
  { r with params := r.params.insert Params.pageName (toString page) }

lemma get?_atPage (r : Request) (page : Nat) {name : String}
    (h : Params.normalize name ≠ Params.normalize Params.pageName) :
    (r.atPage page).params.get? name = r.params.get? name :=
  Params.get?_insert_of_ne r.params h (toString page)

lemma asksAlike_atPage (r : Request) (page : Nat) : r.AsksAlike (r.atPage page) := by
  refine ⟨fun name hname => get?_atPage r page ?_, rfl⟩
  have hnames : ∀ name ∈ [Params.filterName, Params.advancedName, Params.searchName],
      Params.normalize name ≠ Params.normalize Params.pageName := by decide
  exact hnames name hname

@[simp] lemma atPage_filter (r : Request) (page : Nat) : (r.atPage page).filter = r.filter :=
  (r.asksAlike_atPage page).filter_eq

@[simp] lemma atPage_advancedFilter (r : Request) (page : Nat) : (r.atPage page).advancedFilter = r.advancedFilter :=
  (r.asksAlike_atPage page).advancedFilter_eq

@[simp] lemma atPage_orderBy (r : Request) (page : Nat) : (r.atPage page).orderBy = r.orderBy := by
  rw [orderBy, get?_atPage r page (by decide), ← orderBy]

@[simp] lemma atPage_limit (r : Request) (page : Nat) : (r.atPage page).limit = r.limit := by
  have hl : (r.atPage page).params.get? Params.limitName = r.params.get? Params.limitName :=
    get?_atPage r page (by decide)
  simp only [limit, positiveParam?, hl]
  rfl

lemma atPage_page (r : Request) {page : Nat} (h : 1 ≤ page) (hm : page ≤ Count.most) : (r.atPage page).page = page := by
  have hp : (r.atPage page).params.get? Params.pageName = some (toString page) :=
    Params.get?_insert_self r.params Params.pageName (toString page)
  rw [Request.page, positiveParam?_toString hp h hm, Option.getD_some]

end DataGrid.Request
