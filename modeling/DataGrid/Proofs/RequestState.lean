import DataGrid.Proofs.LastEntry
import DataGrid.Proofs.Reordering

namespace DataGrid.Request

namespace Step

def limit? : Step → Option Nat
  | limit n => some n
  | _ => none

def defaultLimit? : Step → Option Nat
  | defaultLimit n => some n
  | _ => none

def value? (asked : String → Bool) : Step → Option Json
  | filter column value => valueIf asked (column, value)
  | _ => none

end Step

variable {r : Request} {params : Params} {steps : List Step}

def isSearchName (name : String) : Bool := name = Params.searchName ∨ name = searchKey

lemma innerName_eq_searchKey_iff (column : String) : innerName column = searchKey ↔ isSearchName column = true := by
  unfold innerName
  split
  case isTrue h => simp [isSearchName, h]
  case isFalse h => simp [isSearchName, h]

lemma innerName_eq_iff {key : String} (h : isSearchName key = false) (column : String) :
    innerName column = key ↔ column = key := by
  have hkey : key ≠ Params.searchName ∧ key ≠ searchKey := by simpa [isSearchName] using h
  unfold innerName
  split
  case isTrue hcolumn => exact iff_of_false hkey.2.symm (hcolumn ▸ hkey.1.symm)
  case isFalse => exact Iff.rfl

lemma limitOverride_after (r : Request) (steps : List Step) :
    (r.after steps).limitOverride = (last? Step.limit? steps).elim r.limitOverride fun n => some (max n 1) :=
  read_foldl limitOverride (fun r step => by cases step <;> rfl) r steps

lemma defaultLimit_after (r : Request) (steps : List Step) :
    (r.after steps).defaultLimit = (last? Step.defaultLimit? steps).elim r.defaultLimit (max · 1) :=
  read_foldl defaultLimit (fun r step => by cases step <;> rfl) r steps

lemma lookup_added_step (key : String) (r : Request) (step : Step) : (step.apply r).addedFilters.lookup key =
    (step.value? fun column => innerName column = key).elim (r.addedFilters.lookup key) some := by
  cases step with
  | filter column value =>
    by_cases h : innerName column = key
    · subst h
      simp [Step.apply, addFilter, Step.value?, valueIf]
    · simp [Step.apply, addFilter, Step.value?, valueIf, h, Fields.lookup_insert_of_ne (Ne.symm h)]
  | _ => rfl

lemma lookup_added_build (key : String) : (build params steps).addedFilters.lookup key =
    last? (Step.value? fun column => innerName column = key) steps := by
  rw [build, after, read_foldl (fun r : Request => r.addedFilters.lookup key) (lookup_added_step key)]
  cases last? (Step.value? fun column => innerName column = key) steps <;> rfl

lemma params_build (params : Params) (steps : List Step) : (build params steps).params = params :=
  params_after (new params) steps

lemma positiveParam?_build (name : String) :
    (build params steps).positiveParam? name = (new params).positiveParam? name := by
  rw [positiveParam?, params_build]
  rfl

lemma jsonParam?_build (name : String) : (build params steps).jsonParam? name = (new params).jsonParam? name := by
  rw [jsonParam?, params_build]
  rfl

lemma lookup_sentFilter (key : String) :
    r.sentFilter.lookup key = last? (valueIf fun name => innerName name = key) r.sentMembers := by
  rw [sentFilter_eq, Fields.lookup_rename]

def sentSearch (r : Request) : Option Json :=
  ((r.params.get? Params.searchName).filter (!Text.isBlankText ·)).map .string

lemma lookup_withSearch_of_ne {key : String} (h : key ≠ searchKey) (fields : List (String × Json)) :
    (r.withSearch fields).lookup key = fields.lookup key := by
  unfold withSearch
  split
  · rfl
  · split
    · rfl
    · exact Fields.lookup_insert_of_ne h fields _

lemma lookup_withSearch_search (fields : List (String × Json)) :
    (r.withSearch fields).lookup searchKey = (fields.lookup searchKey).or r.sentSearch := by
  rw [withSearch, sentSearch]
  cases r.params.get? Params.searchName with
  | none => exact Option.or_none.symm
  | some search =>
    rw [Fields.has]
    cases hl : fields.lookup searchKey with
    | some value => simp [hl]
    | none =>
      by_cases hb : Text.isBlankText search = true
      · simp [hb, hl]
      · simp [hb]

lemma lookup_filter_build (key : String) : (build params steps).filter.lookup key =
    (last? (Step.value? fun column => innerName column = key) steps).or
      (((build params steps).withSearch (new params).sentFilter).lookup key) := by
  have hsent : (build params steps).sentFilter = (new params).sentFilter := by rw [sentFilter, jsonParam?_build]; rfl
  rw [filter, Fields.lookup_insertAll (Proper.build params steps).names_nodup, lookup_added_build, hsent]
  cases last? (Step.value? fun column => innerName column = key) steps <;> rfl

lemma lookup_filter_outer : (build params steps).filter.lookup Params.searchName = none := by
  have hadded : last? (Step.value? fun column => innerName column = Params.searchName) steps = none := by
    refine last?_eq_none fun step _ => ?_
    cases step with
    | filter column value => exact if_neg (by simpa using innerName_ne_search column)
    | _ => rfl
  have hsent : last? (valueIf fun name => innerName name = Params.searchName) (new params).sentMembers = none :=
    last?_eq_none fun member _ => if_neg (by simpa using innerName_ne_search member.1)
  rw [lookup_filter_build, lookup_withSearch_of_ne (by decide), lookup_sentFilter, hadded, hsent, Option.or_none]

lemma lookup_filter_own {key : String} (h : isSearchName key = false) : (build params steps).filter.lookup key =
    (last? (Step.value? (· = key)) steps).or ((new params).sentMembers.lookup key) := by
  have hinner : (fun name => decide (innerName name = key)) = (fun name => decide (name = key)) := by
    funext name
    exact decide_eq_decide.mpr (innerName_eq_iff h name)
  have hkey : key ≠ searchKey := by
    rintro rfl
    cases h
  rw [lookup_filter_build, lookup_withSearch_of_ne hkey, lookup_sentFilter, hinner,
    Fields.last?_eq_lookup (nodup_sentMembers _)]

lemma lookup_filter_search : (build params steps).filter.lookup searchKey =
    ((last? (Step.value? isSearchName) steps).or (last? (valueIf isSearchName) (new params).sentMembers)).or
      (new params).sentSearch := by
  have hinner : (fun name => decide (innerName name = searchKey)) = isSearchName := by
    funext name
    rw [Bool.eq_iff_iff, decide_eq_true_iff, innerName_eq_searchKey_iff]
  have hsearch : (build params steps).sentSearch = (new params).sentSearch := by rw [sentSearch, params_build]; rfl
  rw [lookup_filter_build, lookup_withSearch_search, lookup_sentFilter, hinner, hsearch, Option.or_assoc]

lemma limit_build : (build params steps).limit =
    (((last? Step.limit? steps).map (max · 1)).or ((new params).positiveParam? Params.limitName)).getD
      (((last? Step.defaultLimit? steps).map (max · 1)).getD 10) := by
  rw [limit, positiveParam?_build, build, limitOverride_after, defaultLimit_after]
  cases last? Step.limit? steps <;> cases last? Step.defaultLimit? steps <;> rfl

/-- Whatever calls were made of a request in any order, of each kind the last one counts. The page, the order
and the advanced filter are those of the parameters; the limit is the one that was set, else that of the
parameters, else the default; a filter on a column is the one that was added, else that of the parameters, and
the search goes by both its names and is also a parameter of its own. -/
theorem build_keeps_last (params : Params) (steps : List Step) :
    let r := build params steps
    let sent := new params
    let added (asked : String → Bool) := last? (Step.value? asked) steps
    (1 ≤ r.page ∧ r.page = sent.page) ∧
    (1 ≤ r.limit ∧ r.limit =
      (((last? Step.limit? steps).map (max · 1)).or (sent.positiveParam? Params.limitName)).getD
        (((last? Step.defaultLimit? steps).map (max · 1)).getD 10)) ∧
    r.orderBy = sent.orderBy ∧ r.advancedFilter = sent.advancedFilter ∧
    (Fields.names r.filter).Nodup ∧ r.filter.lookup Params.searchName = none ∧
    (∀ column, isSearchName column = false →
      r.filter.lookup column = (added (· = column)).or (sent.sentMembers.lookup column)) ∧
    r.filter.lookup searchKey =
      ((added isSearchName).or (last? (valueIf isSearchName) sent.sentMembers)).or sent.sentSearch := by
  intro r sent added
  have hpage : r.page = sent.page := by rw [page, positiveParam?_build]; rfl
  have horder : r.orderBy = sent.orderBy := by rw [orderBy, params_build]; rfl
  have hadvanced : r.advancedFilter = sent.advancedFilter := by rw [advancedFilter, jsonParam?_build]; rfl
  exact ⟨⟨r.page_bounds.1, hpage⟩, ⟨(Proper.build params steps).limit_pos, limit_build⟩, horder, hadvanced,
    r.nodup_names_filter, lookup_filter_outer, fun column hcolumn => lookup_filter_own hcolumn, lookup_filter_search⟩

end DataGrid.Request
