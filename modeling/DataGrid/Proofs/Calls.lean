import DataGrid.Grid.Run
import DataGrid.Proofs.Compilation
import DataGrid.Store.Memory

namespace DataGrid

namespace Store

def failure? (s : Store Id) : Call → Option StoreError
  | .find q => match s.find q with
    | .ok _ => none
    | .error e => some e
  | .count q => match s.count q with
    | .ok _ => none
    | .error e => some e

def made (s : Store Id) : List Call → List Call
  | [] => []
  | call :: calls => call :: if (s.failure? call).isSome then [] else s.made calls

lemma made_of_no_failure {s : Store Id} {calls : List Call} (h : calls.findSome? s.failure? = none) :
    s.made calls = calls := by
  induction calls with
  | nil => rfl
  | cons call calls ih =>
    simp only [List.findSome?_cons] at h
    cases hc : s.failure? call with
    | none => simp_all [made]
    | some e => simp [hc] at h

lemma find_ok_of_no_failure {s : Store Id} {q : Query} (h : s.failure? (.find q) = none) :
    ∃ documents, s.find q = .ok documents := by
  cases hf : s.find q with
  | ok documents => exact ⟨documents, rfl⟩
  | error e => simp [failure?, hf] at h

lemma count_ok_of_no_failure {s : Store Id} {q : Query} (h : s.failure? (.count q) = none) :
    ∃ total, s.count q = .ok total := by
  cases hn : s.count q with
  | ok total => exact ⟨total, rfl⟩
  | error e => simp [failure?, hn] at h

end Store

namespace Config

/-- The calls for a compiled request; a counting query of the grid's own goes first. -/
def calls (c : Config) (q : Compiled) : List Call :=
  if c.countQuery.isSome then [.count q.count, .find q.query] else [.find q.query, .count q.count]

lemma run_bind {ε α β : Type} (x : ExceptT ε (StateT (List Call) Id) α)
    (f : α → ExceptT ε (StateT (List Call) Id) β) (log : List Call) :
    (x >>= f).run.run log = match x.run.run log with
      | (.ok a, log') => (f a).run.run log'
      | (.error e, log') => (.error e, log') := by
  rw [ExceptT.run_bind, StateT.run_bind]
  rcases x.run.run log with ⟨_ | _, _⟩ <;> rfl

lemma runFind_logged (c : Config) (s : Store Id) (q : Query) (log : List Call) :
    (c.runFind s.logged q).run.run log = ((s.find q).mapError c.storeFailure, log ++ [.find q]) := rfl

lemma runCount_logged (c : Config) (s : Store Id) (q : Query) (log : List Call) :
    (c.runCount s.logged q).run.run log = ((s.count q).mapError c.storeFailure, log ++ [.count q]) := rfl

def answer (c : Config) (s : Store Id) (q : Compiled) : Except StoreError (List Document × Nat) :=
  match (c.calls q).findSome? s.failure? with
  | some e => .error e
  | none => do return (← s.find q.query, ← s.count q.count)

lemma runBoth_logged {c : Config} {q : Compiled} (hq : q.countsFirst = c.countQuery.isSome) (s : Store Id)
    (log : List Call) :
    (c.runBoth s.logged q).run.run log = ((c.answer s q).mapError c.storeFailure, log ++ s.made (c.calls q)) := by
  cases hb : c.countQuery.isSome with
  | true =>
    rw [runBoth, hq, hb, if_pos rfl, run_bind, runCount_logged]
    cases hn : s.count q.count with
    | error e => simp [answer, calls, Store.made, Store.failure?, hb, hn]
    | ok total =>
      simp only [Outcome.mapError_ok, run_bind, runFind_logged]
      cases hf : s.find q.query with
      | error e => simp [answer, calls, Store.made, Store.failure?, hb, hn, hf]
      | ok documents =>
        simp [answer, calls, Store.made, Store.failure?, hb, hn, hf]
        rfl
  | false =>
    rw [runBoth, hq, hb, if_neg Bool.false_ne_true, run_bind, runFind_logged]
    cases hf : s.find q.query with
    | error e => simp [answer, calls, Store.made, Store.failure?, hb, hf]
    | ok documents =>
      simp only [Outcome.mapError_ok, run_bind, runCount_logged]
      cases hn : s.count q.count with
      | error e => simp [answer, calls, Store.made, Store.failure?, hb, hn, hf]
      | ok total =>
        simp [answer, calls, Store.made, Store.failure?, hb, hn, hf]
        rfl

lemma fetch_logged (c : Config) (s : Store Id) (r : Request) (log : List Call) :
    (c.fetch s.logged r).run.run log = match c.compile r with
      | .ok q => match (c.runBoth s.logged q).run.run log with
        | (.ok (documents, total), log') => (.ok ⟨documents, total, c.settings.dateFormat⟩, log')
        | (.error e, log') => (.error e, log')
      | .error e => (.error e, log) := by
  cases hq : c.compile r with
  | error e => rw [fetch, hq]; rfl
  | ok q =>
    have hf : c.fetch s.logged r = c.runBoth s.logged q >>= fun both =>
        pure ⟨both.1, both.2, c.settings.dateFormat⟩ := by rw [fetch, hq]; rfl
    rw [hf, run_bind]
    dsimp only
    rcases (c.runBoth s.logged q).run.run log with ⟨_ | _, _⟩ <;> rfl

lemma getData_logged (c : Config) (s : Store Id) (r : Request) (log : List Call) :
    (c.getData s.logged r).run log = match (c.fetch s.logged r).run.run log with
      | (.ok found, log') => ((.ok found, r.setTotal found.total), log')
      | (.error e, log') => ((.error e, r), log') := by
  rw [getData, StateT.run_bind]
  rcases (c.fetch s.logged r).run.run log with ⟨_ | _, _⟩ <;> rfl

lemma getData_of_error {c : Config} {r : Request} {e : Error} (he : c.compile r = .error e) (s : Store Option) :
    c.getData s r = some (.error e, r) := by
  rw [getData, fetch, he]
  rfl

lemma getData_of_compile {c : Config} {r : Request} {q : Compiled} (hq : c.compile r = .ok q) (s : MemoryStore) :
    c.getData s.store r = match s.find q.query, s.count q.count with
      | some (.ok documents), .ok total => some (.ok ⟨documents, total, c.settings.dateFormat⟩, r.setTotal total)
      | some (.ok _), .error e => some (.error (c.storeFailure e), r)
      | some (.error e), .ok _ => some (.error (c.storeFailure e), r)
      | some (.error e), .error e' => some (.error (c.storeFailure (if q.countsFirst then e' else e)), r)
      | none, .ok _ => none
      | none, .error e => if q.countsFirst then some (.error (c.storeFailure e), r) else none := by
  have hcount : s.store.count q.count = some (s.count q.count) := rfl
  have hfind : s.store.find q.query = s.find q.query := rfl
  have hfetch : c.fetch s.store r = do
      let both ← c.runBoth s.store q
      return ⟨both.1, both.2, c.settings.dateFormat⟩ := by
    rw [fetch, hq]
    rfl
  rw [getData, hfetch, runBoth, runFind, runCount, hfind, hcount]
  cases q.countsFirst <;> rcases s.find q.query with _ | _ | _ <;> cases s.count q.count <;> rfl

lemma getData_ok_iff {c : Config} {s : MemoryStore} {r after : Request} {found : Found} :
    c.getData s.store r = some (.ok found, after) ↔ ∃ q documents total,
      c.compile r = .ok q ∧ s.find q.query = some (.ok documents) ∧ s.count q.count = .ok total ∧
      found = ⟨documents, total, c.settings.dateFormat⟩ ∧ after = r.setTotal total := by
  constructor
  · intro h
    cases hq : c.compile r with
    | error e => simp [getData_of_error hq] at h
    | ok q =>
      rw [getData_of_compile hq] at h
      rcases hf : s.find q.query with _ | _ | documents
      · cases hn : s.count q.count <;> simp [hf, hn] at h
      · cases hn : s.count q.count <;> simp [hf, hn] at h
      · cases hn : s.count q.count with
        | error e => simp [hf, hn] at h
        | ok total =>
          simp only [hf, hn, Option.some.injEq, Prod.mk.injEq, Except.ok.injEq] at h
          exact ⟨q, documents, total, rfl, hf, hn, h.1.symm, h.2.symm⟩
  · rintro ⟨q, documents, total, hq, hf, hn, rfl, rfl⟩
    rw [getData_of_compile hq, hf, hn]

/-- A request that does not compile reaches no store; for any other the calls are made in turn up to
the first that fails, and only if none does the request changes, by its total. -/
theorem getData_fail_fast (c : Config) (s : Store Id) (r : Request) (log : List Call) :
    match c.compile r with
    | .error e => (c.getData s.logged r).run log = ((.error e, r), log)
    | .ok q => match (c.calls q).findSome? s.failure? with
      | some e =>
        (c.getData s.logged r).run log =
          ((.error (if e.code = some 27 then .searchIndexMissing c.name e.message else .store e), r),
            log ++ s.made (c.calls q))
      | none => ∃ documents total, s.find q.query = .ok documents ∧ s.count q.count = .ok total ∧
        (c.getData s.logged r).run log =
          ((.ok ⟨documents, total, c.settings.dateFormat⟩, { r with total := some total }), log ++ c.calls q) := by
  rw [getData_logged, fetch_logged]
  cases hq : c.compile r with
  | error e => rfl
  | ok q =>
    simp only [runBoth_logged (countsFirst_of_compile hq), answer]
    cases hc : (c.calls q).findSome? s.failure? with
    | some e => simp [storeFailure, StoreError.isIndexMissing, StoreError.indexMissing]
    | none =>
      have hnone : ∀ call ∈ c.calls q, s.failure? call = none := by simpa using hc
      obtain ⟨documents, hf⟩ := Store.find_ok_of_no_failure (hnone (.find q.query) (by simp [calls]; split <;> simp))
      obtain ⟨total, hn⟩ := Store.count_ok_of_no_failure (hnone (.count q.count) (by simp [calls]; split <;> simp))
      refine ⟨documents, total, hf, hn, ?_⟩
      rw [hf, hn, Store.made_of_no_failure hc]
      rfl

end Config

end DataGrid
