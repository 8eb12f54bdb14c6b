import KerSorMonitor.Flotilla.Transactions

/-!
# The lifecycle table is respected by every writer

Half of the transactions write the state column with raw SQL instead of calling `transition`.
Every change of the state of an existing row is nevertheless a pair of the table, whoever
makes it, and a row in `DONE`, `FAILED` or `CANCELLED` keeps its state until its deletion.

Results:
1. `commit_state_allowed`: one call moves a row along the table.
2. `run_absorbing`: a run without a deletion keeps an absorbing state.
3. `lifecycle_respected`: both for every run, with the error path.
-/

namespace Flotilla

open TransactionLemmas RunLemmas TaskState

variable {settings : Settings} {db : Db}

/-- `DONE`, `FAILED` and `CANCELLED`. -/
def TaskState.IsAbsorbing (st : TaskState) : Prop := st = done ∨ st = failed ∨ st = cancelled

namespace LifecycleLemmas

theorem commit_state_allowed (c : Call) {tid : TaskId} {st st' : TaskState}
    (h : db.state? tid = some st) (h' : (c.commit settings db).state? tid = some st') :
    st = st' ∨ (st, st') ∈ allowed := by
  obtain ⟨t, ht, rfl⟩ := Option.map_eq_some_iff.mp h
  obtain ⟨t', ht', rfl⟩ := Option.map_eq_some_iff.mp h'
  exact (exec_rowStep rfl ht ht').state

theorem commit_absorbing {c : Call} {tid : TaskId} {st : TaskState} (habs : st.IsAbsorbing)
    (hc : ¬ c.tx.Deletes tid) (h : db.state? tid = some st) :
    (c.commit settings db).state? tid = some st := by
  cases h' : (c.commit settings db).state? tid with
  | none =>
    obtain ⟨t, ht, -⟩ := Option.map_eq_some_iff.mp h
    exact absurd (exec_deleted rfl ht (Option.map_eq_none_iff.mp h')) hc
  | some st' =>
    rcases commit_state_allowed c h h' with rfl | hmem
    · rfl
    · exact absurd hmem (not_allowed_from_absorbing habs)

theorem run_absorbing {calls : List Call} {tid : TaskId} {st : TaskState}
    (habs : st.IsAbsorbing) (hcalls : ∀ c ∈ calls, ¬ c.tx.Deletes tid)
    (h : db.state? tid = some st) : (run settings calls db).state? tid = some st := by
  induction calls generalizing db with
  | nil => exact h
  | cons c calls ih =>
    refine ih (fun c' hc' => hcalls c' (List.mem_cons_of_mem _ hc')) ?_
    exact commit_absorbing habs (hcalls c List.mem_cons_self) h

end LifecycleLemmas

open LifecycleLemmas

/-- In every run of transactions, from every database: each call moves each existing row along
the table and changes nothing when it raises; and a row that is `DONE`, `FAILED` or `CANCELLED`
somewhere in the run keeps that state until a call deletes it. -/
theorem lifecycle_respected (settings : Settings) (db : Db) (calls : List Call) :
    (∀ before c after, calls = before ++ c :: after →
      (∀ tid st st', (run settings before db).state? tid = some st →
        (run settings (before ++ [c]) db).state? tid = some st' →
        st = st' ∨ (st, st') ∈ allowed) ∧
      (∀ e, c.result settings (run settings before db) = .error e →
        run settings (before ++ [c]) db = run settings before db)) ∧
    (∀ before rest, calls = before ++ rest → ∀ tid st, st.IsAbsorbing →
      (run settings before db).state? tid = some st → (∀ c ∈ rest, ¬ c.tx.Deletes tid) →
      (run settings calls db).state? tid = some st) := by
  refine ⟨?_, ?_⟩
  · rintro before c after -
    have hrun : run settings (before ++ [c]) db = c.commit settings (run settings before db) := by
      rw [run_append, run_cons, run_nil]
    rw [hrun]
    refine ⟨fun tid st st' h h' => commit_state_allowed c h h', fun e he => ?_⟩
    exact exec_rollsBack c.tx _ _ e (Prod.ext he rfl)
  · rintro before rest rfl tid st habs h hrest
    rw [run_append]
    exact run_absorbing habs hrest h

end Flotilla
