import KerSorMonitor.Flotilla.Transactions

/-!
# Capacity

The load of the control plane is the number of active worker rows and of claimed tasks.
A claim reserves free capacity only; an activation turns one claimed task into one active
worker; everything else lowers the load or keeps it.

Results:
1. `load_claim_le`, `load_activate_le`, `load_other_le`: one transaction.
2. `load_run_le`: the load never exceeds the limit, in every run of claims with one limit.
3. `claimed_once`: a task that a claim returned is returned again only after some transaction
   has made it `QUEUED`.
-/

namespace Flotilla

open Keyed Store StoreLemmas TransactionLemmas RunLemmas TaskState

variable {settings : Settings} {db db' : Db}

/-- `(worker rows with ended_at NULL) + (tasks in DISPATCHING)`. -/
def load (db : Db) : Nat := activeWorkers db + dispatchingTasks db

/-- The call activates a worker. -/
def Transaction.IsActivation : {α : Type} → Transaction α → Prop
  | _, .activateWorker _ _ _ => True
  | _, _ => False

/-- Claims have the limit `maxActive`, `DISPATCHING` is entered only by a claim, and workers
are inserted only by an activation. -/
structure CapacityOk (settings : Settings) (maxActive : Int) (db : Db) (c : Call) : Prop where
  limit : ∀ n clock, c = ⟨.claimQueuedTasks n, clock⟩ → n = maxActive
  dispatching : ¬ c.tx.IsClaim → ∀ tid,
    (c.commit settings db).state? tid = some .dispatching → db.state? tid = some .dispatching
  inserted : ¬ c.tx.IsActivation → ∀ wid,
    ((c.commit settings db).worker? wid).isSome → (db.worker? wid).isSome

/-- The calls that the control plane makes: claims with the configured limit, no other writer
of `DISPATCHING`, and no `create_worker`. -/
def Call.Permitted (maxActive : Int) : Call → Prop
  | ⟨.claimQueuedTasks n, _⟩ => n = maxActive
  | ⟨.createTasks ts, _⟩ => ∀ t ∈ ts, t.state ≠ .dispatching
  | ⟨.setTaskState _ newState _, _⟩ => newState ≠ TaskState.dispatching.name
  | ⟨.releaseTaskClaim _ target, _⟩ => target ≠ TaskState.dispatching.name
  | ⟨.finishWorker _ _ terminalState _, _⟩ => terminalState ≠ TaskState.dispatching.name
  | ⟨.createWorker _, _⟩ => False
  | _ => True

namespace CapacityLemmas

theorem state?_eq_some {tid : TaskId} {st : TaskState} :
    db.state? tid = some st ↔ ∃ t, db.task? tid = some t ∧ (decide (t.state = st)) = true := by
  simp [Db.state?]

/-- No task starts to be dispatching. -/
theorem dispatchingTasks_le
    (h : ∀ tid, db'.state? tid = some .dispatching → db.state? tid = some .dispatching) :
    dispatchingTasks db' ≤ dispatchingTasks db :=
  Table.count_le fun tid t ht hst =>
    state?_eq_some.mp (h tid (state?_eq_some.mpr ⟨t, ht, hst⟩))

/-- No worker row starts to be active. -/
theorem activeWorkers_le
    (h : ∀ wid w', db'.worker? wid = some w' → w'.isActive = true →
      ∃ w, db.worker? wid = some w ∧ w.isActive = true) :
    activeWorkers db' ≤ activeWorkers db :=
  Table.count_le h

/-- A worker row that is active after a call was active before, unless the call made it. -/
theorem active_before {c : Call} {wid : WorkerId} {w' : Worker}
    (h : (c.commit settings db).worker? wid = some w') (ha : w'.isActive = true) :
    (∃ w, db.worker? wid = some w ∧ w.isActive = true) ∨
      (c.tx.Inserts w' ∧ db.worker? wid = none) := by
  have hchange : WorkerChange c.tx (db.worker? wid) (some w') := h ▸ commit_worker c wid
  cases hw : db.worker? wid with
  | none =>
    rw [hw] at hchange
    cases hchange with
    | insert hi => exact Or.inr ⟨hi, rfl⟩
  | some w =>
    refine Or.inl ⟨w, rfl, ?_⟩
    rw [hw] at hchange
    cases hchange with
    | keep => exact ha
    | step hs =>
      cases hact : w.isActive with
      | true => rfl
      | false =>
        have hsame := hs.ended hact
        unfold Worker.isActive at ha hact
        rw [hsame, hact] at ha
        cases ha

/-- The calls that the control plane makes keep to the rules. -/
theorem capacityOk_of_permitted {maxActive : Int} {c : Call} (h : c.Permitted maxActive)
    (db : Db) : CapacityOk settings maxActive db c where
  limit := by
    rintro n clock rfl
    exact h
  dispatching := by
    intro hclaim tid hst
    rcases commit_writes hst with hbefore | hwrites
    · exact hbefore
    · obtain ⟨tx, clock⟩ := c
      cases tx with
      | claimQueuedTasks => exact absurd trivial hclaim
      | createTasks ts =>
        obtain ⟨t, ht, -, hd⟩ := hwrites
        exact absurd hd (h t ht)
      | setTaskState => exact absurd hwrites.2 h
      | releaseTaskClaim => exact absurd hwrites.2 h
      | finishWorker => exact absurd hwrites.2 h
      | markStaleDispatchingLost => cases hwrites
      | activateWorker => cases hwrites.2
      | _ => exact hwrites.elim
  inserted := by
    intro hact wid hsome
    have hchange : WorkerChange c.tx (db.worker? wid) ((c.commit settings db).worker? wid) :=
      commit_worker c wid
    cases hw : db.worker? wid with
    | some w => rfl
    | none =>
      rw [hw] at hchange
      obtain ⟨w', hw'⟩ := Option.isSome_iff_exists.mp hsome
      rw [hw'] at hchange
      cases hchange with
      | insert hi =>
        obtain ⟨tx, clock⟩ := c
        cases tx with
        | activateWorker => exact absurd trivial hact
        | createWorker => exact h.elim
        | _ => exact hi.elim

theorem respects_of_permitted {maxActive : Int} {calls : List Call}
    (h : ∀ c ∈ calls, c.Permitted maxActive) (db : Db) :
    Respects settings (CapacityOk settings maxActive) calls db := by
  induction calls generalizing db with
  | nil => trivial
  | cons c calls ih =>
    exact ⟨capacityOk_of_permitted (h c List.mem_cons_self) db,
      ih (fun c' hc' => h c' (List.mem_cons_of_mem _ hc')) _⟩

theorem load_claim_le {maxActive : Int} (now : String) (h : (load db : Int) ≤ maxActive) :
    (load (claimQueuedTasks now maxActive db).2 : Int) ≤ maxActive := by
  obtain ⟨-, hw, -, htask⟩ := claimQueuedTasks_spec now maxActive db
  have hactive : activeWorkers (claimQueuedTasks now maxActive db).2 = activeWorkers db := by
    unfold activeWorkers
    rw [hw]
  have hdisp : dispatchingTasks (claimQueuedTasks now maxActive db).2 ≤
      dispatchingTasks db + ((claimSelection maxActive db).map Task.id).length := by
    refine Table.count_le_add _ fun tid t ht hst => ?_
    by_cases hmem : tid ∈ (claimSelection maxActive db).map Task.id
    · exact Or.inl hmem
    · refine Or.inr ⟨t, ?_, hst⟩
      have hkeep := htask tid
      rw [show (claimQueuedTasks now maxActive db).2.task? tid = some t from ht] at hkeep
      simpa [hmem, Db.task?] using hkeep.symm
  rw [List.length_map] at hdisp
  unfold load at h ⊢
  rw [hactive]
  rcases length_claimSelection maxActive db with hnil | hfit
  · rw [hnil, List.length_nil] at hdisp
    omega
  · omega

/-- An activation moves one unit from the claimed tasks to the active workers. -/
theorem load_activate_le {now : String} {tid : TaskId} {worker : Worker} {workspace : String}
    {r : Except PyErr Bool} (h : activateWorker now tid worker workspace db = (r, db')) :
    load db' ≤ load db := by
  rcases activateWorker_cases h with ⟨rfl, -⟩ | ⟨row, hu, hrow, hst, -, -, hw, -, htask⟩
  · exact Nat.le_refl _
  · have hactive : activeWorkers db' ≤ activeWorkers db + [worker.id].length := by
      refine Table.count_le_add _ fun wid w hwid ha => ?_
      rw [hw, Table.get?_insert] at hwid
      split at hwid
      · next heq => exact Or.inl (by simp [heq])
      · exact Or.inr ⟨w, hwid, ha⟩
    have hdisp : dispatchingTasks db' + 1 ≤ dispatchingTasks db := by
      refine Table.count_lt tid (fun tid' t ht hd => ?_) ⟨row, hrow, by simp [hst]⟩
      have hkeep := htask tid'
      rw [show db'.task? tid' = some t from ht] at hkeep
      split at hkeep
      · cases hkeep
        simp at hd
      · next hne => exact ⟨hne, t, hkeep.symm, hd⟩
    unfold load
    simp only [List.length_cons, List.length_nil] at hactive
    omega

/-- Every other transaction keeps the load or lowers it. -/
theorem load_other_le {maxActive : Int} {c : Call} (hok : CapacityOk settings maxActive db c)
    (hclaim : ¬ c.tx.IsClaim) (hact : ¬ c.tx.IsActivation) :
    load (c.commit settings db) ≤ load db := by
  refine Nat.add_le_add (activeWorkers_le fun wid w' hw' ha => ?_)
    (dispatchingTasks_le (hok.dispatching hclaim))
  rcases active_before hw' ha with h | ⟨-, hnone⟩
  · exact h
  · have := hok.inserted hact wid (by rw [hw']; rfl)
    rw [hnone] at this
    cases this

theorem load_commit_le {maxActive : Int} {c : Call} (hok : CapacityOk settings maxActive db c)
    (h : (load db : Int) ≤ maxActive) : (load (c.commit settings db) : Int) ≤ maxActive := by
  by_cases hclaim : c.tx.IsClaim
  · obtain ⟨tx, clock⟩ := c
    cases tx with
    | claimQueuedTasks n =>
      cases hok.limit n clock rfl
      exact load_claim_le clock.now h
    | _ => exact hclaim.elim
  · by_cases hact : c.tx.IsActivation
    · obtain ⟨tx, clock⟩ := c
      cases tx with
      | activateWorker tid worker workspace =>
        have : load (Call.commit settings ⟨.activateWorker tid worker workspace, clock⟩ db) ≤
            load db := load_activate_le rfl
        exact le_trans (Int.ofNat_le.mpr this) h
      | _ => exact hact.elim
    · exact le_trans (Int.ofNat_le.mpr (load_other_le hok hclaim hact)) h

/-- A returned task was `QUEUED` and is `DISPATCHING` after the claim. -/
theorem claimed_states {c : Call} {t : Task} (h : t ∈ c.claimed settings db) :
    db.state? t.id = some .queued ∧
      (c.commit settings db).state? t.id = some .dispatching := by
  obtain ⟨tx, clock⟩ := c
  cases tx with
  | claimQueuedTasks n =>
    obtain ⟨hres, -, -, htask⟩ := claimQueuedTasks_spec clock.now n db
    simp only [Call.claimed, Transaction.exec, hres, List.mem_map] at h
    obtain ⟨t₀, ht₀, rfl⟩ := h
    obtain ⟨hrow, hst⟩ := mem_claimSelection ht₀
    have hmem : t₀.id ∈ (claimSelection n db).map Task.id := List.mem_map_of_mem ht₀
    have hafter := htask t₀.id
    rw [hrow, Option.map_some, if_pos hmem] at hafter
    refine ⟨?_, ?_⟩
    · show (db.task? t₀.id).map Task.state = _
      rw [hrow, Option.map_some, hst]
    · show ((claimQueuedTasks clock.now n db).2.task? t₀.id).map Task.state = _
      rw [hafter]
      rfl
  | _ => cases h

end CapacityLemmas

open CapacityLemmas

/-- From a load within the limit, the load stays within the limit after every part of every run;
and every task that a claim returns was `QUEUED` immediately before it and, until some call has
made it `QUEUED` again, is returned by no other claim. -/
theorem capacity_respected (settings : Settings) (maxActive : Int) (db : Db) (calls : List Call)
    (hok : Respects settings (CapacityOk settings maxActive) calls db)
    (hload : (load db : Int) ≤ maxActive) :
    (∀ before after, calls = before ++ after →
      (load (run settings before db) : Int) ≤ maxActive) ∧
    (∀ before c after, calls = before ++ c :: after →
      ∀ t ∈ c.claimed settings (run settings before db),
        (run settings before db).state? t.id = some .queued ∧
        ∀ mid c' after', after = mid ++ c' :: after' →
          ∀ t' ∈ c'.claimed settings (run settings (before ++ c :: mid) db), t'.id = t.id →
            ∃ mid₁ d mid₂, mid = mid₁ ++ d :: mid₂ ∧
              (run settings (before ++ c :: mid₁) db).state? t.id ≠ some .queued ∧
              (run settings (before ++ c :: mid₁ ++ [d]) db).state? t.id = some .queued) := by
  refine ⟨?_, ?_⟩
  · rintro before after rfl
    exact run_invariant (P := fun db => (load db : Int) ≤ maxActive)
      (fun db c hc h => load_commit_le hc h) (respects_append hok) hload
  · rintro before c after - t ht
    obtain ⟨hqueued, hdisp⟩ := claimed_states ht
    refine ⟨hqueued, ?_⟩
    rintro mid c' after' - t' ht' hid
    rw [run_append, run_cons] at ht'
    have hagain := (claimed_states ht').1
    rw [hid] at hagain
    have hnot : ¬ (c.commit settings (run settings before db)).state? t.id = some .queued := by
      rw [hdisp]
      simp
    obtain ⟨mid₁, d, mid₂, rfl, hbefore, hafter⟩ :=
      run_crossing (P := fun db => db.state? t.id = some .queued) hnot hagain
    refine ⟨mid₁, d, mid₂, rfl, ?_, ?_⟩
    · rw [run_append, run_cons]
      exact hbefore
    · rw [run_append, run_append, run_cons, run_cons, run_nil]
      exact hafter

/-- Two queued tasks and room for one worker: the second task is claimed when the first is done. -/
def oneSlotRun : List Call :=
  let clock : Clock := ⟨"2026-01-01T00:00:00Z", "2025-12-31T23:55:00Z"⟩
  [⟨.createProject { id := "p", name := "p" }, clock⟩,
   ⟨.createTasks [{ id := "a", projectId := "p", name := "a", spec := "", state := .queued },
                  { id := "b", projectId := "p", name := "b", spec := "", state := .queued }], clock⟩,
   ⟨.claimQueuedTasks 1, clock⟩,
   ⟨.activateWorker "a" { id := ⟨"a", 0⟩, taskId := "a" } "ws_a", clock⟩,
   ⟨.claimQueuedTasks 1, clock⟩,
   ⟨.finishWorker "a" (some ⟨"a", 0⟩) "DONE" none, clock⟩,
   ⟨.claimQueuedTasks 1, clock⟩]

theorem capacity_respected_oneSlotRun :
    (load (run {} oneSlotRun Db.init) = 1 ∧
      (run {} oneSlotRun Db.init).state? "b" = some .dispatching) ∧
    ∀ before after, oneSlotRun = before ++ after → (load (run {} before Db.init) : Int) ≤ 1 := by
  refine ⟨by decide, (capacity_respected {} 1 Db.init oneSlotRun ?_ (by decide)).1⟩
  refine respects_of_permitted (fun c hc => ?_) Db.init
  simp only [oneSlotRun, List.mem_cons, List.not_mem_nil, or_false] at hc
  rcases hc with rfl | rfl | rfl | rfl | rfl | rfl | rfl <;>
    simp [Call.Permitted, TaskState.name]

end Flotilla
