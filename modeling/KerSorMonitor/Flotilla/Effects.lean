import KerSorMonitor.Flotilla.History

/-!
# What the actions do

One lemma for each action that moves the shared state: what it returns, and the state that it
leaves. Later modules use these and never unfold `World.exec`.
-/

namespace Flotilla

open Keyed Threads

namespace Effects

variable {settings : Settings} {t : ThreadId} {α : Type} {env : Env} {s s' : Sys}

/-! ## Transactions -/

section

variable {q : Transaction α} {r : Except PyErr α}

/-- A transaction fails without an effect, or commits. -/
theorem store_cases (h : Sys.exec settings t (.store q) env s = (r, s')) :
    (∃ e, env.raises = some e ∧ r = .error ⟨.operationalError, e.msg⟩ ∧
      s' = ⟨s.world, s.hist.recordStore t q r⟩) ∨
    (env.raises = none ∧ ∃ db', q.exec settings env.clock s.world.db = (r, db') ∧
      s' = ⟨{ s.world with db := db' }, s.hist.recordStore t q r⟩) := by
  unfold Sys.exec World.exec at h
  cases hraise : env.raises with
  | some e =>
    simp only [hraise, History.record] at h
    cases h
    exact Or.inl ⟨e, rfl, rfl, rfl⟩
  | none =>
    simp only [hraise, History.record] at h
    cases h
    exact Or.inr ⟨rfl, _, Prod.ext rfl rfl, rfl⟩

/-- A transaction moves nothing in the process but the database. -/
theorem store_frame (h : Sys.exec settings t (.store q) env s = (r, s')) :
    s' = ⟨{ s.world with db := s'.world.db }, s.hist.recordStore t q r⟩ := by
  rcases store_cases h with ⟨e, -, -, rfl⟩ | ⟨-, db', -, rfl⟩ <;> rfl

end

/-- A claim fails without an effect, or returns the selected rows as it has written them. -/
theorem claim_cases {maxActive : Int} {r : Except PyErr (List Task)}
    (h : Sys.exec settings t (.store (.claimQueuedTasks maxActive)) env s = (r, s')) :
    (∃ e, r = .error e ∧ s' = s) ∨
    (r = .ok ((Store.StoreLemmas.claimSelection maxActive s.world.db).map
        (Store.claimedRow env.clock.now)) ∧
      s' = ⟨{ s.world with db := (Store.claimQueuedTasks env.clock.now maxActive s.world.db).2 },
        s.hist.claim t ((Store.StoreLemmas.claimSelection maxActive s.world.db).map
          (Store.claimedRow env.clock.now))⟩) := by
  rcases store_cases h with ⟨e, -, rfl, rfl⟩ | ⟨-, db', hexec, rfl⟩
  · exact Or.inl ⟨_, rfl, rfl⟩
  · have hr := (Store.StoreLemmas.claimQueuedTasks_spec env.clock.now maxActive s.world.db).1
    have hdb : Store.claimQueuedTasks env.clock.now maxActive s.world.db = (r, db') := hexec
    rw [hdb] at hr
    subst hr
    rw [hdb]
    exact Or.inr ⟨rfl, rfl⟩

/-! ## The registry and the retirements -/

theorem register_eq {tid : TaskId} {wid : Option WorkerId} {h : WorkerHandle}
    {r : Except PyErr Unit} (hx : Sys.exec settings t (.register tid wid h) env s = (r, s')) :
    r = .ok () ∧ s' = ⟨{ s.world with handles := Dict.set s.world.handles tid (wid, h) },
      s.hist.record t (.register tid wid h) (.ok ())⟩ := by
  cases hx
  exact ⟨rfl, rfl⟩

theorem unregister_eq {tid : TaskId} {caller : Caller} {r : Except PyErr Unit}
    (hx : Sys.exec settings t (.unregister tid caller) env s = (r, s')) :
    r = .ok () ∧ s' = ⟨{ s.world with handles := Dict.pop s.world.handles tid },
      s.hist.record t (.unregister tid caller) (.ok ())⟩ := by
  cases hx
  exact ⟨rfl, rfl⟩

/-- The task is under retirement already, or it is now. -/
theorem beginRetire_cases {tid : TaskId} {r : Except PyErr (Option (Option WorkerHandle))}
    (hx : Sys.exec settings t (.beginRetire tid) env s = (r, s')) :
    (tid ∈ s.world.retiring ∧ r = .ok none ∧ s' = s) ∨
    (tid ∉ s.world.retiring ∧
      r = .ok (some ((Dict.get? s.world.handles tid).map Prod.snd)) ∧
      s' = ⟨{ s.world with retiring := tid :: s.world.retiring },
        { s.hist with retirer := setAt s.hist.retirer tid (some t) }⟩) := by
  unfold Sys.exec World.exec at hx
  by_cases hmem : tid ∈ s.world.retiring
  · simp only [List.contains_iff_mem.mpr hmem, ↓reduceIte] at hx
    cases hx
    exact Or.inl ⟨hmem, rfl, rfl⟩
  · have hc : s.world.retiring.contains tid = false := by simpa using hmem
    simp only [hc, Bool.false_eq_true, ↓reduceIte] at hx
    cases hx
    exact Or.inr ⟨hmem, rfl, rfl⟩

theorem endRetire_eq {tid : TaskId} {r : Except PyErr Unit}
    (hx : Sys.exec settings t (.endRetire tid) env s = (r, s')) :
    r = .ok () ∧ s' = ⟨{ s.world with retiring := s.world.retiring.filter (· ≠ tid) },
      { s.hist with
        retirer := setAt s.hist.retirer tid none
        blind := setAt s.hist.blind tid false }⟩ := by
  cases hx
  exact ⟨rfl, rfl⟩

/-! ## Workers and leases -/

theorem newWorkerId_eq {tid : TaskId} {r : Except PyErr WorkerId}
    (hx : Sys.exec settings t (.newWorkerId tid) env s = (r, s')) :
    r = .ok ⟨tid, s.world.serial⟩ ∧ s' = ⟨{ s.world with serial := s.world.serial + 1 },
      s.hist.record t (.newWorkerId tid) (.ok ⟨tid, s.world.serial⟩)⟩ := by
  cases hx
  exact ⟨rfl, rfl⟩

theorem world_acquire_cases {kind : String} {wid : WorkerId} {req : JsonObj} {w w' : World}
    {r : Except PyErr (Option Lock)} (h : World.acquire kind wid req env w = (r, w')) :
    ((∀ lock, r ≠ .ok (some lock)) ∧ w' = w) ∨
    (∃ uuid, kind = "gpu" ∧ uuid ≠ "" ∧ Dict.get? w.held uuid = none ∧ r = .ok (some ⟨uuid, wid⟩) ∧
      w' = { w with held := Dict.set w.held uuid wid }) ∨
    (kind ≠ "gpu" ∧ r = .ok (some ⟨"cpu", wid⟩) ∧ w' = { w with cpuCount := w.cpuCount + 1 }) := by
  unfold World.acquire at h
  split at h
  · next hk =>
    repeat' split at h
    all_goals first
      | (cases h; exact Or.inl ⟨by simp, rfl⟩)
      | skip
    next uuid _ hsafe hfree _ _ _ =>
      cases h
      have hne : uuid ≠ "" := by
        rintro rfl
        exact hsafe rfl
      exact Or.inr (Or.inl ⟨uuid, hk, hne, by simpa using hfree, rfl, rfl⟩)
  · next hk =>
    cases h
    exact Or.inr (Or.inr ⟨hk, rfl, rfl⟩)

/-- Nothing is acquired, or a free GPU is, or a slot of the CPU. -/
theorem acquire_cases {kind : String} {wid : WorkerId} {req : JsonObj}
    {r : Except PyErr (Option Lock)}
    (hx : Sys.exec settings t (.acquire kind wid req) env s = (r, s')) :
    ((∀ lock, r ≠ .ok (some lock)) ∧ s' = s) ∨
    (∃ uuid, kind = "gpu" ∧ uuid ≠ "" ∧ Dict.get? s.world.held uuid = none ∧ r = .ok (some ⟨uuid, wid⟩) ∧
      s' = ⟨{ s.world with held := Dict.set s.world.held uuid wid },
        { s.hist with holders := setAt s.hist.holders uuid
                        (setAt (s.hist.holders uuid) wid true) }⟩) ∨
    (kind ≠ "gpu" ∧ r = .ok (some ⟨"cpu", wid⟩) ∧
      s' = ⟨{ s.world with cpuCount := s.world.cpuCount + 1 }, s.hist⟩) := by
  have hr : World.acquire kind wid req env s.world = (r, s'.world) := by cases hx; rfl
  have hs : s' = ⟨s'.world, s.hist.record t (.acquire kind wid req) r⟩ := by cases hx; rfl
  rcases world_acquire_cases hr with ⟨hno, hw⟩ | ⟨uuid, hk, hne, hfree, rfl, hw⟩ |
    ⟨hk, rfl, hw⟩
  · refine Or.inl ⟨hno, ?_⟩
    rw [hs, hw]
    rcases r with e | lock
    · rfl
    · cases lock with
      | none => rfl
      | some lock => exact absurd rfl (hno lock)
  · refine Or.inr (Or.inl ⟨uuid, hk, hne, hfree, rfl, ?_⟩)
    rw [hs, hw]
    simp only [History.record, hk, ↓reduceIte]
  · refine Or.inr (Or.inr ⟨hk, rfl, ?_⟩)
    rw [hs, hw]
    simp only [History.record, hk, ↓reduceIte]

/-- A release drops the lease, whether it raises or not. -/
theorem releaseId_eq {kind resourceId : String} {wid : WorkerId} {r : Except PyErr Unit}
    (hx : Sys.exec settings t (.releaseId kind resourceId wid) env s = (r, s')) :
    (kind = "gpu" ∧ s' = ⟨{ s.world with held := Dict.pop s.world.held resourceId },
      { s.hist with holders := setAt s.hist.holders resourceId
                      (setAt (s.hist.holders resourceId) wid false) }⟩) ∨
    (kind ≠ "gpu" ∧ s' = ⟨{ s.world with cpuCount := s.world.cpuCount - 1 }, s.hist⟩) := by
  unfold Sys.exec World.exec World.releaseId at hx
  by_cases hk : kind = "gpu"
  · refine Or.inl ⟨hk, ?_⟩
    simp only [hk, ↓reduceIte, History.record] at hx
    cases hheld : Dict.get? s.world.held resourceId with
    | none =>
      simp only [hheld] at hx
      cases hx
      rw [Dict.pop_of_get?_eq_none hheld]
    | some w =>
      simp only [hheld, Env.outside] at hx
      split at hx <;> cases hx <;> rfl
  · refine Or.inr ⟨hk, ?_⟩
    simp only [hk, ↓reduceIte, History.record] at hx
    cases hx
    rfl

/-- The start of one of the pending dispatches has returned, or raised. -/
theorem asCompleted_cases {pending : List Dispatch} (hne : pending ≠ [])
    {r : Except PyErr (Nat × Except PyErr WorkerHandle)}
    (hx : Sys.exec settings t (.asCompleted pending) env s = (r, s')) :
    ∃ i d, pending[i]? = some d ∧
      ((∃ e, r = .ok (i, .error e) ∧ s' = s) ∨
      (r = .ok (i, .ok ⟨d.task.id, d.wsPath, d.rt.name, env.native, d.workerId⟩) ∧
        s' = ⟨{ s.world with alive := d.workerId :: s.world.alive }, s.hist⟩)) := by
  have hlt : env.pick % pending.length < pending.length :=
    Nat.mod_lt _ (List.length_pos_iff.mpr hne)
  have hget : pending[env.pick % pending.length]? = some pending[env.pick % pending.length] :=
    List.getElem?_eq_getElem hlt
  refine ⟨_, _, hget, ?_⟩
  unfold Sys.exec World.exec at hx
  simp only [hget, World.startWorker] at hx
  cases hraise : env.raises with
  | some e =>
    simp only [hraise] at hx
    cases hx
    exact Or.inl ⟨e, rfl, rfl⟩
  | none =>
    simp only [hraise] at hx
    cases hx
    exact Or.inr ⟨rfl, rfl⟩

/-- A stop returns with the worker gone, or raises. -/
theorem stop_cases {h : WorkerHandle} {caller : Caller} {r : Except PyErr Unit}
    (hx : Sys.exec settings t (.stop h caller) env s = (r, s')) :
    (r = .ok () ∧ s' = ⟨{ s.world with alive := s.world.alive.filter (· ≠ h.proc) }, s.hist⟩) ∨
    ∃ e, r = .error e ∧
      s' = ⟨{ s.world with stopFailed := h.proc :: s.world.stopFailed }, s.hist⟩ := by
  unfold Sys.exec World.exec World.stop World.stopWorker at hx
  cases hget : Runtime.get h.backend with
  | error e =>
    simp only [hget] at hx
    cases hx
    exact Or.inr ⟨e, rfl, rfl⟩
  | ok rt =>
    simp only [hget] at hx
    cases hraise : env.raises with
    | some e =>
      simp only [hraise] at hx
      cases hx
      exact Or.inr ⟨e, rfl, rfl⟩
    | none =>
      simp only [hraise] at hx
      cases hx
      exact Or.inl ⟨rfl, rfl⟩

/-! ## The database -/

/-- A call into the outside leaves the process as it was. -/
theorem outside_world {β : Type} (env : Env) (b : β) (w : World) : (env.outside b w).2 = w := by
  unfold Env.outside
  split <;> rfl

theorem exec_store_raised (q : Transaction α) {e : PyErr} (h : env.raises = some e) (w : World) :
    World.exec settings env (.store q) w = (.error ⟨.operationalError, e.msg⟩, w) := by
  simp only [World.exec, h]

theorem exec_store_done (q : Transaction α) (h : env.raises = none) (w : World) :
    World.exec settings env (.store q) w =
      ((q.exec settings env.clock w.db).1, { w with db := (q.exec settings env.clock w.db).2 }) := by
  simp only [World.exec, h]

/-- Only a transaction changes the database. -/
theorem exec_db {a : Act α} (ha : ∀ q : Transaction α, a ≠ .store q) (w : World) :
    (World.exec settings env a w).2.db = w.db := by
  cases a with
  | store q => exact (ha q rfl).elim
  | observe | paste | pauseWorker | resumeWorker | mineSessionUuid | sessionActivity
  | candidateCount | makeDirs | evaluate | findPane | publish =>
    simp only [World.exec, outside_world]
  | beginRetire tid =>
    simp only [World.exec]
    split <;> rfl
  | acquire kind wid req =>
    have hdb {r : Except PyErr (Option Lock)} {w' : World}
        (h : World.acquire kind wid req env w = (r, w')) : w'.db = w.db := by
      rcases world_acquire_cases h with ⟨-, rfl⟩ | ⟨-, -, -, -, -, rfl⟩ | ⟨-, -, rfl⟩ <;> rfl
    exact hdb rfl
  | releaseId kind resourceId wid =>
    simp only [World.exec, World.releaseId]
    split_ifs
    · split
      · rfl
      · rw [outside_world]
    · rfl
  | asCompleted pending =>
    simp only [World.exec, World.startWorker]
    split
    · rfl
    · split <;> rfl
  | stop handle caller =>
    simp only [World.exec, World.stop, World.stopWorker]
    split
    · rfl
    · split <;> rfl
  | _ => rfl

/-- The action neither begins nor ends a retirement. -/
def KeepsRetiring : {β : Type} → Act β → Prop
  | _, .beginRetire _ => False
  | _, .endRetire _ => False
  | _, _ => True

/-- Only the beginning and the end of a retirement touch `_RETIRING`. -/
theorem exec_retiring {a : Act α} (ha : KeepsRetiring a) (w : World) :
    (World.exec settings env a w).2.retiring = w.retiring := by
  cases a with
  | store q =>
    simp only [World.exec]
    split <;> rfl
  | beginRetire | endRetire => exact ha.elim
  | observe | paste | pauseWorker | resumeWorker | mineSessionUuid | sessionActivity
  | candidateCount | makeDirs | evaluate | findPane | publish =>
    simp only [World.exec, outside_world]
  | acquire kind wid req =>
    have hretiring {r : Except PyErr (Option Lock)} {w' : World}
        (h : World.acquire kind wid req env w = (r, w')) : w'.retiring = w.retiring := by
      rcases world_acquire_cases h with ⟨-, rfl⟩ | ⟨-, -, -, -, -, rfl⟩ | ⟨-, -, rfl⟩ <;> rfl
    exact hretiring rfl
  | releaseId kind resourceId wid =>
    simp only [World.exec, World.releaseId]
    split_ifs
    · split
      · rfl
      · rw [outside_world]
    · rfl
  | asCompleted pending =>
    simp only [World.exec, World.startWorker]
    split
    · rfl
    · split <;> rfl
  | stop handle caller =>
    simp only [World.exec, World.stop, World.stopWorker]
    split
    · rfl
    · split <;> rfl
  | _ => rfl

end Effects

end Flotilla
