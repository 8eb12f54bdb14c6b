import KerSorMonitor.Lib.RelyGuarantee
import KerSorMonitor.Flotilla.Programs

/-!
# What a dispatcher holds

A dispatcher is a thread in `tick`. After its claim it holds one obligation for each claimed
task, and each of its actions moves one obligation on, until every one is resolved. A
`DispatcherSpec` says what an obligation means in a contract and that each action of `tick`
moves it as it should.

Results: `tick_safe`, for every specification.
-/

namespace Flotilla

open Keyed Threads
open Prog (call)

/-- How far a dispatcher has come with a task that it has claimed.

* `drawn`: it has drawn a worker id, and holds the lock.
* `started`: the worker runs.
* `registered`: its handle is in the registry.
* `stopped`: the compensation has tried to stop the worker.
* `doomed`: the compensation has dropped the handle.
* `activated`, `released`: resolved. -/
inductive Phase
  | claimed
  | drawn (wid : WorkerId) (lock : Option Lock)
  | started (wid : WorkerId) (lock : Option Lock) (h : WorkerHandle)
  | registered (wid : WorkerId) (lock : Option Lock) (h : WorkerHandle)
  | stopped (wid : WorkerId) (lock : Option Lock)
  | doomed (wid : WorkerId) (lock : Option Lock)
  | activated (wid : WorkerId) (lock : Option Lock) (h : WorkerHandle)
  | released

namespace Phase

/-- The obligation is resolved. -/
def IsResolved : Phase → Prop
  | activated _ _ _ | released => True
  | _ => False

/-- The obligation was resolved by an activation. -/
def isActivated : Phase → Bool
  | activated _ _ _ => true
  | _ => false

/-- The stage that the history of a task has while thread `t` has the obligation. -/
def stage (t : ThreadId) : Phase → Option Stage
  | claimed => some (.claimed t none)
  | drawn wid _ | started wid _ _ => some (.claimed t (some wid))
  | registered wid _ _ | stopped wid _ => some (.registered t wid)
  | doomed wid _ => some (.doomed t wid)
  | activated _ _ _ | released => none

theorem stage_of_not_resolved {p : Phase} (t : ThreadId) (h : ¬ p.IsResolved) :
    ∃ st, p.stage t = some st ∧ st.claimer = some t := by
  cases p with
  | activated | released => exact absurd trivial h
  | _ => exact ⟨_, rfl, rfl⟩

theorem not_resolved_of_stage {p : Phase} {t : ThreadId} {st : Stage} (h : p.stage t = some st) :
    ¬ p.IsResolved := by
  cases p with
  | activated | released => cases h
  | _ => exact fun h => h

/-- The phases in which the lock is released, and the phase after the release. -/
inductive Unlocks (lock : Lock) : Phase → Phase → Prop
  | drawn (wid : WorkerId) : Unlocks lock (drawn wid (some lock)) (drawn wid none)
  | doomed (wid : WorkerId) : Unlocks lock (doomed wid (some lock)) (doomed wid none)

/-- The phases in which nothing is left but the claim. -/
inductive IsBare : Phase → Prop
  | drawn (wid : WorkerId) : IsBare (drawn wid none)
  | doomed (wid : WorkerId) : IsBare (doomed wid none)

end Phase

/-- An obligation of a dispatcher. -/
structure Holding where
  task : Task
  phase : Phase

/-- The obligation of a prepared dispatch. -/
def Dispatch.prepared (d : Dispatch) : Holding := ⟨d.task, .drawn d.workerId d.lock⟩

/-- The obligation of a prepared dispatch of which the start has returned or raised. -/
def Dispatch.started (d : Dispatch) : Except PyErr WorkerHandle → Holding
  | .ok h => ⟨d.task, .started d.workerId d.lock h⟩
  | .error _ => d.prepared

/-- The lock of a prepared dispatch comes from the resource that its task asks for, in the name
of its worker. -/
def Dispatch.Locked (d : Dispatch) : Prop :=
  ∀ lock, d.lock = some lock →
    lock.workerId = d.workerId ∧ ∃ kind, resolveAdapter d.task = .ok (some kind)

/-- The states to which a dispatcher gives a claim up. -/
def isReleaseTarget (target : String) : Prop :=
  target = "QUEUED" ∨ target = "FAILED" ∨ target = "LOST"

variable {settings : Settings}

/-- A triple of the control plane, from what its action does. -/
theorem triple_of_exec {C : Contract (controlPlane settings)} {t : ThreadId} {β : Type}
    {a : Act β} {P : Sys → Prop} {Q : Except PyErr β → Sys → Prop}
    (h : ∀ s, C.inv s → P s → C.check t a s ∧ ∀ env r s', C.assume t a env s →
      Sys.exec settings t a env s = (r, s') → C.guar t s s' ∧ Q r s') : Triple C t P a Q := h

/-- The obligations of thread `t` in a contract, and how the actions of `tick` move them. -/
structure DispatcherSpec (C : Contract (controlPlane settings)) (t : ThreadId) where
  holds : List Holding → Sys → Prop
  stable : ∀ hs, Stable C t (holds hs)
  quiet : ∀ hs, Neutral C t Act.Quiet (holds hs)
  perm : ∀ {hs hs' : List Holding} {s : Sys}, hs.Perm hs' → holds hs s → holds hs' s
  claim : Triple C t (holds []) (.store (.claimQueuedTasks settings.maxWorkers)) fun
    | .ok tasks => holds (tasks.map fun task => ⟨task, .claimed⟩)
    | .error _ => holds []
  draw : ∀ task hs, Triple C t (holds (⟨task, .claimed⟩ :: hs)) (.newWorkerId task.id) fun
    | .ok wid => holds (⟨task, .drawn wid none⟩ :: hs)
    | .error _ => fun _ => False
  acquire : ∀ task wid kind hs, resolveAdapter task = .ok (some kind) →
    Triple C t (holds (⟨task, .drawn wid none⟩ :: hs)) (.acquire kind wid task.resourceReq) fun
      | .ok (some lock) => fun s =>
        lock.workerId = wid ∧ holds (⟨task, .drawn wid (some lock)⟩ :: hs) s
      | _ => holds (⟨task, .drawn wid none⟩ :: hs)
  start : ∀ d ds hs, Triple C t (holds ((d :: ds).map Dispatch.prepared ++ hs))
    (.asCompleted (d :: ds)) fun
      | .ok (i, started) => fun s => ∃ d', (d :: ds)[i]? = some d' ∧
        holds (d'.started started :: (((d :: ds).eraseIdx i).map Dispatch.prepared ++ hs)) s
      | .error _ => fun _ => False
  register : ∀ task wid lock h hs, Triple C t (holds (⟨task, .started wid lock h⟩ :: hs))
    (.register task.id (some wid) h) fun
      | .ok _ => holds (⟨task, .registered wid lock h⟩ :: hs)
      | .error _ => fun _ => False
  activate : ∀ (d : Dispatch) h now hs,
    Triple C t (holds (⟨d.task, .registered d.workerId d.lock h⟩ :: hs))
      (.store (.activateWorker d.task.id (d.worker h now) h.workspace)) fun
        | .ok true => holds (⟨d.task, .activated d.workerId d.lock h⟩ :: hs)
        | _ => holds (⟨d.task, .registered d.workerId d.lock h⟩ :: hs)
  stop : ∀ task wid lock h hs, Triple C t (holds (⟨task, .registered wid lock h⟩ :: hs))
    (.stop h (.dispatcher wid)) fun _ => holds (⟨task, .stopped wid lock⟩ :: hs)
  unregister : ∀ task wid lock hs, Triple C t (holds (⟨task, .stopped wid lock⟩ :: hs))
    (.unregister task.id (.dispatcher wid)) fun
      | .ok _ => holds (⟨task, .doomed wid lock⟩ :: hs)
      | .error _ => fun _ => False
  unlock : ∀ task kind lock p p' hs, resolveAdapter task = .ok (some kind) →
    Phase.Unlocks lock p p' → Triple C t (holds (⟨task, p⟩ :: hs))
      (.releaseId kind lock.resourceId lock.workerId) fun _ => holds (⟨task, p'⟩ :: hs)
  release : ∀ task p target hs, p.IsBare → isReleaseTarget target →
    Triple C t (holds (⟨task, p⟩ :: hs)) (.store (.releaseTaskClaim task.id target))
      fun _ => holds (⟨task, .released⟩ :: hs)
  releaseAgain : ∀ task target hs, isReleaseTarget target →
    Triple C t (holds (⟨task, .released⟩ :: hs)) (.store (.releaseTaskClaim task.id target))
      fun _ => holds (⟨task, .released⟩ :: hs)

/-! ## Obligations in the history -/

/-- Thread `t` has the obligations `hs` and no other claim, and each of them means `Own`. -/
structure Held (t : ThreadId) (Own : Holding → Sys → Prop) (hs : List Holding) (s : Sys) :
    Prop where
  nodup : (hs.map fun h => h.task.id).Nodup
  stage : ∀ h ∈ hs, ∀ st, h.phase.stage t = some st → s.hist.stage h.task.id = st
  own : ∀ h ∈ hs, Own h s
  all : ∀ tid, (s.hist.stage tid).claimer = some t →
    ∃ h ∈ hs, h.task.id = tid ∧ ¬ h.phase.IsResolved

namespace Held

variable {t : ThreadId} {Own : Holding → Sys → Prop} {hs : List Holding} {s s' : Sys}

theorem perm {hs' : List Holding} (hp : hs.Perm hs') (h : Held t Own hs s) :
    Held t Own hs' s where
  nodup := (hp.map _).nodup_iff.mp h.nodup
  stage := fun x hx => h.stage x (hp.mem_iff.mpr hx)
  own := fun x hx => h.own x (hp.mem_iff.mpr hx)
  all := fun tid hc => by
    obtain ⟨x, hx, hrest⟩ := h.all tid hc
    exact ⟨x, hp.mem_iff.mp hx, hrest⟩

/-- The obligations survive what keeps the claims of the thread. -/
theorem keep (h : Held t Own hs s)
    (hclaims : ∀ tid, (s.hist.stage tid).claimer = some t ∨ (s'.hist.stage tid).claimer = some t →
      s'.hist.stage tid = s.hist.stage tid)
    (hown : ∀ x ∈ hs, Own x s → Own x s') : Held t Own hs s' where
  nodup := h.nodup
  stage := fun x hx st hst => by
    have hs := h.stage x hx st hst
    obtain ⟨st', hst', hc⟩ := Phase.stage_of_not_resolved t (Phase.not_resolved_of_stage hst)
    rw [hst] at hst'
    cases hst'
    rw [hclaims _ (Or.inl (hs ▸ hc)), hs]
  own := fun x hx => hown x hx (h.own x hx)
  all := fun tid hc => h.all tid (hclaims tid (Or.inr hc) ▸ hc)

/-- The first obligation moves on, and the others stay. -/
theorem move {task : Task} {p p' : Phase} (h : Held t Own (⟨task, p⟩ :: hs) s)
    (hother : ∀ tid, tid ≠ task.id → s'.hist.stage tid = s.hist.stage tid)
    (hown : ∀ x ∈ hs, x.task.id ≠ task.id → Own x s → Own x s')
    (hstage : ∀ st, p'.stage t = some st → s'.hist.stage task.id = st)
    (hhead : Own ⟨task, p'⟩ s')
    (hres : (s'.hist.stage task.id).claimer = some t → ¬ p'.IsResolved) :
    Held t Own (⟨task, p'⟩ :: hs) s' := by
  have hne : ∀ x ∈ hs, x.task.id ≠ task.id := by
    intro x hx heq
    have hnodup := h.nodup
    rw [List.map_cons, List.nodup_cons] at hnodup
    exact hnodup.1 (List.mem_map.mpr ⟨x, hx, heq⟩)
  refine ⟨h.nodup, ?_, ?_, ?_⟩
  · intro x hx st hst
    rcases List.mem_cons.mp hx with rfl | hx
    · exact hstage st hst
    · rw [hother _ (hne x hx)]
      exact h.stage x (List.mem_cons_of_mem _ hx) st hst
  · intro x hx
    rcases List.mem_cons.mp hx with rfl | hx
    · exact hhead
    · exact hown x hx (hne x hx) (h.own x (List.mem_cons_of_mem _ hx))
  · intro tid hc
    by_cases htid : tid = task.id
    · subst htid
      exact ⟨_, List.mem_cons_self, rfl, hres hc⟩
    · rw [hother tid htid] at hc
      obtain ⟨x, hx, hxid, hxres⟩ := h.all tid hc
      rcases List.mem_cons.mp hx with rfl | hx
      · exact absurd hxid.symm htid
      · exact ⟨x, List.mem_cons_of_mem _ hx, hxid, hxres⟩

/-- The first obligation moves on within one stage. -/
theorem moveWithin {task : Task} {p p' : Phase} {st : Stage}
    (h : Held t Own (⟨task, p⟩ :: hs) s) (hp : p.stage t = some st) (hp' : p'.stage t = some st)
    (hstage : s'.hist.stage = s.hist.stage)
    (hown : ∀ x ∈ hs, x.task.id ≠ task.id → Own x s → Own x s') (hhead : Own ⟨task, p'⟩ s') :
    Held t Own (⟨task, p'⟩ :: hs) s' := by
  refine h.move (fun _ _ => by rw [hstage]) hown (fun st' hst' => ?_) hhead
    fun _ => Phase.not_resolved_of_stage hp'
  cases hp'.symm.trans hst'
  rw [hstage]
  exact h.stage _ List.mem_cons_self st hp

/-- A resolved obligation is no claim. -/
theorem released_unclaimed {task : Task} (h : Held t Own (⟨task, .released⟩ :: hs) s) :
    (s.hist.stage task.id).claimer ≠ some t := by
  intro hc
  obtain ⟨x, hx, hxid, hxres⟩ := h.all task.id hc
  rcases List.mem_cons.mp hx with rfl | hx
  · exact hxres trivial
  · have hnodup := h.nodup
    rw [List.map_cons, List.nodup_cons] at hnodup
    exact hnodup.1 (List.mem_map.mpr ⟨x, hx, hxid⟩)

/-- A thread that has resolved its obligations has no claim. -/
theorem clean (h : Held t Own hs s) (hres : ∀ x ∈ hs, x.phase.IsResolved) (tid : TaskId) :
    (s.hist.stage tid).claimer ≠ some t := by
  intro hc
  obtain ⟨x, hx, -, hnot⟩ := h.all tid hc
  exact hnot (hres x hx)

/-- A thread without a claim has no obligation. -/
theorem nil (h : ∀ tid, (s.hist.stage tid).claimer ≠ some t) : Held t Own [] s where
  nodup := List.nodup_nil
  stage := fun _ hx => absurd hx List.not_mem_nil
  own := fun _ hx => absurd hx List.not_mem_nil
  all := fun tid hc => absurd hc (h tid)

/-- The obligations of a thread that has just claimed `tasks`. -/
theorem of_claim {tasks : List Task} {w : World} (h : Held t Own [] s)
    (hnodup : (tasks.map Task.id).Nodup)
    (hown : ∀ task ∈ tasks, Own ⟨task, .claimed⟩ ⟨w, s.hist.claim t tasks⟩) :
    Held t Own (tasks.map fun task => ⟨task, .claimed⟩) ⟨w, s.hist.claim t tasks⟩ where
  nodup := by
    rw [List.map_map]
    exact hnodup
  stage := by
    intro x hx st hst
    obtain ⟨task, htask, rfl⟩ := List.mem_map.mp hx
    cases hst
    exact if_pos (List.mem_map_of_mem htask)
  own := by
    intro x hx
    obtain ⟨task, htask, rfl⟩ := List.mem_map.mp hx
    exact hown task htask
  all := by
    intro tid hc
    simp only [History.claim] at hc
    split at hc
    · next hmem =>
      obtain ⟨task, htask, rfl⟩ := List.mem_map.mp hmem
      exact ⟨_, List.mem_map_of_mem htask, rfl, fun hres => hres⟩
    · obtain ⟨x, hx, -⟩ := h.all tid hc
      exact absurd hx List.not_mem_nil

end Held

namespace History

variable {t : ThreadId} {tid : TaskId} {wid : WorkerId} {h : History}

theorem record_newWorkerId (hst : h.stage tid = .claimed t none)
    (hlc : h.lastClaim tid = some (t, none)) :
    h.record t (.newWorkerId tid) (.ok wid) =
      { h with
        drawer := setAt h.drawer wid (some t)
        stage := setAt h.stage tid (.claimed t (some wid))
        lastClaim := setAt h.lastClaim tid (some (t, some wid)) } := by
  simp only [record, hst, hlc, ↓reduceIte]

theorem record_register {handle : WorkerHandle} {r : Except PyErr Unit}
    (hst : h.stage tid = .claimed t (some wid)) :
    h.record t (.register tid (some wid) handle) r =
      { h with stage := setAt h.stage tid (.registered t wid) } := by
  simp only [record, hst, ↓reduceIte]

theorem record_unregister_registered {wid' : WorkerId} {r : Except PyErr Unit}
    (hst : h.stage tid = .registered t wid) :
    h.record t (.unregister tid (.dispatcher wid')) r =
      { h with stage := setAt h.stage tid (.doomed t wid) } := by
  simp only [record, hst, ↓reduceIte]

theorem recordStore_release {target : String} {r : Except PyErr Bool}
    (hst : (h.stage tid).claimer = some t) :
    h.recordStore t (.releaseTaskClaim tid target) r =
      { h with stage := setAt h.stage tid .idle } := by
  simp only [recordStore, hst, ↓reduceIte]

theorem recordStore_release_of_ne {target : String} {r : Except PyErr Bool}
    (hst : (h.stage tid).claimer ≠ some t) :
    h.recordStore t (.releaseTaskClaim tid target) r = h := by
  simp only [recordStore, hst, ↓reduceIte]

theorem recordStore_activate_of_ne {worker : Worker} {workspace : String}
    {r : Except PyErr Bool} (hr : r ≠ .ok true) :
    h.recordStore t (.activateWorker tid worker workspace) r = h := by
  rcases r with e | b
  · rfl
  · cases b
    · rfl
    · exact absurd rfl hr

end History

/-- Every obligation is resolved, `n` of them by an activation. -/
def Resolved (hs : List Holding) (n : Nat) : Prop :=
  (∀ h ∈ hs, h.phase.IsResolved) ∧ hs.countP (fun h => h.phase.isActivated) = n

theorem Resolved.released {hs : List Holding} {n : Nat} (h : Resolved hs n) (task : Task) :
    Resolved (⟨task, .released⟩ :: hs) n := by
  refine ⟨fun h' hm => ?_, ?_⟩
  · rcases List.mem_cons.mp hm with rfl | hm
    · trivial
    · exact h.1 h' hm
  · rw [List.countP_cons_of_neg (by simp [Phase.isActivated])]
    exact h.2

theorem Resolved.activated {hs : List Holding} {n : Nat} (h : Resolved hs n) (task : Task)
    (wid : WorkerId) (lock : Option Lock) (handle : WorkerHandle) :
    Resolved (⟨task, .activated wid lock handle⟩ :: hs) (n + 1) := by
  refine ⟨fun h' hm => ?_, ?_⟩
  · rcases List.mem_cons.mp hm with rfl | hm
    · trivial
    · exact h.1 h' hm
  · rw [List.countP_cons_of_pos (by simp [Phase.isActivated]), h.2]

theorem Resolved.append {hs hs' : List Holding} {n m : Nat} (h : Resolved hs n)
    (h' : Resolved hs' m) : Resolved (hs ++ hs') (n + m) := by
  refine ⟨fun x hx => ?_, by rw [List.countP_append, h.2, h'.2]⟩
  rcases List.mem_append.mp hx with hx | hx
  · exact h.1 x hx
  · exact h'.1 x hx

theorem perm_eraseIdx {α : Type} {l : List α} {i : Nat} {a : α} (h : l[i]? = some a) :
    l.Perm (a :: l.eraseIdx i) := by
  obtain ⟨hlt, rfl⟩ := List.getElem?_eq_some_iff.mp h
  exact (List.getElem_cons_eraseIdx_perm hlt).symm

namespace DispatcherSpec

open QuietLemmas

variable {C : Contract (controlPlane settings)} {t : ThreadId} (D : DispatcherSpec C t)
  {s : Sys} {hs : List Holding}

/-- A quiet program keeps the obligations. -/
theorem quiet_safe {α : Type} {p : Program α} (hp : p.All Act.Quiet) (h : D.holds hs s) :
    Safe C t p (fun _ => D.holds hs) s :=
  Safe.of_all (D.stable hs) (D.quiet hs) hp h

/-- The postcondition of a program that does not raise. -/
def Returns {α : Type} (Q : α → Sys → Prop) : Except PyErr α → Sys → Prop
  | .ok a => Q a
  | .error _ => fun _ => False

theorem seq_returns {α β : Type} {Q : α → Sys → Prop} {R : Except PyErr β → Sys → Prop}
    {p : Program α} {f : α → Program β} (hp : Safe C t p (Returns Q) s)
    (hf : ∀ a s, Q a s → Safe C t (f a) R s) : Safe C t (p >>= f) R s :=
  Safe.seq hp hf fun _ _ h => h.elim

theorem ignoring_safe {p : Program Unit} (hp : p.All Act.Quiet) (h : D.holds hs s) :
    Safe C t p.ignoring (Returns fun _ => D.holds hs) s :=
  Safe.ignoring (D.quiet_safe hp h) fun _ h => h

theorem publishTasks_safe {tids : List TaskId} (h : D.holds hs s) :
    Safe C t (publishTasks tids) (Returns fun _ => D.holds hs) s := by
  induction tids generalizing s with
  | nil => exact h
  | cons tid tids ih =>
    exact seq_returns (D.ignoring_safe (quiet_call (a := .publish (.current tid none)) trivial) h)
      fun _ s h => ih h

/-! ## Compensation -/

theorem resourceGet_of_resolveAdapter {task : Task} {kind : String}
    (h : resolveAdapter task = .ok (some kind)) :
    resourceGet ((task.resourceReq.get? "kind").getD .null) = .ok kind := by
  unfold resolveAdapter at h
  cases hk : task.resourceKind with
  | none => simp only [hk, Except.ok.injEq, reduceCtorEq] at h
  | some k =>
    obtain ⟨hget, -⟩ := Option.filter_eq_some_iff.mp hk
    simp only [hk] at h
    rw [hget, Option.getD_some]
    cases hr : resourceGet k with
    | error e => simp only [hr, reduceCtorEq] at h
    | ok adapter =>
      simp only [hr, Except.ok.injEq, Option.some.injEq] at h
      rw [h]

/-- `_release_lock` on an obligation that has its lock. -/
theorem releaseLock_safe {task : Task} {lock : Option Lock} {p p' : Phase}
    (hlock : ∀ l, lock = some l → ∃ kind, resolveAdapter task = .ok (some kind))
    (hp : ∀ l, lock = some l → Phase.Unlocks l p p') (hnone : lock = none → p' = p)
    (h : D.holds (⟨task, p⟩ :: hs) s) :
    Safe C t (releaseLock task lock) (Returns fun _ => D.holds (⟨task, p'⟩ :: hs)) s := by
  cases lock with
  | none => exact hnone rfl ▸ h
  | some l =>
    obtain ⟨kind, hkind⟩ := hlock l rfl
    refine Safe.ignoring (P := D.holds (⟨task, p'⟩ :: hs)) ?_ fun s h => h
    unfold releaseKind
    rw [resourceGet_of_resolveAdapter hkind]
    exact (D.unlock task kind l p p' hs hkind (hp l rfl)).safe (D.stable _) h

/-- `_finish_failed_claim` on an obligation of which nothing is left but the claim, or nothing. -/
theorem finishFailedClaim_safe {task : Task} {p : Phase} (hp : p.IsBare ∨ p = .released)
    (reason : String) (retryable : Bool) (h : D.holds (⟨task, p⟩ :: hs) s) :
    Safe C t (finishFailedClaim task reason retryable)
      (Returns fun _ => D.holds (⟨task, .released⟩ :: hs)) s := by
  have htarget : isReleaseTarget (if retryable then "QUEUED" else "FAILED") := by
    cases retryable
    · exact Or.inr (Or.inl rfl)
    · exact Or.inl rfl
  have hrelease : Safe C t (store (.releaseTaskClaim task.id
      (if retryable then "QUEUED" else "FAILED"))).attempt
        (Returns fun _ => D.holds (⟨task, .released⟩ :: hs)) s := by
    refine Safe.attempt ?_
    rcases hp with hp | rfl
    · exact (D.release task p _ hs hp htarget).safe (D.stable _) h
    · exact (D.releaseAgain task _ hs htarget).safe (D.stable _) h
  refine seq_returns hrelease fun released s h => ?_
  exact seq_returns (D.ignoring_safe (recordEvent_quiet _ _ _) h) fun _ s h =>
    D.ignoring_safe (quiet_call trivial) h

/-- The `except` clause of the completion, when the start raised. -/
theorem compensate_unstarted_safe {d : Dispatch} (hd : d.Locked) (exc : PyErr)
    (h : D.holds (d.prepared :: hs) s) :
    Safe C t (compensate d none exc)
      (Returns fun _ => D.holds (⟨d.task, .released⟩ :: hs)) s := by
  have hunlock : Safe C t (releaseLock d.task d.lock)
      (Returns fun _ => D.holds (⟨d.task, .drawn d.workerId none⟩ :: hs)) s := by
    refine D.releaseLock_safe (fun l hl => (hd l hl).2) (fun l hl => ?_) (fun hl => ?_) h
    · rw [hl]
      exact .drawn _
    · rw [hl]
  refine seq_returns (p := releaseLock d.task d.lock) hunlock fun _ s h => ?_
  exact D.finishFailedClaim_safe (Or.inl (.drawn _)) _ _ h

/-- The `except` clause of the completion, when the activation failed. -/
theorem compensate_registered_safe {d : Dispatch} (hd : d.Locked) (handle : WorkerHandle)
    (exc : PyErr) (h : D.holds (⟨d.task, .registered d.workerId d.lock handle⟩ :: hs) s) :
    Safe C t (compensate d (some handle) exc)
      (Returns fun _ => D.holds (⟨d.task, .released⟩ :: hs)) s := by
  have hstop : Safe C t (cleanUp d (some handle))
      (Returns fun _ => D.holds (⟨d.task, .stopped d.workerId d.lock⟩ :: hs)) s := by
    refine seq_returns (Q := fun _ => D.holds (⟨d.task, .stopped d.workerId d.lock⟩ :: hs))
      (Safe.attempt ((D.stop _ _ _ _ hs).safe (D.stable _) h)) fun r s h => ?_
    cases r with
    | ok _ => exact h
    | error exc => exact h
  refine seq_returns hstop fun cleanupError s h => ?_
  have hdrop : Safe C t (dropHandle d (some handle))
      (Returns fun _ => D.holds (⟨d.task, .doomed d.workerId d.lock⟩ :: hs)) s := by
    refine ((D.unregister _ _ _ hs).safe (D.stable _) h).mono fun r s h => ?_
    cases r with
    | ok _ => exact h
    | error _ => exact h
  refine seq_returns hdrop fun _ s h => ?_
  have hunlock : Safe C t (releaseLock d.task d.lock)
      (Returns fun _ => D.holds (⟨d.task, .doomed d.workerId none⟩ :: hs)) s := by
    refine D.releaseLock_safe (fun l hl => (hd l hl).2) (fun l hl => ?_) (fun hl => ?_) h
    · rw [hl]
      exact .doomed _
    · rw [hl]
  refine seq_returns hunlock fun _ s h => ?_
  cases cleanupError with
  | none => exact D.finishFailedClaim_safe (Or.inl (.doomed _)) _ _ h
  | some stopExc =>
    refine seq_returns (Q := fun _ => D.holds (⟨d.task, .released⟩ :: hs)) (Safe.attempt
      ((D.release _ _ _ hs (.doomed _) (Or.inr (Or.inr rfl))).safe (D.stable _) h))
      fun _ s h => ?_
    exact D.ignoring_safe (recordEvent_quiet _ _ _) h

/-! ## Preparation -/

/-- `_resolve_dispatch` acquires the lock last: whoever gets an exception holds none. -/
theorem resolveDispatch_safe {task : Task} {wid : WorkerId}
    (h : D.holds (⟨task, .drawn wid none⟩ :: hs) s) :
    Safe C t (resolveDispatch settings task wid) (fun
      | .ok (some d) => fun s => d.Locked ∧ d.task = task ∧ d.workerId = wid ∧
        D.holds (d.prepared :: hs) s
      | _ => D.holds (⟨task, .drawn wid none⟩ :: hs)) s := by
  refine Safe.seq (D.quiet_safe (Prog.all_ofExcept (Runtime.get task.runtime)) h)
    (fun rt s h => ?_) fun _ _ h => h
  dsimp only
  split
  · exact h
  · cases hadapter : resolveAdapter task with
    | error e => exact h
    | ok adapter =>
      rw [Prog.ofExcept_ok_bind]
      refine Safe.seq (D.quiet_safe (quiet_of_silent (resolveHost_silent settings task)) h) (fun host s h => ?_)
        fun _ _ h => h
      obtain ⟨wsPath, sshHost⟩ := host
      split
      · exact h
      · cases adapter with
        | none => exact ⟨fun l hl => (by cases hl), rfl, rfl, h⟩
        | some kind =>
          refine Safe.seq ((D.acquire task wid kind hs hadapter).safe (D.stable _) h)
            (fun lock s h => ?_) fun _ _ h => h
          cases lock with
          | none => exact h
          | some lock =>
            refine ⟨fun l hl => ?_, rfl, rfl, h.2⟩
            cases hl
            exact ⟨h.1, kind, hadapter⟩

/-- One round of the preparation. -/
theorem prepare_safe {task : Task} (h : D.holds (⟨task, .claimed⟩ :: hs) s) :
    Safe C t (prepare settings task) (Returns fun
      | some d => fun s => d.Locked ∧ D.holds (d.prepared :: hs) s
      | none => D.holds (⟨task, .released⟩ :: hs)) s := by
  refine Safe.seq ((D.draw task hs).safe (D.stable _) h) (fun wid s h => ?_) fun _ _ h => h
  have hbody : Safe C t (prepareClaimed settings task wid).attempt (Returns fun
      | .ok (some d) => fun s => d.Locked ∧ D.holds (d.prepared :: hs) s
      | .ok none => D.holds (⟨task, .released⟩ :: hs)
      | .error _ => fun s => D.holds (⟨task, .drawn wid none⟩ :: hs) s ∨
        D.holds (⟨task, .released⟩ :: hs) s) s := by
    refine Safe.attempt (Safe.seq (D.resolveDispatch_safe h) (fun d s h => ?_)
      fun _ _ h => Or.inl h)
    cases d with
    | some d => exact ⟨h.1, h.2.2.2⟩
    | none =>
      refine Safe.seq ((D.release task _ "QUEUED" hs (.drawn wid) (Or.inl rfl)).safe
        (D.stable _) h) (fun _ s h => ?_) fun _ _ h => Or.inr h
      exact seq_returns (D.ignoring_safe (quiet_call (a := .publish (.current task.id none)) trivial) h) fun _ s h => h
  refine seq_returns hbody fun r s h => ?_
  cases r with
  | ok d => cases d <;> exact h
  | error exc =>
    refine seq_returns (Q := fun _ => D.holds (⟨task, .released⟩ :: hs)) ?_ fun _ s h => h
    rcases h with h | h
    · exact D.finishFailedClaim_safe (Or.inl (.drawn _)) _ _ h
    · exact D.finishFailedClaim_safe (Or.inr rfl) _ _ h

/-- The preparation resolves the obligations that it does not leave as dispatches. -/
theorem prepareAll_safe {tasks : List Task}
    (h : D.holds (tasks.map (fun task => ⟨task, .claimed⟩) ++ hs) s) :
    Safe C t (prepareAll settings tasks) (Returns fun ds s => (∀ d ∈ ds, d.Locked) ∧
      ∃ hs', Resolved hs' 0 ∧ D.holds (ds.map Dispatch.prepared ++ (hs' ++ hs)) s) s := by
  induction tasks generalizing s hs with
  | nil => exact ⟨fun d hd => (by cases hd), [], ⟨fun h hm => (by cases hm), rfl⟩, h⟩
  | cons task tasks ih =>
    refine seq_returns (D.prepare_safe h) fun d s h => ?_
    cases d with
    | none =>
      refine seq_returns (ih (D.perm List.perm_middle.symm h)) fun ds s h => ?_
      obtain ⟨hlocked, hs', hres, h⟩ := h
      refine ⟨hlocked, _, hres.released task, D.perm (List.Perm.append_left _ ?_) h⟩
      exact List.perm_middle
    | some d =>
      obtain ⟨hd, h⟩ := h
      refine seq_returns (ih (D.perm List.perm_middle.symm h)) fun ds s h => ?_
      obtain ⟨hlocked, hs', hres, h⟩ := h
      refine ⟨List.forall_mem_cons.mpr ⟨hd, hlocked⟩, hs', hres, D.perm ?_ h⟩
      exact (List.Perm.append_left _ List.perm_middle).trans List.perm_middle

/-! ## Completion -/

/-- `activate` raises with the handle registered, or returns with the worker activated. -/
theorem activate_safe {d : Dispatch} {handle : WorkerHandle}
    (h : D.holds (⟨d.task, .started d.workerId d.lock handle⟩ :: hs) s) :
    Safe C t (Flotilla.activate d handle).attempt (Returns fun
      | .ok _ => D.holds (⟨d.task, .activated d.workerId d.lock handle⟩ :: hs)
      | .error _ => D.holds (⟨d.task, .registered d.workerId d.lock handle⟩ :: hs)) s := by
  refine Safe.attempt ?_
  have hnow : Safe C t (call .now) (Returns fun _ =>
      D.holds (⟨d.task, .started d.workerId d.lock handle⟩ :: hs)) s := by
    refine Triple.safe (fun s hinv h => ?_) (D.stable _) h
    obtain ⟨hcheck, hstep⟩ := D.quiet _ .now trivial s hinv h
    refine ⟨hcheck, fun env r s' hassume hexec => ?_⟩
    have h' := hstep env r s' hassume hexec
    cases hexec
    exact h'
  refine seq_returns hnow fun now s h => ?_
  refine Safe.seq ((D.register _ _ _ _ hs).safe (D.stable _) h) (fun _ s h => ?_)
    fun _ _ h => h.elim
  refine Safe.seq ((D.activate d handle now hs).safe (D.stable _) h) (fun owned s h => ?_)
    fun _ _ h => h
  cases owned with
  | true => exact h
  | false => exact h

/-- One round of the completion resolves one obligation. -/
theorem completeDispatch_safe {d : Dispatch} (hd : d.Locked) {started : Except PyErr WorkerHandle}
    (h : D.holds (d.started started :: hs) s) :
    Safe C t (completeDispatch settings d started) (Returns fun n s =>
      ∃ p : Phase, Resolved [⟨d.task, p⟩] n ∧ D.holds (⟨d.task, p⟩ :: hs) s) s := by
  have hnil : Resolved [] 0 := ⟨fun h hm => (by cases hm), rfl⟩
  cases started with
  | error exc =>
    refine seq_returns (D.compensate_unstarted_safe hd exc h) fun _ s h => ?_
    exact ⟨.released, hnil.released d.task, h⟩
  | ok handle =>
    refine seq_returns (D.activate_safe h) fun r s h => ?_
    cases r with
    | error exc =>
      refine seq_returns (D.compensate_registered_safe hd handle exc h) fun _ s h => ?_
      exact ⟨.released, hnil.released d.task, h⟩
    | ok _ =>
      refine seq_returns (D.ignoring_safe (recordEvent_quiet _ _ _) h) fun _ s h => ?_
      refine seq_returns (Q := fun _ =>
        D.holds (⟨d.task, .activated d.workerId d.lock handle⟩ :: hs)) ?_ fun _ s h => ?_
      · exact seq_returns (Safe.attempt (D.quiet_safe (observeAndRecord_quiet _ _ _ _) h))
          fun _ s h => h
      · exact ⟨_, hnil.activated d.task d.workerId d.lock handle, h⟩

/-- The completion resolves the obligations of the dispatches, in whatever order their starts
return, and counts the activations. -/
theorem completeAll_safe {n : Nat} {ds : List Dispatch} (hn : ds.length = n)
    (hlocked : ∀ d ∈ ds, d.Locked) (h : D.holds (ds.map Dispatch.prepared ++ hs) s) :
    Safe C t (completeAll settings n ds) (Returns fun n s =>
      ∃ hs', Resolved hs' n ∧ D.holds (hs' ++ hs) s) s := by
  induction n generalizing ds hs s with
  | zero =>
    rw [List.length_eq_zero_iff.mp hn] at h
    exact ⟨[], ⟨fun h hm => (by cases hm), rfl⟩, h⟩
  | succ n ih =>
    cases ds with
    | nil => cases hn
    | cons d ds =>
      refine Safe.seq ((D.start d ds hs).safe (D.stable _) h) (fun r s h => ?_) fun _ _ h => h
      obtain ⟨i, started⟩ := r
      obtain ⟨d', hget, h⟩ := h
      have hperm := perm_eraseIdx hget
      simp only [hget, Option.getD_some]
      refine seq_returns (D.completeDispatch_safe
        (hlocked d' (List.mem_of_getElem? hget)) h) fun count s h => ?_
      obtain ⟨p, hp, h⟩ := h
      have hlen : ((d :: ds).eraseIdx i).length = n := by
        have := hperm.length_eq
        simp only [List.length_cons] at this hn
        omega
      refine seq_returns (ih hlen (fun x hx => hlocked x (List.mem_of_mem_eraseIdx hx))
        (D.perm List.perm_middle.symm h)) fun rest s h => ?_
      obtain ⟨hs', hres, h⟩ := h
      exact ⟨_, hp.append hres, D.perm List.perm_middle h⟩

/-- `tick` resolves every obligation that its claim creates, and returns the number of those
that it resolved by an activation. -/
theorem tick_safe (h : D.holds [] s) :
    Safe C t (tick settings) (fun
      | .ok n => fun s => ∃ hs, Resolved hs n ∧ D.holds hs s
      | .error _ => D.holds []) s := by
  refine Safe.seq (D.quiet_safe (quiet_call (a := .makeDirs settings.workspacesRoot) trivial) h)
    (fun _ s h => ?_) fun _ _ h => h
  refine Safe.seq (D.claim.safe (D.stable _) h) (fun claimed s h => ?_) fun _ _ h => h
  refine seq_returns (Q := fun _ => D.holds (claimed.map fun task => ⟨task, .claimed⟩)) ?_
    fun _ s h => ?_
  · exact D.publishTasks_safe h
  refine seq_returns (D.prepareAll_safe (by rwa [List.append_nil])) fun ds s h => ?_
  obtain ⟨hlocked, hs, hres, h⟩ := h
  refine (D.completeAll_safe rfl hlocked h).mono fun r s h => ?_
  cases r with
  | error _ => exact h.elim
  | ok n =>
    obtain ⟨hs', hres', h⟩ := h
    rw [List.append_nil] at h
    exact ⟨_, hres'.append hres, h⟩

end DispatcherSpec

end Flotilla
