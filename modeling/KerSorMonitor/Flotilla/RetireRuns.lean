import KerSorMonitor.Flotilla.Coherence

/-!
# What a retirement does to its task

A retirement of worker `wid` meets only this worker: its handle, if it finds one, and its row.
Whether it commits, gives up or raises, it leaves no end of a worker behind, and no lease.

Results:
1. `Read`, `Judged`, `Committed`: what the retirement knows after each of its looks and its commit.
2. `retire_minds`: a retirement keeps the contract, and a task that it has retired is past.
-/

namespace Flotilla

open Keyed Threads
open Prog (call)

/-- The states that a retirement commits while the process runs. -/
def endStates : List String := ["DONE", "FAILED", "CANCELLED"]

/-! ## What the retirement knows -/

namespace TaskView

variable {leases : Prop} {t : ThreadId} {v : TaskView} {wid : Option WorkerId}
  {worker : Option Worker} {task : Task}

/-- The thread has looked the task up, and the retirement is of its most recent worker. -/
def Aims (t : ThreadId) (wid : Option WorkerId) (v : TaskView) : Prop :=
  v.touched t = true ∧ v.Target wid

/-- The retirement is under way. -/
def Retiring (t : ThreadId) (wid : Option WorkerId) (v : TaskView) : Prop :=
  v.Aims t wid ∧ v.retirer = some t ∧ ∀ w, v.stage ≠ .ending t w

/-- ... and this worker was stopped, or its stop failed. -/
def Ready (t : ThreadId) (wid : Option WorkerId) (v : TaskView) : Prop :=
  v.touched t = true ∧ v.Target wid ∧ v.Spent wid

/-- The handle that the retirement has found is the one of its worker. Without one no worker
will be activated. -/
def Handled (wid : Option WorkerId) : Option WorkerHandle → TaskView → Prop
  | some h, _ => wid = some h.proc
  | none, v => v.Over

/-- What the retirement knows from its start. -/
def Begun (t : ThreadId) (wid : Option WorkerId) (stop : Bool) (handle : Option WorkerHandle)
    (v : TaskView) : Prop :=
  v.Retiring t wid ∧ (v.touched t = true ∧ v.Handled wid handle) ∧ (stop = false → v.Ready t wid)

/-- No worker will be activated before the retirement is over. -/
def Shut (t : ThreadId) (v : TaskView) : Prop :=
  (v.touched t = true ∧ v.Over) ∨ v.retirer = some t ∧ v.blind = true ∧ ∀ w, v.stage ≠ .live w

/-- The worker is live, its row holds `lock`, and the retirement has it to itself. -/
def Locked (t : ThreadId) (w : WorkerId) (lock : Option String) (v : TaskView) : Prop :=
  (v.retirer = some t ∧ v.stage = .live w) ∧
    ∃ wr, v.worker w.serial = some wr ∧ wr.resourceLockId = lock

/-- The retirement has read the worker row. -/
def Read (leases : Prop) (t : ThreadId) (wid : Option WorkerId) (worker : Option Worker)
    (v : TaskView) : Prop :=
  (∃ w wr, (wid = some w ∧ worker = some wr ∧ wr.isActive = true) ∧
    v.Locked t w wr.resourceLockId) ∨
  worker.any Worker.isActive = false ∧ (leases → v.Shut t) ∧
    (leases → worker ≠ none → v.touched t = true ∧ v.Finished)

/-- ... and the row of the task, which is not terminal. -/
def Judged (leases : Prop) (t : ThreadId) (wid : Option WorkerId) (worker : Option Worker)
    (task : Task) (v : TaskView) : Prop :=
  (∃ w wr, (wid = some w ∧ worker = some wr) ∧ v.Locked t w wr.resourceLockId ∧
    (v.retirer = some t ∧ v.stage = .live w) ∧
      ∃ row, v.task = some row ∧ row.resourceReq = task.resourceReq) ∨
  (leases → v.Shut t) ∧ (leases → worker = none)

/-- The retirement has ended a worker that holds at most the lock of the row that it has read, or
there is none to end. -/
def Committed (leases : Prop) (t : ThreadId) (worker : Option Worker) (task : Task)
    (v : TaskView) : Prop :=
  ((v.touched t = true ∧ v.Past) ∧ v.retirer = some t) ∧
    ((∃ w L, (v.stage = .ending t w ∧ v.leased = L) ∧ (leases → ∃ wr, worker = some wr ∧
        ∀ U n, L U n ↔ n = w.serial ∧ nonEmpty? wr.resourceLockId = some U ∧ task.AsksGpu)) ∨
      (∀ w, v.stage ≠ .ending t w) ∧ (leases → worker = none))

/-- The lease is released, if there was one. -/
def Concluded (t : ThreadId) (v : TaskView) : Prop :=
  ((v.touched t = true ∧ v.Past) ∧ v.retirer = some t) ∧
    ((∃ w, v.stage = .ending t w ∧ v.leased = fun _ _ => False) ∨ ∀ w, v.stage ≠ .ending t w)

/-- What the retirement knows from the row of the task: there is none, or whether it is terminal. -/
def Reviewed (leases : Prop) (t : ThreadId) (wid : Option WorkerId) (worker : Option Worker)
    (stop : Bool) (handle : Option WorkerHandle) : Option Task → TaskView → Prop
  | none, v => v.Concluded t
  | some task, v => v.Begun t wid stop handle ∧
    (task.state.isTerminal = true → worker.any Worker.isActive = false ∧ v.Concluded t) ∧
    (task.state.isTerminal = false → v.Judged leases t wid worker task)

/-- The thread has looked the task up; after a retirement, the task is past. -/
def Left (t : ThreadId) (retired : Prop) (v : TaskView) : Prop :=
  v.touched t = true ∧ (retired → v.Past)

theorem kept_aims : Kept leases t (Aims t wid) := (lasting_target wid).kept fun _ _ h => h

theorem kept_retiring : Kept leases t (Retiring t wid) :=
  kept_aims.and (kept_retirer.and kept_not_ending)

theorem kept_ready : Kept leases t (Ready t wid) := (lasting_spent wid).kept fun _ _ h => h

theorem kept_past : Kept leases t fun v => v.touched t = true ∧ v.Past :=
  lasting_past.kept fun _ _ h => h

theorem kept_left (retired : Prop) : Kept leases t (Left t retired) :=
  Lasting.kept (F := fun v => retired → v.Past)
    (fun t' v v' hinv h ht hp hr => lasting_past t' v v' hinv h ht (hp hr)) fun _ _ h => h

theorem kept_over : Kept leases t fun v => v.touched t = true ∧ v.Over :=
  lasting_over.kept fun _ _ h => h

theorem kept_handled (handle : Option WorkerHandle) :
    Kept leases t fun v => v.touched t = true ∧ v.Handled wid handle := by
  refine Lasting.kept (F := Handled wid handle) ?_ ?_
  · cases handle with
    | some h => exact fun _ _ _ _ _ _ hw => hw
    | none => exact lasting_over
  · cases handle <;> exact fun _ _ h => h

theorem kept_begun (stop : Bool) (handle : Option WorkerHandle) :
    Kept leases t (Begun t wid stop handle) :=
  kept_retiring.and ((kept_handled handle).and (.imp fun _ => kept_ready))

theorem kept_shut (hleases : leases) : Kept leases t (Shut t) :=
  kept_over.or (kept_blind hleases)

theorem kept_read : Kept leases t (Read leases t wid worker) :=
  .or (.ex fun w => .ex fun _ => (kept_const _).and (kept_lock w _))
    ((kept_const _).and (Kept.imp kept_shut |>.and
      (Kept.imp fun hleases => Kept.imp fun _ => (lasting_finished hleases).kept fun _ _ h => h)))

theorem kept_judged : Kept leases t (Judged leases t wid worker task) :=
  .or (.ex fun w => .ex fun _ => (kept_const _).and ((kept_lock w _).and (kept_request w _)))
    ((Kept.imp kept_shut).and (kept_const _))

theorem kept_committed : Kept leases t (Committed leases t worker task) :=
  (kept_past.and kept_retirer).and
    (.or (.ex fun w => .ex fun L => (kept_ending w L).and (kept_const _))
      (kept_not_ending.and (kept_const _)))

theorem kept_concluded : Kept leases t (Concluded t) :=
  (kept_past.and kept_retirer).and (.or (.ex fun w => kept_ending w _) kept_not_ending)

/-- The handle of a task that no thread is ending. -/
theorem handled_of_target (hinv : v.Inv leases) (htarget : v.Target wid)
    (hopen : ∀ t w, v.stage ≠ .ending t w) : v.Handled wid (v.handle.map Prod.snd) := by
  cases he : v.handle with
  | some e =>
    have hst := (hinv.handle e he).1
    show wid = some e.2.proc
    unfold Target at htarget
    cases hst' : v.stage <;> rw [hst'] at hst htarget
    case idle | claimed | doomed => cases hst
    case registered | live =>
      cases hst
      exact htarget
    case ending => exact absurd hst' (hopen _ _)
  | none =>
    show v.Over
    unfold Target at htarget
    unfold Over
    cases hst : v.stage <;> rw [hst] at htarget
    case idle | doomed | ending => trivial
    case claimed => exact htarget
    case registered t' w =>
      intro row hrow
      have hlive : row.state.isLive = false := hinv.not_live (by simp [hst]) hrow
      have hd : row.state ≠ .dispatching := by
        intro hd
        have hsome := hinv.registered t' w row hst hrow hd
        rw [he] at hsome
        cases hsome
      simp [TaskState.isActive, hlive, hd]
    case live w =>
      obtain ⟨row, wr, -, -, -, -, hsome, -⟩ := hinv.live w hst
      rw [he] at hsome
      cases hsome

end TaskView

/-! ## The actions of a retirement -/

namespace CoherenceLemmas

open TaskView TaskSteps Effects QuietLemmas Store.StoreLemmas

variable {settings : Settings} {leases : Prop} {t : ThreadId} {s s' : Sys} {tid : TaskId}
  {wid : Option WorkerId} {worker : Option Worker} {task : Task} {F : TaskView → Prop}

theorem beginRetire_minds {stop : Bool}
    (h : Minds leases t none tid (fun v => v.Aims t wid ∧ (stop = false → v.Ready t wid)) s) :
    Safe (coherence settings leases) t (call (.beginRetire tid)) (fun
      | .ok none => Minds leases t none tid (Left t False)
      | .ok (some handle) => Minds leases t (some tid) tid (Begun t wid stop handle)
      | .error _ => fun _ => False) s := by
  refine Triple.safe (triple_of_exec fun s hinv h => ?_)
    (minds_stable (kept_aims.and (.imp fun _ => kept_ready)).mine) h
  obtain ⟨howns, haims, hready⟩ := h
  refine ⟨trivial, fun env r s' _ hx => ⟨beginRetire_step hinv hx, ?_⟩⟩
  rcases beginRetire_cases hx with ⟨-, rfl, rfl⟩ | ⟨hmem, rfl, rfl⟩
  · exact ⟨howns, haims.1, fun h => h.elim⟩
  have hopen : ∀ t' w, (s.taskView leases tid).stage ≠ .ending t' w := by
    intro t' w hst
    have hr := ((hinv tid).ending t' w hst).1
    exact hmem ((hinv tid).retiring.mpr (by rw [hr]; rfl))
  refine ⟨⟨howns.claimer, fun tid' hr => ?_⟩, ⟨haims, setAt_same _ _ _, hopen t⟩,
    ⟨haims.1, ?_⟩, hready⟩
  · by_cases htid : tid' = tid
    · rw [htid]
    · have hr' : s.hist.retirer tid' = some t := (setAt_of_ne _ _ htid).symm.trans hr
      cases howns.retirer tid' hr'
  · have hhandled := handled_of_target (hinv tid) haims.2 hopen
    cases he : Dict.get? s.world.handles tid with
    | none => rwa [show (s.taskView leases tid).handle = none from he] at hhandled
    | some e => rwa [show (s.taskView leases tid).handle = some e from he] at hhandled

theorem endRetire_minds {retired : Prop}
    (h : Minds leases t (some tid) tid (fun v => v.Left t retired ∧ v.retirer = some t ∧
      ∀ w, v.stage ≠ .ending t w) s) :
    Safe (coherence settings leases) t (call (.endRetire tid)) (fun
      | .ok _ => Minds leases t none tid (Left t retired)
      | .error _ => fun _ => False) s := by
  refine Triple.safe (triple_of_exec fun s hinv h => ?_)
    (minds_stable ((kept_left retired).and (kept_retirer.and kept_not_ending)).mine) h
  obtain ⟨howns, hleft, hr, hopen⟩ := h
  refine ⟨trivial, fun env r s' _ hx => ⟨endRetire_step hr hopen hx, ?_⟩⟩
  obtain ⟨rfl, rfl⟩ := endRetire_eq hx
  refine ⟨⟨howns.claimer, fun tid' hr' => ?_⟩, hleft⟩
  by_cases htid : tid' = tid
  · subst htid
    exact absurd ((setAt_same s.hist.retirer tid' none).symm.trans hr') (by simp)
  · have hr₀ : s.hist.retirer tid' = some t := (setAt_of_ne _ _ htid).symm.trans hr'
    exact absurd (Option.some.inj (howns.retirer tid' hr₀)).symm htid

/-- What the row of the worker says of the task that is under retirement. -/
theorem read_of_row {w : WorkerId} {v : TaskView} (hinv : v.Inv leases) (hid : w = ⟨v.id, w.serial⟩)
    (hret : v.Retiring t (some w)) (hblind : v.blind = true) :
    Read leases t (some w) (v.worker w.serial) v := by
  have hlive : ∀ w', v.stage = .live w' → w' = w := by
    intro w' hst
    have htarget := hret.1.2
    unfold Target at htarget
    rw [hst] at htarget
    exact (Option.some.inj htarget).symm
  cases hrow : v.worker w.serial with
  | none =>
    refine Or.inr ⟨rfl, fun _ => Or.inr ⟨hret.2.1, hblind, fun w' hst => ?_⟩, fun _ h => absurd rfl h⟩
    obtain rfl := hlive w' hst
    obtain ⟨-, wr, -, -, hwr, -⟩ := hinv.live w' hst
    rw [hrow] at hwr
    cases hwr
  | some wr =>
    cases hact : wr.isActive with
    | true =>
      refine Or.inl ⟨w, wr, ⟨rfl, rfl, hact⟩, ⟨hret.2.1, ?_⟩, wr, hrow, rfl⟩
      rw [hinv.active _ wr hrow hact, ← hid]
    | false =>
      refine Or.inr ⟨by simp [hact], fun _ => Or.inr ⟨hret.2.1, hblind, fun w' hst => ?_⟩, ?_⟩
      · obtain rfl := hlive w' hst
        obtain ⟨-, wr', -, -, hwr, hact', -⟩ := hinv.live w' hst
        rw [hrow] at hwr
        cases hwr
        rw [hact] at hact'
        cases hact'
      · refine fun _ _ => ⟨hret.1.1, fun row hrow' => ?_⟩
        obtain ⟨row₀, hrow₀, hf⟩ := hinv.ended _ wr hrow hact
        rw [hrow'] at hrow₀
        cases hrow₀
        exact hf

theorem getWorker?_minds (hwid : ∀ w, wid = some w → w.task = tid) (hF : Kept leases t F)
    (hret : ∀ v, F v → v.Retiring t wid) (h : Minds leases t (some tid) tid F s) :
    Safe (coherence settings leases) t (getWorker? wid) (fun
      | .ok worker => Minds leases t (some tid) tid fun v => F v ∧ Read leases t wid worker v
      | .error _ => Minds leases t (some tid) tid F) s := by
  cases wid with
  | none =>
    refine ⟨h.1, h.2, Or.inr ⟨rfl, fun _ => Or.inl ⟨(hret _ h.2).1.1, ?_⟩, fun _ h => absurd rfl h⟩⟩
    have htarget := (hret _ h.2).1.2
    unfold Target at htarget
    unfold Over
    cases hst : (s.taskView leases tid).stage <;> rw [hst] at htarget
    case idle | ending => trivial
    case claimed => exact htarget
    all_goals cases htarget
  | some w =>
    refine (quiet_act_minds (a := .store (.getWorker w)) trivial hF (R := fun
      | .ok worker => fun v => F v ∧ Read leases t (some w) worker v
      | .error _ => F) (fun s env r s' hinv hx _ hf => ?_) h).mono fun r s h => ?_
    · have hinv' := inv_calm (hinv tid)
        (quiet_calm (a := .store (.getWorker w)) trivial hx tid)
      have hw : w = ⟨tid, w.serial⟩ := by
        cases w
        cases hwid _ rfl
        rfl
      rcases store_cases hx with ⟨e, -, rfl, rfl⟩ | ⟨-, db', hexec, rfl⟩
      · exact hf
      · cases hexec
        have hr : s.hist.retirer tid = some t := by
          have hr' := (hret _ hf).2.1
          simp only [Sys.taskView, History.recordStore] at hr'
          split at hr' <;> exact hr'
        refine ⟨hf, ?_⟩
        have hread := read_of_row hinv' hw (hret _ hf) (by
          simp only [Sys.taskView, History.recordStore, hwid w rfl, hr, ↓reduceIte, setAt_same])
        simp only [Sys.taskView] at hread
        rw [← hw] at hread
        exact hread
    · cases r <;> exact h

theorem stopForRetire_minds {o : Option TaskId} {stop : Bool} {handle : Option WorkerHandle}
    (hwid : ∀ w, wid = some w → w.task = tid) (hF : Kept leases t F)
    (haims : ∀ v, F v → v.Aims t wid ∧ v.Handled wid handle)
    (hspent : stop = false → ∀ v, F v → v.Spent wid) (h : Minds leases t o tid F s) :
    Safe (coherence settings leases) t (stopForRetire tid wid stop handle) (fun
      | .ok _ => Minds leases t o tid fun v => F v ∧ v.Ready t wid
      | .error _ => fun _ => False) s := by
  obtain ⟨howns, hf⟩ := h
  obtain ⟨⟨ht, htarget⟩, hhandled⟩ := haims _ hf
  cases stop with
  | false => exact ⟨howns, hf, ht, htarget, hspent rfl _ hf⟩
  | true =>
    cases handle with
    | none => exact ⟨howns, hf, ht, htarget, Or.inl hhandled⟩
    | some handle =>
      refine Safe.tryCatch ((act_minds (a := .stop handle (.retirement tid wid)) trivial trivial
        hF.mine (R := fun _ v => F v ∧ v.Ready t wid) (fun s hinv hf => ?_) ⟨howns, hf⟩).mono
          fun r s h => ?_)
      · have hproc : wid = some handle.proc := (haims _ hf).2
        have hid : handle.proc = ⟨tid, handle.proc.serial⟩ := by
          rw [← hwid _ hproc]
        refine ⟨hproc, fun env r s' _ hx => ⟨fun tid => .calm (stop_calm hx tid), ?_⟩⟩
        have haims' := kept_aims.calm _ _ (hinv tid) (stop_calm hx tid) (haims _ hf).1
        exact ⟨hF.calm _ _ (hinv tid) (stop_calm hx tid) hf, haims'.1, haims'.2,
          Or.inr ⟨handle.proc, hproc, stop_stoppedAt rfl hid hx⟩⟩
      · cases r with
        | ok _ => exact h
        | error exc =>
          exact Safe.ignoring (quiet_minds (recordEvent_quiet _ _ _) (hF.and kept_ready) h)
            fun _ h => h

theorem final_of_endStates {terminal : String} (h : terminal ∈ endStates) (st : TaskState)
    (hst : TaskState.ofName? terminal = some st) : st.isFinal = true := by
  simp only [endStates, List.mem_cons, List.not_mem_nil, or_false] at h
  rcases h with rfl | rfl | rfl <;> revert st <;> decide

/-- A shut task has no live worker. -/
theorem not_live_of_shut {v : TaskView} (h : v.Shut t) (w : WorkerId) : v.stage ≠ .live w := by
  rcases h with ⟨-, hover⟩ | ⟨-, -, hst⟩
  · exact not_live_of_over hover w
  · exact hst w

theorem nonEmpty?_eq_some_iff {o : Option String} {U : String} :
    nonEmpty? o = some U ↔ o = some U ∧ U ≠ "" := by
  constructor
  · intro h
    refine ⟨UndispatchedLemmas.nonEmpty?_eq_some h, ?_⟩
    rintro rfl
    cases UndispatchedLemmas.nonEmpty?_eq_some h
    cases h
  · rintro ⟨rfl, hU⟩
    exact if_neg hU

/-- The lock of the row that the retirement has read is the only lease of the worker. -/
theorem leases_of_judged {v : TaskView} {w : WorkerId} (hinv : v.Inv leases)
    (hst : v.stage = .live w) (h : v.Judged leases t wid worker task) (hleases : leases) :
    ∃ wr, worker = some wr ∧
      ∀ U n, v.leased U n ↔
        n = w.serial ∧ nonEmpty? wr.resourceLockId = some U ∧ task.AsksGpu := by
  rcases h with ⟨w', wr, ⟨-, hworker⟩, ⟨⟨-, hst'⟩, wr', hwr', hlock⟩, -, row, hrow, hreq⟩ | ⟨hshut, -⟩
  · cases hst.symm.trans hst'
    refine ⟨wr, hworker, fun U n => ?_⟩
    obtain ⟨row₀, wr₀, hrow₀, -, hwr₀, -, -, hlease⟩ := hinv.live w hst
    rw [hrow] at hrow₀
    cases hrow₀
    rw [hwr'] at hwr₀
    cases hwr₀
    have hgpu : row.AsksGpu ↔ task.AsksGpu := by
      unfold Task.AsksGpu
      rw [hreq]
    rw [nonEmpty?_eq_some_iff]
    constructor
    · intro hl
      obtain ⟨hU, hw⟩ := hinv.leased U n hl
      have hn : n = w.serial := by
        rw [hst] at hw
        cases hw
        rfl
      subst hn
      obtain ⟨hheld, hg⟩ := (hlease hleases U).mp hl
      exact ⟨rfl, ⟨hlock ▸ hheld, hU⟩, hgpu.mp hg⟩
    · rintro ⟨rfl, hU, hg⟩
      exact (hlease hleases U).mpr ⟨hlock.trans hU.1, hgpu.mpr hg⟩
  · exact absurd hst (not_live_of_shut (hshut hleases) w)

/-- The commit of a retirement. -/
theorem finishWorker_minds (hwid : ∀ w, wid = some w → w.task = tid) {terminal : String}
    (hterminal : terminal ∈ endStates) (event : Option Event)
    (h : Minds leases t (some tid) tid (fun v =>
      (v.Retiring t wid ∧ v.Ready t wid) ∧ v.Judged leases t wid worker task) s) :
    Safe (coherence settings leases) t (store (.finishWorker tid wid terminal event)) (fun
      | .ok true => Minds leases t (some tid) tid (Committed leases t worker task)
      | _ => Minds leases t (some tid) tid fun v =>
        v.Left t False ∧ v.retirer = some t ∧ ∀ w, v.stage ≠ .ending t w) s := by
  refine (act_minds (a := .store (.finishWorker tid wid terminal event))
    ((by decide : ∀ s ∈ endStates, s ∈ finalStates) terminal hterminal) trivial ((kept_retiring.and kept_ready).and kept_judged).mine (R := fun
      | .ok true => Committed leases t worker task
      | _ => fun v => v.Left t False ∧ v.retirer = some t ∧ ∀ w, v.stage ≠ .ending t w)
    (fun s hinv hf => ?_) h).mono fun r s h => ?_
  · obtain ⟨⟨⟨⟨ht, htarget⟩, hr, hopen⟩, -, -, hspent⟩, hjudged⟩ := hf
    have hlive : ∀ w, s.hist.stage tid = .live w → wid = some w := by
      intro w hst
      unfold Target at htarget
      rw [show (s.taskView leases tid).stage = .live w from hst] at htarget
      exact htarget
    refine ⟨fun w row hrow htid hact => ?_, fun env r s' _ hx => ⟨?_, ?_⟩⟩
    · have hid : row.taskId = w.task := (hinv w.task).rows w.serial row hrow
      have hw : w.task = tid := hid.symm.trans htid
      have hst := (hinv w.task).active w.serial row hrow hact
      rw [hw] at hst
      have hlive' := hlive _ hst
      rw [hlive', ← hw]
      rfl
    · refine finish_step hinv hwid (final_of_endStates hterminal) (fun w hst => ?_) hx
      refine ⟨hlive w hst, hr, ht, ?_⟩
      rcases hspent with hover | ⟨w', hw', hstop⟩
      · exact absurd hst (not_live_of_over hover w)
      · rw [hlive w hst] at hw'
        cases hw'
        exact hstop
    · rcases store_cases hx with ⟨e, -, rfl, rfl⟩ | ⟨-, db', hexec, rfl⟩
      · exact ⟨⟨ht, fun h => h.elim⟩, hr, hopen⟩
      rcases finishWorker_cases hexec with ⟨rfl, hres⟩ | ⟨row, st, hrow, htr, rfl, -, -, htask⟩
      · rcases hres with ⟨rfl, -⟩ | ⟨e, rfl⟩ <;> exact ⟨⟨ht, fun h => h.elim⟩, hr, hopen⟩
      have hpast : ∀ row', db'.task? tid = some row' → row'.state.isActive = false := by
        intro row' hrow'
        rw [htask, if_pos rfl] at hrow'
        cases hrow'
        exact isActive_of_isFinal
          (final_of_endStates hterminal st (transition_eq_ok htr).1)
      by_cases hst : ∃ w, s.hist.stage tid = .live w
      · obtain ⟨w, hst⟩ := hst
        have hhist : s.hist.recordStore t (.finishWorker tid wid terminal event) (.ok true) =
            { s.hist with stage := setAt s.hist.stage tid (.ending t w) } := by
          simp only [History.recordStore, hst]
        rw [hhist]
        refine ⟨⟨⟨ht, hpast⟩, hr⟩, Or.inl ⟨w, (s.taskView leases tid).leased, ⟨?_, rfl⟩, ?_⟩⟩
        · exact setAt_same _ _ _
        · exact leases_of_judged (hinv tid) hst hjudged
      · have hnot : ∀ w, s.hist.stage tid ≠ .live w := fun w heq => hst ⟨w, heq⟩
        have hhist : s.hist.recordStore t (.finishWorker tid wid terminal event) (.ok true) =
            s.hist := by
          cases hst' : s.hist.stage tid with
          | live w => exact absurd hst' (hnot w)
          | _ => simp only [History.recordStore, hst']
        rw [hhist]
        refine ⟨⟨⟨ht, hpast⟩, hr⟩, Or.inr ⟨hopen, fun hleases => ?_⟩⟩
        rcases hjudged with ⟨w, -, -, ⟨⟨-, hst'⟩, -⟩, -⟩ | ⟨-, hnone⟩
        · exact absurd hst' (hnot w)
        · exact hnone hleases
  · rcases r with e | committed
    · exact h
    · cases committed <;> exact h

/-! ## The release of the lease -/

/-- `resource.get` of a kind that is `"gpu"` is the GPU, and nothing else is. -/
theorem resourceGet_gpu {kind : Json} : resourceGet kind = .ok "gpu" ↔ kind = .str "gpu" := by
  constructor
  · intro h
    unfold resourceGet at h
    split at h
    · next s =>
      unfold Resource.get at h
      split at h <;> cases h
      rfl
    all_goals cases h
  · rintro rfl
    rfl

/-- The requirements under `kind`, as the retirement reads them. -/
theorem asksGpu_iff (task : Task) : task.AsksGpu ↔
    (task.resourceReq.get? "kind").filter Json.truthy = some (.str "gpu") := by
  unfold Task.AsksGpu
  rw [Option.filter_eq_some_iff]
  exact ⟨fun h => ⟨h, rfl⟩, fun h => h.1⟩

/-- A retirement that has no lease to release is concluded. -/
theorem concluded_of_committed {v : TaskView} (h : v.Committed leases t worker task)
    (hnone : leases → ∀ wr, worker = some wr → ∀ U, nonEmpty? wr.resourceLockId = some U →
      ¬ task.AsksGpu) (hfollow : ¬ leases → v.Unleased) : v.Concluded t := by
  obtain ⟨hpast, ⟨w, L, ⟨hst, rfl⟩, hlease⟩ | ⟨hopen, -⟩⟩ := h
  · refine ⟨hpast, Or.inl ⟨w, hst, ?_⟩⟩
    funext U n
    refine propext ⟨fun hl => ?_, fun h => h.elim⟩
    by_cases hleases : leases
    · obtain ⟨wr, hworker, hiff⟩ := hlease hleases
      obtain ⟨-, hU, hg⟩ := (hiff U n).mp hl
      exact hnone hleases wr hworker U hU hg
    · exact hfollow hleases U n hl
  · exact ⟨hpast, Or.inr hopen⟩

theorem unleased_of_not (hnot : ¬ leases) (s : Sys) (tid : TaskId) :
    (s.taskView leases tid).Unleased := fun _ _ hl => hnot hl.1

theorem releaseId_minds {wr : Worker} {lockId kind : String} (hworker : worker = some wr)
    (hlock : nonEmpty? wr.resourceLockId = some lockId) (hkind : kind = "gpu" ↔ task.AsksGpu)
    (h : Minds leases t (some tid) tid (Committed leases t worker task) s) :
    Safe (coherence settings leases) t (call (.releaseId kind lockId wr.id))
      (fun _ => Minds leases t (some tid) tid (Concluded t)) s := by
  refine act_minds (a := .releaseId kind lockId wr.id) trivial trivial kept_committed.mine
    (R := fun _ => Concluded t) (fun s hinv hf => ⟨trivial, fun env r s' _ hx => ?_⟩) h
  have hleased : leases → ∃ w, s.hist.stage tid = .ending t w ∧
      ∀ U n, (s.taskView leases tid).leased U n ↔ n = w.serial ∧ lockId = U ∧ task.AsksGpu := by
    intro hleases
    rcases hf.2 with ⟨w, L, ⟨hst, rfl⟩, hlease⟩ | ⟨-, hnone⟩
    · obtain ⟨wr', hworker', hiff⟩ := hlease hleases
      cases hworker.symm.trans hworker'
      refine ⟨w, hst, fun U n => (hiff U n).trans ?_⟩
      rw [hlock, Option.some.injEq]
    · cases hworker.symm.trans (hnone hleases)
  have hstep : StepAt leases t tid s s' := by
    refine releaseId_step (fun hleases hgpu => ?_) hx
    obtain ⟨w, hst, hiff⟩ := hleased hleases
    refine ⟨Or.inr ⟨w, hst⟩, fun w' hheld => ?_⟩
    have hheld' := ((hiff lockId w.serial).mpr ⟨rfl, rfl, hkind.mp hgpu⟩).2
    rw [hheld'] at hheld
    cases hheld
    rfl
  refine ⟨hstep.step, ?_⟩
  -- the lease is gone, or there was none
  rcases releaseId_eq hx with ⟨hgpu, rfl⟩ | ⟨hgpu, rfl⟩
  · obtain ⟨hpast, hcase⟩ := hf
    refine ⟨hpast, ?_⟩
    rcases hcase with ⟨w, L, ⟨hst, -⟩, -⟩ | ⟨hopen, -⟩
    · refine Or.inl ⟨w, hst, ?_⟩
      funext U n
      refine propext ⟨fun hl => ?_, fun h => h.elim⟩
      obtain ⟨hleases, hl⟩ := hl
      obtain ⟨w', -, hiff⟩ := hleased hleases
      rw [Dict.get?_pop] at hl
      split at hl
      · cases hl
      · next hne => exact hne ((hiff U n).mp ⟨hleases, hl⟩).2.1.symm
    · exact Or.inr hopen
  · have hcommitted : TaskView.Committed leases t worker task _ := hf
    exact concluded_of_committed hcommitted
      (fun _ _ _ _ _ hg => hgpu (hkind.mpr hg)) fun hnot => unleased_of_not hnot _ _

theorem releaseForRetire_minds
    (h : Minds leases t (some tid) tid (Committed leases t worker task) s) :
    Safe (coherence settings leases) t (releaseForRetire task tid worker) (fun
      | .ok _ => Minds leases t (some tid) tid (Concluded t)
      | .error _ => fun _ => False) s := by
  have hdone (hnone : leases → ∀ wr, worker = some wr → ∀ U,
      nonEmpty? wr.resourceLockId = some U → ¬ task.AsksGpu) :
      Minds leases t (some tid) tid (Concluded t) s :=
    ⟨h.1, concluded_of_committed h.2 hnone fun hnot => unleased_of_not hnot _ _⟩
  unfold releaseForRetire
  cases worker with
  | none => exact hdone fun _ wr hwr => by cases hwr
  | some wr =>
    dsimp only
    split
    · next lockId kind hlock hkind =>
      refine Safe.tryCatch ?_
      have hwarn {s : Sys} (h : Minds leases t (some tid) tid (Concluded t) s) (exc : PyErr) :
          Safe (coherence settings leases) t (recordEvent tid "resource_release_failed"
            [("resource_id", .str lockId), ("error", .str exc.msg)]).ignoring (fun
              | .ok _ => Minds leases t (some tid) tid (Concluded t)
              | .error _ => fun _ => False) s :=
        Safe.ignoring (quiet_minds (recordEvent_quiet _ _ _) kept_concluded h) fun _ h => h
      unfold releaseLease
      cases hget : resourceGet kind with
      | error exc =>
        refine hwarn (hdone fun _ wr' _ U _ hg => ?_) exc
        rw [asksGpu_iff, hkind, Option.some.injEq] at hg
        rw [resourceGet_gpu.mpr hg] at hget
        cases hget
      | ok adapter =>
        have hiff : adapter = "gpu" ↔ task.AsksGpu := by
          rw [asksGpu_iff, hkind, Option.some.injEq, ← resourceGet_gpu, hget, Except.ok.injEq]
        refine (releaseId_minds (rfl : some wr = some wr) hlock hiff h).mono fun r s h => ?_
        cases r with
        | ok _ => exact h
        | error exc => exact hwarn h exc
    · next hnone =>
      refine hdone fun _ wr' hwr U hU hg => ?_
      cases hwr
      exact hnone U _ hU ((asksGpu_iff task).mp hg)

/-! ## The retirement -/

/-- What a retirement leaves: no end of a worker, and the task is past if it has committed. -/
theorem unregister_minds (h : Minds leases t (some tid) tid (Concluded t) s) :
    Safe (coherence settings leases) t (call (.unregister tid (.retirement tid wid))) (fun
      | .ok _ => Minds leases t (some tid) tid fun v =>
        v.Left t True ∧ v.retirer = some t ∧ ∀ w, v.stage ≠ .ending t w
      | .error _ => fun _ => False) s := by
  refine (act_minds (a := .unregister tid (.retirement tid wid)) trivial trivial
    kept_concluded.mine (R := fun
      | .ok _ => fun v => v.Left t True ∧ v.retirer = some t ∧ ∀ w, v.stage ≠ .ending t w
      | .error _ => fun _ => False) (fun s hinv hf => ⟨trivial, fun env r s' _ hx => ?_⟩) h).mono
        fun r s h => ?_
  · have hcaller : ∀ w, Caller.retirement tid wid ≠ .dispatcher w := fun w heq => by cases heq
    obtain ⟨⟨⟨ht, hpast⟩, hr⟩, hcase⟩ := hf
    have hopen (h : ∀ w, s.hist.stage tid ≠ .ending t w) (t' : ThreadId) (w : WorkerId) :
        s.hist.stage tid ≠ .ending t' w := by
      intro hst
      obtain rfl : t = t' := Option.some.inj (hr.symm.trans ((hinv tid).ending t' w hst).1)
      exact h w hst
    refine ⟨unregister_step hcaller ?_ hx, ?_⟩
    · rcases hcase with ⟨w, hst, hleased⟩ | hno
      · refine Or.inl ⟨w, hst, fun U n hl => ?_⟩
        rw [hleased] at hl
        exact hl
      · exact Or.inr ⟨hpast, hopen hno⟩
    · obtain ⟨rfl, rfl⟩ := unregister_eq hx
      rw [History.record_unregister hcaller]
      rcases hcase with ⟨w, hst, -⟩ | hno
      · have hst : s.hist.stage tid = .ending t w := hst
        simp only [History.close, hst, ↓reduceIte]
        refine ⟨⟨ht, fun _ => hpast⟩, hr, fun w' heq => ?_⟩
        exact absurd ((setAt_same s.hist.stage tid Stage.idle).symm.trans heq) (by simp)
      · have hclose : s.hist.close t tid = s.hist := by
          unfold History.close
          split
          · next t' w heq => exact absurd heq (hopen hno t' w)
          · rfl
        rw [hclose]
        exact ⟨⟨ht, fun _ => hpast⟩, hr, hno⟩
  · cases r with
    | ok _ => exact h
    | error _ => exact h.2.elim

/-- The state in which the part under `_RETIRING` ends. -/
def Ended (leases : Prop) (t : ThreadId) (tid : TaskId) (r : Except PyErr (Option String)) :
    Sys → Prop :=
  Minds leases t (some tid) tid fun v => v.Left t (∃ state, r = .ok (some state)) ∧
    v.retirer = some t ∧ ∀ w, v.stage ≠ .ending t w

theorem left_mono {v : TaskView} {p q : Prop} (hpq : p → q) (h : v.Left t q) : v.Left t p :=
  ⟨h.1, fun hp => h.2 (hpq hp)⟩

theorem concludeRetire_minds (result : Option String)
    (h : Minds leases t (some tid) tid (Committed leases t worker task) s) :
    Safe (coherence settings leases) t (concludeRetire task tid wid worker result)
      (Ended leases t tid) s := by
  refine Safe.seq (releaseForRetire_minds h) (fun _ s h => ?_) fun _ _ h => h.elim
  refine Safe.seq (unregister_minds h) (fun _ s h => ?_) fun _ _ h => h.elim
  exact ⟨h.1, left_mono (fun _ => trivial) h.2.1, h.2.2⟩

theorem commitRetire_minds (hwid : ∀ w, wid = some w → w.task = tid) {terminal : String}
    (hterminal : terminal ∈ endStates) (hopen : task.state.isTerminal = false)
    (handle : Option WorkerHandle)
    (h : Minds leases t (some tid) tid (fun v =>
      (v.Retiring t wid ∧ v.Ready t wid) ∧ v.Judged leases t wid worker task) s) :
    Safe (coherence settings leases) t (commitRetire task tid wid worker (some terminal) handle)
      (Ended leases t tid) s := by
  have hkept : Kept leases t fun v =>
      (v.Retiring t wid ∧ v.Ready t wid) ∧ v.Judged leases t wid worker task :=
    (kept_retiring.and kept_ready).and kept_judged
  refine Safe.seq_returns (minds_stable hkept.mine) (quiet_neutral hkept)
    (UndispatchedLemmas.gateTerminal_quiet task (some terminal) handle)
    (UndispatchedLemmas.gateTerminal_open (by decide) (by decide) hopen hterminal handle) h
    (fun gated s hgated h => ?_) fun exc s h => ?_
  · obtain ⟨state, hstate, hmem⟩ := hgated
    have hne : state ≠ "" := by
      rintro rfl
      exact absurd hmem (by decide)
    have hsome : nonEmpty? gated.1 = some state := nonEmpty?_eq_some_iff.mpr ⟨hstate, hne⟩
    obtain ⟨gated, event⟩ := gated
    dsimp only at hsome ⊢
    rw [hsome]
    refine Safe.seq (finishWorker_minds hwid hmem event h) (fun committed s h => ?_)
      fun exc s h => ?_
    · cases committed with
      | true => exact concludeRetire_minds _ h
      | false => exact ⟨h.1, left_mono (fun hr => by cases hr.choose_spec) h.2.1, h.2.2⟩
    · exact ⟨h.1, left_mono (fun hr => by cases hr.choose_spec) h.2.1, h.2.2⟩
  · obtain ⟨howns, ⟨⟨haims, hr, hno⟩, -⟩, -⟩ := h
    exact ⟨howns, ⟨haims.1, fun hr => by cases hr.choose_spec⟩, hr, hno⟩

/-- What the row of the task says, read after the row of the worker. -/
theorem judged_of_read {v : TaskView} {stop : Bool} {handle : Option WorkerHandle}
    (hinv : v.Inv leases) (hbegun : v.Begun t wid stop handle)
    (hread : v.Read leases t wid worker) (ht : v.touched t = true) (hrow : v.task = some task) :
    (task.state.isTerminal = true → worker.any Worker.isActive = false ∧ v.Concluded t) ∧
    (task.state.isTerminal = false → v.Judged leases t wid worker task) := by
  obtain ⟨⟨-, hr, hopen⟩, -⟩ := hbegun
  have hterminal : task.state.isTerminal = true → task.state.isActive = false ∧
      task.state.isLive = false := by
    cases task.state <;> decide
  constructor
  · intro hend
    refine ⟨?_, ⟨⟨ht, fun row hrow' => ?_⟩, hr⟩, Or.inr hopen⟩
    · rcases hread with ⟨w, wr, -, ⟨-, hst⟩, -⟩ | ⟨hinactive, -⟩
      · obtain ⟨row, -, hrow', hl, -⟩ := hinv.live w hst
        rw [hrow] at hrow'
        cases hrow'
        rw [(hterminal hend).2] at hl
        cases hl
      · exact hinactive
    · rw [hrow] at hrow'
      cases hrow'
      exact (hterminal hend).1
  · intro hend
    rcases hread with ⟨w, wr, ⟨hwid, hworker, -⟩, hlocked⟩ | ⟨-, hshut, hfinished⟩
    · exact Or.inl ⟨w, wr, ⟨hwid, hworker⟩, hlocked, hlocked.1, task, hrow, rfl⟩
    · refine Or.inr ⟨hshut, fun hleases => ?_⟩
      by_contra hsome
      have hfinal := (hfinished hleases hsome).2 task hrow
      revert hfinal hend
      cases task.state <;> decide

theorem retireBody_minds (hwid : ∀ w, wid = some w → w.task = tid) {terminal : String}
    (hterminal : terminal ∈ endStates) {stop : Bool} {handle : Option WorkerHandle}
    (h : Minds leases t (some tid) tid (Begun t wid stop handle) s) :
    Safe (coherence settings leases) t (retireBody tid wid (some terminal) stop handle)
      (Ended leases t tid) s := by
  have hgiveUp {exc : PyErr} {s : Sys} (h : Minds leases t (some tid) tid (Begun t wid stop handle) s) :
      Ended leases t tid (.error exc) s :=
    ⟨h.1, ⟨h.2.1.1.1, fun hr => by cases hr.choose_spec⟩, h.2.1.2⟩
  have hdrop {s : Sys} (h : Minds leases t (some tid) tid (Concluded t) s) :
      Safe (coherence settings leases) t (do
        call (.unregister tid (.retirement tid wid))
        return none) (Ended leases t tid) s := by
    refine Safe.seq (unregister_minds h) (fun _ s h => ?_) fun _ _ h => h.elim
    exact ⟨h.1, left_mono (fun _ => trivial) h.2.1, h.2.2⟩
  refine Safe.seq (getWorker?_minds hwid (kept_begun stop handle) (fun v h => h.1) h)
    (fun worker s h => ?_) fun exc s h => hgiveUp h
  refine Safe.seq (getTask_minds ((kept_begun stop handle).and kept_read)
    (R := Reviewed leases t wid worker stop handle)
    (fun v hinv hf ht => ?_) h) (fun row s h => ?_) fun exc s h => hgiveUp ⟨h.1, h.2.1⟩
  · unfold Reviewed
    cases hrow : v.task with
    | none =>
      exact ⟨⟨⟨ht, fun row hrow' => by rw [hrow] at hrow'; cases hrow'⟩, hf.1.1.2.1⟩,
        Or.inr hf.1.1.2.2⟩
    | some task => exact ⟨hf.1, judged_of_read hinv hf.1 hf.2 ht hrow⟩
  · cases row with
    | none => exact hdrop h
    | some task =>
      obtain ⟨howns, hbegun, hend, hopen⟩ := h
      cases hst : task.state.isTerminal with
      | true =>
        obtain ⟨hinactive, hconcluded⟩ := hend hst
        simp only [hst, hinactive, Bool.not_false, Bool.and_self, ↓reduceIte]
        exact hdrop ⟨howns, hconcluded⟩
      | false =>
        simp only [hst, Bool.false_and, Bool.false_eq_true, ↓reduceIte]
        have hkept : Kept leases t fun v =>
            v.Begun t wid stop handle ∧ v.Judged leases t wid worker task :=
          (kept_begun stop handle).and kept_judged
        refine Safe.seq (stopForRetire_minds hwid hkept (fun v h => ⟨h.1.1.1, h.1.2.1.2⟩)
          (fun hstop v h => (h.1.2.2 hstop).2.2) ⟨howns, hbegun, hopen hst⟩) (fun _ s h => ?_)
          fun _ _ h => h.elim
        obtain ⟨howns, ⟨hbegun, hjudged⟩, hready⟩ := h
        exact commitRetire_minds hwid hterminal hst handle ⟨howns, ⟨hbegun.1, hready⟩, hjudged⟩

theorem retireStuck_minds (hF : Kept leases t F) (ht : ∀ v, F v → v.touched t = true)
    (h : Minds leases t none tid F s) :
    Safe (coherence settings leases) t (retireStuck tid)
      (fun _ => Minds leases t none tid (Left t False)) s := by
  have hleft {s : Sys} (h : Minds leases t none tid F s) : Minds leases t none tid (Left t False) s :=
    ⟨h.1, ht _ h.2, fun h => h.elim⟩
  refine Safe.seq (getTask_minds hF (R := fun _ => F) (fun _ _ h _ => h) h) (fun row s h => ?_)
    fun _ _ h => hleft h
  cases row with
  | none => exact hleft h
  | some task =>
    dsimp only
    split
    · exact hleft h
    · refine Safe.seq (act_minds
        (a := .store (.setTaskState tid "STUCK" (some [.running, .paused, .stuck]))) rfl trivial
        (kept_left False).mine (R := fun _ => Left t False) (fun s hinv hf => ?_) (hleft h))
        (fun _ _ h => h) fun _ _ h => h
      refine ⟨trivial, fun env r s' _ hx => ?_⟩
      refine ⟨(switch_step (by decide) (by decide) hx).step, ?_, fun h => h.elim⟩
      rw [store_frame hx]
      exact hf.1

/-- A retirement keeps the contract; a task that it has retired, other than to `STUCK`, is past
until the thread ends. -/
theorem retire_minds (hwid : ∀ w, wid = some w → w.task = tid) {terminal : String}
    (hterminal : terminal = "STUCK" ∨ terminal ∈ endStates) {stop : Bool}
    (h : Minds leases t none tid (fun v => v.Aims t wid ∧ (stop = false → v.Ready t wid)) s) :
    Safe (coherence settings leases) t (retire tid wid (some terminal) stop) (fun r =>
      Minds leases t none tid (Left t (terminal ≠ "STUCK" ∧ ∃ state, r = .ok (some state)))) s := by
  unfold retire
  by_cases hstuck : terminal = "STUCK"
  · subst hstuck
    rw [if_pos rfl]
    refine (retireStuck_minds (kept_aims.and (.imp fun _ => kept_ready)) (fun v h => h.1.1) h).mono
      fun r s h => ⟨h.1, left_mono (fun hr => hr.1 rfl) h.2⟩
  · rw [if_neg fun heq => hstuck (Option.some.inj heq)]
    refine Safe.seq (beginRetire_minds h) (fun handle s h => ?_) fun _ _ h => h.elim
    cases handle with
    | none => exact ⟨h.1, left_mono (fun hr => by cases hr.2.choose_spec) h.2⟩
    | some handle =>
      refine Safe.tryFinally ((retireBody_minds hwid (hterminal.resolve_left hstuck) h).mono
        fun r s h => ?_)
      refine (endRetire_minds h).mono fun r' s h => ?_
      cases r' with
      | ok _ => exact ⟨h.1, left_mono (fun hr => hr.2) h.2⟩
      | error _ => exact h.elim

end CoherenceLemmas

end Flotilla
