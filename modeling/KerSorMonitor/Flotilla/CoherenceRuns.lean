import KerSorMonitor.Flotilla.EvaluatorGate
import KerSorMonitor.Flotilla.Obligations

/-!
# Every operation keeps the contract

One process of the control plane, without a restart. Every operation but the reconciliation at
startup begins and ends without a claim and without a retirement, and meets the contract of
`Coherence` in between, whatever the other operations do meanwhile.

Results:
1. `workerPing_owns`, `deleteTask_owns`, `observeRunning_owns`, ...: one lemma for each operation.
2. `coherence_sound`.
-/

namespace Flotilla

open Keyed Threads
open Prog (call)

namespace CoherenceLemmas

open TaskView TaskSteps Effects QuietLemmas

variable {settings : Settings} {leases : Prop} {t : ThreadId} {s s' : Sys} {tid : TaskId}
  {wid : Option WorkerId} {α β : Type} {F G : TaskView → Prop}

/-! ## What a look at the task tells -/

/-- The registered handle belongs to the worker of the most recent claim. -/
theorem target_of_handle {v : TaskView} (hinv : v.Inv leases) {entry : HandleEntry}
    (h : v.handle = some entry) : v.Target entry.1 ∧ entry.1 = some entry.2.proc ∧
      ∀ w, entry.1 = some w → w.task = v.id := by
  obtain ⟨hst, hproc⟩ := hinv.handle entry h
  have htarget : v.Target entry.1 := by
    unfold Target
    cases hstage : v.stage with
    | registered t w | live w =>
      rw [hstage] at hst
      exact hproc.trans hst.symm
    | ending t w =>
      rw [hstage] at hst
      exact Or.inr (hproc.trans hst.symm)
    | idle | claimed | doomed =>
      rw [hstage] at hst
      cases hst
  refine ⟨htarget, hproc, fun w hw => (hinv.drawn w ?_).1⟩
  rw [hproc] at hw
  cases hw
  cases hstage : v.stage with
  | idle | claimed | doomed =>
    rw [hstage] at hst
    cases hst
  | _ =>
    rw [hstage] at hst
    exact hst

/-- What a thread learns from the handle of a task. -/
def Found (t : ThreadId) (entry : HandleEntry) (v : TaskView) : Prop :=
  v.Aims t entry.1 ∧ entry.1 = some entry.2.proc ∧ ∀ w, entry.1 = some w → w.task = v.id

theorem runningHandle_minds (hF : Kept leases t F) (h : Minds leases t none tid F s) :
    Safe (coherence settings leases) t (call (.runningHandle tid)) (fun r =>
      Minds leases t none tid fun v => F v ∧ ∀ entry, r = .ok (some entry) → Found t entry v) s := by
  refine quiet_act_minds (a := .runningHandle tid) trivial hF (R := fun r v =>
    F v ∧ ∀ entry, r = .ok (some entry) → Found t entry v) (fun s env r s' hinv hx _ hf => ?_) h
  refine ⟨hf, ?_⟩
  rintro entry rfl
  have hinv' := inv_calm (hinv tid) (quiet_calm (a := .runningHandle tid) trivial hx tid)
  have hget : Dict.get? s.world.handles tid = some entry := Except.ok.inj (congrArg Prod.fst hx)
  obtain rfl : _ = s' := congrArg Prod.snd hx
  obtain ⟨htarget, hproc⟩ := target_of_handle hinv' hget
  refine ⟨⟨?_, htarget⟩, hproc⟩
  simp only [Sys.taskView, Sys.exec, History.record, History.touch, setAt_same]

/-- What a thread learns from the active worker of a task. -/
structure Active (wid : Option WorkerId) (v : TaskView) : Prop where
  live : ∀ w, wid = some w → v.stage = .live w ∧ w.task = v.id
  none : wid = none → ∀ w, v.stage ≠ .live w

theorem active_of_rows (hinv : ∀ tid, (s.taskView leases tid).Inv leases) (tid : TaskId) :
    Active (Store.activeWorkerId tid s.world.db) (s.taskView leases tid) := by
  refine ⟨fun w hw => ?_, fun hnone w hst => ?_⟩
  · obtain ⟨row, hmem, rfl, htask, hactive⟩ := Store.StoreLemmas.activeWorkerId_mem hw
    have hrow : s.world.db.worker? ⟨row.id.task, row.id.serial⟩ = some row :=
      Table.get?_eq_some_iff.mpr ⟨hmem, rfl⟩
    have hid : row.id.task = tid := ((hinv row.id.task).rows row.id.serial row hrow).symm.trans htask
    rw [hid] at hrow
    have hst := (hinv tid).active row.id.serial row hrow hactive
    refine ⟨hst.trans ?_, hid⟩
    rw [← hid]
    rfl
  · obtain ⟨-, row, -, -, hrow, hactive, -⟩ := (hinv tid).live w hst
    have hmem := (Table.get?_eq_some_iff.mp hrow).1
    have htask : row.taskId = tid := (hinv tid).rows _ _ hrow
    have hsome := Store.StoreLemmas.activeWorkerId_isSome hmem htask hactive
    rw [hnone] at hsome
    cases hsome

theorem activeWorkerId_minds (hF : Kept leases t F) (h : Minds leases t none tid F s) :
    Safe (coherence settings leases) t (store (.activeWorkerId tid)) (fun r =>
      Minds leases t none tid fun v => F v ∧ ∀ wid, r = .ok wid → Active wid v) s := by
  refine quiet_act_minds (a := .store (.activeWorkerId tid)) trivial hF (R := fun r v =>
    F v ∧ ∀ wid, r = .ok wid → Active wid v) (fun s env r s' hinv hx _ hf => ⟨hf, ?_⟩) h
  rintro wid rfl
  rcases store_cases hx with ⟨e, -, hr, -⟩ | ⟨-, db', hexec, rfl⟩
  · cases hr
  · cases hexec
    exact active_of_rows hinv tid

theorem isActive_of_isTerminal {st : TaskState} (h : st.isTerminal = true) : st.isActive = false := by
  cases st <;> first | rfl | cases h

/-! ## The operations -/

/-- A quiet program. -/
theorem quiet_owns {p : Program α} (hp : p.All Act.Quiet) (h : Owns t none s) :
    Safe (coherence settings leases) t p (fun _ => Owns t none) s := by
  have h : Minds leases t none "" (fun _ => True) s := ⟨h, trivial⟩
  exact (quiet_minds hp (kept_const True) h).mono fun _ _ h => h.1

theorem silent_owns {p : Program α} (hp : p.All Act.Silent) (h : Owns t none s) :
    Safe (coherence settings leases) t p (fun _ => Owns t none) s :=
  quiet_owns (quiet_of_silent hp) h

theorem ite_safe {c : Prop} [Decidable c] {p q : Program α} {Q : Except PyErr α → Sys → Prop}
    (hp : c → Safe (coherence settings leases) t p Q s)
    (hq : ¬ c → Safe (coherence settings leases) t q Q s) :
    Safe (coherence settings leases) t (if c then p else q) Q s := by
  split
  · exact hp ‹_›
  · exact hq ‹_›

theorem httpException_owns (status : Nat) (detail : String) (h : Owns t none s) :
    Safe (coherence settings leases) t (httpException status detail : Program α)
      (fun _ => Owns t none) s :=
  silent_owns (silent_httpException status detail) h

/-- The look at the row of a task of which nothing is known. -/
theorem lookup_minds (tid : TaskId) (h : Owns t none s) :
    Safe (coherence settings leases) t (store (.getTask tid)) (fun
      | .ok row => Minds leases t none tid fun v => v.touched t = true ∧
          ∀ task, row = some task → task.state.isActive = false → v.Past
      | .error _ => Owns t none) s := by
  refine (getTask_minds (R := fun row v => v.touched t = true ∧
    ∀ task, row = some task → task.state.isActive = false → v.Past) (kept_const True)
    (fun v _ _ ht => ⟨ht, fun task hrow hact row hrow' => ?_⟩) ⟨h, trivial⟩).mono fun r s h => ?_
  · cases hrow.symm.trans hrow'
    exact hact
  · cases r with
    | ok => exact h
    | error => exact h.1

/-! ### Heartbeats -/

theorem kept_touched : Kept leases t fun v => v.touched t = true ∧ True :=
  Lasting.kept (F := fun _ => True) (fun _ _ _ _ _ _ _ => trivial) fun _ _ h => h

theorem kept_activated : Kept leases t fun v => v.touched t = true ∧ v.Activated :=
  lasting_activated.kept fun _ _ h => h

theorem mapTerminal_ends {state : Option String} {exited : Bool} {paneTail terminal : String}
    (h : mapTerminal state exited paneTail = some terminal) :
    terminal = "STUCK" ∨ terminal ∈ endStates := by
  unfold mapTerminal at h
  dsimp only at h
  split_ifs at h
  all_goals
    first
    | exact Or.inl (Option.some.inj h).symm
    | exact Or.inr (Option.some.inj h ▸ by decide)

/-- The active worker of an activated task, or none, is the one to retire. -/
theorem target_of_active {v : TaskView} (hact : v.Activated) (h : Active wid v) : v.Target wid := by
  unfold Activated at hact
  unfold Target
  cases wid with
  | some w =>
    rw [(h.live w rfl).1]
  | none =>
    cases hst : v.stage with
    | idle => trivial
    | ending => exact Or.inl rfl
    | live w => exact absurd hst (h.none rfl w)
    | claimed | registered | doomed =>
      rw [hst] at hact
      exact hact.elim

theorem retirePinged_owns {terminal : String} (hterminal : terminal = "STUCK" ∨ terminal ∈ endStates)
    (h : Minds leases t none tid (fun v => v.touched t = true ∧ v.Activated) s) :
    Safe (coherence settings leases) t (retirePinged tid terminal) (fun _ => Owns t none) s := by
  refine Safe.seq (activeWorkerId_minds kept_activated h) (fun wid s h => ?_) fun _ _ h => h.1
  obtain ⟨howns, ⟨htouched, hact⟩, hactive⟩ := h
  have hactive := hactive wid rfl
  have haims : Minds leases t none tid (fun v => v.Aims t wid ∧ (true = false → v.Ready t wid)) s :=
    ⟨howns, ⟨htouched, target_of_active hact hactive⟩, fun hstop => by cases hstop⟩
  refine Safe.seq (retire_minds (fun w hw => (hactive.live w hw).2) hterminal haims)
    (fun state s h => ?_) fun _ _ h => h.1
  cases state with
  | none => exact h.1
  | some state => exact quiet_owns (recordEvent_quiet _ _ _) h.1

theorem workerPing_owns (authorization : Option String) (body : WorkerPing) (h : Owns t none s) :
    Safe (coherence settings leases) t (workerPing settings authorization body)
      (fun _ => Owns t none) s := by
  refine Safe.seq (silent_owns (checkPingToken_silent settings authorization) h) (fun _ s h => ?_)
    fun _ _ h => h
  refine Safe.seq (silent_owns (silent_checkId _ _) h) (fun _ s h => ?_) fun _ _ h => h
  refine Safe.seq (lookup_minds body.taskId h) (fun row s h => ?_) fun _ _ h => h
  cases row with
  | none => exact httpException_owns _ _ h.1
  | some row =>
    dsimp only
    split
    · exact httpException_owns _ _ h.1
    have h : Minds leases t none body.taskId (fun v => v.touched t = true ∧ True) s :=
      ⟨h.1, h.2.1, trivial⟩
    refine Safe.seq (activeWorkerId_minds kept_touched h) (fun wid s h => ?_) fun _ _ h => h.1
    cases wid with
    | none => exact httpException_owns _ _ h.1
    | some wid =>
      have hact : Minds leases t none body.taskId (fun v => v.touched t = true ∧ v.Activated) s := by
        refine ⟨h.1, h.2.1.1, ?_⟩
        unfold Activated
        rw [((h.2.2 (some wid) rfl).live wid rfl).1]
        trivial
      refine Safe.seq (quiet_minds (recordEvent_quiet _ _ _) kept_activated hact)
        (fun _ s hact => ?_) fun _ _ h => h.1
      refine Safe.seq (Q := fun _ => Owns t none) ?_ (fun _ s h => ?_) fun _ _ h => h
      · unfold retireReported
        split
        · exact hact.1
        · next terminal hterminal => exact retirePinged_owns (mapTerminal_ends hterminal) hact
      · exact quiet_owns (publishEntry_quiet _ _) h

/-! ### Actuations -/

theorem actuateNudge_owns (tid : TaskId) (h : WorkerHandle) (payload : JsonObj)
    (howns : Owns t none s) :
    Safe (coherence settings leases) t (actuateNudge tid h payload) (fun _ => Owns t none) s := by
  refine Safe.seq (Q := fun _ => Owns t none) (Safe.attempt (quiet_owns
    (p := call (.paste h _)) (quiet_call trivial) howns)) (fun r s h => ?_) fun _ _ h => h
  cases r with
  | error exc => exact h
  | ok =>
    refine Safe.seq (lookup_minds tid h) (fun row s h => ?_) fun _ _ h => h
    cases row with
    | none => exact h.1
    | some task =>
      dsimp only
      split
      · have h : Minds leases t none tid (fun _ => True) s := ⟨h.1, trivial⟩
        refine Safe.seq (act_minds (a := .store (.setTaskState tid "RUNNING" (some [.stuck]))) rfl
          trivial (kept_const True).mine (R := fun _ _ => True) (fun s _ _ => ?_) h)
          (fun _ _ h => h.1) fun _ _ h => h.1
        exact ⟨trivial, fun env r s' _ hx => ⟨(switch_step (by decide) (by decide) hx).step, trivial⟩⟩
      · exact h.1

theorem switchWorker_owns (tid : TaskId) (h : WorkerHandle) (pause : Bool) (howns : Owns t none s) :
    Safe (coherence settings leases) t (switchWorker tid h pause) (fun _ => Owns t none) s := by
  refine Safe.seq (quiet_owns (quiet_call (by cases pause <;> trivial)) howns) (fun _ s h => ?_)
    fun _ _ h => h
  have h : Minds leases t none tid (fun _ => True) s := ⟨h, trivial⟩
  refine (act_minds (a := .store (.setTaskState tid (if pause then "PAUSED" else "RUNNING")
    (some [if pause then .running else .paused]))) ?_ trivial
    (kept_const True).mine (R := fun _ _ => True) (fun s _ _ => ?_) h).mono fun _ _ h => h.1
  · cases pause <;> rfl
  · refine ⟨trivial, fun env r s' _ hx => ⟨(switch_step ?_ ?_ hx).step, trivial⟩⟩
    · cases pause <;> decide
    · cases pause <;> decide

theorem actuateSwitch_owns (tid : TaskId) (h : WorkerHandle) (rt : RuntimeAdapter) (pause : Bool)
    (howns : Owns t none s) :
    Safe (coherence settings leases) t (actuateSwitch tid h rt pause) (fun _ => Owns t none) s := by
  unfold actuateSwitch
  dsimp only
  refine ite_safe (fun _ => howns) fun _ => ?_
  refine Safe.seq (Q := fun _ => Owns t none) (Safe.attempt (switchWorker_owns tid h pause howns))
    (fun r s h => ?_) fun _ _ h => h
  split <;> exact h

/-- A stop that succeeds leaves the task past. -/
theorem actuateStop_minds {h : WorkerHandle} (hproc : wid = some h.proc)
    (hwid : h.proc.task = tid) (hminds : Minds leases t none tid (Aims t wid) s) :
    Safe (coherence settings leases) t (actuateStop tid wid h)
      (fun r => Minds leases t none tid (Left t (r = .ok (.ok ())))) s := by
  have hF : Kept leases t fun v => v.Aims t wid := kept_aims
  refine Safe.seq (Q := fun _ => Minds leases t none tid (Ready t wid)) (Safe.attempt
    ((act_minds (a := .stop h (.actuation tid)) trivial trivial hF.mine
      (R := fun _ => Ready t wid) (fun s hinv haims => ?_) hminds).mono fun _ _ h => h))
    (fun r s hr => ?_) fun _ _ h => ⟨h.1, h.2.1, fun hr => (by cases hr)⟩
  · refine ⟨trivial, fun env r s' _ hx => ?_⟩
    obtain ⟨ht, htarget⟩ := hF.calm _ _ (hinv tid) (stop_calm hx tid) haims
    refine ⟨fun tid => .calm (stop_calm hx tid), ht, htarget, Or.inr ⟨_, hproc, ?_⟩⟩
    exact stop_stoppedAt rfl (by rw [← hwid]) hx
  cases r with
  | error exc => exact ⟨hr.1, hr.2.1, fun h => (by cases h)⟩
  | ok =>
    have hready : Minds leases t none tid
        (fun v => v.Aims t wid ∧ (false = false → v.Ready t wid)) s :=
      ⟨hr.1, ⟨hr.2.1, hr.2.2.1⟩, fun _ => hr.2⟩
    refine Safe.seq (retire_minds (fun w hw => ?_) (Or.inr (by decide)) hready) (fun state s hret => ?_)
      fun _ _ h => ⟨h.1, left_mono (fun hr => by cases hr) h.2⟩
    · cases hproc.symm.trans hw
      exact hwid
    refine ite_safe (fun hstate => ?_) fun _ => ?_
    · exact ⟨hret.1, left_mono (fun _ => ⟨by decide, _, congrArg _ hstate⟩) hret.2⟩
    refine Safe.seq (getTask_minds (kept_left False) (R := fun row =>
        Left t (row.any fun task => task.state.isTerminal)) (fun v _ _ ht => ?_)
      ⟨hret.1, hret.2.1, fun h => h.elim⟩) (fun row s hrow => ?_)
      fun _ _ h => ⟨h.1, h.2.1, fun hr => (by cases hr)⟩
    · refine ⟨ht, fun hterminal row hrow => ?_⟩
      rw [hrow] at hterminal
      exact isActive_of_isTerminal hterminal
    refine Safe.seq (quiet_minds (quiet_of_silent (getWorker?_silent wid)) (kept_left _) hrow)
      (fun worker s hleft => ?_) fun _ _ h => ⟨h.1, h.2.1, fun hr => (by cases hr)⟩
    refine ite_safe (fun hdone => ?_) fun _ => ?_
    · rw [Bool.and_eq_true] at hdone
      exact ⟨hleft.1, left_mono (fun _ => hdone.1) hleft.2⟩
    · exact ⟨hleft.1, hleft.2.1, fun hr => (by cases hr)⟩

/-- What an actuation leaves: after a stop that succeeds the task is past. -/
theorem actuate_minds (tid : TaskId) (action : String) (payload : JsonObj) (h : Owns t none s) :
    Safe (coherence settings leases) t (actuate tid action payload)
      (fun r s => Owns t none s ∧ (action = "stop" → r = .ok (.ok ()) →
        Minds leases t none tid (fun v => v.touched t = true ∧ v.Past) s)) s := by
  have h : Minds leases t none tid (fun _ => True) s := ⟨h, trivial⟩
  have hfail {r : Except PyErr Actuated} {s : Sys} (hr : r ≠ .ok (.ok ())) (h : Owns t none s) :
      Owns t none s ∧ (action = "stop" → r = .ok (.ok ()) →
        Minds leases t none tid (fun v => v.touched t = true ∧ v.Past) s) :=
    ⟨h, fun _ h => absurd h hr⟩
  refine Safe.seq (runningHandle_minds (kept_const True) h) (fun entry s h => ?_)
    fun _ _ h => hfail (fun hr => by cases hr) h.1
  cases entry with
  | none => exact hfail (fun hr => by cases hr) h.1
  | some entry =>
    obtain ⟨wid, handle⟩ := entry
    obtain ⟨howns, -, hfound⟩ := h
    obtain ⟨haims, hproc, htask⟩ := hfound (wid, handle) rfl
    have h : Minds leases t none tid (Aims t wid) s := ⟨howns, haims⟩
    refine Safe.seq (quiet_minds (Prog.all_ofExcept _) kept_aims h) (fun rt s h => ?_)
      fun _ _ h => hfail (fun hr => by cases hr) h.1
    have hother {p : Program Actuated} (hne : action ≠ "stop")
        (hp : Safe (coherence settings leases) t p (fun _ => Owns t none) s) :
        Safe (coherence settings leases) t p
          (fun r s => Owns t none s ∧ (action = "stop" → r = .ok (.ok ()) →
            Minds leases t none tid (fun v => v.touched t = true ∧ v.Past) s)) s :=
      hp.mono fun _ _ h => ⟨h, fun heq => absurd heq hne⟩
    refine ite_safe (fun hnudge => ?_) fun _ => ite_safe (fun hstop => ?_) fun hstop =>
      ite_safe (fun _ => ?_) fun _ => ite_safe (fun _ => ?_) fun _ => ?_
    · exact hother (by rw [hnudge]; decide) (actuateNudge_owns tid handle payload h.1)
    · exact (actuateStop_minds hproc (htask _ hproc) h).mono fun r s h =>
        ⟨h.1, fun _ hr => ⟨h.1, h.2.1, h.2.2 hr⟩⟩
    · exact hother hstop (actuateSwitch_owns tid handle rt true h.1)
    · exact hother hstop (actuateSwitch_owns tid handle rt false h.1)
    · exact hfail (fun hr => by cases hr) h.1

theorem actuateTask_owns (tid : TaskId) (action : String) (payload : Json) (h : Owns t none s) :
    Safe (coherence settings leases) t (actuateTask tid action payload)
      (fun _ => Owns t none) s := by
  refine Safe.seq (lookup_minds tid h) (fun row s h => ?_) fun _ _ h => h
  cases row with
  | none => exact httpException_owns _ _ h.1
  | some row =>
    refine ite_safe (fun _ => httpException_owns _ _ h.1) fun _ => ?_
    cases payload with
    | obj payload =>
      refine Safe.seq (quiet_owns (quiet_call trivial) h.1) (fun length s h => ?_) fun _ _ h => h
      refine ite_safe (fun _ => httpException_owns _ _ h) fun _ =>
        ite_safe (fun _ => httpException_owns _ _ h) fun _ => ?_
      refine Safe.seq (actuate_minds tid action payload h) (fun r s h => ?_) fun _ _ h => h.1
      cases r with
      | error reason => exact httpException_owns _ _ h.1
      | ok =>
        exact Safe.seq (quiet_owns (recordEvent_quiet _ _ _) h.1)
          (fun _ s h => quiet_owns (publishEntry_quiet tid none) h) fun _ _ h => h
    | _ => exact httpException_owns _ _ h.1

/-! ### Deletions -/

theorem eraseTask_owns (tid : TaskId) (task : Task)
    (h : Minds leases t none tid (fun v => v.touched t = true ∧ v.Past) s) :
    Safe (coherence settings leases) t (eraseTask tid task) (fun _ => Owns t none) s := by
  refine Safe.seq (quiet_minds (quiet_store trivial) kept_past h) (fun row s h => ?_)
    fun _ _ h => h.1
  refine Safe.seq (quiet_minds (quiet_store trivial) kept_past h) (fun events s h => ?_)
    fun _ _ h => h.1
  refine Safe.seq (act_minds (a := .store (.deleteTask tid)) trivial trivial kept_past.mine
    (R := fun _ _ => True) (fun s hinv hpast => ?_) h) (fun _ s h => ?_) fun _ _ h => h.1
  · exact ⟨trivial, fun env r s' _ hx => ⟨delete_step hinv hpast.2 hx, trivial⟩⟩
  · exact quiet_owns (quiet_call trivial) h.1

theorem stopForDelete_minds (tid : TaskId) (h : Owns t none s) :
    Safe (coherence settings leases) t (stopForDelete tid) (fun
      | .ok _ => Minds leases t none tid fun v => v.touched t = true ∧ v.Past
      | .error _ => Owns t none) s := by
  refine Safe.seq (Q := fun r s => Owns t none s ∧ (r = .ok (.ok (.ok ())) →
    Minds leases t none tid (fun v => v.touched t = true ∧ v.Past) s))
    (Safe.attempt ((actuate_minds tid "stop" [] h).mono fun r s h =>
      ⟨h.1, fun hr => h.2 rfl (Except.ok.inj hr)⟩)) (fun r s h => ?_) fun _ _ h => h.1
  have hfail (detail : String) : Safe (coherence settings leases) t
      (httpException 409 detail : Program Unit) (fun
        | .ok _ => Minds leases t none tid fun v => v.touched t = true ∧ v.Past
        | .error _ => Owns t none) s := h.1
  rcases r with exc | reason | ⟨⟩
  · exact hfail _
  · exact hfail _
  · exact h.2 rfl

theorem deleteTask_owns (tid : TaskId) (h : Owns t none s) :
    Safe (coherence settings leases) t (deleteTask tid) (fun _ => Owns t none) s := by
  have hstop (task : Task) {s : Sys} (h : Owns t none s) :
      Safe (coherence settings leases) t (stopForDelete tid >>= fun _ => eraseTask tid task)
        (fun _ => Owns t none) s :=
    Safe.seq (stopForDelete_minds tid h) (fun _ s h => eraseTask_owns tid task h) fun _ _ h => h
  refine Safe.seq (lookup_minds tid h) (fun row s h => ?_) fun _ _ h => h
  cases row with
  | none => exact httpException_owns _ _ h.1
  | some task =>
    refine ite_safe (fun _ => hstop task h.1) fun hactive => ?_
    have hpast : Minds leases t none tid (fun v => v.touched t = true ∧ v.Past) s :=
      ⟨h.1, h.2.1, h.2.2 task rfl (Bool.not_eq_true _ ▸ hactive)⟩
    refine Safe.seq (quiet_minds (quiet_store trivial) kept_past hpast) (fun wid s h => ?_)
      fun _ _ h => h.1
    cases wid with
    | none => exact eraseTask_owns tid task h
    | some _ => exact hstop task h.1

/-! ### The patrol -/

/-- What a patrol knows of the entries that it has still to observe. -/
def Patrols (leases : Prop) (t : ThreadId) (entries : List (TaskId × HandleEntry)) (s : Sys) : Prop :=
  ∀ x ∈ entries, Found t x.2 (s.taskView leases x.1)

theorem lasting_found (entry : HandleEntry) :
    Lasting leases t fun v => v.Target entry.1 ∧ entry.1 = some entry.2.proc ∧
      ∀ w, entry.1 = some w → w.task = v.id := by
  rintro t' v v' hinv h ht ⟨htarget, hproc, htask⟩
  refine ⟨lasting_target entry.1 t' v v' hinv h ht htarget, hproc, fun w hw => ?_⟩
  rw [htask w hw]
  cases h with
  | calm h => exact h.id.symm
  | _ => rfl

theorem kept_found (entry : HandleEntry) : Kept leases t (Found t entry) := by
  have hkept : Kept leases t fun v => v.touched t = true ∧ v.Target entry.1 ∧
      entry.1 = some entry.2.proc ∧ ∀ w, entry.1 = some w → w.task = v.id :=
    (lasting_found entry).kept fun _ _ h => h
  exact ⟨fun t' v v' hne hinv h ⟨⟨ht, htarget⟩, hfound⟩ =>
      have h' := hkept.mine t' v v' hne hinv h ⟨ht, htarget, hfound⟩
      ⟨⟨h'.1, h'.2.1⟩, h'.2.2⟩,
    fun v v' hinv h ⟨⟨ht, htarget⟩, hfound⟩ =>
      have h' := hkept.calm v v' hinv h ⟨ht, htarget, hfound⟩
      ⟨⟨h'.1, h'.2.1⟩, h'.2.2⟩⟩

theorem patrols_stable (entries : List (TaskId × HandleEntry)) :
    Stable (coherence settings leases) t (Patrols leases t entries) :=
  fun s s' h hrely x hx => stable_mine (kept_found x.2).mine s s' (h x hx) hrely

/-- A patrol keeps what it knows, whatever it does itself. -/
theorem patrols_guar (entries : List (TaskId × HandleEntry)) (s s' : Sys)
    (hinv : (coherence settings leases).inv s) (h : Patrols leases t entries s)
    (hguar : (coherence settings leases).guar t s s') : Patrols leases t entries s' := by
  intro x hx
  obtain ⟨⟨ht, htarget⟩, hfound⟩ := h x hx
  have hstep := hguar x.1
  obtain ⟨htarget', hfound'⟩ :=
    lasting_found x.2 t _ _ (hinv x.1) hstep ht ⟨htarget, hfound⟩
  exact ⟨⟨touched_own hstep ht, htarget'⟩, hfound'⟩

theorem handlesSnapshot_patrols (h : Owns t none s) :
    Safe (coherence settings leases) t (call .handlesSnapshot) (fun
      | .ok entries => fun s => Owns t none s ∧ Patrols leases t entries s
      | .error _ => Owns t none) s := by
  refine Triple.safe (triple_of_exec fun s hinv h => ?_) owns_stable h
  refine ⟨trivial, fun env r s' _ hx => ?_⟩
  have hcalm tid : Calm t (s.taskView leases tid) (s'.taskView leases tid) :=
    quiet_calm (a := .handlesSnapshot) trivial hx tid
  have howns' := owns_exec (a := .handlesSnapshot) trivial trivial hx h
  obtain rfl : Except.ok s.world.handles.rows = r := congrArg Prod.fst hx
  refine ⟨fun tid => .calm (hcalm tid), howns', fun x hmem => ?_⟩
  have hget : Dict.get? s'.world.handles x.1 = some x.2 := by
    obtain rfl : _ = s' := congrArg Prod.snd hx
    exact congrArg (Option.map Prod.snd) (Table.get?_eq_some_iff.mpr ⟨hmem, rfl⟩)
  obtain ⟨htarget, hproc⟩ := target_of_handle (inv_calm (hinv x.1) (hcalm x.1)) hget
  refine ⟨⟨?_, htarget⟩, hproc⟩
  obtain rfl : _ = s' := congrArg Prod.snd hx
  have hname : x.1 ∈ s.world.handles.rows.map Prod.fst := List.mem_map_of_mem hmem
  simp only [Sys.taskView, Sys.exec, History.record, World.exec, setAt_same, hname, decide_true,
    Bool.or_true]

theorem recordTerminal_ends {record : JsonObj} {terminal : String}
    (h : recordTerminal record = some terminal) : terminal = "STUCK" ∨ terminal ∈ endStates :=
  mapTerminal_ends h

theorem observeEntry_owns {entry : HandleEntry}
    (h : Minds leases t none tid (Found t entry) s) :
    Safe (coherence settings leases) t (observeEntry settings tid entry.1 entry.2)
      (fun _ => Owns t none) s := by
  refine Safe.seq (quiet_minds (observeAndRecord_quiet settings entry.1 entry.2 false)
    (kept_found entry) h) (fun record s h => ?_) fun _ _ h => h.1
  split
  · exact h.1
  · next terminal hterminal =>
    have haims : Minds leases t none tid (fun v => v.Aims t entry.1 ∧ (true = false →
        v.Ready t entry.1)) s := ⟨h.1, h.2.1, fun h => by cases h⟩
    refine Safe.seq (retire_minds h.2.2.2 (recordTerminal_ends hterminal) haims)
      (fun committed s h => ?_) fun _ _ h => h.1
    cases committed with
    | none => exact h.1
    | some state =>
      exact Safe.seq (quiet_owns (recordEvent_quiet _ _ _) h.1) (fun _ s h => h) fun _ _ h => h

theorem observeRound_owns {entry : HandleEntry}
    (h : Minds leases t none tid (Found t entry) s) :
    Safe (coherence settings leases) t (observeRound settings tid entry)
      (fun _ => Owns t none) s := by
  refine Safe.seq (Q := fun _ => Owns t none) (Safe.attempt (observeEntry_owns h))
    (fun r s h => ?_) fun _ _ h => h
  cases r with
  | error exc => exact h
  | ok r =>
    refine Safe.seq (Q := fun _ => Owns t none) (Safe.ignoring
      (quiet_owns (publishEntry_quiet tid _) h) fun _ h => h) (fun _ s h => h) fun _ _ h => h

theorem observeRounds_owns (entries : List (TaskId × HandleEntry)) (howns : Owns t none s)
    (h : Patrols leases t entries s) :
    Safe (coherence settings leases) t (observeRounds settings entries) (fun _ => Owns t none) s := by
  induction entries generalizing s with
  | nil => exact howns
  | cons x entries ih =>
    obtain ⟨tid, entry⟩ := x
    have hround : Minds leases t none tid (Found t entry) s := ⟨howns, h _ List.mem_cons_self⟩
    refine Safe.seq ((observeRound_owns hround).persist (patrols_stable entries)
      (patrols_guar entries) fun x hx => h x (List.mem_cons_of_mem _ hx))
      (fun n s hs => ?_) fun _ _ h => h.1
    exact Safe.seq (ih hs.1 hs.2) (fun m s h => h) fun _ _ h => h

theorem observeRunning_owns (h : Owns t none s) :
    Safe (coherence settings leases) t (observeRunning settings) (fun _ => Owns t none) s :=
  Safe.seq (handlesSnapshot_patrols h) (fun entries _ h => observeRounds_owns entries h.1 h.2)
    fun _ _ h => h

/-! ### Submissions -/

theorem submit_owns {tasks : List Task} (hq : ∀ task ∈ tasks, task.state = .queued)
    (h : Owns t none s) :
    Safe (coherence settings leases) t (store (.createTasks tasks)) (fun _ => Owns t none) s := by
  have h : Minds leases t none "" (fun _ => True) s := ⟨h, trivial⟩
  refine (act_minds (a := .store (.createTasks tasks)) trivial trivial (kept_const True).mine
    (R := fun _ _ => True) (fun s _ _ => ?_) h).mono fun _ _ h => h.1
  exact ⟨trivial, fun env r s' hadm hx => ⟨create_step hq hadm hx, trivial⟩⟩

theorem createTasks_owns (pid : String) (tasks : List TaskCreate) (h : Owns t none s) :
    Safe (coherence settings leases) t (createTasks settings pid tasks) (fun _ => Owns t none) s := by
  refine Safe.seq (silent_owns (silent_checkId _ _) h) (fun _ s h => ?_) fun _ _ h => h
  refine ite_safe (fun _ => httpException_owns _ _ h) fun _ =>
    ite_safe (fun _ => httpException_owns _ _ h) fun _ => ?_
  refine Safe.seq (quiet_owns (quiet_store trivial) h) (fun project s h => ?_) fun _ _ h => h
  cases project with
  | none => exact httpException_owns _ _ h
  | some _ =>
    refine ite_safe (fun _ => httpException_owns _ _ h) fun _ => ?_
    refine Safe.seq (quiet_owns (quiet_store trivial) h) (fun existing s h => ?_) fun _ _ h => h
    refine ite_safe (fun _ => httpException_owns _ _ h) fun _ => ?_
    have h : Minds leases t none "" (fun _ => True) s := ⟨h, trivial⟩
    refine Safe.seq_returns (minds_stable (kept_const True).mine) (quiet_neutral (kept_const True))
      (quiet_of_silent (validateAll_silent settings pid tasks))
      (Gate.GateLemmas.validateAll_returns pid tasks) h (fun prepared s hq h => ?_) fun _ _ h => h.1
    refine Safe.seq (Q := fun _ => Owns t none) (Safe.attempt (submit_owns hq h.1))
      (fun created s h => ?_) fun _ _ h => h
    cases created with
    | error exc => exact ite_safe (fun _ => httpException_owns _ _ h) fun _ => h
    | ok _ =>
      exact Safe.seq (quiet_owns (publishCreated_quiet _) h) (fun _ s h => h) fun _ _ h => h

/-! ### The other operations -/

theorem sweep_owns (h : Owns t none s) :
    Safe (coherence settings leases) t sweep (fun _ => Owns t none) s := by
  have h : Minds leases t none "" (fun _ => True) s := ⟨h, trivial⟩
  refine Safe.seq (act_minds (a := .store .markStaleDispatchingLost) trivial trivial
    (kept_const True).mine (R := fun _ _ => True) (fun s _ _ => ?_) h)
    (fun lost s h => quiet_owns (publishTasks_quiet lost) h.1) fun _ _ h => h.1
  exact ⟨trivial, fun env r s' _ hx => ⟨sweep_step hx, trivial⟩⟩

theorem recover_owns (tid : TaskId) (h : Owns t none s) :
    Safe (coherence settings leases) t (store (.setTaskState tid "QUEUED" (some [.lost])))
      (fun _ => Owns t none) s := by
  have h : Minds leases t none tid (fun _ => True) s := ⟨h, trivial⟩
  refine (act_minds (a := .store (.setTaskState tid "QUEUED" (some [.lost]))) rfl trivial
    (kept_const True).mine (R := fun _ _ => True) (fun s _ _ => ?_) h).mono fun _ _ h => h.1
  exact ⟨trivial, fun env r s' _ hx => ⟨(recover_step hx).step, trivial⟩⟩

theorem tick_owns (h : Owns t none s) :
    Safe (coherence settings leases) t (tick settings) (fun _ => Owns t none) s := by
  have howes : Owes leases t [] s :=
    ⟨.nil h.claimer, fun tid hr => (by cases h.retirer tid hr)⟩
  refine ((ObligationLemmas.obligations settings leases t).tick_safe howes).mono fun r s h => ?_
  have hdone {hs : List Holding} (hres : ∀ x ∈ hs, x.phase.IsResolved) (h : Owes leases t hs s) :
      Owns t none s :=
    ⟨h.held.clean hres, fun tid hr => absurd hr (h.retirer tid)⟩
  cases r with
  | ok n =>
    obtain ⟨hs, hres, h⟩ := h
    exact hdone hres.1 h
  | error exc => exact hdone (fun _ hx => absurd hx List.not_mem_nil) h

theorem discard_owns {p : Program α}
    (h : Safe (coherence settings leases) t p (fun _ => Owns t none) s) :
    Safe (coherence settings leases) t (discard p) (fun _ => Owns t none) s :=
  Safe.seq h (fun _ _ h => h) fun _ _ h => h

theorem program_owns {op : Op} (hop : op ≠ .reconcileRunning) (h : Owns t none s) :
    Safe (coherence settings leases) t (op.program settings) (fun _ => Owns t none) s := by
  cases op with
  | createProject p => exact discard_owns (quiet_owns (quiet_store trivial) h)
  | createHost host => exact quiet_owns (quiet_store trivial) h
  | createTasks pid tasks => exact discard_owns (createTasks_owns pid tasks h)
  | deleteTask tid => exact deleteTask_owns tid h
  | workerPing authorization body => exact workerPing_owns authorization body h
  | actuate tid action payload => exact actuateTask_owns tid action payload h
  | tick => exact discard_owns (tick_owns h)
  | sweep => exact sweep_owns h
  | observeRunning => exact discard_owns (observeRunning_owns h)
  | recover tid => exact discard_owns (recover_owns tid h)
  | reconcileRunning => exact absurd rfl hop

/-! ## The end of a thread -/

theorem taskView_finish (t : ThreadId) (s : Sys) (tid : TaskId) :
    (Sys.finish t s).taskView leases tid =
      { s.taskView leases tid with touched := setAt (s.taskView leases tid).touched t false } := by
  have htouched : (fun t' => (Sys.finish t s).hist.touched t' tid) =
      setAt (fun t' => s.hist.touched t' tid) t false := by
    funext t'
    simp only [Sys.finish, History.finish, setAt_apply]
    split <;> rfl
  exact congrArg (fun f => { s.taskView leases tid with touched := f }) htouched

theorem finishes_of_owns (h : Owns t none s) : (coherence settings leases).Finishes t s := by
  intro hinv
  have hleave (tid : TaskId) : Leave t (s.taskView leases tid) ((Sys.finish t s).taskView leases tid) :=
    ⟨fun hr => (by cases h.retirer tid hr), taskView_finish t s tid⟩
  refine ⟨fun tid => inv_leave (hinv tid) (hleave tid), fun tid => ?_, fun t' hne tid =>
    .single ⟨hinv tid, t, hne.symm, Or.inr (hleave tid)⟩⟩
  rw [show (controlPlane settings).finish t s = Sys.finish t s from rfl, taskView_finish]
  exact ⟨h.claimer tid, fun hr => (by cases h.retirer tid hr), setAt_same _ _ _⟩

theorem owns_of_clean (h : (coherence settings leases).clean t s) : Owns t none s :=
  ⟨fun tid => (h tid).claimer, fun tid hr => absurd hr (h tid).retirer⟩

end CoherenceLemmas

open CoherenceLemmas in
/-- Every operation but the reconciliation at startup keeps the contract. -/
theorem coherence_sound (settings : Settings) (leases : Prop) :
    (coherence settings leases).Sound (· ≠ .reconcileRunning) False where
  safe _ hop _ _ _ hclean := (program_owns hop (owns_of_clean hclean)).mono fun _ _ => finishes_of_owns
  restart h := h.elim

end Flotilla
