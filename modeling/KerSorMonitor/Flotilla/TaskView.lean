import KerSorMonitor.Lib.Protocol
import KerSorMonitor.Flotilla.Quiet

/-!
# One task and its workers

What the control plane keeps about one task: its row, its worker rows, its entry in the registry,
its external workers, its leases, and how far its most recent claim has come. `Step` lists what
a thread may do to it, and `Inv` says what every such step keeps: at any time at most one worker
belongs to the task, and everything else about the task belongs to that worker.

The leases are followed only if `leases` holds: they need stronger guards.

Results: `inv_step`, every step keeps the invariant; `protocol`.
-/

namespace Flotilla

open Keyed Threads

/-! ## Views -/

namespace TaskState

/-- `DONE`, `FAILED` and `CANCELLED`. -/
def isFinal : TaskState → Bool
  | done | failed | cancelled => true
  | _ => false

end TaskState

namespace Stage

/-- The worker whose process the current claim may have started and not given up. -/
def running : Stage → Option WorkerId
  | claimed _ wid => wid
  | registered _ wid | live wid => some wid
  | _ => none

/-- The worker whose handle may be registered. -/
def handled : Stage → Option WorkerId
  | registered _ wid | live wid | ending _ wid => some wid
  | _ => none

end Stage

/-- The task asks for a GPU. -/
def Task.AsksGpu (task : Task) : Prop := task.resourceReq.get? "kind" = some (.str "gpu")

/-- One task and its workers, which are numbered by their serials. -/
@[ext] structure TaskView where
  id : TaskId
  stage : Stage
  task : Option Task
  worker : Nat → Option Worker
  handle : Option HandleEntry
  alive : Nat → Prop
  stopFailed : Nat → Prop
  leased : String → Nat → Prop
  serial : Nat
  retiring : Prop
  retirer : Option ThreadId
  blind : Bool
  touched : ThreadId → Bool

namespace TaskView

/-- The task has no worker and cannot get one without another claim. -/
def Past (v : TaskView) : Prop := ∀ row, v.task = some row → row.state.isActive = false

/-- Every external worker of the task was stopped, or its stop failed. -/
def Stopped (v : TaskView) : Prop := ∀ n, v.alive n → v.stopFailed n

/-- No worker of the task holds a lease. -/
def Unleased (v : TaskView) : Prop := ∀ U n, ¬ v.leased U n

/-- What holds of a task and its workers between any two steps. -/
structure Inv (leases : Prop) (v : TaskView) : Prop where
  fresh : ∀ n, v.serial ≤ n → v.worker n = none ∧ ¬ v.alive n
  drawn : ∀ w, v.stage.worker = some w → w.task = v.id ∧ w.serial < v.serial
  unused : ∀ t w, v.stage.claimer = some t → v.stage.worker = some w → v.worker w.serial = none
  rows : ∀ n w, v.worker n = some w → w.taskId = v.id
  active : ∀ n w, v.worker n = some w → w.isActive = true → v.stage = .live ⟨v.id, n⟩
  ended : ∀ n w, v.worker n = some w → w.isActive = false →
    ∃ row, v.task = some row ∧ row.state.isFinal = true
  live : ∀ w, v.stage = .live w → ∃ row wr, v.task = some row ∧ row.state.isLive = true ∧
    v.worker w.serial = some wr ∧ wr.isActive = true ∧ v.handle.isSome = true ∧
    (leases → ∀ U, v.leased U w.serial ↔ wr.resourceLockId = some U ∧ row.AsksGpu)
  lively : ∀ row, v.task = some row → row.state.isLive = true → ∃ w, v.stage = .live w
  registered : ∀ t w row, v.stage = .registered t w → v.task = some row →
    row.state = .dispatching → v.handle.isSome = true
  handle : ∀ e, v.handle = some e → v.stage.handled = some e.2.proc ∧ e.1 = some e.2.proc
  alive : ∀ n, v.alive n → v.stopFailed n ∨ v.stage.running = some ⟨v.id, n⟩
  leased : ∀ U n, v.leased U n → U ≠ "" ∧ v.stage.worker = some ⟨v.id, n⟩
  retiring : v.retiring ↔ v.retirer.isSome = true
  ending : ∀ t w, v.stage = .ending t w → v.retirer = some t ∧ v.touched t = true

/-! ## Steps -/

/-- A step that moves no row, no handle and no lease: it may look something up, stop workers,
or draw the id of another task's worker. -/
structure Calm (t : ThreadId) (v v' : TaskView) : Prop where
  id : v'.id = v.id
  stage : v'.stage = v.stage
  task : v'.task = v.task
  worker : ∀ n, v'.worker n = v.worker n ∨
    ∃ w w', v.worker n = some w ∧ v'.worker n = some w' ∧ w.SameBut w'
  handle : v'.handle = v.handle
  alive : ∀ n, v'.alive n → v.alive n
  stopFailed : ∀ n, v.stopFailed n → v'.stopFailed n
  leased : v'.leased = v.leased
  serial : v.serial ≤ v'.serial
  retiring : v'.retiring = v.retiring
  retirer : v'.retirer = v.retirer
  blind : v'.blind = v.blind ∨ v.retirer = some t ∧ v'.blind = true
  touched : ∀ t', t' ≠ t → v'.touched t' = v.touched t'
  touched_self : v.touched t = true → v'.touched t = true

/-- A row moves along the table, from a state without a worker to a state from which none is
activated. -/
inductive Moved : Option Task → Option Task → Prop
  | same (o : Option Task) : Moved o o
  | move {row row' : Task} : RowStep row row' → row.state.isLive = false →
      row'.state.isActive = false → Moved (some row) (some row')

/-- What thread `t` may do to a task. -/
inductive Step (leases : Prop) (t : ThreadId) : TaskView → TaskView → Prop
  | calm {v v' : TaskView} : Calm t v v' → Step leases t v v'
  | claim {v : TaskView} {row row' : Task} : v.stage = .idle → (∀ t', v.touched t' = false) →
      v.task = some row → row.state = .queued → row'.state = .dispatching →
      Step leases t v { v with task := some row', stage := .claimed t none }
  | draw {v : TaskView} : v.stage = .claimed t none →
      Step leases t v { v with
        stage := .claimed t (some ⟨v.id, v.serial⟩)
        serial := v.serial + 1 }
  | lease {v : TaskView} {w : WorkerId} (U : String) : v.stage = .claimed t (some w) →
      U ≠ "" → Step leases t v { v with
        leased := fun U' n => v.leased U' n ∨ U' = U ∧ n = w.serial }
  | start {v : TaskView} {w : WorkerId} : v.stage = .claimed t (some w) →
      Step leases t v { v with alive := fun n => n = w.serial ∨ v.alive n }
  | register {v : TaskView} {w : WorkerId} {h : WorkerHandle} : v.stage = .claimed t (some w) →
      h.proc = w → Step leases t v { v with
        handle := some (some w, h)
        stage := .registered t w }
  | activate {v : TaskView} {w : WorkerId} {row row' : Task} {wr : Worker} :
      v.stage = .registered t w → v.task = some row → row.state = .dispatching →
      row'.state = .running → row'.resourceReq = row.resourceReq → wr.taskId = v.id →
      wr.isActive = true →
      (leases → v.blind = false ∧
        ∀ U, v.leased U w.serial ↔ wr.resourceLockId = some U ∧ row.AsksGpu) →
      Step leases t v { v with
        task := some row'
        worker := setAt v.worker w.serial (some wr)
        stage := .live w }
  | doom {v : TaskView} {w : WorkerId} : v.stage = .registered t w →
      (v.alive w.serial → v.stopFailed w.serial) →
      Step leases t v { v with handle := none, stage := .doomed t w }
  | unlease {v : TaskView} (U : String) :
      (v.stage.claimer = some t ∨ ∃ w, v.stage = .ending t w) →
      Step leases t v { v with leased := fun U' n => v.leased U' n ∧ U' ≠ U }
  | resolve {v : TaskView} {o : Option Task} : v.stage.claimer = some t → v.handle = none →
      v.Stopped → v.Unleased → Moved v.task o →
      Step leases t v { v with task := o, stage := .idle }
  | move {v : TaskView} {o : Option Task} : Moved v.task o →
      Step leases t v { v with task := o }
  | switch {v : TaskView} {row row' : Task} : v.task = some row → row.state.isLive = true →
      row'.state.isLive = true → row'.resourceReq = row.resourceReq →
      Step leases t v { v with task := some row' }
  | beginRetire {v : TaskView} : v.retirer = none →
      Step leases t v { v with retiring := True, retirer := some t }
  | endRetire {v : TaskView} : v.retirer = some t → (∀ w, v.stage ≠ .ending t w) →
      Step leases t v { v with retiring := False, retirer := none, blind := false }
  | finish {v : TaskView} {w : WorkerId} {row row' : Task} {wr wr' : Worker} :
      v.stage = .live w → v.retirer = some t → v.touched t = true → v.task = some row →
      row'.state.isFinal = true → v.worker w.serial = some wr → wr'.taskId = v.id →
      wr'.isActive = false → (v.alive w.serial → v.stopFailed w.serial) →
      Step leases t v { v with
        task := some row'
        worker := setAt v.worker w.serial (some wr')
        stage := .ending t w }
  | drop {v : TaskView} : v.Past → (∀ t' w, v.stage ≠ .ending t' w) →
      Step leases t v { v with handle := none }
  | close {v : TaskView} {w : WorkerId} : v.stage = .ending t w → v.Unleased →
      Step leases t v { v with handle := none, stage := .idle }
  | create {v : TaskView} {row : Task} : v.task = none → row.state = .queued →
      (leases → ∀ t', v.touched t' = false) → Step leases t v { v with task := some row }
  | delete {v : TaskView} : v.Past →
      Step leases t v { v with task := none, worker := fun _ => none }

variable {leases : Prop} {t : ThreadId} {v v' : TaskView}

/-! ## The invariant -/

section

variable (hinv : v.Inv leases)
include hinv

theorem Inv.inactive (hst : ∀ w, v.stage ≠ .live w) {n : Nat} {w : Worker}
    (hw : v.worker n = some w) : w.isActive = false := by
  cases hact : w.isActive with
  | false => rfl
  | true => exact absurd (hinv.active n w hw hact) (hst _)

theorem Inv.no_handle (hst : v.stage.handled = none) : v.handle = none := by
  cases he : v.handle with
  | none => rfl
  | some e =>
    have := (hinv.handle e he).1
    rw [hst] at this
    cases this

theorem Inv.unleased (hst : v.stage.worker = none) : v.Unleased := by
  intro U n hl
  have := (hinv.leased U n hl).2
  rw [hst] at this
  cases this

theorem Inv.stopped (hst : v.stage.running = none) : v.Stopped := by
  intro n hn
  rcases hinv.alive n hn with hs | hr
  · exact hs
  · rw [hst] at hr
    cases hr

/-- A task in a live state is at the stage that says so. -/
theorem Inv.not_live (hst : ∀ w, v.stage ≠ .live w) {row : Task} (hrow : v.task = some row) :
    row.state.isLive = false := by
  cases hl : row.state.isLive with
  | false => rfl
  | true =>
    obtain ⟨w, hw⟩ := hinv.lively row hrow hl
    exact absurd hw (hst w)

/-- A task that has ended workers stays in its final state until it is deleted. -/
theorem Inv.no_worker {row : Task} (hrow : v.task = some row) (hfinal : row.state.isFinal = false)
    (hst : ∀ w, v.stage ≠ .live w) (n : Nat) : v.worker n = none := by
  cases hw : v.worker n with
  | none => rfl
  | some w =>
    obtain ⟨row', hrow', hf⟩ := hinv.ended n w hw (hinv.inactive hst hw)
    rw [hrow] at hrow'
    cases hrow'
    rw [hfinal] at hf
    cases hf

end

theorem inv_calm (hinv : v.Inv leases) (h : Calm t v v') : v'.Inv leases := by
  have hworker : ∀ n w', v'.worker n = some w' → ∃ w, v.worker n = some w ∧
      w.taskId = w'.taskId ∧ w.isActive = w'.isActive ∧ w.resourceLockId = w'.resourceLockId := by
    intro n w' hw'
    rcases h.worker n with heq | ⟨w, w'', hw, hw'', hsame⟩
    · exact ⟨w', heq ▸ hw', rfl, rfl, rfl⟩
    · rw [hw'] at hw''
      cases hw''
      rw [hsame]
      exact ⟨w, hw, rfl, rfl, rfl⟩
  have hnone : ∀ n, v.worker n = none → v'.worker n = none := by
    intro n hn
    rcases h.worker n with heq | ⟨w, w'', hw, -, -⟩
    · exact heq.trans hn
    · rw [hn] at hw
      cases hw
  constructor
  case fresh =>
    intro n hn
    obtain ⟨hw, ha⟩ := hinv.fresh n (h.serial.trans hn)
    exact ⟨hnone n hw, fun ha' => ha (h.alive n ha')⟩
  case drawn =>
    intro w hw
    obtain ⟨hid, hlt⟩ := hinv.drawn w (h.stage ▸ hw)
    exact ⟨by rw [h.id, hid], hlt.trans_le h.serial⟩
  case unused =>
    intro t w hc hw
    rw [h.stage] at hc hw
    exact hnone _ (hinv.unused t w hc hw)
  case rows =>
    intro n w' hw'
    obtain ⟨w, hw, htid, -, -⟩ := hworker n w' hw'
    rw [← htid, h.id, hinv.rows n w hw]
  case active =>
    intro n w' hw' hact
    obtain ⟨w, hw, -, ha, -⟩ := hworker n w' hw'
    rw [h.stage, h.id, hinv.active n w hw (ha.trans hact)]
  case ended =>
    intro n w' hw' hact
    obtain ⟨w, hw, -, ha, -⟩ := hworker n w' hw'
    rw [h.task]
    exact hinv.ended n w hw (ha.trans hact)
  case live =>
    intro w hst
    obtain ⟨row, wr, hrow, hl, hw, hact, hhandle, hlease⟩ := hinv.live w (h.stage ▸ hst)
    have hwr : ∃ wr', v'.worker w.serial = some wr' ∧ wr'.isActive = true ∧
        wr'.resourceLockId = wr.resourceLockId := by
      rcases h.worker w.serial with heq | ⟨w₁, w₂, hw₁, hw₂, hsame⟩
      · exact ⟨wr, heq.trans hw, hact, rfl⟩
      · rw [hw] at hw₁
        cases hw₁
        rw [hsame] at hw₂
        exact ⟨_, hw₂, hact, rfl⟩
    obtain ⟨wr', hw', hact', hlock⟩ := hwr
    refine ⟨row, wr', h.task.trans hrow, hl, hw', hact', by rw [h.handle]; exact hhandle, ?_⟩
    intro hleases U
    rw [h.leased, hlock]
    exact hlease hleases U
  case lively =>
    intro row hrow hl
    rw [h.stage]
    exact hinv.lively row (h.task ▸ hrow) hl
  case registered =>
    intro t w row hst hrow hd
    rw [h.handle]
    exact hinv.registered t w row (h.stage ▸ hst) (h.task ▸ hrow) hd
  case handle =>
    intro e he
    rw [h.stage]
    exact hinv.handle e (h.handle ▸ he)
  case alive =>
    intro n hn
    rw [h.stage, h.id]
    exact (hinv.alive n (h.alive n hn)).imp_left (h.stopFailed n)
  case leased =>
    intro U n hl
    rw [h.stage, h.id]
    exact hinv.leased U n (h.leased ▸ hl)
  case retiring =>
    rw [h.retiring, h.retirer]
    exact hinv.retiring
  case ending =>
    intro t' w hst
    obtain ⟨hr, ht⟩ := hinv.ending t' w (h.stage ▸ hst)
    refine ⟨h.retirer.trans hr, ?_⟩
    by_cases hne : t' = t
    · subst hne
      exact h.touched_self ht
    · rw [h.touched t' hne]
      exact ht

/-! ### The steps of a dispatcher -/

theorem inv_claim {row row' : Task} (hinv : v.Inv leases) (hst : v.stage = .idle)
    (hrow : v.task = some row) (hq : row.state = .queued) (hd : row'.state = .dispatching) :
    Inv leases { v with task := some row', stage := .claimed t none } := by
  have hnone : ∀ n, v.worker n = none :=
    hinv.no_worker hrow (by rw [hq]; rfl) (by simp [hst])
  exact { hinv with
    drawn := fun w hw => by cases hw
    unused := fun t w _ hw => by cases hw
    active := fun n w hw => by rw [hnone n] at hw; cases hw
    ended := fun n w hw => by rw [hnone n] at hw; cases hw
    live := fun w hw => by cases hw
    lively := fun row hrow hl => by
      cases hrow
      rw [hd] at hl
      cases hl
    registered := fun t w row hst => by cases hst
    handle := fun e he => by
      rw [hinv.no_handle (by rw [hst]; rfl)] at he
      cases he
    alive := fun n hn => Or.inl (hinv.stopped (by rw [hst]; rfl) n hn)
    leased := fun U n hl => absurd hl (hinv.unleased (by rw [hst]; rfl) U n)
    ending := fun t w hst => by cases hst }

theorem inv_draw (hinv : v.Inv leases) (hst : v.stage = .claimed t none) :
    Inv leases { v with
      stage := .claimed t (some ⟨v.id, v.serial⟩)
      serial := v.serial + 1 } := by
  exact { hinv with
    fresh := fun n hn => hinv.fresh n (Nat.le_of_succ_le hn)
    drawn := fun w hw => by
      cases hw
      exact ⟨rfl, Nat.lt_succ_self _⟩
    unused := fun t w _ hw => by
      cases hw
      exact (hinv.fresh _ (Nat.le_refl _)).1
    active := fun n w hw hact => absurd hact (by
      simp [hinv.inactive (by simp [hst]) hw])
    live := fun w hw => by cases hw
    lively := fun row hrow hl => by
      obtain ⟨w, hw⟩ := hinv.lively row hrow hl
      rw [hst] at hw
      cases hw
    registered := fun t w row hst => by cases hst
    handle := fun e he => by
      rw [hinv.no_handle (by rw [hst]; rfl)] at he
      cases he
    alive := fun n hn => Or.inl (hinv.stopped (by rw [hst]; rfl) n hn)
    leased := fun U n hl => absurd hl (hinv.unleased (by rw [hst]; rfl) U n)
    ending := fun t w hst => by cases hst }

theorem worker_of_drawn (hinv : v.Inv leases) {w : WorkerId} (hw : v.stage.worker = some w) :
    (⟨v.id, w.serial⟩ : WorkerId) = w := by
  obtain ⟨hid, -⟩ := hinv.drawn w hw
  rw [← hid]

theorem inv_lease {w : WorkerId} {U : String} (hinv : v.Inv leases)
    (hst : v.stage = .claimed t (some w)) (hU : U ≠ "") :
    Inv leases { v with leased := fun U' n => v.leased U' n ∨ U' = U ∧ n = w.serial } := by
  have hw : v.stage.worker = some w := by rw [hst]; rfl
  exact { hinv with
    live := fun w' hw' => by
      rw [show v.stage = .live w' from hw'] at hst
      cases hst
    leased := fun U' n hl => by
      rcases hl with hl | ⟨rfl, rfl⟩
      · exact hinv.leased U' n hl
      · rw [worker_of_drawn hinv hw]
        exact ⟨hU, hw⟩ }

theorem inv_start {w : WorkerId} (hinv : v.Inv leases) (hst : v.stage = .claimed t (some w)) :
    Inv leases { v with alive := fun n => n = w.serial ∨ v.alive n } := by
  have hw : v.stage.worker = some w := by rw [hst]; rfl
  have hlt := (hinv.drawn w hw).2
  exact { hinv with
    fresh := fun n hn => by
      refine ⟨(hinv.fresh n hn).1, ?_⟩
      rintro (rfl | ha)
      · exact absurd hlt (Nat.not_lt.mpr hn)
      · exact (hinv.fresh n hn).2 ha
    alive := fun n hn => by
      rcases hn with rfl | hn
      · refine Or.inr ?_
        rw [worker_of_drawn hinv hw, hst]
        rfl
      · exact hinv.alive n hn }

theorem inv_register {w : WorkerId} {h : WorkerHandle} (hinv : v.Inv leases)
    (hst : v.stage = .claimed t (some w)) (hproc : h.proc = w) :
    Inv leases { v with handle := some (some w, h), stage := .registered t w } := by
  have hw : v.stage.worker = some w := by rw [hst]; rfl
  exact { hinv with
    drawn := fun w' hw' => by
      cases hw'
      exact hinv.drawn w hw
    unused := fun t' w' _ hw' => by
      cases hw'
      exact hinv.unused t w (by rw [hst]; rfl) hw
    active := fun n w hw hact => absurd hact (by
      simp [hinv.inactive (by simp [hst]) hw])
    live := fun w hw => by cases hw
    lively := fun row hrow hl => by
      obtain ⟨w, hw⟩ := hinv.lively row hrow hl
      rw [hst] at hw
      cases hw
    registered := fun _ _ _ _ _ _ => rfl
    handle := fun e he => by
      cases he
      rw [hproc]
      exact ⟨rfl, rfl⟩
    alive := fun n hn => by
      rcases hinv.alive n hn with hs | hr
      · exact Or.inl hs
      · rw [hst] at hr
        exact Or.inr hr
    leased := fun U n hl => by
      have hl' := hinv.leased U n hl
      rw [hst] at hl'
      exact hl'
    ending := fun t w hst => by cases hst }

theorem inv_activate {w : WorkerId} {row row' : Task} {wr : Worker} (hinv : v.Inv leases)
    (hst : v.stage = .registered t w) (hrow : v.task = some row) (hd : row.state = .dispatching)
    (hr : row'.state = .running) (hreq : row'.resourceReq = row.resourceReq)
    (htid : wr.taskId = v.id) (hact : wr.isActive = true)
    (hlease : leases → v.blind = false ∧
      ∀ U, v.leased U w.serial ↔ wr.resourceLockId = some U ∧ row.AsksGpu) :
    Inv leases { v with
      task := some row'
      worker := setAt v.worker w.serial (some wr)
      stage := .live w } := by
  have hw : v.stage.worker = some w := by rw [hst]; rfl
  have hnone : ∀ n, v.worker n = none :=
    hinv.no_worker hrow (by rw [hd]; rfl) (by simp [hst])
  have hset : ∀ n w', setAt v.worker w.serial (some wr) n = some w' → n = w.serial ∧ w' = wr := by
    intro n w' hn
    rw [setAt_apply] at hn
    split at hn
    · next heq =>
      cases hn
      exact ⟨heq, rfl⟩
    · rw [hnone n] at hn
      cases hn
  have hlt := (hinv.drawn w hw).2
  exact { hinv with
    fresh := fun n hn => by
      have hne : n ≠ w.serial := fun heq => absurd (heq ▸ hlt) (Nat.not_lt.mpr hn)
      exact ⟨(setAt_of_ne _ _ hne).trans (hnone n), (hinv.fresh n hn).2⟩
    drawn := fun w' hw' => by
      cases hw'
      exact hinv.drawn w hw
    unused := fun t' w' hc => by cases hc
    rows := fun n w' hn => by
      obtain ⟨-, rfl⟩ := hset n w' hn
      exact htid
    active := fun n w' hn _ => by
      obtain ⟨rfl, rfl⟩ := hset n w' hn
      rw [worker_of_drawn hinv hw]
    ended := fun n w' hn ha => by
      obtain ⟨-, rfl⟩ := hset n w' hn
      rw [hact] at ha
      cases ha
    live := fun w' hw' => by
      cases hw'
      refine ⟨row', wr, rfl, by rw [hr]; rfl, setAt_same _ _ _, hact,
        hinv.registered t w row hst hrow hd, fun hleases U => ?_⟩
      unfold Task.AsksGpu
      rw [hreq]
      exact (hlease hleases).2 U
    lively := fun _ _ _ => ⟨w, rfl⟩
    registered := fun t w row hst => by cases hst
    handle := fun e he => by
      have he' := hinv.handle e he
      rw [hst] at he'
      exact he'
    alive := fun n hn => by
      have hn' := hinv.alive n hn
      rw [hst] at hn'
      exact hn'
    leased := fun U n hl => by
      have hl' := hinv.leased U n hl
      rw [hst] at hl'
      exact hl'
    ending := fun t w hst => by cases hst }

theorem inv_doom {w : WorkerId} (hinv : v.Inv leases) (hst : v.stage = .registered t w)
    (hstop : v.alive w.serial → v.stopFailed w.serial) :
    Inv leases { v with handle := none, stage := .doomed t w } := by
  have hw : v.stage.worker = some w := by rw [hst]; rfl
  exact { hinv with
    drawn := fun w' hw' => by
      cases hw'
      exact hinv.drawn w hw
    unused := fun t' w' _ hw' => by
      cases hw'
      exact hinv.unused t w (by rw [hst]; rfl) hw
    active := fun n w hw hact => absurd hact (by
      simp [hinv.inactive (by simp [hst]) hw])
    live := fun w hw => by cases hw
    lively := fun row hrow hl => by
      obtain ⟨w, hw⟩ := hinv.lively row hrow hl
      rw [hst] at hw
      cases hw
    registered := fun t w row hst => by cases hst
    handle := fun e he => by cases he
    alive := fun n hn => by
      refine Or.inl ?_
      rcases hinv.alive n hn with hs | hr
      · exact hs
      · rw [hst] at hr
        cases hr
        exact hstop hn
    leased := fun U n hl => by
      have hl' := hinv.leased U n hl
      rw [hst] at hl'
      exact hl'
    ending := fun t w hst => by cases hst }

theorem inv_unlease (U : String) (hinv : v.Inv leases)
    (hst : v.stage.claimer = some t ∨ ∃ w, v.stage = .ending t w) :
    Inv leases { v with leased := fun U' n => v.leased U' n ∧ U' ≠ U } := by
  exact { hinv with
    live := fun w hw => by
      rw [show v.stage = .live w from hw] at hst
      rcases hst with hc | ⟨w', hw'⟩
      · cases hc
      · cases hw'
    leased := fun U' n hl => hinv.leased U' n hl.1 }

theorem inv_idle (hinv : v.Inv leases) (hst : v.stage.claimer = some t) (hhandle : v.handle = none)
    (hstop : v.Stopped) (hlease : v.Unleased) : Inv leases { v with stage := .idle } := by
  have hlive : ∀ w, v.stage ≠ .live w := by
    intro w hw
    rw [hw] at hst
    cases hst
  exact { hinv with
    drawn := fun w hw => by cases hw
    unused := fun t w hc => by cases hc
    active := fun n w hw hact => absurd hact (by simp [hinv.inactive hlive hw])
    live := fun w hw => by cases hw
    lively := fun row hrow hl => by
      obtain ⟨w, hw⟩ := hinv.lively row hrow hl
      exact absurd hw (hlive w)
    registered := fun t w row hst => by cases hst
    handle := fun e he => by
      rw [show v.handle = some e from he] at hhandle
      cases hhandle
    alive := fun n hn => Or.inl (hstop n hn)
    leased := fun U n hl => absurd hl (hlease U n)
    ending := fun t w hst => by cases hst }

/-! ### Other steps -/

theorem isFinal_of_rowStep {row row' : Task} (h : RowStep row row')
    (hf : row.state.isFinal = true) : row'.state.isFinal = true := by
  rcases h.state with heq | hmem
  · rw [← heq]
    exact hf
  · refine absurd hmem (not_allowed_from_absorbing ?_)
    cases hst : row.state <;> rw [hst] at hf <;> simp [TaskState.isFinal] at hf ⊢

theorem isActive_of_isLive {st : TaskState} (h : st.isLive = true) : st.isActive = true := by
  unfold TaskState.isActive
  rw [h, Bool.or_true]

theorem isLive_of_isFinal {st : TaskState} (h : st.isFinal = true) : st.isLive = false := by
  cases st <;> first | rfl | cases h

theorem inv_move {o : Option Task} (hinv : v.Inv leases) (h : Moved v.task o) :
    Inv leases { v with task := o } := by
  generalize hv : v.task = o₀ at h
  cases h with
  | same o => exact hv ▸ hinv
  | move hstep hl ha =>
    next row row' =>
    have hlive : ∀ w, v.stage ≠ .live w := by
      intro w hw
      obtain ⟨row₀, -, hrow₀, hl₀, -⟩ := hinv.live w hw
      rw [hv] at hrow₀
      cases hrow₀
      rw [hl] at hl₀
      cases hl₀
    exact { hinv with
      ended := fun n w hw hact => by
        obtain ⟨row₀, hrow₀, hf⟩ := hinv.ended n w hw hact
        rw [hv] at hrow₀
        cases hrow₀
        exact ⟨row', rfl, isFinal_of_rowStep hstep hf⟩
      live := fun w hw => absurd hw (hlive w)
      lively := fun row₀ hrow₀ hl₀ => by
        cases hrow₀
        rw [isActive_of_isLive hl₀] at ha
        cases ha
      registered := fun t w row₀ _ hrow₀ hd => by
        cases hrow₀
        rw [hd] at ha
        cases ha }

theorem inv_switch {row row' : Task} (hinv : v.Inv leases) (hrow : v.task = some row)
    (hl : row.state.isLive = true) (hl' : row'.state.isLive = true)
    (hreq : row'.resourceReq = row.resourceReq) :
    Inv leases { v with task := some row' } := by
  exact { hinv with
    ended := fun n w hw hact => by
      obtain ⟨row₀, hrow₀, hf⟩ := hinv.ended n w hw hact
      rw [hrow] at hrow₀
      cases hrow₀
      rw [isLive_of_isFinal hf] at hl
      cases hl
    live := fun w hw => by
      obtain ⟨row₀, wr, hrow₀, -, hwr, hact, hhandle, hlease⟩ := hinv.live w hw
      rw [hrow] at hrow₀
      cases hrow₀
      refine ⟨row', wr, rfl, hl', hwr, hact, hhandle, fun hleases U => ?_⟩
      unfold Task.AsksGpu
      rw [hreq]
      exact hlease hleases U
    lively := fun _ _ _ => hinv.lively row hrow hl
    registered := fun t w row₀ _ hrow₀ hd => by
      cases hrow₀
      rw [hd] at hl'
      cases hl' }

theorem inv_beginRetire (hinv : v.Inv leases) (hr : v.retirer = none) :
    Inv leases { v with retiring := True, retirer := some t } := by
  exact { hinv with
    retiring := ⟨fun _ => rfl, fun _ => trivial⟩
    ending := fun t' w hst => by
      obtain ⟨hr', -⟩ := hinv.ending t' w hst
      rw [hr] at hr'
      cases hr' }

theorem inv_endRetire (hinv : v.Inv leases) (hr : v.retirer = some t)
    (hst : ∀ w, v.stage ≠ .ending t w) :
    Inv leases { v with retiring := False, retirer := none, blind := false } := by
  exact { hinv with
    retiring := ⟨fun h => h.elim, fun h => by cases h⟩
    ending := fun t' w hst' => by
      obtain ⟨hr', -⟩ := hinv.ending t' w hst'
      rw [hr] at hr'
      cases hr'
      exact absurd hst' (hst w) }

theorem inv_finish {w : WorkerId} {row' : Task} {wr wr' : Worker} (hinv : v.Inv leases)
    (hst : v.stage = .live w) (hr : v.retirer = some t) (ht : v.touched t = true)
    (hf : row'.state.isFinal = true) (hwr : v.worker w.serial = some wr)
    (htid : wr'.taskId = v.id) (hact : wr'.isActive = false)
    (hstop : v.alive w.serial → v.stopFailed w.serial) :
    Inv leases { v with
      task := some row'
      worker := setAt v.worker w.serial (some wr')
      stage := .ending t w } := by
  have hw : v.stage.worker = some w := by rw [hst]; rfl
  have hset : ∀ n w', setAt v.worker w.serial (some wr') n = some w' →
      w'.taskId = v.id ∧ w'.isActive = false := by
    intro n w' hn
    rw [setAt_apply] at hn
    split at hn
    · cases hn
      exact ⟨htid, hact⟩
    · next hne =>
      refine ⟨hinv.rows n w' hn, ?_⟩
      cases hact' : w'.isActive with
      | false => rfl
      | true =>
        have hlive := hinv.active n w' hn hact'
        rw [hst] at hlive
        cases hlive
        exact absurd rfl hne
  exact { hinv with
    fresh := fun n hn => by
      have hne : n ≠ w.serial :=
        fun heq => absurd (heq ▸ (hinv.drawn w hw).2) (Nat.not_lt.mpr hn)
      exact ⟨(setAt_of_ne _ _ hne).trans (hinv.fresh n hn).1, (hinv.fresh n hn).2⟩
    drawn := fun w' hw' => by
      cases hw'
      exact hinv.drawn w hw
    unused := fun t' w' hc => by cases hc
    rows := fun n w' hn => (hset n w' hn).1
    active := fun n w' hn ha => by
      rw [(hset n w' hn).2] at ha
      cases ha
    ended := fun _ _ _ _ => ⟨row', rfl, hf⟩
    live := fun w hw => by cases hw
    lively := fun row₀ hrow₀ hl => by
      cases hrow₀
      rw [isLive_of_isFinal hf] at hl
      cases hl
    registered := fun t w row hst => by cases hst
    handle := fun e he => by
      have he' := hinv.handle e he
      rw [hst] at he'
      exact he'
    alive := fun n hn => by
      refine Or.inl ?_
      rcases hinv.alive n hn with hs | hr
      · exact hs
      · rw [hst] at hr
        cases hr
        exact hstop hn
    leased := fun U n hl => by
      have hl' := hinv.leased U n hl
      rw [hst] at hl'
      exact hl'
    ending := fun t' w' hst' => by
      cases hst'
      exact ⟨hr, ht⟩ }

theorem inv_drop (hinv : v.Inv leases) (hpast : v.Past) : Inv leases { v with handle := none } := by
  exact { hinv with
    live := fun w hw => by
      obtain ⟨row, -, hrow, hl, -⟩ := hinv.live w hw
      have ha := hpast row hrow
      rw [isActive_of_isLive hl] at ha
      cases ha
    registered := fun t w row _ hrow hd => by
      have ha := hpast row hrow
      rw [hd] at ha
      cases ha
    handle := fun e he => by cases he }

theorem inv_close {w : WorkerId} (hinv : v.Inv leases) (hst : v.stage = .ending t w)
    (hlease : v.Unleased) : Inv leases { v with handle := none, stage := .idle } := by
  exact { hinv with
    drawn := fun w hw => by cases hw
    unused := fun t w hc => by cases hc
    active := fun n w hw hact => absurd hact (by
      simp [hinv.inactive (by simp [hst]) hw])
    live := fun w hw => by cases hw
    lively := fun row hrow hl => by
      obtain ⟨w, hw⟩ := hinv.lively row hrow hl
      rw [hst] at hw
      cases hw
    registered := fun t w row hst => by cases hst
    handle := fun e he => by cases he
    alive := fun n hn => Or.inl (hinv.stopped (by rw [hst]; rfl) n hn)
    leased := fun U n hl => absurd hl (hlease U n)
    ending := fun t w hst => by cases hst }

theorem inv_create {row : Task} (hinv : v.Inv leases) (hnone : v.task = none)
    (hq : row.state = .queued) : Inv leases { v with task := some row } := by
  exact { hinv with
    ended := fun n w hw hact => by
      obtain ⟨row₀, hrow₀, -⟩ := hinv.ended n w hw hact
      rw [hnone] at hrow₀
      cases hrow₀
    live := fun w hw => by
      obtain ⟨row₀, -, hrow₀, -⟩ := hinv.live w hw
      rw [hnone] at hrow₀
      cases hrow₀
    lively := fun row₀ hrow₀ hl => by
      cases hrow₀
      rw [hq] at hl
      cases hl
    registered := fun t w row₀ _ hrow₀ hd => by
      cases hrow₀
      rw [hq] at hd
      cases hd }

theorem inv_delete (hinv : v.Inv leases) (hpast : v.Past) :
    Inv leases { v with task := none, worker := fun _ => none } := by
  exact { hinv with
    fresh := fun n hn => ⟨rfl, (hinv.fresh n hn).2⟩
    unused := fun _ _ _ _ => rfl
    rows := fun n w hw => by cases hw
    active := fun n w hw => by cases hw
    ended := fun n w hw => by cases hw
    live := fun w hw => by
      obtain ⟨row, -, hrow, hl, -⟩ := hinv.live w hw
      have ha := hpast row hrow
      rw [isActive_of_isLive hl] at ha
      cases ha
    lively := fun row hrow => by cases hrow
    registered := fun t w row _ hrow => by cases hrow }

/-- Every step keeps the invariant. -/
theorem inv_step (hinv : v.Inv leases) (h : Step leases t v v') : v'.Inv leases := by
  cases h with
  | calm h => exact inv_calm hinv h
  | claim hst _ hrow hq hd => exact inv_claim hinv hst hrow hq hd
  | draw hst => exact inv_draw hinv hst
  | lease U hst hne => exact inv_lease hinv hst hne
  | start hst => exact inv_start hinv hst
  | register hst hproc => exact inv_register hinv hst hproc
  | activate hst hrow hd hr hreq htid hact hlease =>
    exact inv_activate hinv hst hrow hd hr hreq htid hact hlease
  | doom hst hstop => exact inv_doom hinv hst hstop
  | unlease U hst => exact inv_unlease U hinv hst
  | resolve hst hhandle hstop hlease hmoved =>
    exact inv_move (inv_idle hinv hst hhandle hstop hlease) hmoved
  | move hmoved => exact inv_move hinv hmoved
  | switch hrow hl hl' hreq => exact inv_switch hinv hrow hl hl' hreq
  | beginRetire hr => exact inv_beginRetire hinv hr
  | endRetire hr hst => exact inv_endRetire hinv hr hst
  | finish hst hr ht _ hf hwr htid hact hstop =>
    exact inv_finish hinv hst hr ht hf hwr htid hact hstop
  | drop hpast _ => exact inv_drop hinv hpast
  | close hst hlease => exact inv_close hinv hst hlease
  | create hnone hq _ => exact inv_create hinv hnone hq
  | delete hpast => exact inv_delete hinv hpast

/-! ## The protocol -/

/-- The end of a thread: it forgets what it has looked up. -/
def Leave (t : ThreadId) (v v' : TaskView) : Prop :=
  v.retirer ≠ some t ∧ v' = { v with touched := setAt v.touched t false }

theorem inv_leave (hinv : v.Inv leases) (h : Leave t v v') : v'.Inv leases := by
  obtain ⟨hr, rfl⟩ := h
  exact { hinv with
    ending := fun t' w hst => by
      obtain ⟨hr', ht'⟩ := hinv.ending t' w hst
      have hne : t' ≠ t := by
        rintro rfl
        exact hr hr'
      exact ⟨hr', (setAt_of_ne _ _ hne).trans ht'⟩ }

/-- A thread that neither dispatches nor retires the task and has not looked it up. -/
structure Clean (t : ThreadId) (v : TaskView) : Prop where
  claimer : v.stage.claimer ≠ some t
  retirer : v.retirer ≠ some t
  touched : v.touched t = false

theorem touched_step {t' : ThreadId} (h : Step leases t v v') (hne : t' ≠ t) :
    v'.touched t' = v.touched t' := by
  cases h with
  | calm h => exact h.touched t' hne
  | _ => rfl

theorem touched_own (h : Step leases t v v') (ht : v.touched t = true) : v'.touched t = true := by
  cases h with
  | calm h => exact h.touched_self ht
  | _ => exact ht

theorem claimer_step {t' : ThreadId} (h : Step leases t v v') (hne : t' ≠ t)
    (hc : v.stage.claimer ≠ some t') : v'.stage.claimer ≠ some t' := by
  have hne' : some t ≠ some t' := fun heq => hne (Option.some.inj heq).symm
  cases h with
  | calm h => rw [h.stage]; exact hc
  | claim | draw | register | doom => exact hne'
  | activate | resolve | finish | close => exact fun h => by cases h
  | _ => exact hc

theorem retirer_step {t' : ThreadId} (h : Step leases t v v') (hne : t' ≠ t) :
    v'.retirer = some t' ↔ v.retirer = some t' := by
  cases h with
  | calm h => rw [h.retirer]
  | beginRetire hr =>
    rw [hr]
    exact ⟨fun h => absurd (Option.some.inj h).symm hne, fun h => by cases h⟩
  | endRetire hr =>
    rw [hr]
    exact ⟨fun h => (by cases h), fun h => absurd (Option.some.inj h).symm hne⟩
  | _ => exact Iff.rfl

/-- The protocol of one task. -/
def protocol (leases : Prop) : Protocol TaskView where
  inv := Inv leases
  step := Step leases
  leave := Leave
  clean := Clean
  inv_step := inv_step
  clean_step := by
    rintro t t' v v' - hne (h | ⟨-, rfl⟩) hclean
    · exact ⟨claimer_step h hne.symm hclean.claimer,
        fun hr => hclean.retirer ((retirer_step h hne.symm).mp hr),
        (touched_step h hne.symm).trans hclean.touched⟩
    · exact ⟨hclean.claimer, hclean.retirer, (setAt_of_ne _ _ hne.symm).trans hclean.touched⟩

end TaskView

end Flotilla
