import KerSorMonitor.Flotilla.Fencing
import KerSorMonitor.Flotilla.TaskSteps

/-!
# The contract of the control plane

The operations of the control plane keep the protocol of `TaskView` at every task, provided that
a task is claimed only when its earlier claims are resolved and no operation in flight has looked
it up. A retirement then meets no other worker than its own.

The leases are followed where `leases` holds. Then, besides, no task is created that an operation
in flight has looked up, and no worker is activated while a retirement of its task has read the
worker row.

Results:
1. `coherence`, the contract, and rules for the programs of one thread.
2. `retire_minds`: what a retirement does to its task.
-/

namespace Flotilla

open Keyed Threads
open Prog (call)

/-! ## The contract -/

/-- No operation has looked the task up since. -/
def History.Unseen (h : History) (tid : TaskId) : Prop := ∀ t, h.touched t tid = false

/-- What the runs are required to meet at each action. -/
def Admitted (leases : Prop) : {β : Type} → Act β → Sys → Prop
  | _, .store (.claimQueuedTasks maxActive), s =>
    ∀ task ∈ Store.StoreLemmas.claimSelection maxActive s.world.db,
      (s.hist.stage task.id).claimer = none ∧ s.hist.Unseen task.id
  | _, .store (.createTasks ts), s => leases → ∀ task ∈ ts, s.hist.Unseen task.id
  | _, .store (.activateWorker tid _ _), s => leases → s.hist.blind tid = false
  | _, _, _ => True

/-- A retirement of worker `wid` stops that worker, and when it commits the task has no other
active worker. -/
def RetiresOwn : {β : Type} → Act β → Sys → Prop
  | _, .stop h (.retirement _ wid), _ => wid = some h.proc
  | _, .store (.finishWorker tid wid _ _), s =>
    ∀ w row, s.world.db.worker? w = some row → row.taskId = tid → row.isActive = true →
      wid = some w
  | _, _, _ => True

/-- The protocol of one task, at every task. -/
def coherence (settings : Settings) (leases : Prop) : Contract (controlPlane settings) :=
  (TaskView.protocol leases).contract (controlPlane settings) (Sys.taskView leases)
    (fun _ _ a _ s => Admitted leases a s) (fun _ _ a s => RetiresOwn a s)

/-! ## The programs of one thread -/

/-- The action begins and ends no retirement. -/
def Act.KeepsRetirer : {β : Type} → Act β → Prop
  | _, .beginRetire _ => False
  | _, .endRetire _ => False
  | _, _ => True

/-- Thread `t` has no claim, and retires no task but `o`. -/
structure Owns (t : ThreadId) (o : Option TaskId) (s : Sys) : Prop where
  claimer : ∀ tid, (s.hist.stage tid).claimer ≠ some t
  retirer : ∀ tid, s.hist.retirer tid = some t → o = some tid

/-- Thread `t` has no claim, retires no task but `o`, and knows `F` of task `tid`. -/
def Minds (leases : Prop) (t : ThreadId) (o : Option TaskId) (tid : TaskId)
    (F : TaskView → Prop) (s : Sys) : Prop := Owns t o s ∧ F (s.taskView leases tid)

namespace CoherenceLemmas

open TaskView TaskSteps Effects QuietLemmas

variable {settings : Settings} {leases : Prop} {t : ThreadId} {s s' : Sys} {tid : TaskId}
  {o : Option TaskId} {α β : Type} {F G : TaskView → Prop}

theorem recordStore_retirer (q : Transaction β) (r : Except PyErr β) (h : History) :
    (h.recordStore t q r).retirer = h.retirer := by
  cases q with
  | createTasks | claimQueuedTasks => cases r <;> rfl
  | activateWorker =>
    rcases r with e | owned
    · rfl
    · cases owned <;> rfl
  | finishWorker =>
    rcases r with e | committed
    · rfl
    cases committed with
    | false => rfl
    | true =>
      simp only [History.recordStore]
      split <;> rfl
  | releaseTaskClaim | getWorker =>
    simp only [History.recordStore]
    split <;> rfl
  | _ => rfl

theorem record_retirer {a : Act β} (ha : a.KeepsRetirer) (r : Except PyErr β) (h : History) :
    (h.record t a r).retirer = h.retirer := by
  cases a with
  | beginRetire | endRetire => exact ha.elim
  | store q => exact recordStore_retirer q r h
  | unregister tid caller =>
    cases caller <;> simp only [History.record, History.close] <;> repeat' split
    all_goals rfl
  | register tid wid handle =>
    cases wid with
    | none => rfl
    | some wid =>
      simp only [History.record]
      split <;> rfl
  | acquire kind wid req =>
    rcases r with e | lock
    · rfl
    cases lock with
    | none => rfl
    | some lock =>
      simp only [History.record]
      split <;> rfl
  | releaseId kind resourceId wid =>
    simp only [History.record]
    split <;> rfl
  | newWorkerId | handlesSnapshot => cases r <;> rfl
  | _ => rfl

/-- An action that dispatches nothing and neither begins nor ends a retirement. -/
theorem owns_exec {a : Act β} (ha : a.Undispatched True) (hr : a.KeepsRetirer) {env : Env}
    {r : Except PyErr β} (hx : Sys.exec settings t a env s = (r, s')) (h : Owns t o s) :
    Owns t o s' where
  claimer := fun tid hc => by
    rcases (FencingLemmas.plain_of_undispatched ha hx tid).stage with hst | ⟨-, hst⟩
    · exact h.claimer tid ((congrArg Stage.claimer hst).symm.trans hc)
    · exact absurd (hst.symm.trans hc) (by simp)
  retirer := fun tid hret => by
    have hhist : s'.hist.retirer = s.hist.retirer := by
      cases hx
      exact record_retirer hr _ _
    exact h.retirer tid (hhist ▸ hret)

theorem mine_owns : Mine leases t fun v =>
    v.stage.claimer ≠ some t ∧ (v.retirer = some t → o = some v.id) := by
  rintro t' v v' hne - (h | ⟨-, rfl⟩) ⟨hc, hr⟩
  · refine ⟨claimer_step h hne.symm hc, fun hr' => ?_⟩
    have hid : v'.id = v.id := by
      cases h with
      | calm h => exact h.id
      | _ => rfl
    rw [hid]
    exact hr ((retirer_step h hne.symm).mp hr')
  · exact ⟨hc, hr⟩

theorem stable_mine (hF : Mine leases t F) :
    Stable (coherence settings leases) t fun s => F (s.taskView leases tid) :=
  Protocol.stable fun v v' ⟨hinv, t', hne, hstep⟩ => hF t' v v' hne hinv hstep

theorem owns_stable : Stable (coherence settings leases) t (Owns t o) := by
  intro s s' h hrely
  have hmine : Mine leases t fun v =>
      v.stage.claimer ≠ some t ∧ (v.retirer = some t → o = some v.id) := mine_owns
  have hview (tid : TaskId) := stable_mine hmine s s' ⟨h.claimer tid, h.retirer tid⟩ hrely
  exact ⟨fun tid => (hview tid).1, fun tid => (hview tid).2⟩

theorem minds_stable (hF : Mine leases t F) :
    Stable (coherence settings leases) t (Minds leases t o tid F) :=
  owns_stable.and (stable_mine hF)

theorem retiresOwn_of_quiet {a : Act β} (ha : a.Quiet) (s : Sys) : RetiresOwn a s := by
  cases a with
  | store q =>
    cases q with
    | finishWorker => exact ha.elim
    | _ => trivial
  | stop => exact ha.elim
  | _ => trivial

/-- One action that is a step of every task. -/
theorem act_minds {a : Act β} (ha : a.Undispatched True) (hr : a.KeepsRetirer)
    (hF : Mine leases t F) {R : Except PyErr β → TaskView → Prop}
    (hstep : ∀ s, (∀ tid, (s.taskView leases tid).Inv leases) → F (s.taskView leases tid) →
      RetiresOwn a s ∧ ∀ env r s', Admitted leases a s → Sys.exec settings t a env s = (r, s') →
        (∀ tid, Step leases t (s.taskView leases tid) (s'.taskView leases tid)) ∧
          R r (s'.taskView leases tid))
    (h : Minds leases t o tid F s) :
    Safe (coherence settings leases) t (call a) (fun r => Minds leases t o tid (R r)) s := by
  refine Triple.safe (triple_of_exec fun s hinv h => ?_) (minds_stable hF) h
  obtain ⟨howns, hf⟩ := h
  obtain ⟨hown, hexec⟩ := hstep s hinv hf
  refine ⟨hown, fun env r s' hadm hx => ?_⟩
  obtain ⟨hsteps, hR⟩ := hexec env r s' hadm hx
  exact ⟨hsteps, owns_exec ha hr hx howns, hR⟩

/-- A quiet action, and what its result says. -/
theorem quiet_act_minds {a : Act β} (ha : a.Quiet) (hF : Kept leases t F)
    {R : Except PyErr β → TaskView → Prop}
    (hR : ∀ s env r s', (∀ tid, (s.taskView leases tid).Inv leases) →
      Sys.exec settings t a env s = (r, s') → F (s.taskView leases tid) →
      F (s'.taskView leases tid) → R r (s'.taskView leases tid))
    (h : Minds leases t o tid F s) :
    Safe (coherence settings leases) t (call a) (fun r => Minds leases t o tid (R r)) s := by
  refine act_minds ha.undispatched ?_ hF.mine (fun s hinv hf => ?_) h
  · cases a with
    | beginRetire | endRetire => exact ha.elim
    | _ => trivial
  · refine ⟨retiresOwn_of_quiet ha s, fun env r s' _ hx => ?_⟩
    refine ⟨fun tid => .calm (quiet_calm ha hx tid), hR s env r s' hinv hx hf ?_⟩
    exact hF.calm _ _ (hinv tid) (quiet_calm ha hx tid) hf

theorem quiet_neutral (hF : Kept leases t F) :
    Neutral (coherence settings leases) t Act.Quiet (Minds leases t o tid F) := by
  intro β a ha s hinv h
  refine ⟨retiresOwn_of_quiet ha s, fun env r s' _ hx => ?_⟩
  refine ⟨fun tid => .calm (quiet_calm ha hx tid), owns_exec ha.undispatched ?_ hx h.1,
    hF.calm _ _ (hinv tid) (quiet_calm ha hx tid) h.2⟩
  cases a with
  | beginRetire | endRetire => exact ha.elim
  | _ => trivial

/-- A quiet program keeps what the thread knows. -/
theorem quiet_minds {p : Program α} (hp : p.All Act.Quiet) (hF : Kept leases t F)
    (h : Minds leases t o tid F s) :
    Safe (coherence settings leases) t p (fun _ => Minds leases t o tid F) s :=
  Safe.of_all (minds_stable hF.mine) (quiet_neutral hF) hp h

/-- The look at the row of the task. -/
theorem getTask_minds (hF : Kept leases t F) {R : Option Task → TaskView → Prop}
    (hR : ∀ v, v.Inv leases → F v → v.touched t = true → R v.task v)
    (h : Minds leases t o tid F s) :
    Safe (coherence settings leases) t (store (.getTask tid)) (fun
      | .ok row => Minds leases t o tid (R row)
      | .error _ => Minds leases t o tid F) s := by
  refine (quiet_act_minds (a := .store (.getTask tid)) trivial hF (R := fun
    | .ok row => R row
    | .error _ => F) (fun s env r s' hinv hx _ hf => ?_) h).mono fun r s h => ?_
  · have hinv' := inv_calm (hinv tid) (quiet_calm (a := .store (.getTask tid)) trivial hx tid)
    rcases store_cases hx with ⟨e, -, rfl, rfl⟩ | ⟨-, db', hexec, rfl⟩
    · exact hf
    · cases hexec
      refine hR _ hinv' hf ?_
      simp only [Sys.taskView, History.recordStore, History.touch, setAt_same]
  · cases r <;> exact h

end CoherenceLemmas

end Flotilla
