import KerSorMonitor.Flotilla.RetireRuns

/-!
# What a dispatcher owes its tasks

Between its claim and the resolution of the claim a dispatcher has the task to itself: its worker id,
its lease and its external worker. The obligations of `Dispatcher` are interpreted in the contract of
`Coherence`.

Results:
1. `owed_other`: the other threads leave what a dispatcher owes alone.
2. `obligations`: every action of `tick` moves them as it should.
-/

namespace Flotilla

open Keyed Threads
open Prog (call)

namespace TaskView

variable {leases : Prop} {t t' : ThreadId} {v v' : TaskView} {task : Task}

/-- The worker has the GPU of the lock, if it is one, and no other. -/
def Leases (task : Task) (w : WorkerId) (lock : Option Lock) (v : TaskView) : Prop :=
  ∀ U, v.leased U w.serial ↔ lock.map Lock.resourceId = some U ∧ task.AsksGpu

/-- As long as the row can be activated, it asks for what the claimed task asked for. -/
def Requests (task : Task) (v : TaskView) : Prop :=
  ∀ row, v.task = some row → row.state = .dispatching → row.resourceReq = task.resourceReq

/-- What an obligation says about its task. -/
def Owed (leases : Prop) (task : Task) : Phase → TaskView → Prop
  | .claimed, v => v.Requests task
  | .drawn w lock, v => v.Requests task ∧ (leases → v.Leases task w lock) ∧ ¬ v.alive w.serial
  | .started w lock h, v | .registered w lock h, v =>
    v.Requests task ∧ (leases → v.Leases task w lock) ∧ h.proc = w
  | .stopped w lock, v => (leases → v.Leases task w lock) ∧ v.StoppedAt w
  | .doomed w lock, v => leases → v.Leases task w lock
  | .activated _ _ _, _ | .released, _ => True

/-! ## What the others leave alone -/

section

variable (hc : v.stage.claimer = some t) (hne : t' ≠ t) (h : Step leases t' v v')
include hc hne h

theorem stage_other : v'.stage = v.stage := by
  have hnot : v.stage.claimer ≠ some t' := fun hc' => hne (Option.some.inj (hc'.symm.trans hc))
  cases h with
  | calm h => exact h.stage
  | claim hst | finish hst | close hst =>
    rw [hst] at hc
    cases hc
  | draw hst | register hst | activate hst | doom hst =>
    rw [hst] at hnot
    exact absurd rfl hnot
  | resolve hc' => exact absurd hc' hnot
  | _ => rfl

theorem leased_other : v'.leased = v.leased := by
  have hnot : v.stage.claimer ≠ some t' := fun hc' => hne (Option.some.inj (hc'.symm.trans hc))
  cases h with
  | calm h => exact h.leased
  | lease U hst =>
    rw [hst] at hnot
    exact absurd rfl hnot
  | unlease U hown =>
    rcases hown with hc' | ⟨w, hst⟩
    · exact absurd hc' hnot
    · rw [hst] at hc
      cases hc
  | _ => rfl

theorem alive_other {n : Nat} (hn : v'.alive n) : v.alive n := by
  cases h with
  | calm h => exact h.alive n hn
  | start hst =>
    rw [hst] at hc
    exact absurd (Option.some.inj hc) hne
  | _ => exact hn

theorem requests_other (hreq : v.Requests task) : v'.Requests task := by
  intro row hrow hd
  have hmoved {o : Option Task} (hmoved : Moved v.task o) (hrow : o = some row) :
      row.resourceReq = task.resourceReq := by
    subst hrow
    generalize hold : v.task = old at hmoved
    cases hmoved with
    | same => exact hreq row hold hd
    | move _ _ hnot =>
      rw [hd] at hnot
      cases hnot
  cases h with
  | calm h => exact hreq row (h.task ▸ hrow) hd
  | claim hst | finish hst =>
    rw [hst] at hc
    cases hc
  | activate hst =>
    rw [hst] at hc
    exact absurd (Option.some.inj hc) hne
  | resolve _ _ _ _ hm | move hm => exact hmoved hm hrow
  | switch _ _ hl =>
    cases hrow
    rw [hd] at hl
    cases hl
  | create _ hq =>
    cases hrow
    rw [hd] at hq
    cases hq
  | delete => cases hrow
  | _ => exact hreq row hrow hd

theorem stoppedAt_other {w : WorkerId} (hstop : v.StoppedAt w) : v'.StoppedAt w := by
  intro halive
  have hfailed := hstop (alive_other hc hne h halive)
  cases h with
  | calm h => exact h.stopFailed _ hfailed
  | _ => exact hfailed

/-- The others leave what a dispatcher owes alone. -/
theorem owed_other {p : Phase} (hp : Owed leases task p v) : Owed leases task p v' := by
  have hlease {w : WorkerId} {lock : Option Lock} (hl : leases → v.Leases task w lock) :
      leases → v'.Leases task w lock := by
    unfold Leases at hl ⊢
    rwa [leased_other hc hne h]
  cases p with
  | claimed => exact requests_other hc hne h hp
  | drawn w lock =>
    exact ⟨requests_other hc hne h hp.1, hlease hp.2.1, fun hn => hp.2.2 (alive_other hc hne h hn)⟩
  | started w lock handle | registered w lock handle =>
    exact ⟨requests_other hc hne h hp.1, hlease hp.2.1, hp.2.2⟩
  | stopped w lock => exact ⟨hlease hp.1, stoppedAt_other hc hne h hp.2⟩
  | doomed w lock => exact hlease hp
  | activated | released => trivial

end

theorem owed_touched (f : ThreadId → Bool) {p : Phase} (hp : Owed leases task p v) :
    Owed leases task p { v with touched := f } := by
  cases p <;> exact hp

/-- What a dispatcher owes survives its calm steps. -/
theorem owed_calm (h : Calm t v v') {p : Phase} (hp : Owed leases task p v) :
    Owed leases task p v' := by
  have hlease {w : WorkerId} {lock : Option Lock} (hl : leases → v.Leases task w lock) :
      leases → v'.Leases task w lock := by
    unfold Leases at hl ⊢
    rwa [h.leased]
  have hrequests (hreq : v.Requests task) : v'.Requests task :=
    fun row hrow => hreq row (h.task ▸ hrow)
  cases p with
  | claimed => exact hrequests hp
  | drawn w lock => exact ⟨hrequests hp.1, hlease hp.2.1, fun hn => hp.2.2 (h.alive _ hn)⟩
  | started w lock handle | registered w lock handle =>
    exact ⟨hrequests hp.1, hlease hp.2.1, hp.2.2⟩
  | stopped w lock => exact ⟨hlease hp.1, fun hn => h.stopFailed _ (hp.2 (h.alive _ hn))⟩
  | doomed w lock => exact hlease hp
  | activated | released => trivial

end TaskView

/-! ## The obligations of a dispatcher -/

/-- Thread `t` owes `hs`, has no other claim, and retires no task. -/
structure Owes (leases : Prop) (t : ThreadId) (hs : List Holding) (s : Sys) : Prop where
  held : Held t (fun x s => TaskView.Owed leases x.task x.phase (s.taskView leases x.task.id)) hs s
  retirer : ∀ tid, s.hist.retirer tid ≠ some t

namespace ObligationLemmas

open TaskView TaskSteps Effects QuietLemmas CoherenceLemmas

variable {settings : Settings} {leases : Prop} {t : ThreadId} {env : Env} {s s' : Sys}
  {hs hs' : List Holding} {task : Task} {wid : WorkerId} {p q : Phase} {β : Type}

theorem owes_perm (hp : hs.Perm hs') (h : Owes leases t hs s) : Owes leases t hs' s :=
  ⟨h.held.perm hp, h.retirer⟩

/-- The first obligation moves on. -/
theorem owes_move {a : Act β} (ha : a.KeepsRetirer) {r : Except PyErr β}
    (hx : Sys.exec settings t a env s = (r, s')) (h : Owes leases t (⟨task, p⟩ :: hs) s)
    (hstep : StepAt leases t task.id s s')
    (hstage : ∀ st, q.stage t = some st → s'.hist.stage task.id = st)
    (howed : Owed leases task q (s'.taskView leases task.id))
    (hres : (s'.hist.stage task.id).claimer = some t → ¬ q.IsResolved) :
    (coherence settings leases).guar t s s' ∧ Owes leases t (⟨task, q⟩ :: hs) s' := by
  refine ⟨hstep.step, h.held.move (fun tid htid => (hstep.frame tid htid).stage) ?_ hstage howed hres,
    fun tid => ?_⟩
  · exact fun x _ hne hx => owed_calm (hstep.frame _ hne) hx
  · have hret : s'.hist.retirer = s.hist.retirer := by
      cases hx
      exact record_retirer ha _ _
    rw [hret]
    exact h.retirer tid

/-- The first obligation moves on within its stage. -/
theorem owes_moveWithin {a : Act β} (ha : a.KeepsRetirer) {r : Except PyErr β}
    (hx : Sys.exec settings t a env s = (r, s')) (h : Owes leases t (⟨task, p⟩ :: hs) s)
    (hstep : StepAt leases t task.id s s') {st : Stage} (hp : p.stage t = some st)
    (hq : q.stage t = some st) (hstage : s'.hist.stage = s.hist.stage)
    (howed : Owed leases task q (s'.taskView leases task.id)) :
    (coherence settings leases).guar t s s' ∧ Owes leases t (⟨task, q⟩ :: hs) s' := by
  refine owes_move ha hx h hstep (fun st' hst' => ?_) howed fun _ => Phase.not_resolved_of_stage hq
  cases hq.symm.trans hst'
  rw [hstage]
  exact h.held.stage _ List.mem_cons_self st hp

theorem owes_stable : Stable (coherence settings leases) t (Owes leases t hs) := by
  intro s s' h hrely
  have hstages (tid : TaskId) : ((s.hist.stage tid).claimer = some t →
      s'.hist.stage tid = s.hist.stage tid) ∧
      ((s.hist.stage tid).claimer ≠ some t → (s'.hist.stage tid).claimer ≠ some t) := by
    refine ⟨fun hc => ?_, fun hc => ?_⟩
    · refine stable_mine (F := fun v => v.stage = s.hist.stage tid) ?_ s s' rfl hrely
      rintro t' v v' hne - (hstep | ⟨-, rfl⟩) hst
      · exact (stage_other (by rw [hst]; exact hc) hne hstep).trans hst
      · exact hst
    · refine stable_mine (F := fun v => v.stage.claimer ≠ some t) ?_ s s' hc hrely
      rintro t' v v' hne - (hstep | ⟨-, rfl⟩) hst
      · exact claimer_step hstep hne.symm hst
      · exact hst
  refine ⟨?_, fun tid => ?_⟩
  · have hkeep (x : Holding) (hx : x ∈ hs) :
        Owed leases x.task x.phase (s'.taskView leases x.task.id) := by
      have howed := h.held.own x hx
      by_cases hres : x.phase.IsResolved
      · cases hp : x.phase with
        | activated | released => trivial
        | _ =>
          rw [hp] at hres
          exact hres.elim
      · obtain ⟨st, hst, hc⟩ := Phase.stage_of_not_resolved t hres
        have hstage := h.held.stage x hx st hst
        refine (stable_mine (F := fun v => v.stage = st ∧ Owed leases x.task x.phase v) ?_ s s'
          ⟨hstage, howed⟩ hrely).2
        rintro t' v v' hne - (hstep | ⟨-, rfl⟩) ⟨hv, hp⟩
        · have hc' : v.stage.claimer = some t := by rw [hv]; exact hc
          exact ⟨(stage_other hc' hne hstep).trans hv, owed_other hc' hne hstep hp⟩
        · exact ⟨hv, owed_touched _ hp⟩
    refine ⟨h.held.nodup, fun x hx st hst => ?_, hkeep, fun tid hc => ?_⟩
    · have hstage := h.held.stage x hx st hst
      obtain ⟨st', hst', hc⟩ := Phase.stage_of_not_resolved t (Phase.not_resolved_of_stage hst)
      cases hst.symm.trans hst'
      rw [(hstages _).1 (by rw [hstage]; exact hc), hstage]
    · refine h.held.all tid ?_
      by_contra hnot
      exact (hstages tid).2 hnot hc
  · refine stable_mine (F := fun v => v.retirer ≠ some t) ?_ s s' (h.retirer tid) hrely
    rintro t' v v' hne - (hstep | ⟨-, rfl⟩) hr
    · exact fun hr' => hr ((retirer_step hstep hne.symm).mp hr')
    · exact hr

/-! ### The claim and the preparation -/

theorem claim_triple (maxActive : Int) :
    Triple (coherence settings leases) t (Owes leases t []) (.store (.claimQueuedTasks maxActive)) fun
      | .ok tasks => Owes leases t (tasks.map fun task => ⟨task, .claimed⟩)
      | .error _ => Owes leases t [] := by
  refine triple_of_exec fun s hinv h => ⟨trivial, fun env r s' hadmitted hx => ?_⟩
  refine ⟨claim_step hinv hadmitted hx, ?_⟩
  rcases claim_cases hx with ⟨e, rfl, rfl⟩ | ⟨rfl, rfl⟩
  · exact h
  refine ⟨Held.of_claim h.held ?_ fun task hmem row hrow _ => ?_, h.retirer⟩
  · rw [Store.StoreLemmas.map_id_claimedRow]
    exact Store.StoreLemmas.nodup_claimSelection maxActive s.world.db
  · obtain ⟨task₀, hmem₀, rfl⟩ := List.mem_map.mp hmem
    have hselected := (Store.StoreLemmas.mem_claimSelection hmem₀).1
    have hspec := (Store.StoreLemmas.claimQueuedTasks_spec env.clock.now maxActive s.world.db).2.2.2
      task₀.id
    rw [hselected, Option.map_some, if_pos (List.mem_map_of_mem hmem₀)] at hspec
    obtain rfl := Option.some.inj (hspec.symm.trans hrow)
    rfl

theorem draw_triple : Triple (coherence settings leases) t (Owes leases t (⟨task, .claimed⟩ :: hs))
    (.newWorkerId task.id) fun
      | .ok wid => Owes leases t (⟨task, .drawn wid none⟩ :: hs)
      | .error _ => fun _ => False := by
  refine triple_of_exec fun s hinv h => ⟨trivial, fun env r s' _ hx => ?_⟩
  have hst : s.hist.stage task.id = .claimed t none := h.held.stage _ List.mem_cons_self _ rfl
  have hstep : StepAt leases t task.id s s' := draw_step hst hx
  have hreq := h.held.own _ List.mem_cons_self
  have hfresh := (hinv task.id).fresh s.world.serial (Nat.le_refl _)
  obtain ⟨hr, hs'⟩ := newWorkerId_eq hx
  subst hr
  refine owes_move (a := .newWorkerId task.id) trivial hx h hstep ?_ ?_ ?_
  · rintro st ⟨⟩
    rw [hs']
    simp only [History.record, hst, ↓reduceIte, setAt_same]
  · rw [hs']
    refine ⟨hreq, fun hleases U => ⟨fun hl => ?_, fun hl => ?_⟩, hfresh.2⟩
    · have hworker := ((hinv task.id).leased U _ hl).2
      have hnone : (s.taskView leases task.id).stage = .claimed t none := hst
      rw [hnone] at hworker
      cases hworker
    · cases hl.1
  · exact fun _ h => h

theorem gpu_iff_asksGpu {kind : String} (h : resolveAdapter task = .ok (some kind)) :
    kind = "gpu" ↔ task.AsksGpu := by
  have hget := DispatcherSpec.resourceGet_of_resolveAdapter h
  unfold Task.AsksGpu
  constructor
  · rintro rfl
    have hkind := resourceGet_gpu.mp hget
    cases hreq : task.resourceReq.get? "kind" with
    | none =>
      rw [hreq] at hkind
      cases hkind
    | some k =>
      rw [hreq] at hkind
      exact congrArg some hkind
  · intro hreq
    rw [hreq] at hget
    exact Except.ok.inj (hget.symm.trans (resourceGet_gpu.mpr rfl))

theorem acquire_triple {kind : String} (hkind : resolveAdapter task = .ok (some kind)) :
    Triple (coherence settings leases) t (Owes leases t (⟨task, .drawn wid none⟩ :: hs))
      (.acquire kind wid task.resourceReq) fun
        | .ok (some lock) => fun s =>
          lock.workerId = wid ∧ Owes leases t (⟨task, .drawn wid (some lock)⟩ :: hs) s
        | _ => Owes leases t (⟨task, .drawn wid none⟩ :: hs) := by
  refine triple_of_exec fun s hinv h => ⟨trivial, fun env r s' _ hx => ?_⟩
  have hst : s.hist.stage task.id = .claimed t (some wid) := h.held.stage _ List.mem_cons_self _ rfl
  have hstep : StepAt leases t task.id s s' := acquire_step hinv hst hx
  have hwid : wid = ⟨task.id, wid.serial⟩ := worker_task hinv (by rw [hst]; rfl)
  obtain ⟨hreq, hlease, halive⟩ : Owed leases task (.drawn wid none) (s.taskView leases task.id) :=
    h.held.own _ List.mem_cons_self
  rcases acquire_cases hx with ⟨hno, rfl⟩ | ⟨uuid, rfl, hne, hfree, rfl, hs'⟩ | ⟨hcpu, rfl, hs'⟩
  · refine ⟨hstep.step, ?_⟩
    rcases r with e | lock
    · exact h
    · cases lock with
      | none => exact h
      | some lock => exact absurd rfl (hno lock)
  · have hgpu := (gpu_iff_asksGpu hkind).mp rfl
    refine And.imp_right (fun h => ⟨rfl, h⟩) (owes_moveWithin (a := .acquire "gpu" wid task.resourceReq)
      trivial hx h hstep (q := .drawn wid (some ⟨uuid, wid⟩)) rfl rfl (by rw [hs']) ?_)
    rw [hs']
    refine ⟨hreq, fun hleases U => ⟨fun hl => ⟨?_, hgpu⟩, fun hl => ⟨hleases, ?_⟩⟩, halive⟩
    · have hheld : Dict.get? (Dict.set s.world.held uuid wid) U = some ⟨task.id, wid.serial⟩ := hl.2
      rw [Dict.get?_set] at hheld
      split at hheld
      · next heq => rw [heq]; rfl
      · have hnone := ((hlease hleases) U).mp ⟨hleases, hheld⟩
        cases hnone.1
    · have hU : uuid = U := Option.some.inj hl.1
      show Dict.get? (Dict.set s.world.held uuid wid) U = some ⟨task.id, wid.serial⟩
      rw [Dict.get?_set, if_pos hU.symm, ← hwid]
  · have hcpu' : ¬ task.AsksGpu := fun hgpu => hcpu ((gpu_iff_asksGpu hkind).mpr hgpu)
    refine And.imp_right (fun h => ⟨rfl, h⟩) (owes_moveWithin (a := .acquire kind wid task.resourceReq)
      trivial hx h hstep (q := .drawn wid (some ⟨"cpu", wid⟩)) rfl rfl (by rw [hs']) ?_)
    rw [hs']
    refine ⟨hreq, fun hleases U => ⟨fun hl => ?_, fun hl => absurd hl.2 hcpu'⟩, halive⟩
    have hnone := ((hlease hleases) U).mp hl
    cases hnone.1

/-! ### The start and the activation -/

theorem start_triple (d : Dispatch) (ds : List Dispatch) :
    Triple (coherence settings leases) t (Owes leases t ((d :: ds).map Dispatch.prepared ++ hs))
      (.asCompleted (d :: ds)) fun
        | .ok (i, started) => fun s => ∃ d', (d :: ds)[i]? = some d' ∧
          Owes leases t (d'.started started ::
            (((d :: ds).eraseIdx i).map Dispatch.prepared ++ hs)) s
        | .error _ => fun _ => False := by
  refine triple_of_exec fun s hinv h => ⟨trivial, fun env r s' _ hx => ?_⟩
  obtain ⟨i, d', hget, hcase⟩ := asCompleted_cases (List.cons_ne_nil d ds) hx
  have hhead : Owes leases t (⟨d'.task, .drawn d'.workerId d'.lock⟩ ::
      (((d :: ds).eraseIdx i).map Dispatch.prepared ++ hs)) s :=
    owes_perm (((perm_eraseIdx hget).map Dispatch.prepared).append_right hs) h
  rcases hcase with ⟨e, rfl, rfl⟩ | ⟨rfl, hs'⟩
  · exact ⟨fun tid => step_of_eq rfl, d', hget, hhead⟩
  · have hst : s.hist.stage d'.task.id = .claimed t (some d'.workerId) :=
      hhead.held.stage _ List.mem_cons_self _ rfl
    have hstep : StepAt leases t d'.task.id s s' := by
      rw [hs']
      exact start_step hinv hst
    obtain ⟨hreq, hlease, -⟩ : Owed leases d'.task (.drawn d'.workerId d'.lock)
        (s.taskView leases d'.task.id) := hhead.held.own _ List.mem_cons_self
    refine And.imp_right (fun h => ⟨d', hget, h⟩) (owes_moveWithin (a := .asCompleted (d :: ds))
      trivial hx hhead hstep (q := .started d'.workerId d'.lock _) rfl rfl (by rw [hs']) ?_)
    rw [hs']
    exact ⟨hreq, hlease, rfl⟩

theorem register_triple {lock : Option Lock} {handle : WorkerHandle} :
    Triple (coherence settings leases) t (Owes leases t (⟨task, .started wid lock handle⟩ :: hs))
      (.register task.id (some wid) handle) fun
        | .ok _ => Owes leases t (⟨task, .registered wid lock handle⟩ :: hs)
        | .error _ => fun _ => False := by
  refine triple_of_exec fun s hinv h => ⟨trivial, fun env r s' _ hx => ?_⟩
  have hst : s.hist.stage task.id = .claimed t (some wid) := h.held.stage _ List.mem_cons_self _ rfl
  obtain ⟨hreq, hlease, hproc⟩ : Owed leases task (.started wid lock handle)
      (s.taskView leases task.id) := h.held.own _ List.mem_cons_self
  have hstep : StepAt leases t task.id s s' := register_step hst hproc hx
  obtain ⟨rfl, hs'⟩ := register_eq hx
  refine owes_move (a := .register task.id (some wid) handle) trivial hx h hstep ?_ ?_ ?_
  · rintro st ⟨⟩
    rw [hs', History.record_register hst]
    exact setAt_same _ _ _
  · rw [hs']
    exact ⟨hreq, hlease, hproc⟩
  · exact fun _ h => h

/-- An activation that raises, or finds the claim gone, leaves everything as it is. -/
theorem activate_unowned {tid : TaskId} {worker : Worker} {workspace : String}
    {r : Except PyErr Bool} (hr : r ≠ .ok true)
    (hx : Sys.exec settings t (.store (.activateWorker tid worker workspace)) env s = (r, s')) :
    s' = s := by
  rcases store_cases hx with ⟨e, -, -, rfl⟩ | ⟨-, db', hexec, rfl⟩
  · rw [History.recordStore_activate_of_ne hr]
  rcases Store.StoreLemmas.activateWorker_cases hexec with ⟨rfl, -⟩ | ⟨row, hu, hrow, hd, rfl, -⟩
  · rw [History.recordStore_activate_of_ne hr]
  · exact absurd rfl hr

theorem activate_triple {d : Dispatch} {handle : WorkerHandle} {now : String} :
    Triple (coherence settings leases) t
      (Owes leases t (⟨d.task, .registered d.workerId d.lock handle⟩ :: hs))
      (.store (.activateWorker d.task.id (d.worker handle now) handle.workspace)) fun
        | .ok true => Owes leases t (⟨d.task, .activated d.workerId d.lock handle⟩ :: hs)
        | _ => Owes leases t (⟨d.task, .registered d.workerId d.lock handle⟩ :: hs) := by
  refine triple_of_exec fun s hinv h => ⟨trivial, fun env r s' hadmitted hx => ?_⟩
  have hst : s.hist.stage d.task.id = .registered t d.workerId :=
    h.held.stage _ List.mem_cons_self _ rfl
  obtain ⟨hreq, hlease, hproc⟩ : Owed leases d.task (.registered d.workerId d.lock handle)
      (s.taskView leases d.task.id) := h.held.own _ List.mem_cons_self
  have hwid : d.workerId = ⟨d.task.id, d.workerId.serial⟩ := worker_task hinv (by rw [hst]; rfl)
  have hstep : StepAt leases t d.task.id s s' := by
    have hworker : s.hist.stage d.task.id = .registered t (d.worker handle now).id := hst
    refine activate_step hworker hwid rfl rfl ?_ hx
    intro hleases row hrow hd
    refine ⟨hadmitted hleases, fun U => (hlease hleases U).trans ?_⟩
    unfold Task.AsksGpu
    rw [hreq row hrow hd]
    rfl
  by_cases hr : r = .ok true
  · subst hr
    refine owes_move
      (a := .store (.activateWorker d.task.id (d.worker handle now) handle.workspace)) trivial hx h
      hstep (q := .activated d.workerId d.lock handle) ?_ trivial ?_
    · rintro st ⟨⟩
    · intro hc
      rw [store_frame hx] at hc
      simp only [History.recordStore, setAt_same] at hc
      cases hc
  · obtain rfl : s' = s := activate_unowned hr hx
    refine ⟨hstep.step, ?_⟩
    rcases r with e | b
    · exact h
    · cases b with
      | false => exact h
      | true => exact absurd rfl hr

/-! ### The compensation -/

theorem stop_triple {lock : Option Lock} {handle : WorkerHandle} :
    Triple (coherence settings leases) t (Owes leases t (⟨task, .registered wid lock handle⟩ :: hs))
      (.stop handle (.dispatcher wid)) fun _ => Owes leases t (⟨task, .stopped wid lock⟩ :: hs) := by
  refine triple_of_exec fun s hinv h => ⟨trivial, fun env r s' _ hx => ?_⟩
  have hst : s.hist.stage task.id = .registered t wid := h.held.stage _ List.mem_cons_self _ rfl
  have hcalm (tid : TaskId) : Calm t (s.taskView leases tid) (s'.taskView leases tid) :=
    stop_calm hx tid
  obtain ⟨-, hlease, hproc⟩ : Owed leases task (.registered wid lock handle)
      (s.taskView leases task.id) := h.held.own _ List.mem_cons_self
  have hwid : wid = ⟨task.id, wid.serial⟩ := worker_task hinv (by rw [hst]; rfl)
  refine owes_moveWithin (a := .stop handle (.dispatcher wid)) trivial hx h
    ⟨.calm (hcalm task.id), fun tid _ => hcalm tid⟩ rfl rfl ?_ ⟨?_, ?_⟩
  · rcases stop_cases hx with ⟨-, rfl⟩ | ⟨e, -, rfl⟩ <;> rfl
  · unfold Leases at hlease ⊢
    rwa [(hcalm task.id).leased]
  · exact stop_stoppedAt hproc hwid hx

theorem unregister_triple {lock : Option Lock} :
    Triple (coherence settings leases) t (Owes leases t (⟨task, .stopped wid lock⟩ :: hs))
      (.unregister task.id (.dispatcher wid)) fun
        | .ok _ => Owes leases t (⟨task, .doomed wid lock⟩ :: hs)
        | .error _ => fun _ => False := by
  refine triple_of_exec fun s hinv h => ⟨trivial, fun env r s' _ hx => ?_⟩
  have hst : s.hist.stage task.id = .registered t wid := h.held.stage _ List.mem_cons_self _ rfl
  obtain ⟨hlease, hstop⟩ : Owed leases task (.stopped wid lock) (s.taskView leases task.id) :=
    h.held.own _ List.mem_cons_self
  have hstep : StepAt leases t task.id s s' := doom_step hst hstop hx
  obtain ⟨rfl, hs'⟩ := unregister_eq hx
  refine owes_move (a := .unregister task.id (.dispatcher wid)) trivial hx h hstep ?_ ?_ ?_
  · rintro st ⟨⟩
    rw [hs', History.record_unregister_registered hst]
    exact setAt_same _ _ _
  · rw [hs']
    exact hlease
  · exact fun _ h => h

theorem unlock_triple {kind : String} {lock : Lock}
    (hkind : resolveAdapter task = .ok (some kind)) (hp : Phase.Unlocks lock p q) :
    Triple (coherence settings leases) t (Owes leases t (⟨task, p⟩ :: hs))
      (.releaseId kind lock.resourceId lock.workerId)
        fun _ => Owes leases t (⟨task, q⟩ :: hs) := by
  refine triple_of_exec fun s hinv h => ⟨trivial, fun env r s' _ hx => ?_⟩
  have howed : Owed leases task p (s.taskView leases task.id) := h.held.own _ List.mem_cons_self
  obtain ⟨w, hlease, hrest, st, hst, hst', hc⟩ : ∃ w,
      (leases → (s.taskView leases task.id).Leases task w (some lock)) ∧
      (∀ v' : TaskView, v'.task = s.world.db.task? task.id →
        (v'.alive w.serial → (⟨task.id, w.serial⟩ : WorkerId) ∈ s.world.alive) →
        (leases → v'.Leases task w none) → Owed leases task q v') ∧
      ∃ st, p.stage t = some st ∧ q.stage t = some st ∧ st.claimer = some t := by
    cases hp with
    | drawn wid =>
      refine ⟨wid, howed.2.1, fun v' hrow halive hnone => ⟨fun row hr => ?_, hnone, fun hn => ?_⟩, _,
        rfl, rfl, rfl⟩
      · exact howed.1 row (hrow.symm.trans hr)
      · exact howed.2.2 (halive hn)
    | doomed wid => exact ⟨wid, howed, fun _ _ _ hnone => hnone, _, rfl, rfl, rfl⟩
  have hstage : s.hist.stage task.id = st := h.held.stage _ List.mem_cons_self st hst
  have hown (hleases : leases) (hgpu : kind = "gpu") :
      Dict.get? s.world.held lock.resourceId = some ⟨task.id, w.serial⟩ :=
    ((hlease hleases lock.resourceId).mpr ⟨rfl, (gpu_iff_asksGpu hkind).mp hgpu⟩).2
  have hstep : StepAt leases t task.id s s' := by
    refine releaseId_step (fun hleases hgpu => ⟨Or.inl (by rw [hstage]; exact hc), ?_⟩) hx
    intro w' hw'
    rw [hown hleases hgpu] at hw'
    rw [← Option.some.inj hw']
  have hnone (hleases : leases) : (s'.taskView leases task.id).Leases task w none := by
    refine fun U => ⟨fun hl => ?_, fun hl => (by cases hl.1)⟩
    rcases releaseId_eq hx with ⟨hgpu, rfl⟩ | ⟨hcpu, rfl⟩
    · have hheld : Dict.get? (Dict.pop s.world.held lock.resourceId) U =
          some ⟨task.id, w.serial⟩ := hl.2
      rw [Dict.get?_pop] at hheld
      split at hheld
      · cases hheld
      · next hne =>
        have hlock := ((hlease hleases) U).mp ⟨hleases, hheld⟩
        exact absurd (Option.some.inj hlock.1).symm hne
    · have hlock := ((hlease hleases) U).mp hl
      exact absurd ((gpu_iff_asksGpu hkind).mpr hlock.2) hcpu
  refine owes_moveWithin (a := .releaseId kind lock.resourceId lock.workerId) trivial hx h hstep hst
    hst' ?_ (hrest _ ?_ ?_ hnone)
  all_goals rcases releaseId_eq hx with ⟨-, rfl⟩ | ⟨-, rfl⟩
  all_goals first
    | rfl
    | exact fun hn => hn

/-- A claim with no handle, no lease and no worker is given up. -/
theorem release_triple {target : String} (hp : p.IsBare) (htarget : isReleaseTarget target) :
    Triple (coherence settings leases) t (Owes leases t (⟨task, p⟩ :: hs))
      (.store (.releaseTaskClaim task.id target))
        fun _ => Owes leases t (⟨task, .released⟩ :: hs) := by
  refine triple_of_exec fun s hinv h => ⟨trivial, fun env r s' _ hx => ?_⟩
  have howed : Owed leases task p (s.taskView leases task.id) := h.held.own _ List.mem_cons_self
  obtain ⟨st, hstage, hc⟩ := Phase.stage_of_not_resolved (p := p) t (by
    cases hp <;> exact fun h => h)
  have hst : (s.taskView leases task.id).stage = st := h.held.stage _ List.mem_cons_self st hstage
  have hclaimer : (s.hist.stage task.id).claimer = some t := by
    rw [← hc]
    exact congrArg Stage.claimer hst
  have hbare : (s.taskView leases task.id).handle = none ∧ (s.taskView leases task.id).Stopped ∧
      (s.taskView leases task.id).Unleased := by
    have hunleased {w : WorkerId} (hw : st.worker = some w)
        (hlease : leases → (s.taskView leases task.id).Leases task w none) :
        (s.taskView leases task.id).Unleased := by
      intro U n hl
      have hworker := ((hinv task.id).leased U n hl).2
      rw [hst, hw] at hworker
      have hn : n = w.serial := by rw [Option.some.inj hworker]
      subst hn
      have hnone := ((hlease hl.1) U).mp hl
      cases hnone.1
    cases hp with
    | drawn wid =>
      cases hstage
      refine ⟨(hinv task.id).no_handle (by rw [hst]; rfl), fun n hn => ?_, hunleased rfl howed.2.1⟩
      rcases (hinv task.id).alive n hn with hs | hr
      · exact hs
      · rw [hst] at hr
        have hn' : n = wid.serial := by
          have hwid : wid = ⟨task.id, n⟩ := Option.some.inj hr
          rw [hwid]
        subst hn'
        exact absurd hn howed.2.2
    | doomed wid =>
      cases hstage
      exact ⟨(hinv task.id).no_handle (by rw [hst]; rfl), (hinv task.id).stopped (by rw [hst]; rfl),
        hunleased rfl howed⟩
  have hstep : StepAt leases t task.id s s' :=
    release_step hclaimer hbare.1 hbare.2.1 hbare.2.2 htarget hx
  refine owes_move (a := .store (.releaseTaskClaim task.id target)) trivial hx h hstep
    (q := .released) ?_ trivial ?_
  · rintro st ⟨⟩
  · intro hc'
    rw [store_frame hx, History.recordStore_release hclaimer] at hc'
    simp only [setAt_same] at hc'
    cases hc'

theorem releaseAgain_triple {target : String} (htarget : isReleaseTarget target) :
    Triple (coherence settings leases) t (Owes leases t (⟨task, .released⟩ :: hs))
      (.store (.releaseTaskClaim task.id target))
        fun _ => Owes leases t (⟨task, .released⟩ :: hs) := by
  refine triple_of_exec fun s hinv h => ⟨trivial, fun env r s' _ hx => ?_⟩
  have hne : (s.hist.stage task.id).claimer ≠ some t := h.held.released_unclaimed
  refine owes_move (a := .store (.releaseTaskClaim task.id target)) trivial hx h
    (releaseAgain_step hne htarget hx) (q := .released) ?_ trivial ?_
  · rintro st ⟨⟩
  · intro hc
    rw [store_frame hx, History.recordStore_release_of_ne hne] at hc
    exact absurd hc hne

/-- The obligations of a dispatcher, in the contract of the control plane. -/
def obligations (settings : Settings) (leases : Prop) (t : ThreadId) :
    DispatcherSpec (coherence settings leases) t where
  holds := Owes leases t
  stable := fun _ => owes_stable
  quiet := by
    intro hs β a ha s hinv h
    refine ⟨retiresOwn_of_quiet ha s, fun env r s' _ hx => ?_⟩
    have hcore := sameCore_of_quiet ha hx
    refine ⟨fun tid => .calm (quiet_calm ha hx tid), h.held.keep (fun tid _ => by rw [hcore.stage])
      fun x _ hx' => owed_calm (quiet_calm ha hx _) hx', fun tid => ?_⟩
    rw [hcore.retirer]
    exact h.retirer tid
  perm := owes_perm
  claim := claim_triple settings.maxWorkers
  draw := fun _ _ => draw_triple
  acquire := fun _ _ _ _ hkind => acquire_triple hkind
  start := fun d ds _ => start_triple d ds
  register := fun _ _ _ _ _ => register_triple
  activate := fun _ _ _ _ => activate_triple
  stop := fun _ _ _ _ _ => stop_triple
  unregister := fun _ _ _ _ => unregister_triple
  unlock := fun _ _ _ _ _ _ hkind hp => unlock_triple hkind hp
  release := fun _ _ _ _ hp htarget => release_triple hp htarget
  releaseAgain := fun _ _ _ htarget => releaseAgain_triple htarget

end ObligationLemmas

end Flotilla
