import KerSorMonitor.Lib.Protocol
import KerSorMonitor.Flotilla.Effects
import KerSorMonitor.Flotilla.Dispatcher
import KerSorMonitor.Flotilla.Programs

/-!
# Fencing of claims

A claim carries no token. Two dispatchers of one task are kept apart only if the task is not
claimed again before the dispatcher of the earlier claim has activated its worker or given the
claim up.

Results:
1. `claims_fenced`: under this condition, whoever activates a worker owns the most recent
   claim, and a compensation drops only the handle of its own dispatcher.
-/

namespace Flotilla

open Keyed Threads

/-! ## The protocol of one task -/

/-- What the fencing of a task is about. -/
structure ClaimView where
  stage : Stage
  lastClaim : Option (ThreadId × Option WorkerId)
  handle : Option HandleEntry

def Sys.claimView (s : Sys) (tid : TaskId) : ClaimView :=
  ⟨s.hist.stage tid, s.hist.lastClaim tid, Dict.get? s.world.handles tid⟩

namespace ClaimView

/-- An unresolved claim is the most recent one, and a registered handle is its own. -/
def Inv (v : ClaimView) : Prop :=
  (∀ t, v.stage.claimer = some t → v.lastClaim = some (t, v.stage.worker)) ∧
  ∀ t w, v.stage = .registered t w → ∀ e, v.handle = some e → e.1 = some w

/-- A step that resolves no claim and makes none: it may drop the handle. -/
structure Plain (v v' : ClaimView) : Prop where
  stage : v'.stage = v.stage ∨ v.stage.claimer = none ∧ v'.stage.claimer = none
  lastClaim : v'.lastClaim = v.lastClaim
  handle : v'.handle = v.handle ∨ v'.handle = none

theorem Plain.refl (v : ClaimView) : Plain v v := ⟨Or.inl rfl, rfl, Or.inl rfl⟩

/-- The steps of thread `t` on one task. -/
inductive Step (t : ThreadId) : ClaimView → ClaimView → Prop
  | plain {v v' : ClaimView} : Plain v v' → Step t v v'
  | claim {st : Stage} (lc : Option (ThreadId × Option WorkerId)) (e : Option HandleEntry) :
      st.claimer = none → Step t ⟨st, lc, e⟩ ⟨.claimed t none, some (t, none), e⟩
  | draw (w : WorkerId) (e : Option HandleEntry) :
      Step t ⟨.claimed t none, some (t, none), e⟩ ⟨.claimed t (some w), some (t, some w), e⟩
  | register (w : WorkerId) (lc : Option (ThreadId × Option WorkerId)) (e : Option HandleEntry)
      (h : WorkerHandle) :
      Step t ⟨.claimed t (some w), lc, e⟩ ⟨.registered t w, lc, some (some w, h)⟩
  | doom (w : WorkerId) (lc : Option (ThreadId × Option WorkerId)) (e : Option HandleEntry) :
      Step t ⟨.registered t w, lc, e⟩ ⟨.doomed t w, lc, none⟩
  | resolve {st st' : Stage} (lc : Option (ThreadId × Option WorkerId)) (e : Option HandleEntry) :
      st.claimer = some t → st'.claimer = none → Step t ⟨st, lc, e⟩ ⟨st', lc, e⟩

/-- A dispatcher relies on its claims: they stay, and their handles are at most dropped. -/
def Rely (t : ThreadId) (v v' : ClaimView) : Prop :=
  v.stage.claimer = some t ∨ v'.stage.claimer = some t →
    v'.stage = v.stage ∧ ∀ e, v'.handle = some e → v.handle = some e

theorem Rely.trans {t : ThreadId} {v v' v'' : ClaimView} (h : Rely t v v') (h' : Rely t v' v'') :
    Rely t v v'' := by
  intro hclaim
  by_cases hmid : v'.stage.claimer = some t
  · obtain ⟨hst, he⟩ := h (Or.inr hmid)
    obtain ⟨hst', he'⟩ := h' (Or.inl hmid)
    exact ⟨hst'.trans hst, fun e h => he e (he' e h)⟩
  · rcases hclaim with hc | hc
    · exact absurd ((h (Or.inl hc)).1 ▸ hc) hmid
    · exact absurd ((h' (Or.inr hc)).1 ▸ hc) hmid

/-- A view with no unresolved claim keeps the invariant. -/
theorem inv_of_claimer_none {st : Stage} (lc : Option (ThreadId × Option WorkerId))
    (e : Option HandleEntry) (h : st.claimer = none) : Inv ⟨st, lc, e⟩ := by
  refine ⟨fun t ht => ?_, fun t w hst => ?_⟩
  · exact absurd (h.symm.trans ht) (by simp)
  · subst hst
    cases h

theorem inv_step {t : ThreadId} {v v' : ClaimView} (hinv : v.Inv) (h : Step t v v') : v'.Inv := by
  cases h with
  | plain h =>
    rcases h.stage with hst | ⟨-, hst⟩
    · refine ⟨by rw [hst, h.lastClaim]; exact hinv.1, fun t w hw e he => ?_⟩
      rcases h.handle with heq | heq
      · exact hinv.2 t w (hst ▸ hw) e (heq ▸ he)
      · rw [heq] at he
        cases he
    · exact inv_of_claimer_none _ _ hst
  | claim | draw | doom => simp_all [Inv, Stage.claimer, Stage.worker]
  | register w lc e h =>
    refine ⟨fun t' ht' => hinv.1 t' ht', fun t' w' hst e' he' => ?_⟩
    cases hst
    cases he'
    rfl
  | resolve lc e _ hst' => exact inv_of_claimer_none lc e hst'

theorem rely_step {t t' : ThreadId} {v v' : ClaimView} (h : Step t v v') (hne : t' ≠ t) :
    Rely t' v v' := by
  intro hclaim
  have hne' : t ≠ t' := fun heq => hne heq.symm
  cases h with
  | plain h =>
    rcases h.stage with hst | ⟨hst, hst'⟩
    · refine ⟨hst, fun e he => ?_⟩
      rcases h.handle with heq | heq
      · rwa [heq] at he
      · rw [heq] at he
        cases he
    · simp [hst, hst'] at hclaim
  | claim | draw | register | doom | resolve => simp_all [Stage.claimer]

/-- The protocol of one task. -/
def protocol : Protocol ClaimView where
  inv := Inv
  step := Step
  leave _ v v' := v' = v
  clean t v := v.stage.claimer ≠ some t
  inv_step := inv_step
  clean_step := by
    rintro t t' v v' - hne (h | rfl) hclean hclaim
    · exact hclean (((rely_step h hne.symm) (Or.inr hclaim)).1 ▸ hclaim)
    · exact hclean hclaim

/-- A dispatcher relies on its claims. -/
theorem rely_of_others {t : ThreadId} {v v' : ClaimView} (h : protocol.Rely t v v') :
    Rely t v v' := by
  induction h with
  | refl => exact fun _ => ⟨rfl, fun _ h => h⟩
  | tail _ hother ih =>
    obtain ⟨-, t', hne, hstep | rfl⟩ := hother
    · exact ih.trans (rely_step hstep hne.symm)
    · exact ih

end ClaimView

/-! ## The actions -/

namespace FencingLemmas

open ClaimView QuietLemmas Effects

variable {settings : Settings} {t : ThreadId} {env : Env} {s s' : Sys} {tid : TaskId}

/-- A transaction that dispatches nothing only marks the retirement that it commits. -/
theorem recordStore_of_undispatched {α : Type} {q : Transaction α} (hq : q.Undispatched True)
    (r : Except PyErr α) (h : History) (tid : TaskId) :
    (h.recordStore t q r).lastClaim = h.lastClaim ∧
      ((h.recordStore t q r).stage tid = h.stage tid ∨
        (h.stage tid).claimer = none ∧ ((h.recordStore t q r).stage tid).claimer = none) := by
  cases q with
  | claimQueuedTasks | releaseTaskClaim | activateWorker | createWorker => exact hq.elim
  | finishWorker tid' wid terminalState event =>
    rcases r with e | committed
    · exact ⟨rfl, Or.inl rfl⟩
    cases committed with
    | false => exact ⟨rfl, Or.inl rfl⟩
    | true =>
      simp only [History.recordStore]
      split
      · next wid' hst =>
        refine ⟨rfl, ?_⟩
        simp only [setAt_apply]
        split
        · next heq =>
          subst heq
          rw [hst]
          exact Or.inr ⟨rfl, rfl⟩
        · exact Or.inl rfl
      · exact ⟨rfl, Or.inl rfl⟩
  | getWorker wid =>
    simp only [History.recordStore]
    split <;> exact ⟨rfl, Or.inl rfl⟩
  | createTasks ts => cases r <;> exact ⟨rfl, Or.inl rfl⟩
  | _ => exact ⟨rfl, Or.inl rfl⟩

theorem plain_of_sameCore (h : SameCore t s s') (tid : TaskId) :
    Plain (s.claimView tid) (s'.claimView tid) := by
  unfold Sys.claimView
  rw [h.stage, h.lastClaim, h.handles]
  exact .refl _

/-- Dropping a handle without being its dispatcher. -/
theorem plain_unregister {caller : Caller} {tid' : TaskId}
    (hcaller : ∀ wid, caller ≠ .dispatcher wid) {r : Except PyErr Unit}
    (h : Sys.exec settings t (.unregister tid' caller) env s = (r, s')) (tid : TaskId) :
    Plain (s.claimView tid) (s'.claimView tid) := by
  obtain ⟨-, rfl⟩ := unregister_eq h
  rw [History.record_unregister hcaller]
  refine ⟨?_, ?_, ?_⟩
  · simp only [Sys.claimView, History.close]
    split
    · next t' w hst =>
      split
      · simp only [setAt_apply]
        split
        · next heq =>
          rw [heq, hst]
          exact Or.inr ⟨rfl, rfl⟩
        · exact Or.inl rfl
      · exact Or.inl rfl
    · exact Or.inl rfl
  · simp only [Sys.claimView, History.close]
    repeat' split
    all_goals rfl
  · simp only [Sys.claimView, Dict.get?_pop]
    split
    · exact Or.inr rfl
    · exact Or.inl rfl

/-- An action that dispatches nothing. -/
theorem plain_of_undispatched {β : Type} {a : Act β} (ha : a.Undispatched True) {r : Except PyErr β}
    (h : Sys.exec settings t a env s = (r, s')) (tid : TaskId) :
    Plain (s.claimView tid) (s'.claimView tid) := by
  cases a with
  | store q =>
    rw [store_frame h]
    obtain ⟨hlc, hst⟩ := recordStore_of_undispatched ha r s.hist tid
    exact ⟨hst, congrFun hlc tid, Or.inl rfl⟩
  | unregister tid' caller =>
    refine plain_unregister (fun wid heq => ?_) h tid
    subst heq
    exact ha.elim
  | beginRetire tid' =>
    rcases beginRetire_cases h with ⟨-, -, rfl⟩ | ⟨-, -, rfl⟩ <;> exact .refl _
  | endRetire tid' =>
    obtain ⟨-, rfl⟩ := endRetire_eq h
    exact .refl _
  | releaseId kind rid wid =>
    rcases releaseId_eq h with ⟨-, rfl⟩ | ⟨-, rfl⟩ <;> exact .refl _
  | stop handle caller =>
    rcases stop_cases h with ⟨-, rfl⟩ | ⟨e, -, rfl⟩ <;> exact .refl _
  | newWorkerId | register | acquire | asCompleted => exact ha.elim
  | _ => exact plain_of_sameCore (sameCore_of_quiet (by exact trivial) h) tid

end FencingLemmas

/-! ## The contract -/

/-- A task is claimed only when its earlier claims are resolved. -/
def ClaimsResolved : {β : Type} → Act β → Sys → Prop
  | _, .store (.claimQueuedTasks maxActive), s =>
    ∀ task ∈ Store.StoreLemmas.claimSelection maxActive s.world.db,
      (s.hist.stage task.id).claimer = none
  | _, _, _ => True

/-- A worker is activated for the most recent claim of its task, and a dispatcher drops only
its own handle. -/
def FencedAct (t : ThreadId) : {β : Type} → Act β → Sys → Prop
  | _, .store (.activateWorker tid worker _), s => s.hist.lastClaim tid = some (t, some worker.id)
  | _, .unregister tid (.dispatcher wid), s =>
    ∀ e, Dict.get? s.world.handles tid = some e → e.1 = some wid
  | _, _, _ => True

/-- What the dispatchers promise each other. -/
def fencing (settings : Settings) : Contract (controlPlane settings) :=
  ClaimView.protocol.contract (controlPlane settings) Sys.claimView
    (fun _ _ a _ s => ClaimsResolved a s) (fun t _ a s => FencedAct t a s)

namespace FencingLemmas

open ClaimView QuietLemmas Effects

variable {settings : Settings} {t : ThreadId} {s s' : Sys}

theorem fenced_of_undispatched {β : Type} {a : Act β} (ha : a.Undispatched True) (s : Sys) :
    FencedAct t a s := by
  cases a with
  | store q =>
    cases q with
    | activateWorker => exact ha.elim
    | _ => trivial
  | unregister tid caller =>
    cases caller with
    | dispatcher wid => exact ha.elim
    | _ => trivial
  | _ => trivial

/-- Other operations keep the contract, and claim nothing. -/
theorem undispatched_neutral :
    Neutral (fencing settings) t (Act.Undispatched True) ((fencing settings).clean t) := by
  intro β a ha s hinv hclean
  refine ⟨fenced_of_undispatched ha s, fun env r s' _ hexec => ?_⟩
  have hplain := plain_of_undispatched ha hexec
  refine ⟨fun tid => .plain (hplain tid), fun tid hc => ?_⟩
  rcases (hplain tid).stage with hst | ⟨-, hst⟩
  · exact hclean tid (hst ▸ hc)
  · exact absurd (hst.symm.trans hc) (by simp)

/-! ### The dispatcher -/

/-- The obligations of a dispatcher, in this contract: its claims. -/
abbrev Claims (t : ThreadId) : List Holding → Sys → Prop := Held t fun _ _ => True

variable {task : Task} {p p' : Phase} {hs : List Holding} {wid : WorkerId}

/-- A step at one task. -/
theorem guar_head (tid₀ : TaskId) (hother : ∀ tid, tid ≠ tid₀ → s'.claimView tid = s.claimView tid)
    (hhead : Step t (s.claimView tid₀) (s'.claimView tid₀)) : (fencing settings).guar t s s' := by
  intro tid
  by_cases htid : tid = tid₀
  · exact htid ▸ hhead
  · rw [hother tid htid]
    exact .plain (.refl _)

/-- An action that does not concern the claims moves an obligation within its stage. -/
theorem silent {st : Stage} (p' : Phase) (s' : Sys)
    (h : Claims t (⟨task, p⟩ :: hs) s) (hp : p.stage t = some st) (hp' : p'.stage t = some st)
    (hstage : s'.hist.stage = s.hist.stage) (hlast : s'.hist.lastClaim = s.hist.lastClaim)
    (hhandles : s'.world.handles = s.world.handles) :
    (fencing settings).guar t s s' ∧ Claims t (⟨task, p'⟩ :: hs) s' := by
  refine ⟨fun tid => ?_, h.moveWithin hp hp' hstage (fun _ _ _ _ => trivial) trivial⟩
  unfold Sys.claimView
  rw [hstage, hlast, hhandles]
  exact .plain (.refl _)

/-- The last claim of an unresolved claim. -/
theorem lastClaim_of_claimer (hinv : (fencing settings).inv s) {tid : TaskId} {st : Stage}
    (hst : s.hist.stage tid = st) (hc : st.claimer = some t) :
    s.hist.lastClaim tid = some (t, st.worker) := by
  subst hst
  exact (hinv tid).1 t hc

theorem claim_triple (maxActive : Int) :
    Triple (fencing settings) t (Claims t []) (.store (.claimQueuedTasks maxActive)) fun
      | .ok tasks => Claims t (tasks.map fun task => ⟨task, .claimed⟩)
      | .error _ => Claims t [] := by
  refine triple_of_exec fun s hinv h => ⟨trivial, fun env r s' hassume hexec => ?_⟩
  rcases claim_cases hexec with ⟨e, rfl, rfl⟩ | ⟨rfl, rfl⟩
  · exact ⟨fun tid => .plain (.refl _), h⟩
  refine ⟨fun tid => ?_, Held.of_claim h ?_ fun _ _ => trivial⟩
  · simp only [Sys.claimView, History.claim]
    split
    · next hmem =>
      rw [Store.StoreLemmas.map_id_claimedRow] at hmem
      obtain ⟨task, htask, rfl⟩ := List.mem_map.mp hmem
      exact .claim _ _ (hassume task htask)
    · exact .plain (.refl _)
  · rw [Store.StoreLemmas.map_id_claimedRow]
    exact Store.StoreLemmas.nodup_claimSelection maxActive s.world.db

theorem draw_triple : Triple (fencing settings) t (Claims t (⟨task, .claimed⟩ :: hs))
    (.newWorkerId task.id) fun
      | .ok wid => Claims t (⟨task, .drawn wid none⟩ :: hs)
      | .error _ => fun _ => False := by
  refine triple_of_exec fun s hinv h => ⟨trivial, fun env r s' _ hexec => ?_⟩
  obtain ⟨rfl, rfl⟩ := newWorkerId_eq hexec
  have hst := h.stage _ List.mem_cons_self _ rfl
  have hlc := lastClaim_of_claimer hinv hst rfl
  rw [History.record_newWorkerId hst hlc]
  refine ⟨guar_head task.id (fun tid htid => ?_) ?_, ?_⟩
  · simp only [Sys.claimView, setAt_of_ne _ _ htid]
  · simp only [Sys.claimView, setAt_same, hst, hlc]
    exact .draw _ _
  · refine h.move (fun tid htid => setAt_of_ne _ _ htid) (fun _ _ _ _ => trivial)
      (fun st hst => ?_) trivial fun _ => fun hres => hres
    cases hst
    exact setAt_same _ _ _

theorem register_triple {lock : Option Lock} {handle : WorkerHandle} :
    Triple (fencing settings) t (Claims t (⟨task, .started wid lock handle⟩ :: hs))
      (.register task.id (some wid) handle) fun
        | .ok _ => Claims t (⟨task, .registered wid lock handle⟩ :: hs)
        | .error _ => fun _ => False := by
  refine triple_of_exec fun s hinv h => ⟨trivial, fun env r s' _ hexec => ?_⟩
  obtain ⟨rfl, rfl⟩ := register_eq hexec
  have hst := h.stage _ List.mem_cons_self _ rfl
  rw [History.record_register hst]
  refine ⟨guar_head task.id (fun tid htid => ?_) ?_, ?_⟩
  · simp only [Sys.claimView, setAt_of_ne _ _ htid, Dict.get?_set, htid, ↓reduceIte]
  · simp only [Sys.claimView, setAt_same, hst, Dict.get?_set, ↓reduceIte]
    exact .register _ _ _ _
  · refine h.move (fun tid htid => setAt_of_ne _ _ htid) (fun _ _ _ _ => trivial)
      (fun st hst => ?_) trivial fun _ => fun hres => hres
    cases hst
    exact setAt_same _ _ _

theorem unregister_triple {lock : Option Lock} :
    Triple (fencing settings) t (Claims t (⟨task, .stopped wid lock⟩ :: hs))
      (.unregister task.id (.dispatcher wid)) fun
        | .ok _ => Claims t (⟨task, .doomed wid lock⟩ :: hs)
        | .error _ => fun _ => False := by
  refine triple_of_exec fun s hinv h => ?_
  have hst := h.stage _ List.mem_cons_self _ rfl
  refine ⟨fun e he => (hinv task.id).2 t wid hst e he, fun env r s' _ hexec => ?_⟩
  obtain ⟨rfl, rfl⟩ := unregister_eq hexec
  rw [History.record_unregister_registered hst]
  refine ⟨guar_head task.id (fun tid htid => ?_) ?_, ?_⟩
  · simp only [Sys.claimView, setAt_of_ne _ _ htid, Dict.get?_pop, htid, ↓reduceIte]
  · simp only [Sys.claimView, setAt_same, hst, Dict.get?_pop, ↓reduceIte]
    exact .doom _ _ _
  · refine h.move (fun tid htid => setAt_of_ne _ _ htid) (fun _ _ _ _ => trivial)
      (fun st hst => ?_) trivial fun _ => fun hres => hres
    cases hst
    exact setAt_same _ _ _

theorem activate_triple {d : Dispatch} {handle : WorkerHandle} {now : String} :
    Triple (fencing settings) t
      (Claims t (⟨d.task, .registered d.workerId d.lock handle⟩ :: hs))
      (.store (.activateWorker d.task.id (d.worker handle now) handle.workspace)) fun
        | .ok true => Claims t (⟨d.task, .activated d.workerId d.lock handle⟩ :: hs)
        | _ => Claims t (⟨d.task, .registered d.workerId d.lock handle⟩ :: hs) := by
  refine triple_of_exec fun s hinv h => ?_
  have hst := h.stage _ List.mem_cons_self _ rfl
  refine ⟨lastClaim_of_claimer hinv hst rfl, fun env r s' _ hexec => ?_⟩
  rw [store_frame hexec]
  by_cases hr : r = .ok true
  · subst hr
    refine ⟨guar_head d.task.id (fun tid htid => ?_) ?_, ?_⟩
    · simp only [Sys.claimView, History.recordStore, setAt_of_ne _ _ htid]
    · simp only [Sys.claimView, History.recordStore, setAt_same, hst]
      exact .resolve _ _ rfl rfl
    · refine h.move (fun tid htid => setAt_of_ne _ _ htid) (fun _ _ _ _ => trivial)
        (fun st hst => by cases hst) trivial fun hc => ?_
      simp only [History.recordStore, setAt_same] at hc
      cases hc
  · rw [History.recordStore_activate_of_ne hr]
    have hsame : (fencing settings).guar t s ⟨{ s.world with db := s'.world.db }, s.hist⟩ ∧ _ :=
      silent (.registered d.workerId d.lock handle) _ h rfl rfl rfl rfl rfl
    refine ⟨hsame.1, ?_⟩
    rcases r with e | b
    · exact hsame.2
    · cases b with
      | false => exact hsame.2
      | true => exact absurd rfl hr

theorem release_triple {target : String} (hp : p.IsBare) :
    Triple (fencing settings) t (Claims t (⟨task, p⟩ :: hs))
      (.store (.releaseTaskClaim task.id target))
        fun _ => Claims t (⟨task, .released⟩ :: hs) := by
  refine triple_of_exec fun s hinv h => ⟨trivial, fun env r s' _ hexec => ?_⟩
  obtain ⟨st, hstage, hc⟩ := Phase.stage_of_not_resolved (p := p) t (by
    cases hp <;> exact fun h => h)
  have hst := h.stage _ List.mem_cons_self st hstage
  rw [store_frame hexec, History.recordStore_release (by rw [hst]; exact hc)]
  refine ⟨guar_head task.id (fun tid htid => ?_) ?_, ?_⟩
  · simp only [Sys.claimView, setAt_of_ne _ _ htid]
  · simp only [Sys.claimView, setAt_same, hst]
    exact .resolve _ _ hc rfl
  · refine h.move (fun tid htid => setAt_of_ne _ _ htid) (fun _ _ _ _ => trivial)
      (fun st hst => by cases hst) trivial fun hc => ?_
    simp only [setAt_same] at hc
    cases hc

theorem releaseAgain_triple {target : String} :
    Triple (fencing settings) t (Claims t (⟨task, .released⟩ :: hs))
      (.store (.releaseTaskClaim task.id target))
        fun _ => Claims t (⟨task, .released⟩ :: hs) := by
  refine triple_of_exec fun s hinv h => ⟨trivial, fun env r s' _ hexec => ?_⟩
  have hne : (s.hist.stage task.id).claimer ≠ some t := h.released_unclaimed
  rw [store_frame hexec, History.recordStore_release_of_ne hne]
  exact ⟨fun tid => .plain (.refl _), h.keep (fun _ _ => rfl) fun _ _ _ => trivial⟩

theorem acquire_triple {kind : String} :
    Triple (fencing settings) t (Claims t (⟨task, .drawn wid none⟩ :: hs))
      (.acquire kind wid task.resourceReq) fun
        | .ok (some lock) => fun s =>
          lock.workerId = wid ∧ Claims t (⟨task, .drawn wid (some lock)⟩ :: hs) s
        | _ => Claims t (⟨task, .drawn wid none⟩ :: hs) := by
  refine triple_of_exec fun s hinv h => ⟨trivial, fun env r s' _ hexec => ?_⟩
  rcases acquire_cases hexec with ⟨hno, rfl⟩ | ⟨uuid, -, -, -, rfl, rfl⟩ | ⟨-, rfl, rfl⟩
  · refine ⟨fun tid => .plain (.refl _), ?_⟩
    rcases r with e | lock
    · exact h
    · cases lock with
      | none => exact h
      | some lock => exact absurd rfl (hno lock)
  · exact And.imp_right (fun h => ⟨rfl, h⟩)
      (silent (.drawn wid (some ⟨uuid, wid⟩)) _ h rfl rfl rfl rfl rfl)
  · exact And.imp_right (fun h => ⟨rfl, h⟩)
      (silent (.drawn wid (some ⟨"cpu", wid⟩)) _ h rfl rfl rfl rfl rfl)

theorem start_triple (d : Dispatch) (ds : List Dispatch) :
    Triple (fencing settings) t (Claims t ((d :: ds).map Dispatch.prepared ++ hs))
      (.asCompleted (d :: ds)) fun
        | .ok (i, started) => fun s => ∃ d', (d :: ds)[i]? = some d' ∧
          Claims t (d'.started started ::
            (((d :: ds).eraseIdx i).map Dispatch.prepared ++ hs)) s
        | .error _ => fun _ => False := by
  refine triple_of_exec fun s hinv h => ⟨trivial, fun env r s' _ hexec => ?_⟩
  obtain ⟨i, d', hget, hcase⟩ := asCompleted_cases (List.cons_ne_nil d ds) hexec
  have hhead := h.perm (((perm_eraseIdx hget).map Dispatch.prepared).append_right hs)
  rcases hcase with ⟨e, rfl, rfl⟩ | ⟨rfl, rfl⟩
  · exact ⟨fun tid => .plain (.refl _), d', hget, hhead⟩
  · exact And.imp_right (fun h => ⟨d', hget, h⟩)
      (silent (.started d'.workerId d'.lock _) _ hhead rfl rfl rfl rfl rfl)

theorem stop_triple {lock : Option Lock} {handle : WorkerHandle} :
    Triple (fencing settings) t (Claims t (⟨task, .registered wid lock handle⟩ :: hs))
      (.stop handle (.dispatcher wid)) fun _ => Claims t (⟨task, .stopped wid lock⟩ :: hs) := by
  refine triple_of_exec fun s hinv h => ⟨trivial, fun env r s' _ hexec => ?_⟩
  rcases stop_cases hexec with ⟨-, rfl⟩ | ⟨e, -, rfl⟩ <;>
    exact silent _ _ h rfl rfl rfl rfl rfl

theorem unlock_triple {kind : String} {lock : Lock} (hp : Phase.Unlocks lock p p') :
    Triple (fencing settings) t (Claims t (⟨task, p⟩ :: hs))
      (.releaseId kind lock.resourceId lock.workerId) fun _ => Claims t (⟨task, p'⟩ :: hs) := by
  refine triple_of_exec fun s hinv h => ⟨trivial, fun env r s' _ hexec => ?_⟩
  rcases releaseId_eq hexec with ⟨-, rfl⟩ | ⟨-, rfl⟩ <;> cases hp <;>
    exact silent _ _ h rfl rfl rfl rfl rfl

/-- The obligations of a dispatcher. -/
def dispatcher (settings : Settings) (t : ThreadId) :
    DispatcherSpec (fencing settings) t where
  holds := Claims t
  stable := fun hs s s' h hrely =>
    h.keep (fun tid hc => (rely_of_others (hrely tid) hc).1) fun _ _ _ => trivial
  quiet := by
    intro hs β a ha s hinv h
    refine ⟨fenced_of_undispatched ha.undispatched s, fun env r s' _ hexec => ?_⟩
    have hcore := sameCore_of_quiet ha hexec
    refine ⟨fun tid => .plain (plain_of_sameCore hcore tid), ?_⟩
    exact h.keep (fun tid _ => by rw [hcore.stage]) fun _ _ _ => trivial
  perm := Held.perm
  claim := claim_triple settings.maxWorkers
  draw := fun _ _ => draw_triple
  acquire := fun _ _ _ _ _ => acquire_triple
  start := fun d ds _ => start_triple d ds
  register := fun _ _ _ _ _ => register_triple
  activate := fun _ _ _ _ => activate_triple
  stop := fun _ _ _ _ _ => stop_triple
  unregister := fun _ _ _ _ => unregister_triple
  unlock := fun _ _ _ _ _ _ _ hp => unlock_triple hp
  release := fun _ _ _ _ hp _ => release_triple hp
  releaseAgain := fun _ _ _ _ => releaseAgain_triple

/-! ### Soundness -/

/-- The end of a thread without a claim. -/
theorem finishes (hclean : (fencing settings).clean t s) : (fencing settings).Finishes t s :=
  fun hinv => ⟨hinv, hclean, fun t' _ => (fencing settings).rely_refl t' s⟩

theorem tick_finishes (hclean : (fencing settings).clean t s) :
    Safe (fencing settings) t (discard (tick settings)) (fun _ => (fencing settings).clean t) s := by
  refine Safe.seq ((dispatcher settings t).tick_safe (Held.nil hclean)) (fun n s h => ?_)
    fun _ s h => ?_
  · obtain ⟨hs, hres, h⟩ := h
    exact h.clean hres.1
  · exact h.clean fun _ hx => absurd hx List.not_mem_nil

end FencingLemmas

open FencingLemmas in
/-- Every operation but the reconciliation at startup keeps the contract. -/
theorem fencing_sound (settings : Settings) :
    (fencing settings).Sound (· ≠ .reconcileRunning) True where
  safe := by
    intro op hop t s hinv hclean
    suffices h : Safe (fencing settings) t (op.program settings)
        (fun _ => (fencing settings).clean t) s from h.mono fun _ _ h => finishes h
    cases op with
    | tick => exact tick_finishes hclean
    | reconcileRunning => exact absurd rfl hop
    | _ =>
      exact Safe.of_all (fun _ _ => (fencing settings).clean_rely) undispatched_neutral
        (program_undispatched (by exact trivial)) hclean
  restart := by
    intro _ s hinv
    exact ⟨fun tid => ClaimView.inv_of_claimer_none _ _ rfl, fun t tid hc => by cases hc⟩

/-- What a step of thread `t` may do: activate a worker of its own, most recent claim, and as a
dispatcher drop no other handle than its own. -/
def FencedStep (settings : Settings) (t : ThreadId) (env : Env) : {β : Type} → Act β → Sys → Prop
  | _, .store (.activateWorker tid worker workspace), s =>
    (Sys.exec settings t (.store (.activateWorker tid worker workspace)) env s).1 = .ok true →
      s.hist.lastClaim tid = some (t, some worker.id)
  | _, .unregister tid (.dispatcher wid), s =>
    ∀ e, Dict.get? s.world.handles tid = some e → e.1 = some wid
  | _, _, _ => True

/-- Whatever step comes next is fenced. -/
def Fenced (settings : Settings) (c : Config Act PyErr Sys) : Prop :=
  ∀ (t : ThreadId) (env : Env), c.Next t fun a => FencedStep settings t env a c.shared

/-- The events of the runs: any operation but the reconciliation at startup, where a claim is
made only when the earlier claims of its tasks are resolved. -/
def ClaimsApart (c : Config Act PyErr Sys) : Threads.Event Env Op → Prop
  | .spawn op => op ≠ .reconcileRunning
  | .step t _ => c.Next t fun a => ClaimsResolved a c.shared
  | .restart => True

instance decidableClaimsResolved {β : Type} (a : Act β) (s : Sys) :
    Decidable (ClaimsResolved a s) := by
  cases a with
  | store q =>
    cases q with
    | claimQueuedTasks maxActive => exact inferInstanceAs (Decidable (∀ task ∈ _, _))
    | _ => exact isTrue trivial
  | _ => exact isTrue trivial

instance decidableClaimsApart (c : Config Act PyErr Sys) (ev : Threads.Event Env Op) :
    Decidable (ClaimsApart c ev) := by
  cases ev with
  | spawn op =>
    cases op with
    | reconcileRunning => exact isFalse fun h => h rfl
    | _ => exact isTrue fun h => by cases h
  | step t env => exact inferInstanceAs (Decidable (c.Next t _))
  | restart => exact isTrue trivial

instance decidableFencedStep (settings : Settings) (t : ThreadId) (env : Env) {β : Type}
    (a : Act β) (s : Sys) : Decidable (FencedStep settings t env a s) := by
  cases a with
  | store q =>
    cases q with
    | activateWorker => exact inferInstanceAs (Decidable (_ → _))
    | _ => exact isTrue trivial
  | unregister tid caller =>
    cases caller with
    | dispatcher wid =>
      exact decidable_of_iff (∀ e ∈ Dict.get? s.world.handles tid, e.1 = some wid) (Iff.of_eq rfl)
    | _ => exact isTrue trivial
  | _ => exact isTrue trivial

/-- Under this condition every activation is the one of the most recent claim, and no
compensation drops the handle of another dispatcher. -/
theorem claims_fenced (settings : Settings) (db : Db) (events : List (Threads.Event Env Op))
    (h : Config.Along (controlPlane settings) ClaimsApart events (Config.initial (Sys.boot db))) :
    Fenced settings (Config.run (controlPlane settings) events (Config.initial (Sys.boot db))) := by
  have hinit : (fencing settings).Holds (Config.initial (Sys.boot db)) :=
    Contract.holds_initial (fun tid => ClaimView.inv_of_claimer_none _ _ rfl)
      fun t tid hc => by cases hc
  have hok : Config.Along (controlPlane settings)
      ((fencing settings).Permits (· ≠ .reconcileRunning) True) events
      (Config.initial (Sys.boot db)) :=
    Config.along_mono (fun c ev hok => by cases ev <;> exact hok) h
  intro t env β a k hget
  have hcheck := ((fencing_sound settings).holds_run hok hinit).check t β a k hget
  cases a with
  | store q =>
    cases q with
    | activateWorker => exact fun _ => hcheck
    | _ => trivial
  | unregister tid caller =>
    cases caller with
    | dispatcher wid => exact hcheck
    | _ => trivial
  | _ => trivial

/-- Two dispatchers, one after the other: the claim of the first is resolved when the second
claims the recovered task. -/
def recoveredTwiceRun : List (Threads.Event Env Op) :=
  [.spawn (.createProject { id := "p", name := "p" })] ++ steps 0 1 ++
  [.spawn (.createTasks "p" [{ id := "T", name := "n", spec := "s" }])] ++ steps 1 12 ++
  [.spawn .tick] ++ steps 2 4 ++
  [.spawn .sweep] ++ stepsAt ⟨"2", "2"⟩ 3 2 ++ steps 2 20 ++
  [.spawn (.recover "T")] ++ steps 4 1 ++
  [.spawn .tick] ++ steps 5 7

set_option maxRecDepth 10000 in
theorem claims_fenced_recoveredTwiceRun :
    Fenced {} (Config.run (controlPlane {}) recoveredTwiceRun
      (Config.initial (Sys.boot Db.init))) :=
  claims_fenced {} Db.init recoveredTwiceRun (by decide)

/-- The first dispatcher has claimed `T` and waits for its start. Its claim expires, the
operator queues `T` again, a second dispatcher claims it, and the start returns. -/
def recoveredClaimRun : List (Threads.Event Env Op) :=
  [.spawn (.createProject { id := "p", name := "p" })] ++ steps 0 1 ++
  [.spawn (.createTasks "p" [{ id := "T", name := "n", spec := "s" }])] ++ steps 1 12 ++
  [.spawn .tick] ++ steps 2 4 ++
  [.spawn .sweep] ++ stepsAt ⟨"2", "2"⟩ 3 2 ++
  [.spawn (.recover "T")] ++ steps 4 1 ++
  [.spawn .tick] ++ steps 5 4 ++
  steps 2 3

set_option maxRecDepth 10000 in
/-- Then the first dispatcher activates its worker on the claim of the second. -/
theorem claims_unfenced :
    (∀ op, .spawn op ∈ recoveredClaimRun → op ≠ .reconcileRunning) ∧
      ¬ Fenced {} (Config.run (controlPlane {}) recoveredClaimRun
        (Config.initial (Sys.boot Db.init))) := by
  refine ⟨fun op hop heq => ?_, fun hfenced => ?_⟩
  · subst heq
    simp [recoveredClaimRun, steps, stepsAt] at hop
  · exact absurd (hfenced 2 { clock := ⟨"1", "0"⟩ }) (by decide)

end Flotilla
