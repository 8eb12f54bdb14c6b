import KerSorMonitor.Flotilla.TaskView

/-!
# What a thread knows about a task

A task is claimed only when no operation in flight has looked it up. So whatever a thread has
seen of the most recent claim of a task stays true of it until the thread ends; and the thread
that retires a task has its worker to itself.

Results:
1. `lasting_past`, `lasting_target`, ...: facts that no step takes away.
2. `mine_live`, `mine_ending`, ...: facts that the other threads do not take away.
3. `Kept`: facts that a thread keeps while it moves nothing.
-/

namespace Flotilla

open Keyed Threads

namespace TaskView

variable {leases : Prop} {t : ThreadId} {v v' : TaskView} {wid : Option WorkerId}

/-! ## What a thread knows about a task that it has looked up -/

/-- The most recent claim of the task is over, or it is the one of worker `wid`. -/
def Target (wid : Option WorkerId) (v : TaskView) : Prop :=
  match v.stage with
  | .idle => True
  | .claimed _ _ => False
  | .registered _ w | .doomed _ w | .live w => wid = some w
  | .ending _ w => wid = none ∨ wid = some w

/-- No worker of the most recent claim will be activated. -/
def Over (v : TaskView) : Prop :=
  match v.stage with
  | .idle | .doomed _ _ | .ending _ _ => True
  | .registered _ _ => v.Past
  | .claimed _ _ | .live _ => False

/-- The claim of the task was activated, and may be over. -/
def Activated (v : TaskView) : Prop :=
  match v.stage with
  | .idle | .live _ | .ending _ _ => True
  | _ => False

/-- The row of the task, if it is there, has a final state. -/
def Finished (v : TaskView) : Prop := ∀ row, v.task = some row → row.state.isFinal = true

/-- The external worker was stopped, or its stop failed. -/
def StoppedAt (w : WorkerId) (v : TaskView) : Prop := v.alive w.serial → v.stopFailed w.serial

/-- Worker `wid` was stopped, or its stop failed, if it can still be the task's. -/
def Spent (wid : Option WorkerId) (v : TaskView) : Prop :=
  v.Over ∨ ∃ w, wid = some w ∧ v.StoppedAt w

/-- A fact that a thread may rely on from when it has looked the task up: no step takes it
away, be it its own. -/
def Lasting (leases : Prop) (t : ThreadId) (F : TaskView → Prop) : Prop :=
  ∀ t' v v', Inv leases v → Step leases t' v v' → v.touched t = true → F v → F v'

theorem isActive_of_isFinal {st : TaskState} (h : st.isFinal = true) : st.isActive = false := by
  cases st <;> first | rfl | cases h

theorem inactive_of_moved {o o' : Option Task} (h : Moved o o')
    (ho : ∀ row, o = some row → row.state.isActive = false) :
    ∀ row, o' = some row → row.state.isActive = false := by
  cases h with
  | same => exact ho
  | move _ _ ha =>
    intro row hrow
    cases hrow
    exact ha

theorem final_of_moved {o o' : Option Task} (h : Moved o o')
    (ho : ∀ row, o = some row → row.state.isFinal = true) :
    ∀ row, o' = some row → row.state.isFinal = true := by
  cases h with
  | same => exact ho
  | move hstep _ _ =>
    intro row hrow
    cases hrow
    exact isFinal_of_rowStep hstep (ho _ rfl)

theorem lasting_past : Lasting leases t Past := by
  intro t' v v' hinv h ht hpast
  cases h with
  | calm h => exact fun row hrow => hpast row (h.task ▸ hrow)
  | claim _ hfree => rw [hfree t] at ht; cases ht
  | activate _ hrow hd =>
    have ha := hpast _ hrow
    rw [hd] at ha
    cases ha
  | resolve _ _ _ _ hmoved => exact inactive_of_moved hmoved hpast
  | move hmoved => exact inactive_of_moved hmoved hpast
  | switch hrow hl =>
    have ha := hpast _ hrow
    rw [isActive_of_isLive hl] at ha
    cases ha
  | finish _ _ _ _ hf =>
    intro row hrow
    cases hrow
    exact isActive_of_isFinal hf
  | create _ hq =>
    intro row hrow
    cases hrow
    rw [hq]
    rfl
  | delete => exact fun row hrow => by cases hrow
  | _ => exact hpast

theorem lasting_target (wid : Option WorkerId) : Lasting leases t (Target wid) := by
  intro t' v v' hinv h ht htarget
  unfold Target at htarget ⊢
  cases h with
  | calm h => rwa [h.stage]
  | claim _ hfree => rw [hfree t] at ht; cases ht
  | draw hst | register hst =>
    rw [hst] at htarget
    exact htarget.elim
  | activate hst | doom hst =>
    rw [hst] at htarget
    exact htarget
  | finish hst =>
    rw [hst] at htarget
    exact Or.inr htarget
  | resolve | close => trivial
  | _ => exact htarget

theorem lasting_over : Lasting leases t Over := by
  intro t' v v' hinv h ht hover
  have hpast := lasting_past t' v v' hinv h ht
  unfold Over at hover ⊢
  cases h with
  | claim _ hfree => rw [hfree t] at ht; cases ht
  | draw hst | register hst | finish hst =>
    rw [hst] at hover
    exact hover.elim
  | activate hst hrow hd =>
    rw [hst] at hover
    have ha := hover _ hrow
    rw [hd] at ha
    cases ha
  | doom | resolve | close => trivial
  | calm h =>
    rw [h.stage]
    cases hst : v.stage <;> rw [hst] at hover
    case registered => exact hpast hover
    all_goals exact hover
  | _ =>
    dsimp only
    cases hst : v.stage <;> rw [hst] at hover
    case registered => exact hpast hover
    all_goals exact hover

theorem lasting_activated : Lasting leases t Activated := by
  intro t' v v' hinv h ht hact
  unfold Activated at hact ⊢
  cases h with
  | calm h => rwa [h.stage]
  | claim _ hfree => rw [hfree t] at ht; cases ht
  | draw hst | register hst | doom hst =>
    rw [hst] at hact
    exact hact
  | activate | resolve | finish | close => trivial
  | _ => exact hact

/-- Where no task is created that an operation in flight has looked up, a final state stays. -/
theorem lasting_finished (hleases : leases) : Lasting leases t Finished := by
  intro t' v v' hinv h ht hfinal
  cases h with
  | calm h => exact fun row hrow => hfinal row (h.task ▸ hrow)
  | claim _ hfree => rw [hfree t] at ht; cases ht
  | activate _ hrow hd =>
    have hf := hfinal _ hrow
    rw [hd] at hf
    cases hf
  | resolve _ _ _ _ hmoved => exact final_of_moved hmoved hfinal
  | move hmoved => exact final_of_moved hmoved hfinal
  | switch hrow hl =>
    rw [isLive_of_isFinal (hfinal _ hrow)] at hl
    cases hl
  | finish _ _ _ _ hf =>
    intro row hrow
    cases hrow
    exact hf
  | create _ _ hfree => rw [hfree hleases t] at ht; cases ht
  | delete => exact fun row hrow => by cases hrow
  | _ => exact hfinal

theorem lasting_spent (wid : Option WorkerId) :
    Lasting leases t fun v => Target wid v ∧ Spent wid v := by
  rintro t' v v' hinv h ht ⟨htarget, hspent⟩
  refine ⟨lasting_target wid t' v v' hinv h ht htarget, ?_⟩
  rcases hspent with hover | ⟨w, rfl, hstop⟩
  · exact Or.inl (lasting_over t' v v' hinv h ht hover)
  refine Or.inr ⟨w, rfl, ?_⟩
  cases h with
  | calm h => exact fun ha => h.stopFailed _ (hstop (h.alive _ ha))
  | start hst =>
    unfold Target at htarget
    rw [hst] at htarget
    exact htarget.elim
  | _ => exact hstop

/-- A task that is past and was claimed for the last time has no worker to come. -/
theorem not_live_of_past (hinv : v.Inv leases) (hpast : v.Past) (w : WorkerId) :
    v.stage ≠ .live w := by
  intro hst
  obtain ⟨row, -, hrow, hl, -⟩ := hinv.live w hst
  have ha := hpast row hrow
  rw [isActive_of_isLive hl] at ha
  cases ha

theorem not_live_of_over (hover : v.Over) (w : WorkerId) : v.stage ≠ .live w := by
  intro hst
  unfold Over at hover
  rw [hst] at hover
  exact hover

/-! ## What the thread that retires a task knows -/

/-- A fact that the others cannot take away. -/
def Mine (leases : Prop) (t : ThreadId) (F : TaskView → Prop) : Prop :=
  ∀ t' v v', t' ≠ t → Inv leases v → Step leases t' v v' ∨ Leave t' v v' → F v → F v'

theorem mine_retirer : Mine leases t fun v => v.retirer = some t := by
  rintro t' v v' hne - (hstep | ⟨-, rfl⟩) hr
  · exact (retirer_step hstep hne.symm).mpr hr
  · exact hr

/-- The retirer has the worker to itself. -/
theorem mine_live (w : WorkerId) :
    Mine leases t fun v => v.retirer = some t ∧ v.stage = .live w := by
  rintro t' v v' hne hinv h ⟨hr, hst⟩
  refine ⟨mine_retirer t' v v' hne hinv h hr, ?_⟩
  rcases h with h | ⟨-, rfl⟩
  · cases h with
    | calm h => rw [h.stage, hst]
    | finish _ hr' =>
      rw [hr] at hr'
      exact absurd (Option.some.inj hr').symm hne
    | claim hst' | draw hst' | register hst' | activate hst' | doom hst' | close hst' =>
      rw [hst] at hst'
      cases hst'
    | resolve hc =>
      rw [hst] at hc
      cases hc
    | _ => exact hst
  · exact hst

/-- While it does, the row of the worker keeps its lock, ... -/
theorem mine_lock (w : WorkerId) (lock : Option String) :
    Mine leases t fun v => (v.retirer = some t ∧ v.stage = .live w) ∧
      ∃ wr, v.worker w.serial = some wr ∧ wr.resourceLockId = lock := by
  rintro t' v v' hne hinv h ⟨hlive, wr, hwr, hlock⟩
  refine ⟨mine_live w t' v v' hne hinv h hlive, ?_⟩
  rcases h with h | ⟨-, rfl⟩
  · cases h with
    | calm h =>
      rcases h.worker w.serial with heq | ⟨w₁, w₂, hw₁, hw₂, hsame⟩
      · exact ⟨wr, heq.trans hwr, hlock⟩
      · rw [hwr] at hw₁
        cases hw₁
        rw [hsame] at hw₂
        exact ⟨_, hw₂, hlock⟩
    | activate hst =>
      rw [hlive.2] at hst
      cases hst
    | finish _ hr =>
      rw [hlive.1] at hr
      exact absurd (Option.some.inj hr).symm hne
    | delete hpast => exact absurd hlive.2 (not_live_of_past hinv hpast w)
    | _ => exact ⟨wr, hwr, hlock⟩
  · exact ⟨wr, hwr, hlock⟩

/-- ... and the row of the task its requirements. -/
theorem mine_request (w : WorkerId) (req : JsonObj) :
    Mine leases t fun v => (v.retirer = some t ∧ v.stage = .live w) ∧
      ∃ row, v.task = some row ∧ row.resourceReq = req := by
  rintro t' v v' hne hinv h ⟨hlive, row, hrow, hreq⟩
  refine ⟨mine_live w t' v v' hne hinv h hlive, ?_⟩
  obtain ⟨row₀, -, hrow₀, hl, -⟩ := hinv.live w hlive.2
  rw [hrow] at hrow₀
  cases hrow₀
  rcases h with h | ⟨-, rfl⟩
  · cases h with
    | calm h => exact ⟨row, h.task.trans hrow, hreq⟩
    | claim hst | activate hst =>
      rw [hlive.2] at hst
      cases hst
    | resolve hc =>
      rw [hlive.2] at hc
      cases hc
    | finish _ hr =>
      rw [hlive.1] at hr
      exact absurd (Option.some.inj hr).symm hne
    | move hmoved =>
      rw [hrow] at hmoved
      cases hmoved with
      | same => exact ⟨row, rfl, hreq⟩
      | move _ hl' _ =>
        rw [hl] at hl'
        cases hl'
    | switch hrow' _ _ hreq' =>
      rw [hrow] at hrow'
      cases hrow'
      exact ⟨_, rfl, hreq'.trans hreq⟩
    | create hnone =>
      rw [hrow] at hnone
      cases hnone
    | delete hpast => exact absurd hlive.2 (not_live_of_past hinv hpast w)
    | _ => exact ⟨row, hrow, hreq⟩
  · exact ⟨row, hrow, hreq⟩

/-- The retirer has the end of the worker, and its leases, to itself. -/
theorem mine_ending (w : WorkerId) (L : String → Nat → Prop) :
    Mine leases t fun v => v.stage = .ending t w ∧ v.leased = L := by
  rintro t' v v' hne hinv h ⟨hst, hL⟩
  rcases h with h | ⟨-, rfl⟩
  · cases h with
    | calm h => exact ⟨h.stage.trans hst, h.leased.trans hL⟩
    | claim hst' | draw hst' | lease _ hst' | register hst' | activate hst' | doom hst'
    | finish hst' =>
      rw [hst] at hst'
      cases hst'
    | close hst' =>
      rw [hst] at hst'
      cases hst'
      exact absurd rfl hne
    | unlease _ hown =>
      rw [hst] at hown
      rcases hown with hc | ⟨w', hw'⟩
      · cases hc
      · cases hw'
        exact absurd rfl hne
    | resolve hc =>
      rw [hst] at hc
      cases hc
    | _ => exact ⟨hst, hL⟩
  · exact ⟨hst, hL⟩

/-- Nobody else retires the task for this thread. -/
theorem mine_not_ending : Mine leases t fun v => ∀ w, v.stage ≠ .ending t w := by
  rintro t' v v' hne - (h | ⟨-, rfl⟩) hst w hw
  · cases h with
    | calm h => exact hst w (h.stage ▸ hw)
    | finish =>
      cases hw
      exact hne rfl
    | claim | draw | register | activate | doom | resolve | close => cases hw
    | _ => exact hst w hw
  · exact hst w hw

/-- With the leases followed, no worker is activated behind the back of a retirement that has
read the worker row. -/
theorem mine_blind (hleases : leases) :
    Mine leases t fun v => v.retirer = some t ∧ v.blind = true ∧ ∀ w, v.stage ≠ .live w := by
  rintro t' v v' hne hinv h ⟨hr, hb, hst⟩
  refine ⟨mine_retirer t' v v' hne hinv h hr, ?_⟩
  rcases h with h | ⟨-, rfl⟩
  · cases h with
    | calm h =>
      refine ⟨?_, fun w => h.stage ▸ hst w⟩
      rcases h.blind with heq | ⟨-, hb'⟩
      · exact heq.trans hb
      · exact hb'
    | activate _ _ _ _ _ _ _ hlease =>
      rw [(hlease hleases).1] at hb
      cases hb
    | endRetire hr' =>
      rw [hr] at hr'
      exact absurd (Option.some.inj hr').symm hne
    | claim | draw | register | doom | resolve | finish | close =>
      exact ⟨hb, fun w hw => by cases hw⟩
    | _ => exact ⟨hb, hst⟩
  · exact ⟨hb, hst⟩

/-! ## What a thread keeps -/

/-- A fact that neither the others nor the calm steps of the thread take away. -/
structure Kept (leases : Prop) (t : ThreadId) (F : TaskView → Prop) : Prop where
  mine : Mine leases t F
  calm : ∀ v v', Inv leases v → Calm t v v' → F v → F v'

theorem Kept.and {F G : TaskView → Prop} (hF : Kept leases t F) (hG : Kept leases t G) :
    Kept leases t fun v => F v ∧ G v where
  mine := fun t' v v' hne hinv h hv =>
    ⟨hF.mine t' v v' hne hinv h hv.1, hG.mine t' v v' hne hinv h hv.2⟩
  calm := fun v v' hinv h hv => ⟨hF.calm v v' hinv h hv.1, hG.calm v v' hinv h hv.2⟩

theorem Kept.or {F G : TaskView → Prop} (hF : Kept leases t F) (hG : Kept leases t G) :
    Kept leases t fun v => F v ∨ G v where
  mine := fun t' v v' hne hinv h hv =>
    hv.imp (hF.mine t' v v' hne hinv h) (hG.mine t' v v' hne hinv h)
  calm := fun v v' hinv h hv => hv.imp (hF.calm v v' hinv h) (hG.calm v v' hinv h)

theorem Kept.ex {ι : Type} {F : ι → TaskView → Prop} (hF : ∀ i, Kept leases t (F i)) :
    Kept leases t fun v => ∃ i, F i v where
  mine := fun t' v v' hne hinv h ⟨i, hv⟩ => ⟨i, (hF i).mine t' v v' hne hinv h hv⟩
  calm := fun v v' hinv h ⟨i, hv⟩ => ⟨i, (hF i).calm v v' hinv h hv⟩

theorem Kept.imp {p : Prop} {F : TaskView → Prop} (hF : p → Kept leases t F) : Kept leases t fun v => p → F v where
  mine := fun t' v v' hne hinv h hv hp => (hF hp).mine t' v v' hne hinv h (hv hp)
  calm := fun v v' hinv h hv hp => (hF hp).calm v v' hinv h (hv hp)

theorem kept_const (p : Prop) : Kept leases t fun _ => p := ⟨fun _ _ _ _ _ _ h => h, fun _ _ _ _ h => h⟩

/-- Only the end of a thread takes away what it has looked up, and nothing else. -/
theorem Lasting.kept {F : TaskView → Prop} (h : Lasting leases t F)
    (hleave : ∀ (v : TaskView) f, F v → F { v with touched := f }) :
    Kept leases t fun v => v.touched t = true ∧ F v where
  mine := by
    rintro t' v v' hne hinv (hstep | ⟨-, rfl⟩) ⟨ht, hF⟩
    · exact ⟨(touched_step hstep hne.symm).trans ht, h t' v v' hinv hstep ht hF⟩
    · exact ⟨(setAt_of_ne _ _ hne.symm).trans ht, hleave v _ hF⟩
  calm := fun v v' hinv hcalm ⟨ht, hF⟩ =>
    ⟨hcalm.touched_self ht, h t v v' hinv (.calm hcalm) ht hF⟩

theorem kept_retirer : Kept leases t fun v => v.retirer = some t :=
  ⟨mine_retirer, fun _ _ _ h hr => h.retirer.trans hr⟩

theorem kept_not_ending : Kept leases t fun v => ∀ w, v.stage ≠ .ending t w :=
  ⟨mine_not_ending, fun _ _ _ h hst w hw => hst w (h.stage ▸ hw)⟩

theorem kept_live (w : WorkerId) :
    Kept leases t fun v => v.retirer = some t ∧ v.stage = .live w :=
  ⟨mine_live w, fun _ _ _ h hv => ⟨h.retirer.trans hv.1, h.stage.trans hv.2⟩⟩

theorem kept_lock (w : WorkerId) (lock : Option String) :
    Kept leases t fun v => (v.retirer = some t ∧ v.stage = .live w) ∧
      ∃ wr, v.worker w.serial = some wr ∧ wr.resourceLockId = lock := by
  refine ⟨mine_lock w lock, fun v v' hinv h ⟨hlive, wr, hwr, hlock⟩ => ?_⟩
  refine ⟨(kept_live w).calm v v' hinv h hlive, ?_⟩
  rcases h.worker w.serial with heq | ⟨w₁, w₂, hw₁, hw₂, hsame⟩
  · exact ⟨wr, heq.trans hwr, hlock⟩
  · rw [hwr] at hw₁
    cases hw₁
    rw [hsame] at hw₂
    exact ⟨_, hw₂, hlock⟩

theorem kept_request (w : WorkerId) (req : JsonObj) :
    Kept leases t fun v => (v.retirer = some t ∧ v.stage = .live w) ∧
      ∃ row, v.task = some row ∧ row.resourceReq = req :=
  ⟨mine_request w req, fun v v' hinv h ⟨hlive, row, hrow, hreq⟩ =>
    ⟨(kept_live w).calm v v' hinv h hlive, row, h.task.trans hrow, hreq⟩⟩

theorem kept_ending (w : WorkerId) (L : String → Nat → Prop) :
    Kept leases t fun v => v.stage = .ending t w ∧ v.leased = L :=
  ⟨mine_ending w L, fun _ _ _ h hv => ⟨h.stage.trans hv.1, h.leased.trans hv.2⟩⟩

theorem kept_blind (hleases : leases) :
    Kept leases t fun v => v.retirer = some t ∧ v.blind = true ∧ ∀ w, v.stage ≠ .live w := by
  refine ⟨mine_blind hleases, fun v v' _ h hv => ⟨h.retirer.trans hv.1, ?_, ?_⟩⟩
  · rcases h.blind with heq | ⟨-, hb⟩
    · exact heq.trans hv.2.1
    · exact hb
  · exact fun w => h.stage ▸ hv.2.2 w

end TaskView

end Flotilla
