import KerSorMonitor.Flotilla.Programs
import KerSorMonitor.Flotilla.Timestamps
import KerSorMonitor.Lib.Interference

/-!
# The order of the queue over whole runs (`flotilla/store.py`, `flotilla/scheduler.py`)

A claim takes the queued tasks by `updated_at`, and a task that goes back to the queue is stamped
then. So a task that was waiting is ahead of every task that was claimed and released meanwhile,
whatever else the control plane does.

Results:
1. `exec_stamp`: what a transaction does to a row, its state and its stamp.
2. `stamping_sound`: no operation submits a row that is stamped in the future, or moves a queued
   task otherwise than by a claim or a cancellation.
3. `no_starvation`: a waiting task is claimed no later than a task is claimed for the second time.
-/

namespace Flotilla

open Keyed Threads Store TaskState

/-! ## Transactions -/

/-- The transactions of the control plane, at a time after `last`: a row is submitted with a stamp
of the past, and a queued task is neither retired nor moved without being cancelled. -/
def Transaction.Stamped (last : String) : {α : Type} → Transaction α → Prop
  | _, .createTasks tasks => ∀ t ∈ tasks, t.updatedAt ≤ last
  | _, .setTaskState _ _ expected => (expected.any fun set => !set.contains .queued) = true
  | _, .finishWorker _ _ target _ => target ∈ finalStates
  | _, _ => True

/-- What a transaction at `now` does to a row. -/
inductive Restamped {α : Type} (tx : Transaction α) (now : String) :
    Option Task → Option Task → Prop
  | same (o : Option Task) : Restamped tx now o o
  | gone {t : Task} : Restamped tx now (some t) none
  | submitted {t' : Task} : tx.Creates t' → Restamped tx now none (some t')
  | moved {t t' : Task} : t'.updatedAt = now →
      (t.state = .queued → t'.state = .cancelled ∨ tx.IsClaim ∧ t'.state = .dispatching) →
      Restamped tx now (some t) (some t')

namespace QueueingLemmas

open StoreLemmas TransactionLemmas Transaction

variable {settings : Settings} {clock : Clock} {α : Type} {db db' : Db} {last : String}
  {tid : TaskId}

theorem restamped_setTaskState {tx : Transaction α} {now : String} {tid' : TaskId}
    {newState : String} {expected : Option (List TaskState)}
    (hexpected : (expected.any fun set => !set.contains .queued) = true) {r : Except PyErr Bool}
    (h : Store.setTaskState now tid' newState expected db = (r, db')) :
    Restamped tx now (db.task? tid) (db'.task? tid) := by
  rcases setTaskState_cases h with ⟨rfl, -⟩ | ⟨row, st, hrow, hset, -, -, rfl⟩
  · exact .same _
  · rw [task?_setStates_of hrow]
    split
    · next heq =>
      rw [heq, hrow]
      refine .moved rfl fun hqueued => ?_
      cases expected with
      | none => cases hexpected
      | some set =>
        have hmem := hset set rfl
        rw [hqueued] at hmem
        simp [hmem] at hexpected
    · exact .same _

/-- A queued task leaves the queue for a final state only when it is cancelled. -/
theorem cancelled_of_final {target : String} {st : TaskState} (hfinal : target ∈ finalStates)
    (h : transition .queued target = .ok st) : st = .cancelled := by
  have hends : ∀ target ∈ finalStates, (transition .queued target).isOk = true →
      target = "CANCELLED" := by decide
  obtain rfl := hends target hfinal (by rw [h]; rfl)
  exact Except.ok.inj (h.symm.trans (by decide))

theorem exec_stamp {tx : Transaction α} (hok : tx.Stamped last) {r : Except PyErr α}
    (h : tx.exec settings clock db = (r, db')) (tid : TaskId) :
    Restamped tx clock.now (db.task? tid) (db'.task? tid) := by
  cases tx with
  | createTasks ts =>
    rcases createTasks_cases h with ⟨rfl, -⟩ | ⟨-, -, -, htask, -⟩
    · exact .same _
    · rw [htask]
      cases hrow : db.task? tid with
      | some t => exact .same _
      | none =>
        rw [Option.none_or]
        cases hf : ts.find? fun t => t.id = tid with
        | none => exact .same _
        | some t => exact .submitted (List.mem_of_find?_eq_some hf)
  | setTaskState tid' newState expected => exact restamped_setTaskState hok h
  | releaseTaskClaim tid' target => exact restamped_setTaskState rfl h
  | claimQueuedTasks maxActive =>
    obtain ⟨-, -, -, htask⟩ := claimQueuedTasks_spec clock.now maxActive db
    rw [show (Store.claimQueuedTasks clock.now maxActive db).2 = db' from congrArg Prod.snd h]
      at htask
    rw [htask]
    cases hrow : db.task? tid with
    | none => exact .same _
    | some t =>
      dsimp only [Option.map_some]
      split
      · exact .moved rfl fun _ => Or.inr ⟨trivial, rfl⟩
      · exact .same _
  | markStaleDispatchingLost =>
    obtain ⟨-, -, -, htask⟩ := markStaleDispatchingLost_spec clock.now clock.cutoff db
    rw [show (Store.markStaleDispatchingLost clock.now clock.cutoff db).2 = db' from
      congrArg Prod.snd h] at htask
    rw [htask]
    cases hrow : db.task? tid with
    | none => exact .same _
    | some t =>
      dsimp only [Option.map_some]
      split
      · next hmem =>
        obtain ⟨t₀, hrow₀, hst, -⟩ := mem_staleDispatching.mp hmem
        cases hrow.symm.trans hrow₀
        exact .moved rfl fun hqueued => by cases hst.symm.trans hqueued
      · exact .same _
  | activateWorker tid' worker workspace =>
    rcases activateWorker_cases h with ⟨rfl, -⟩ | ⟨row, -, hrow, hst, -, -, -, -, htask⟩
    · exact .same _
    · rw [htask]
      split
      · next heq =>
        rw [heq, hrow]
        exact .moved rfl fun hqueued => by cases hst.symm.trans hqueued
      · exact .same _
  | finishWorker tid' workerId terminalState event =>
    rcases finishWorker_cases h with ⟨rfl, -⟩ | ⟨row, st, hrow, htr, -, -, -, htask⟩
    · exact .same _
    · rw [htask]
      split
      · next heq =>
        rw [heq, hrow]
        refine .moved rfl fun hqueued => Or.inl ?_
        rw [hqueued] at htr
        exact cancelled_of_final hok htr
      · exact .same _
  | deleteTask tid' =>
    cases h
    rw [Db.task?_deleteTaskRows]
    split
    · cases db.task? tid with
      | none => exact .same _
      | some t => exact .gone
    · exact .same _
  | _ =>
    unfold Db.task?
    rw [task_eq_of_keepsTasks (by exact trivial) h]
    exact .same _

/-! ### Claims -/

/-- A queued task with an earlier stamp is selected before. -/
theorem mem_selection_of_lt {maxActive : Int} {t t' : Task} (ht : t ∈ claimSelection maxActive db)
    (ht' : t' ∈ queuedTasks db) (hlt : t'.updatedAt < t.updatedAt) :
    t' ∈ claimSelection maxActive db := by
  unfold claimSelection at ht ⊢
  split
  · next hzero => rw [if_pos hzero] at ht; cases ht
  · next hpos =>
    rw [if_neg hpos] at ht
    dsimp only at ht ⊢
    split
    · next hfull => rw [if_pos hfull] at ht; cases ht
    · next hfree =>
      rw [if_neg hfree] at ht
      have hsorted := TimestampLemmas.pairwise_queuedTasks db
      rw [← List.take_append_drop (maxActive - activeWorkers db - dispatchingTasks db).toNat
        (queuedTasks db)] at ht' hsorted
      rcases List.mem_append.mp ht' with hsel | hrest
      · exact hsel
      · have hle := TimestampLemmas.updatedAt_le_of_queueOrder
          ((List.pairwise_append.mp hsorted).2.2 t ht t' hrest)
        exact absurd hle (not_le.mpr hlt)

/-- A step that claims a task claims the queued tasks with earlier stamps. -/
theorem claimed_before {tx : Transaction α} (hok : tx.Stamped last) {r : Except PyErr α}
    (h : tx.exec settings clock db = (r, db')) {a b : TaskId} {ta tb : Task}
    (ha : db.task? a = some ta) (hqa : ta.state = .queued)
    (ha' : db'.state? a = some .dispatching) (hb : db.task? b = some tb)
    (hqb : tb.state = .queued) (hlt : tb.updatedAt < ta.updatedAt) :
    db'.state? b = some .dispatching := by
  obtain ⟨ta', hrow', hst'⟩ := Option.map_eq_some_iff.mp ha'
  have hclaim : tx.IsClaim := by
    have hstamp := exec_stamp hok h a
    rw [ha, hrow'] at hstamp
    cases hstamp with
    | same => cases hqa.symm.trans hst'
    | moved _ hmove =>
      rcases hmove hqa with hcancelled | ⟨hclaim, -⟩
      · cases hcancelled.symm.trans hst'
      · exact hclaim
  cases tx with
  | claimQueuedTasks maxActive =>
    obtain ⟨-, -, -, htask⟩ := claimQueuedTasks_spec clock.now maxActive db
    rw [show (Store.claimQueuedTasks clock.now maxActive db).2 = db' from congrArg Prod.snd h]
      at htask
    have hmem : a ∈ (claimSelection maxActive db).map Task.id := by
      by_contra hno
      rw [htask a, ha, Option.map_some, if_neg hno] at hrow'
      cases hrow'
      cases hqa.symm.trans hst'
    obtain ⟨t, ht, hid⟩ := List.mem_map.mp hmem
    have hta : t = ta := by
      have hrow := (mem_claimSelection ht).1
      rw [hid, ha] at hrow
      exact (Option.some.inj hrow).symm
    subst hta
    have htb : tb.id = b := Table.key_of_get? hb
    have hsel : tb ∈ claimSelection maxActive db :=
      mem_selection_of_lt ht (mem_queuedTasks.mpr ⟨by rw [htb]; exact hb, hqb⟩) hlt
    have hmem' : b ∈ (claimSelection maxActive db).map Task.id :=
      List.mem_map.mpr ⟨tb, hsel, htb⟩
    unfold Db.state?
    rw [htask b, hb, Option.map_some, if_pos hmem']
    rfl
  | _ => exact hclaim.elim

end QueueingLemmas

/-! ## The contract -/

/-- The text that an action reads from the clock. A transaction need not read it. -/
def Act.reading? : {β : Type} → Act β → Env → Option String
  | _, .store _, env => some env.clock.now
  | _, .now, env => some env.clock.now
  | _, _, _ => none

/-- The action reads a later text than the last one. -/
def Act.Later {β : Type} (a : Act β) (env : Env) (last : String) : Prop :=
  ∀ now, a.reading? env = some now → last < now

instance {β : Type} (a : Act β) (env : Env) (last : String) : Decidable (a.Later env last) :=
  match h : a.reading? env with
  | none => isTrue fun now hnow => by rw [h] at hnow; cases hnow
  | some now => decidable_of_iff (last < now) ⟨fun hlt now' hnow' => by
      cases h.symm.trans hnow'; exact hlt, fun hall => hall now h⟩

/-- The actions of the control plane, after `last` was read. -/
def Act.Stamped (last : String) : {β : Type} → Act β → Prop
  | _, .store q => q.Stamped last
  | _, _ => True

/-- The process, with the last text that was read from the clock. -/
def clocked (settings : Settings) : System Act PyErr (World × String) Env Op :=
  (process settings).noting fun a env _ last => (a.reading? env).getD last

/-- No task is stamped in the future. -/
def Past (s : World × String) : Prop :=
  ∀ tid t, s.1.db.task? tid = some t → t.updatedAt ≤ s.2

namespace QueueingLemmas

variable {settings : Settings} {α : Type} {a : Act α} {env : Env} {r : Except PyErr α}
  {s s' : World × String}

theorem exec_clocked {t : ThreadId} (h : (clocked settings).exec t a env s = (r, s')) :
    World.exec settings env a s.1 = (r, s'.1) ∧ s'.2 = (a.reading? env).getD s.2 := by
  obtain ⟨hr, hs⟩ := Prod.mk.inj h
  refine ⟨Prod.ext hr (congrArg Prod.fst hs), (congrArg Prod.snd hs).symm⟩

/-- A step leaves the database alone, or commits a transaction. -/
theorem commit_or_same {w w' : World} (h : World.exec settings env a w = (r, w')) :
    w'.db = w.db ∨ ∃ q : Transaction α, a = .store q ∧
      q.exec settings env.clock w.db = (r, w'.db) := by
  by_cases hstore : ∃ q : Transaction α, a = .store q
  · obtain ⟨q, rfl⟩ := hstore
    cases hraise : env.raises with
    | some e =>
      rw [Effects.exec_store_raised _ hraise] at h
      cases h
      exact Or.inl rfl
    | none =>
      rw [Effects.exec_store_done _ hraise] at h
      cases h
      exact Or.inr ⟨q, rfl, rfl⟩
  · left
    calc w'.db = (World.exec settings env a w).2.db := by rw [h]
      _ = w.db := Effects.exec_db (fun q hq => hstore ⟨q, hq⟩) w

/-- A step that reads a later text keeps the stamps in the past. -/
theorem past_step {t : ThreadId} (hok : a.Stamped s.2) (hlater : a.Later env s.2)
    (h : (clocked settings).exec t a env s = (r, s')) (hpast : Past s) :
    s.2 ≤ s'.2 ∧ Past s' := by
  obtain ⟨hexec, hlast⟩ := exec_clocked h
  have hle : s.2 ≤ s'.2 := by
    rw [hlast]
    cases hread : a.reading? env with
    | none => exact le_refl _
    | some now => exact (hlater now hread).le
  refine ⟨hle, fun tid t' hrow => ?_⟩
  rcases commit_or_same hexec with hsame | ⟨q, rfl, hq⟩
  · rw [hsame] at hrow
    exact (hpast tid t' hrow).trans hle
  · have hstamp := exec_stamp hok hq tid
    rw [hrow] at hstamp
    generalize hold : s.1.db.task? tid = old at hstamp
    cases hstamp with
    | same => exact (hpast tid t' hold).trans hle
    | submitted hcreates =>
      cases q with
      | createTasks ts => exact (hok t' hcreates).trans hle
      | _ => exact hcreates.elim
    | moved hnow _ =>
      rw [hnow, hlast]
      exact le_refl _

end QueueingLemmas

open QueueingLemmas in
/-- Rows are stamped in the past, and a queued task leaves the queue only as it may. -/
def stamping (settings : Settings) : Contract (clocked settings) where
  inv := Past
  rely _ s s' := s.2 ≤ s'.2
  guar _ s s' := s.2 ≤ s'.2 ∧ Past s'
  clean _ _ := True
  assume _ {_} a env s := a.Later env s.2
  check _ {_} a s := a.Stamped s.2
  rely_refl _ _ := le_refl _
  rely_trans h h' := h.trans h'
  clean_rely _ _ := trivial
  inv_guar _ h := h.2
  rely_guar _ h _ := h.1

/-! ## The programs -/

/-- The action keeps the contract at any time. -/
def Act.Timeless {β : Type} (a : Act β) : Prop := ∀ last, a.Stamped last

namespace QueueingLemmas

open QuietLemmas UndispatchedLemmas
open Prog (call)

variable {settings : Settings} {α : Type} {t : ThreadId} {s : World × String}

theorem timeless_of_undispatched {β : Type} (a : Act β) (h : a.Undispatched False) :
    a.Timeless := by
  intro last
  cases a with
  | store q =>
    cases q with
    | createTasks => exact h.elim
    | setTaskState | finishWorker => exact h
    | _ => trivial
  | _ => trivial

theorem timeless_of_unretiring {β : Type} (a : Act β) (h : a.Unretiring) : a.Timeless := by
  intro last
  cases a with
  | store q =>
    cases q with
    | createTasks | setTaskState | finishWorker => exact h.elim
    | _ => trivial
  | _ => trivial

theorem timeless_of_quiet {β : Type} (a : Act β) (h : a.Quiet) : a.Timeless :=
  timeless_of_undispatched a (Act.Quiet.undispatched a h)

theorem timeless_of_reattaching {β : Type} (a : Act β) (h : a.Reattaching) : a.Timeless := by
  cases a with
  | register => exact fun _ => trivial
  | _ => exact timeless_of_undispatched _ h

/-! ### The submission -/

theorem timeless_safe {p : Program α} (hp : p.All Act.Timeless) :
    Safe (stamping settings) t p (fun _ _ => True) s := by
  refine Safe.of_all (P := fun _ => True) (fun _ _ _ _ => trivial) ?_ hp trivial
  intro β a ha s hpast _
  exact ⟨ha s.2, fun env r s' hlater hexec => ⟨past_step (ha s.2) hlater hexec hpast, trivial⟩⟩

theorem silent_safe {p : Program α} (hp : p.All Act.Silent) :
    Safe (stamping settings) t p (fun _ _ => True) s :=
  timeless_safe ((quiet_of_silent hp).mono timeless_of_quiet)

/-- The rows are stamped in the past. -/
def PastRows (r : Except PyErr (List Task)) (s : World × String) : Prop :=
  ∀ tasks, r = .ok tasks → ∀ task ∈ tasks, task.updatedAt ≤ s.2

/-- A row is stamped with the text that was read for it. -/
theorem validateTaskCreate_safe (pid : String) (item : TaskCreate) :
    Safe (stamping settings) t (validateTaskCreate settings pid item)
      (fun r s => ∀ task, r = .ok task → task.updatedAt ≤ s.2) s := by
  have herr (e : PyErr) (s : World × String) (task : Task)
      (h : (Except.error e : Except PyErr Task) = .ok task) : task.updatedAt ≤ s.2 := by cases h
  unfold validateTaskCreate
  refine Safe.seq (silent_safe (silent_checkId _ _)) (fun _ s _ => ?_) fun e s _ => herr e s
  refine Safe.seq (silent_safe (validateRuntime_silent item)) (fun _ s _ => ?_)
    fun e s _ => herr e s
  refine Safe.seq (silent_safe (validateResource_silent item)) (fun _ s _ => ?_)
    fun e s _ => herr e s
  refine Safe.seq (silent_safe (validateEvaluator_silent item)) (fun _ s _ => ?_)
    fun e s _ => herr e s
  refine Safe.seq (silent_safe (validateMetadata_silent settings item)) (fun _ s _ => ?_)
    fun e s _ => herr e s
  refine Safe.bind (Safe.call fun s hle hpast => ⟨trivial, fun env r s' hlater hexec => ?_⟩)
  refine ⟨past_step (a := .now) trivial hlater hexec hpast, ?_⟩
  obtain ⟨hexec, hlast⟩ := exec_clocked hexec
  obtain rfl : .ok env.clock.now = r := congrArg Prod.fst hexec
  rintro task ⟨⟩
  exact hlast.symm ▸ le_refl _

theorem validateAll_safe (pid : String) (items : List TaskCreate) :
    Safe (stamping settings) t (validateAll settings pid items) PastRows s := by
  induction items generalizing s with
  | nil =>
    rintro tasks ⟨⟩ task hmem
    cases hmem
  | cons item items ih =>
    refine Safe.seq (validateTaskCreate_safe pid item) (fun task s htask => ?_)
      fun e s _ tasks htasks => by cases htasks
    have hpast : task.updatedAt ≤ s.2 := htask task rfl
    have hkept : Safe (stamping settings) t (validateAll settings pid items)
        (fun r s => PastRows r s ∧ task.updatedAt ≤ s.2) s :=
      Safe.persist (fun _ _ h hle => h.trans hle) (fun _ _ _ h hguar => h.trans hguar.1) ih hpast
    refine Safe.seq hkept (fun tasks s hrest => ?_) fun e s _ tasks htasks => by cases htasks
    rintro _ ⟨⟩ task' hmem
    rcases List.mem_cons.mp hmem with rfl | hmem
    · exact hrest.2
    · exact hrest.1 tasks rfl task' hmem

/-- A batch is submitted with the stamps that were read for it. -/
theorem createTasks_safe (pid : String) (tasks : List TaskCreate) :
    Safe (stamping settings) t (createTasks settings pid tasks) (fun _ _ => True) s := by
  unfold createTasks
  refine Safe.seq (silent_safe (silent_checkId _ _)) (fun _ s _ => ?_) fun _ _ _ => trivial
  split
  · trivial
  split
  · trivial
  refine Safe.seq (silent_safe (silent_store trivial)) (fun project s _ => ?_) fun _ _ _ => trivial
  cases project with
  | none => trivial
  | some _ =>
    dsimp only
    split
    · trivial
    refine Safe.seq (silent_safe (silent_store trivial)) (fun existing s _ => ?_)
      fun _ _ _ => trivial
    split
    · trivial
    refine Safe.seq (validateAll_safe pid tasks) (fun prepared s hpast => ?_) fun _ _ _ => trivial
    refine Safe.seq (Q := fun _ _ => True) (Safe.attempt (Safe.call fun s' hle hinv => ?_))
      (fun created s _ => ?_) fun _ _ _ => trivial
    · have hok : (Act.store (.createTasks prepared)).Stamped s'.2 :=
        fun task hmem => (hpast prepared rfl task hmem).trans hle
      exact ⟨hok, fun env r s'' hlater hexec => ⟨past_step hok hlater hexec hinv, trivial⟩⟩
    · cases created with
      | error exc =>
        dsimp only
        split <;> trivial
      | ok _ =>
        exact Safe.seq (timeless_safe ((publishCreated_quiet _).mono timeless_of_quiet))
          (fun _ _ _ => trivial) fun _ _ _ => trivial

end QueueingLemmas

open QueueingLemmas UndispatchedLemmas in
/-- Every operation keeps the contract, and so does a restart. -/
theorem stamping_sound (settings : Settings) :
    (stamping settings).Sound (fun _ => True) True where
  safe := by
    intro op _ t s _ _
    suffices h : Safe (stamping settings) t (op.program settings) (fun _ _ => True) s from
      h.mono fun _ s _ hinv => ⟨hinv, trivial, fun t' _ => le_refl _⟩
    cases op with
    | createTasks pid tasks =>
      exact Safe.seq (createTasks_safe pid tasks) (fun _ _ _ => trivial) fun _ _ _ => trivial
    | tick =>
      exact timeless_safe (Prog.All.bind ((tick_unretiring settings).mono timeless_of_unretiring)
        fun _ => trivial)
    | reconcileRunning =>
      exact timeless_safe (Prog.All.bind
        ((reconcileRunning_reattaching settings).mono timeless_of_reattaching) fun _ => trivial)
    | _ =>
      exact timeless_safe ((program_undispatched (by exact trivial)).mono timeless_of_undispatched)
  restart := fun _ s hpast => ⟨hpast, fun _ => trivial⟩

/-! ## Runs -/

/-- A configuration of the process, and the last text that was read from the clock. -/
abbrev ClockedConfig := Config Act PyErr (World × String)

/-- The state of a task. -/
def stateIn (c : ClockedConfig) (tid : TaskId) : Option TaskState := c.shared.1.db.state? tid

/-- Each text that is read from the clock is later than the one before. -/
def Increasing (c : ClockedConfig) : Threads.Event Env Op → Prop
  | .step t env => c.Next t fun a => a.Later env c.shared.2
  | _ => True

instance (c : ClockedConfig) : ∀ ev, Decidable (Increasing c ev)
  | .step t env => inferInstanceAs (Decidable (c.Next t fun a => a.Later env c.shared.2))
  | .spawn _ | .restart => inferInstanceAs (Decidable True)

/-- Between the two configurations the task is claimed. -/
def Claimed (tid : TaskId) (c c' : ClockedConfig) : Prop :=
  stateIn c tid = some .queued ∧ stateIn c' tid = some .dispatching

/-- Task `a` is not deleted, and task `b` is neither deleted nor cancelled. -/
def Staying (a b : TaskId) (c : ClockedConfig) (_ : Threads.Event Env Op) : Prop :=
  stateIn c a ≠ none ∧ stateIn c b ≠ none ∧ stateIn c b ≠ some .cancelled

instance (tid : TaskId) (c c' : ClockedConfig) : Decidable (Claimed tid c c') :=
  inferInstanceAs (Decidable (_ ∧ _))

instance (a b : TaskId) (c : ClockedConfig) (ev : Threads.Event Env Op) :
    Decidable (Staying a b c ev) := inferInstanceAs (Decidable (_ ∧ _ ∧ _))

namespace QueueingLemmas

variable {settings : Settings} {c : ClockedConfig} {ev : Threads.Event Env Op} {a b : TaskId}

theorem permits_of_increasing (h : Increasing c ev) :
    (stamping settings).Permits (fun _ => True) True c ev := by
  cases ev with
  | spawn op => trivial
  | step t env => exact h
  | restart => trivial

/-- An event leaves the database alone or commits a transaction, and time goes on. -/
theorem event_cases (hholds : (stamping settings).Holds c) (hinc : Increasing c ev)
    {c' : ClockedConfig} (hc' : Config.apply (clocked settings) ev c = c') :
    c.shared.2 ≤ c'.shared.2 ∧ (c'.shared.1.db = c.shared.1.db ∨
      ∃ (β : Type) (q : Transaction β) (clock : Clock) (r : Except PyErr β),
        q.Stamped c.shared.2 ∧ c.shared.2 < clock.now ∧
        q.exec settings clock c.shared.1.db = (r, c'.shared.1.db)) := by
  subst hc'
  rcases Config.shared_apply (S := clocked settings) c ev with
    hsame | hstart | ⟨t, env, β, act, k, rfl, hget, hstep⟩
  · rw [hsame]
    exact ⟨le_refl _, Or.inl rfl⟩
  · rw [hstart]
    exact ⟨le_refl _, Or.inl rfl⟩
  · have hshared : (Config.apply (clocked settings) (.step t env) c).shared =
        ((clocked settings).exec t act env c.shared).2 := hstep.elim id id
    rw [hshared]
    have hok := hholds.check t β act k hget
    have hlater := hinc β act k hget
    have hexec : (clocked settings).exec t act env c.shared =
      (_, ((clocked settings).exec t act env c.shared).2) := rfl
    refine ⟨(past_step hok hlater hexec hholds.inv).1, ?_⟩
    rcases commit_or_same (exec_clocked hexec).1 with hsame | ⟨q, rfl, hq⟩
    · exact Or.inl hsame
    · exact Or.inr ⟨β, q, env.clock, _, hok, hlater _ rfl, hq⟩

/-- Task `b` is in the queue. -/
structure InQueue (b : TaskId) (tb : Task) (c : ClockedConfig) : Prop where
  row : c.shared.1.db.task? b = some tb
  queued : tb.state = .queued
  past : tb.updatedAt ≤ c.shared.2

/-- It is ahead of task `a`, if that is queued too. -/
structure Waiting (a b : TaskId) (tb : Task) (c : ClockedConfig) : Prop extends InQueue b tb c where
  ahead : ∀ ta, c.shared.1.db.task? a = some ta → ta.state = .queued → tb.updatedAt < ta.updatedAt

theorem InQueue.state {tb : Task} (h : InQueue b tb c) : stateIn c b = some .queued := by
  unfold stateIn Db.state?
  rw [h.row, Option.map_some, h.queued]

/-- A claim of the other task claims the waiting one. -/
theorem Waiting.claimed {tb : Task} (h : Waiting a b tb c) (hholds : (stamping settings).Holds c)
    (hinc : Increasing c ev) {c' : ClockedConfig} (hc' : Config.apply (clocked settings) ev c = c')
    (hclaim : Claimed a c c') : Claimed b c c' := by
  obtain ⟨ta, hrow, hqueued⟩ := Option.map_eq_some_iff.mp hclaim.1
  refine ⟨h.state, ?_⟩
  rcases (event_cases hholds hinc hc').2 with hsame | ⟨β, q, clock, r, hok, -, hq⟩
  · have hstate := hclaim.1.symm.trans ((congrArg (Db.state? · a) hsame).symm.trans hclaim.2)
    cases hstate
  · exact claimed_before hok hq hrow hqueued hclaim.2 h.row h.queued (h.ahead ta hrow hqueued)

/-- An event claims a queued task, or it stays in the queue as it is. -/
theorem InQueue.step {tb : Task} (h : InQueue b tb c) (hholds : (stamping settings).Holds c)
    (hinc : Increasing c ev) {c' : ClockedConfig} (hc' : Config.apply (clocked settings) ev c = c')
    (hstay : Staying a b c' ev) : Claimed b c c' ∨ InQueue b tb c' := by
  obtain ⟨hle, hsame | ⟨β, q, clock, r, hok, -, hq⟩⟩ := event_cases hholds hinc hc'
  · exact Or.inr ⟨hsame ▸ h.row, h.queued, h.past.trans hle⟩
  · have hstamp := exec_stamp hok hq b
    rw [h.row] at hstamp
    generalize hnew : c'.shared.1.db.task? b = new at hstamp
    have hstate := congrArg (Option.map Task.state) hnew
    cases hstamp with
    | same => exact Or.inr ⟨hnew, h.queued, h.past.trans hle⟩
    | gone => exact absurd hstate hstay.2.1
    | moved _ hmove =>
      rcases hmove h.queued with hcancelled | ⟨-, hdispatching⟩
      · rw [Option.map_some, hcancelled] at hstate
        exact absurd hstate hstay.2.2
      · rw [Option.map_some, hdispatching] at hstate
        exact Or.inl ⟨h.state, hstate⟩

/-- A task that is queued by the event is stamped after the waiting one. -/
theorem Waiting.ahead_step {tb : Task} (h : Waiting a b tb c)
    (hholds : (stamping settings).Holds c) (hinc : Increasing c ev) {c' : ClockedConfig}
    (hc' : Config.apply (clocked settings) ev c = c') (hrow : stateIn c a ≠ none) (ta : Task)
    (hta : c'.shared.1.db.task? a = some ta) (hqueued : ta.state = .queued) :
    tb.updatedAt < ta.updatedAt := by
  obtain ⟨-, hsame | ⟨β, q, clock, r, hok, hnow, hq⟩⟩ := event_cases hholds hinc hc'
  · rw [hsame] at hta
    exact h.ahead ta hta hqueued
  · have hstamp := exec_stamp hok hq a
    rw [hta] at hstamp
    generalize hold : c.shared.1.db.task? a = old at hstamp
    cases hstamp with
    | same => exact h.ahead ta hold hqueued
    | submitted _ => exact absurd (congrArg (Option.map Task.state) hold) hrow
    | moved hstamped _ =>
      rw [hstamped]
      exact h.past.trans_lt hnow

/-- From a configuration in which task `b` waits, it is claimed no later than task `a`. -/
theorem Waiting.run {tb : Task} {mid : List (Threads.Event Env Op)} (h : Waiting a b tb c)
    (hholds : (stamping settings).Holds c)
    (hinc : Config.Along (clocked settings) Increasing (mid ++ [ev]) c)
    (hstay : Config.Along (clocked settings) (Staying a b) (mid ++ [ev]) c)
    (hclaim : Claimed a (Config.run (clocked settings) mid c)
      (Config.run (clocked settings) (mid ++ [ev]) c)) :
    ∃ pre e post, mid ++ [ev] = pre ++ e :: post ∧
      Claimed b (Config.run (clocked settings) pre c)
        (Config.run (clocked settings) (pre ++ [e]) c) := by
  induction mid generalizing c with
  | nil => exact ⟨[], ev, [], rfl, h.claimed hholds hinc.1 rfl hclaim⟩
  | cons e mid ih =>
    have hnext : Staying a b (Config.apply (clocked settings) e c) e := by
      cases mid with
      | nil => exact hstay.2.1
      | cons e' mid => exact hstay.2.1
    rcases h.step hholds hinc.1 rfl hnext with hclaimed | hqueue
    · exact ⟨[], e, mid ++ [ev], rfl, hclaimed⟩
    · obtain ⟨pre, e', post, hsplit, hclaimed⟩ := ih
        ⟨hqueue, h.ahead_step hholds hinc.1 rfl hstay.1.1⟩
        ((stamping_sound settings).holds_apply (permits_of_increasing hinc.1) hholds)
        hinc.2 hstay.2 hclaim
      exact ⟨e :: pre, e', post, congrArg (e :: ·) hsplit, hclaimed⟩

end QueueingLemmas

/-- The configuration after a run that starts on a database at a time. -/
def queueRun (settings : Settings) (db : Db) (last : String)
    (events : List (Threads.Event Env Op)) : ClockedConfig :=
  Config.run (clocked settings) events (.initial (.boot db, last))

open QueueingLemmas in
/-- No starvation: a task `b` that is queued when a task `a` is claimed, and is neither cancelled
nor deleted, is claimed by that event or by a later one, no later than `a` is claimed again. The
other operations and restarts of the process may come in between, the calls of the outside may fail
as they like, and each text that is read from the clock is later than the one before. -/
theorem no_starvation (settings : Settings) (db : Db) (last : String)
    (hpast : ∀ t ∈ db.task.rows, t.updatedAt ≤ last) (a b : TaskId)
    (before mid : List (Threads.Event Env Op)) (first again : Threads.Event Env Op)
    (hclock : Config.Along (clocked settings) Increasing (before ++ first :: (mid ++ [again]))
      (.initial (.boot db, last)))
    (hfirst : Claimed a (queueRun settings db last before)
      (queueRun settings db last (before ++ [first])))
    (hqueued : stateIn (queueRun settings db last before) b = some .queued)
    (hstay : Config.Along (clocked settings) (Staying a b) (mid ++ [again])
      (queueRun settings db last (before ++ [first])))
    (hagain : Claimed a (queueRun settings db last (before ++ first :: mid))
      (queueRun settings db last (before ++ first :: (mid ++ [again])))) :
    ∃ pre event post, first :: (mid ++ [again]) = pre ++ event :: post ∧
      Claimed b (queueRun settings db last (before ++ pre))
        (queueRun settings db last (before ++ pre ++ [event])) := by
  unfold queueRun at *
  simp only [Config.run_append, Config.run_cons, Config.run_nil] at *
  obtain ⟨hbefore, hinc, hafter⟩ := Config.along_append.mp hclock
  have hstart : (stamping settings).Holds (Config.initial (World.boot db, last)) := by
    refine Contract.holds_initial (fun tid t hrow => ?_) fun _ => trivial
    exact hpast t (Table.get?_eq_some_iff.mp hrow).1
  have hholds := (stamping_sound settings).holds_run
    (Config.along_mono (fun _ _ => permits_of_increasing) hbefore) hstart
  generalize Config.run (clocked settings) before (Config.initial (World.boot db, last)) = c at *
  obtain ⟨tb, hrow, htb⟩ := Option.map_eq_some_iff.mp hqueued
  have hqueue : InQueue b tb c := ⟨hrow, htb, hholds.inv b tb hrow⟩
  have hnext : Staying a b (Config.apply (clocked settings) first c) first := by
    cases mid with
    | nil => exact hstay.1
    | cons e mid => exact hstay.1
  rcases hqueue.step hholds hinc rfl hnext with hclaimed | hqueue
  · exact ⟨[], first, mid ++ [again], rfl, hclaimed⟩
  · have hwaits : Waiting a b tb (Config.apply (clocked settings) first c) := by
      refine ⟨hqueue, fun ta hta hqueued => ?_⟩
      have hstate := congrArg (Option.map Task.state) hta
      rw [Option.map_some, hqueued] at hstate
      cases hfirst.2.symm.trans hstate
    obtain ⟨pre, event, post, hsplit, hclaimed⟩ := hwaits.run
      ((stamping_sound settings).holds_apply (permits_of_increasing hinc) hholds) hafter hstay
      (by simpa only [Config.run_append, Config.run_cons, Config.run_nil] using hagain)
    refine ⟨first :: pre, event, post, congrArg (first :: ·) hsplit, ?_⟩
    simpa only [Config.run_append, Config.run_cons, Config.run_nil] using hclaimed

/-- Two waiting tasks; the first one needs a GPU. -/
def twoWaiting : Db :=
  (Store.createTasks
    [{ id := "a", projectId := "p", name := "n", spec := "s", state := .queued
       resourceReq := [("kind", .str "gpu"), ("uuid", .str "u")], updatedAt := "01" },
     { id := "b", projectId := "p", name := "n", spec := "s", state := .queued
       updatedAt := "02" }]
    (Db.init.insertProject { id := "p", name := "p" }).2).2

/-- A step of thread `t` at this time; the GPU is busy. -/
def stepAt (t : ThreadId) (now : String) : Threads.Event Env Op :=
  .step t { clock := ⟨now, "00"⟩, flockFree := false }

/-- Steps at these times. -/
def stepsOf (t : ThreadId) (times : List String) : List (Threads.Event Env Op) :=
  times.map (stepAt t)

/-- What happens between two claims of the first task: it is released because its resource is busy,
and the second one is claimed, does not start and is released. -/
def betweenClaims : List (Threads.Event Env Op) :=
  stepsOf 0 ["13", "14", "15", "16", "17"] ++ [.spawn .tick] ++
    stepsOf 1 ["21", "22", "23", "24"] ++
    [.step 1 { raises := some ⟨.runtimeError, "no tmux"⟩ }] ++
    stepsOf 1 ["25", "26", "27", "28"] ++ [.spawn .tick] ++ stepsOf 2 ["31"]

theorem busy_resource_waits :
    ∃ pre event post, stepAt 0 "12" :: (betweenClaims ++ [stepAt 2 "32"]) =
        pre ++ event :: post ∧
      Claimed "b" (queueRun { maxWorkers := 1 } twoWaiting "02"
          (.spawn .tick :: stepsOf 0 ["11"] ++ pre))
        (queueRun { maxWorkers := 1 } twoWaiting "02"
          (.spawn .tick :: stepsOf 0 ["11"] ++ pre ++ [event])) :=
  no_starvation { maxWorkers := 1 } twoWaiting "02" (by decide +kernel) "a" "b"
    (.spawn .tick :: stepsOf 0 ["11"]) betweenClaims (stepAt 0 "12") (stepAt 2 "32")
    (by decide +kernel) (by decide +kernel) (by decide +kernel) (by decide +kernel)
    (by decide +kernel)

end Flotilla
