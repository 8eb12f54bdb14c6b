import KerSorMonitor.Flotilla.Accounts

/-!
# What the programs do to the accounts

Operations are performed one after the other. SQLite fails in an activation only, and every
other call of the outside may fail. Each program is described by the accounts that it leaves.

Results:
1. `Account.Settled.good_republished`: a task that is published as it is now is shown right.
2. `recordStatus_runs`, `publishEntry_runs`, ...: what the small programs do to the accounts.
3. `getTask_seq`, `Turns.seq`, `Turns.value_seq`, `Turns.attempt_seq`, `Turns.good`: how programs
   about one task compose.
-/

namespace Flotilla

open Keyed Threads Prog

/-- The operation is a `tick`. -/
def Op.isTick : Op → Bool
  | .tick => true
  | _ => false

namespace Sinks

/-- SQLite may fail in an activation only, and a publication reads the database. -/
def admits : {β : Type} → Act β → Env → Bool
  | _, .store (.activateWorker _ _ _), _ => true
  | _, .store _, env => env.raises.isNone
  | _, .publish _, env => env.raises.isNone
  | _, _, _ => true

/-- A dispatcher stops the worker whose activation failed, and the observation after an
activation does not raise. -/
def spares (settings : Settings) (op : Op) : {β : Type} → Act β → Env → Published → Bool
  | _, .stop h (.dispatcher _), env, s => (s.world.stop h env).1.isOk
  | _, .readStatus _, env, _ => !op.isTick || (loadStatus settings.limits env.statusFile).isOk
  | _, .candidateCount _, env, _ => !op.isTick || env.raises.isNone
  | _, _, _, _ => true

/-- What the environment may answer. -/
def Allow (settings : Settings) (op : Op) {β : Type} (a : Act β) (env : Env) (s : Published) :
    Prop := admits a env = true ∧ spares settings op a env s = true

instance (settings : Settings) (op : Op) {β : Type} (a : Act β) (env : Env) (s : Published) :
    Decidable (Allow settings op a env s) := inferInstanceAs (Decidable (_ ∧ _))

/-- Performed alone in `s`, the program ends so that `Q` holds. -/
abbrev Runs (settings : Settings) (op : Op) {α : Type} (p : Program α)
    (Q : Except PyErr α → Published → Prop) (s : Published) : Prop :=
  Safe (.alone (publishing settings) 0 (Allow settings op)) 0 p Q s

/-! ## Accounts -/

namespace Account

/-- The view that the database has. -/
def view? (a : Account) : Option View := a.row.map fun task => buildTaskView task a.status false

/-- A task that was ever shown is shown as the database has it, in its project alone. -/
def Shown (a : Account) : Prop :=
  ∀ pid, a.entry pid =
    if a.ever then a.view?.filter fun v => v.projectId = some pid else none

/-- The sink shows nothing of another project, and nothing of a task that is gone; the task may
be shown as it was before. -/
structure Known (tid : TaskId) (a : Account) : Prop where
  nameless : tid = "" → a.ever = false
  entry : ∀ pid v, a.entry pid = some v →
    a.ever = true ∧ ∃ task, a.row = some task ∧ task.projectId = pid

/-- The handle that is registered belongs to the task, which is running or stuck. -/
def Manned (tid : TaskId) (a : Account) : Prop :=
  ∀ wid h, a.handle = some (wid, h) →
    h.taskId = tid ∧ ∃ task, a.row = some task ∧ (task.state = .running ∨ task.state = .stuck)

/-- The task is not paused. No runtime of the registry can pause a worker. -/
def Unpaused (a : Account) : Prop := ∀ task, a.row = some task → task.state ≠ .paused

/-- The account before the task is published. -/
structure Settled (tid : TaskId) (a : Account) : Prop where
  known : a.Known tid
  manned : a.Manned tid
  unpaused : a.Unpaused

/-- The account between two operations. -/
structure Good (tid : TaskId) (a : Account) : Prop where
  nameless : tid = "" → a.ever = false
  shown : a.Shown
  manned : a.Manned tid
  unpaused : a.Unpaused

variable {tid : TaskId} {a a' : Account} {task : Task}

theorem Good.known (h : a.Good tid) : a.Known tid where
  nameless := h.nameless
  entry := by
    intro pid v hv
    have hshown := h.shown pid
    rw [hv] at hshown
    split at hshown
    · next hever =>
      obtain ⟨hview, hpid⟩ := Option.filter_eq_some_iff.mp hshown.symm
      obtain ⟨task, hrow, rfl⟩ := Option.map_eq_some_iff.mp hview
      exact ⟨hever, task, hrow, by simpa [buildTaskView] using hpid⟩
    · cases hshown

theorem Good.settled (h : a.Good tid) : a.Settled tid := ⟨h.known, h.manned, h.unpaused⟩

theorem manned_of_no_handle (h : a.handle = none) : a.Manned tid := by
  intro wid handle hh
  rw [h] at hh
  cases hh

theorem unpaused_of_no_row (h : a.row = none) : a.Unpaused := by
  intro task htask
  rw [h] at htask
  cases htask

/-- Without a row, what is known is right. -/
theorem Settled.good_of_no_row (h : a.Settled tid) (hrow : a.row = none) : a.Good tid where
  nameless := h.known.nameless
  manned := h.manned
  unpaused := h.unpaused
  shown := by
    intro pid
    have hnone : a.entry pid = none := by
      cases hentry : a.entry pid with
      | none => rfl
      | some v =>
        obtain ⟨-, task, htask, -⟩ := h.known.entry pid v hentry
        rw [hrow] at htask
        cases htask
    rw [hnone]
    simp [view?, hrow]

/-- A task that is shown as it is now is shown right. -/
theorem Settled.good_of_shown (h : a.Settled tid) (hrow : a.row = some task) (hid : task.id = tid) :
    (a.shown task a.status).Good tid := by
  by_cases hname : task.id = ""
  · have heq : a.shown task a.status = a := if_pos hname
    have hever := h.known.nameless (hid ▸ hname)
    rw [heq]
    refine ⟨h.known.nameless, fun pid => ?_, h.manned, h.unpaused⟩
    rw [hever]
    cases hentry : a.entry pid with
    | none => rfl
    | some v =>
      have hshown := (h.known.entry pid v hentry).1
      rw [hever] at hshown
      cases hshown
  · have heq : a.shown task a.status = { a with
        entry := setAt a.entry task.projectId (some (buildTaskView task a.status false))
        ever := true } := if_neg hname
    rw [heq]
    refine ⟨fun hno => absurd (hid.trans hno) hname, fun pid => ?_, h.manned, h.unpaused⟩
    dsimp only [view?]
    rw [hrow, setAt_apply]
    by_cases hpid : pid = task.projectId
    · subst hpid
      simp [Option.filter, buildTaskView]
    · have hnone : a.entry pid = none := by
        cases hentry : a.entry pid with
        | none => rfl
        | some v =>
          obtain ⟨-, task', hrow', hpid'⟩ := h.known.entry pid v hentry
          cases hrow.symm.trans hrow'
          exact absurd hpid'.symm hpid
      simp [hpid, hnone, Option.filter, buildTaskView, Ne.symm hpid]

/-- What a transaction or the registry may do to an account. -/
structure Moved (a a' : Account) : Prop where
  row : a'.row = a.row ∨ ∃ task task', a.row = some task ∧ a'.row = some task' ∧ RowStep task task'
  entry : a'.entry = a.entry
  ever : a'.ever = a.ever

theorem Moved.refl (a : Account) : Moved a a := ⟨Or.inl rfl, rfl, rfl⟩

theorem Known.moved (h : a.Known tid) (hm : Moved a a') : a'.Known tid where
  nameless hname := hm.ever.trans (h.nameless hname)
  entry := by
    intro pid v hv
    rw [hm.entry] at hv
    obtain ⟨hever, task, hrow, hpid⟩ := h.entry pid v hv
    refine ⟨hm.ever.trans hever, ?_⟩
    rcases hm.row with heq | ⟨task₁, task₂, hrow₁, hrow₂, hstep⟩
    · exact ⟨task, heq.trans hrow, hpid⟩
    · cases hrow.symm.trans hrow₁
      refine ⟨task₂, hrow₂, ?_⟩
      rw [hstep.fixed]
      exact hpid

end Account

/-! ## Programs that change no account -/

open QuietLemmas

/-- Every account is as before. -/
def Same (s s' : Published) : Prop := ∀ tid, s'.account tid = s.account tid

/-- The account of the task satisfies `P`, and the others are as before. -/
structure Around (s : Published) (tid : TaskId) (P : Account → Prop) (s' : Published) : Prop where
  own : P (s'.account tid)
  other : ∀ tid', tid' ≠ tid → s'.account tid' = s.account tid'

namespace Around

variable {s s' s'' : Published} {tid : TaskId} {P P' : Account → Prop}

theorem mono (h : Around s tid P s') (hP : ∀ a, P a → P' a) : Around s tid P' s' :=
  ⟨hP _ h.own, h.other⟩

theorem trans (h : Around s tid P s') (h' : Around s' tid P' s'') : Around s tid P' s'' :=
  ⟨h'.own, fun tid' hne => (h'.other tid' hne).trans (h.other tid' hne)⟩

theorem of_same (h : Same s s') (hP : P (s.account tid)) : Around s tid P s' :=
  ⟨(h tid).symm ▸ hP, fun tid' _ => h tid'⟩

theorem same (h : Around s tid P s') (hs : Same s' s'') : Around s tid P s'' :=
  h.trans (of_same hs h.own)

/-- When the own account is good again, every account is. -/
theorem good (h : Around s tid (Account.Good tid) s')
    (hs : ∀ tid', tid' ≠ tid → (s.account tid').Good tid') (tid' : TaskId) :
    (s'.account tid').Good tid' := by
  by_cases heq : tid' = tid
  · subst heq
    exact h.own
  · rw [h.other tid' heq]
    exact hs tid' heq

end Around

variable {settings : Settings} {op : Op} {s : Published} {α : Type}

theorem mute_runs {p : Program α} (hp : p.All Mute) :
    Runs settings op p (fun _ => Same s) s := by
  refine Alone.of_all (fun a ha env s₁ r s₂ _ hsame hexec tid => ?_) hp fun _ => rfl
  exact (account_of_mute ha hexec tid).trans (hsame tid)

theorem silent_runs {p : Program α} (hp : p.All Act.Silent) :
    Runs settings op p (fun _ => Same s) s := mute_runs (hp.mono mute_of_silent)

/-- One action. -/
theorem call_runs {a : Act α} {Q : Except PyErr α → Published → Prop}
    (h : ∀ env r s', admits a env = true → spares settings op a env s = true →
      Published.exec settings a env s = (r, s') → Q r s') : Runs settings op (.call a) Q s :=
  Alone.call fun env r s' hallow hexec => h env r s' hallow.1 hallow.2 hexec

theorem getTask_runs (tid : TaskId) :
    Runs settings op (store (.getTask tid)) (fun r s' => r = .ok (s.account tid).row ∧ s' = s) s := by
  refine call_runs fun env r s' ha _ hexec => ?_
  obtain ⟨db', htx, rfl⟩ := exec_store_of_isNone ha hexec
  cases htx
  exact ⟨rfl, rfl⟩

/-- The row is read as it is. -/
theorem getTask_seq {β : Type} {tid : TaskId} {f : Option Task → Program β}
    {Q : Except PyErr β → Published → Prop} (h : Runs settings op (f (s.account tid).row) Q s) :
    Runs settings op (store (.getTask tid) >>= f) Q s := by
  refine Safe.seq (getTask_runs tid) ?_ ?_
  · rintro row s' ⟨hok, rfl⟩
    cases hok
    exact h
  · rintro e s' ⟨he, -⟩
    cases he

/-! ## Events and publications -/

theorem newEvent_runs (tid : TaskId) (type : String) (payload : JsonObj) :
    Runs settings op (newEvent tid type payload)
      (fun r s' => (∃ ts, r = .ok ⟨tid, type, payload, ts⟩) ∧ s' = s) s := by
  refine Safe.seq (Q := fun r s' => (∃ ts, r = .ok ts) ∧ s' = s) ?_ ?_ ?_
  · refine call_runs fun env r s' _ _ hexec => ?_
    cases hexec
    exact ⟨⟨_, rfl⟩, rfl⟩
  · rintro ts s' ⟨⟨_, hts⟩, rfl⟩
    cases hts
    exact ⟨⟨_, rfl⟩, rfl⟩
  · rintro e s' ⟨⟨_, hts⟩, -⟩
    cases hts

/-- An event other than a status changes no account. -/
theorem recordEvent_mute {tid : TaskId} {type : String} (payload : JsonObj)
    (htype : type ≠ "status") : (recordEvent tid type payload).All Mute := by
  refine ⟨trivial, fun r => ?_⟩
  cases r with
  | ok ts => exact Prog.all_call.mpr ⟨trivial, htype⟩
  | error e => trivial

/-- An event of a task that is there is recorded. -/
theorem recordEvent_runs {tid : TaskId} {type : String} (payload : JsonObj)
    (htype : type ≠ "status") (hrow : (s.account tid).row ≠ none) :
    Runs settings op (recordEvent tid type payload) (fun r s' => r = .ok () ∧ Same s s') s := by
  refine Safe.seq (newEvent_runs tid type payload) ?_ ?_
  · rintro e s' ⟨⟨ts, hts⟩, rfl⟩
    cases hts
    refine call_runs fun env r s'' ha _ hexec => ?_
    have hmute : Mute (.store (.appendEvent ⟨tid, type, payload, ts⟩)) := ⟨trivial, htype⟩
    have hsame := account_of_mute hmute hexec
    obtain ⟨db', htx, rfl⟩ := exec_store_of_isNone ha hexec
    rcases Store.StoreLemmas.appendEvent_cases htx with ⟨-, hno, -⟩ | ⟨rfl, -⟩
    · exact absurd (Table.get?_eq_none_iff.mpr hno) hrow
    · exact ⟨rfl, hsame⟩
  · rintro e s' ⟨⟨ts, hts⟩, -⟩
    cases hts

/-- A status that is recorded is the last one of its task. -/
theorem recordStatus_runs (tid : TaskId) (record : JsonObj) :
    Runs settings op (recordEvent tid "status" record)
      (fun r s' => ((∃ e, r = .error e) ∧ (s.account tid).row = none ∧ Same s s') ∨
        (r = .ok () ∧ Around s tid (fun a => a = { s.account tid with status := record }) s')) s := by
  refine Safe.seq (newEvent_runs tid "status" record) ?_ ?_
  · rintro e s' ⟨⟨ts, hts⟩, rfl⟩
    cases hts
    refine call_runs fun env r s'' ha _ hexec => ?_
    have happ := account_append rfl (Option.isNone_iff_eq_none.mp ha) hexec
    rcases happ tid with ⟨hrow, herr, -⟩ | ⟨rfl, hown⟩
    · refine Or.inl ⟨herr, hrow, fun tid' => ?_⟩
      obtain ⟨err, rfl⟩ := herr
      rcases happ tid' with ⟨-, -, hsame⟩ | ⟨hok, -⟩
      · exact hsame
      · cases hok
    · refine Or.inr ⟨rfl, hown.trans (if_pos rfl), fun tid' hne => ?_⟩
      rcases happ tid' with ⟨-, ⟨err, herr⟩, -⟩ | ⟨-, hother⟩
      · cases herr
      · exact hother.trans (if_neg hne)
  · rintro e s' ⟨⟨ts, hts⟩, -⟩
    cases hts

/-- The account that `_publish_task` leaves. -/
def Account.republished (a : Account) (status : Option JsonObj) : Account :=
  a.row.elim a fun task => a.shown task (status.getD a.status)

theorem Account.republished_row {a : Account} {status : Option JsonObj} :
    (a.republished status).row = a.row := by
  unfold republished
  cases hrow : a.row with
  | none => exact hrow
  | some task =>
    dsimp only [Option.elim, shown]
    split <;> exact hrow

theorem Account.republished_status {a : Account} {status : Option JsonObj} :
    (a.republished status).status = a.status := by
  unfold republished
  cases a.row with
  | none => rfl
  | some task =>
    dsimp only [Option.elim, shown]
    split <;> rfl

/-- A task is shown as it is now. -/
theorem Account.Settled.good_republished {tid : TaskId} {a : Account} {status : Option JsonObj}
    (h : a.Settled tid) (hid : ∀ task, a.row = some task → task.id = tid)
    (hst : status.getD a.status = a.status) : (a.republished status).Good tid := by
  unfold Account.republished
  rw [hst]
  cases hrow : a.row with
  | none => exact h.good_of_no_row hrow
  | some task => exact h.good_of_shown hrow (hid task hrow)

/-- `_publish_task` never raises. -/
theorem publishCurrent_runs (tid : TaskId) (status : Option JsonObj) :
    Runs settings op (call (.publish (.current tid status)))
      (fun r s' => r = .ok () ∧ Around s tid (· = (s.account tid).republished status) s') s := by
  refine call_runs fun env r s' ha _ hexec => ?_
  obtain ⟨rfl, rfl⟩ := account_publish (Option.isNone_iff_eq_none.mp ha) hexec
  refine ⟨rfl, ?_, fun tid' hne => ?_⟩
  · exact (account_publishCurrent tid status tid).trans (if_pos rfl)
  · exact (account_publishCurrent tid status tid').trans (if_neg hne)

/-- `publishEntry` never raises. -/
theorem publishEntry_runs (tid : TaskId) (status : Option JsonObj) :
    Runs settings op (publishEntry tid status)
      (fun r s' => r = .ok () ∧ Around s tid (· = (s.account tid).republished status) s') s := by
  refine getTask_seq ?_
  cases hrow : (s.account tid).row with
  | none =>
    refine ⟨rfl, Around.of_same (fun _ => rfl) ?_⟩
    rw [Account.republished, hrow]
    rfl
  | some row =>
    refine call_runs fun env r s' ha _ hexec => ?_
    obtain ⟨rfl, rfl⟩ := account_publish (Option.isNone_iff_eq_none.mp ha) hexec
    obtain rfl := account_row_id hrow
    refine ⟨rfl, ?_, fun tid' hne => ?_⟩
    · refine (account_publishTask row status row.id).trans ((if_pos rfl).trans ?_)
      rw [Account.republished, hrow]
      rfl
    · exact (account_publishTask row status tid').trans (if_neg hne)

/-! ## Programs about one task -/

/-- Performed alone in `s`, the program leaves an account of the task that satisfies `Q`, and the
other accounts as they are. -/
abbrev Turns (settings : Settings) (op : Op) (tid : TaskId) (p : Program α)
    (Q : Except PyErr α → Account → Prop) (s : Published) : Prop :=
  Runs settings op p (fun r s' => Around s tid (Q r) s') s

namespace Turns

variable {β : Type} {tid : TaskId} {p : Program α} {Q Q' : Except PyErr α → Account → Prop}

theorem mono (h : Turns settings op tid p Q s) (hQ : ∀ r a, Q r a → Q' r a) :
    Turns settings op tid p Q' s := Safe.mono h fun r _ hs => hs.mono (hQ r)

/-- A program that changes no account. -/
theorem of_mute (hp : p.All Mute) : Turns settings op tid p (fun _ a => a = s.account tid) s :=
  Safe.mono (mute_runs hp) fun _ _ hs => .of_same hs rfl

theorem of_silent (hp : p.All Act.Silent) :
    Turns settings op tid p (fun _ a => a = s.account tid) s := of_mute (hp.mono mute_of_silent)

theorem ret {r : α} (h : Q (.ok r) (s.account tid)) : Turns settings op tid (Pure.pure r) Q s :=
  Around.of_same (fun _ => rfl) h

theorem seq {f : α → Program β} {R : Except PyErr β → Account → Prop}
    (h : Turns settings op tid p Q s)
    (hok : ∀ a s', Q (.ok a) (s'.account tid) → Turns settings op tid (f a) R s')
    (herr : ∀ e a, Q (.error e) a → R (.error e) a) : Turns settings op tid (p >>= f) R s := by
  refine Safe.seq h (fun a s' hs => ?_) fun e _ hs => hs.mono (herr e)
  exact Safe.mono (hok a s' hs.own) fun _ _ hs' => hs.trans hs'

/-- First a program that returns. -/
theorem value_seq {f : α → Program β} {P : Account → Prop} {R : Except PyErr β → Account → Prop}
    (h : Turns settings op tid p (fun r a => (∃ x, r = .ok x) ∧ P a) s)
    (hok : ∀ a s', P (s'.account tid) → Turns settings op tid (f a) R s') :
    Turns settings op tid (p >>= f) R s := by
  refine seq h (fun a s' ha => hok a s' ha.2) ?_
  rintro e a ⟨⟨x, hx⟩, -⟩
  cases hx

/-- The same with a known value. -/
theorem done_seq {f : α → Program β} {v : α} {P : Account → Prop}
    {R : Except PyErr β → Account → Prop}
    (h : Turns settings op tid p (fun r a => r = .ok v ∧ P a) s)
    (hok : ∀ s', P (s'.account tid) → Turns settings op tid (f v) R s') :
    Turns settings op tid (p >>= f) R s := by
  refine seq h ?_ ?_
  · rintro _ s' ⟨hv, hP⟩
    cases hv
    exact hok s' hP
  · rintro e a ⟨he, -⟩
    cases he

/-- First what changes no account. -/
theorem mute_seq {f : α → Program β} {R : Except PyErr β → Account → Prop} (hp : p.All Mute)
    (hok : ∀ a s', s'.account tid = s.account tid → Turns settings op tid (f a) R s')
    (herr : ∀ e, R (.error e) (s.account tid)) : Turns settings op tid (p >>= f) R s :=
  seq (of_mute hp) hok fun e _ ha => ha ▸ herr e

theorem attempt {Q : Except PyErr (Except PyErr α) → Account → Prop}
    (h : Turns settings op tid p (fun r => Q (.ok r)) s) :
    Turns settings op tid p.attempt Q s := Safe.attempt h

/-- What comes after an attempt knows how it ended. -/
theorem attempt_seq {f : Except PyErr α → Program β} {R : Except PyErr β → Account → Prop}
    (h : Turns settings op tid p Q s)
    (hf : ∀ r s', Q r (s'.account tid) → Turns settings op tid (f r) R s') :
    Turns settings op tid (p.attempt >>= f) R s := by
  refine seq (attempt (Q := fun r a => ∃ x, r = .ok x ∧ Q x a)
    (h.mono fun r a ha => ⟨r, rfl, ha⟩)) ?_ ?_
  · rintro _ s' ⟨x, hx, hQ⟩
    cases hx
    exact hf _ s' hQ
  · rintro e a ⟨_, he, -⟩
    cases he

/-- A failure that is ignored. -/
theorem ignoring {p : Program Unit} {P : Account → Prop}
    (h : Turns settings op tid p (fun _ => P) s) :
    Turns settings op tid p.ignoring (fun r a => r = .ok () ∧ P a) s :=
  Safe.ignoring h fun _ hs => hs.mono fun _ hP => ⟨rfl, hP⟩

/-- A `finally` that changes no account and does not raise. -/
theorem tryFinally {fin : Program Unit}
    (hfin : ∀ s', Turns settings op tid fin (fun r a => r = .ok () ∧ a = s'.account tid) s')
    (h : Turns settings op tid p Q s) : Turns settings op tid (p.tryFinally fin) Q s := by
  refine Safe.tryFinally (Safe.mono h fun r s' hs => Safe.mono (hfin s') fun r' s'' hs' => ?_)
  have hQ : Q r (s''.account tid) := hs'.own.2 ▸ hs.own
  rw [hs'.own.1]
  exact ⟨hQ, (hs.trans hs').other⟩

/-- A program that leaves the account of its task good leaves every account good. -/
theorem good (h : Turns settings op tid p (fun _ => Account.Good tid) s)
    (hs : ∀ tid, (s.account tid).Good tid) :
    Runs settings op p (fun _ s' => ∀ tid, (s'.account tid).Good tid) s :=
  Safe.mono h fun _ _ hs' => hs'.good fun tid' _ => hs tid'

end Turns

end Sinks

end Flotilla
