import Mathlib.Data.List.DropRight
import KerSorMonitor.Lib.Machine
import KerSorMonitor.Flotilla.Store

/-!
# The window of status events (`flotilla/store.py`)

`append_event` drops the status events of its task that fall out of the retention window;
`finish_worker` appends the event of an evaluation in its own transaction. What was appended is kept
beside the database.

Results:
1. `statusEvents_eq`: what `status_events` returns, by the rows of the table.
2. `kept_append`, `kept_finish`: what each of the two does to the window.
3. `newest_window`: after every run the window has the newest events, and nothing else is gone.
-/

namespace List

variable {α : Type}

theorem rtake_rtake (l : List α) (n m : Nat) : (l.rtake m).rtake n = l.rtake (min n m) := by
  simp only [rtake_eq_reverse_take_reverse, reverse_reverse, take_take]

/-- A window over what a window has left is a window over all. -/
theorem rtake_rtake_concat (l : List α) (n : Nat) (x : α) :
    (l.rtake n ++ [x]).rtake n = (l ++ [x]).rtake n := by
  cases n with
  | zero => simp
  | succ n =>
    rw [rtake_concat_succ, rtake_concat_succ, rtake_rtake, Nat.min_eq_left (Nat.le_succ n)]

theorem map_rtake {β : Type} (f : α → β) (l : List α) (n : Nat) :
    (l.rtake n).map f = (l.map f).rtake n := by
  simp only [rtake_eq_reverse_take_reverse, map_reverse, map_take]

end List

namespace Flotilla

open Keyed

namespace StatusWindow

/-! ## Runs -/

/-- A call that writes an event. -/
inductive Call
  | append (e : Event)
  /-- `finish_worker`, with the payload and the time of its evaluation event. -/
  | finish (now : String) (tid : TaskId) (workerId : Option WorkerId) (terminalState : String)
      (evaluation : Option (JsonObj × String))

/-- The database, and the events that were appended to it, oldest first. -/
structure Log where
  db : Db
  appended : List Event

/-- The event of an evaluation. -/
def evaluationEvent (tid : TaskId) (evaluation : Option (JsonObj × String)) : Option Event :=
  evaluation.map fun e => ⟨tid, "evaluation", e.1, e.2⟩

/-- `finish_worker` has committed. -/
def committed : Except PyErr Bool → Bool
  | .ok done => done
  | .error _ => false

/-- One call. A call that raises appends nothing. -/
def step (settings : Settings) : Call → Log → Log
  | .append e, s =>
    let (r, db) := Store.appendEvent settings e s.db
    ⟨db, if r.isOk then s.appended ++ [e] else s.appended⟩
  | .finish now tid workerId terminalState evaluation, s =>
    let event := evaluationEvent tid evaluation
    let (r, db) := Store.finishWorker now tid workerId terminalState event s.db
    ⟨db, if committed r then s.appended ++ event.toList else s.appended⟩

/-- A sequence of calls, on a database that has no events yet. -/
def run (settings : Settings) (calls : List Call) (db : Db) : Log :=
  Machine.run (step settings) calls ⟨db, []⟩

/-- `max(1, config.SETTINGS.status_event_retention)`. -/
def retention (settings : Settings) : Nat := (max 1 settings.statusEventRetention).toNat

/-- A status event of a task. -/
def isStatusOf (tid : TaskId) (e : Event) : Bool := e.taskId = tid && e.type = "status"

/-! ## The rows -/

variable {settings : Settings} {db db' : Db} {tid : TaskId}

/-- The rows stand in the order of their ids. -/
def Ordered (db : Db) : Prop := db.event.rows.Pairwise fun a b => a.id < b.id

/-- The status rows of a task, oldest first. -/
def statusRows (tid : TaskId) (db : Db) : List EventRow :=
  db.event.rows.filter fun e => isStatusOf tid e.toEvent

/-- Sorting rows that stand in order turns them around. -/
theorem insertionSort_newest {rows : List EventRow} (h : rows.Pairwise fun a b => a.id < b.id) :
    rows.insertionSort (fun a b => b.id ≤ a.id) = rows.reverse := by
  have hperm : (rows.insertionSort fun a b => b.id ≤ a.id).Perm rows.reverse :=
    (List.perm_insertionSort _ _).trans (List.reverse_perm rows).symm
  have hsorted : (rows.insertionSort fun a b => b.id ≤ a.id).Pairwise fun a b => b.id ≤ a.id :=
    List.pairwise_insertionSort _ _
  have hreverse : rows.reverse.Pairwise fun a b => b.id ≤ a.id :=
    List.pairwise_reverse.mpr (h.imp Nat.le_of_lt)
  have hids : (rows.map EventRow.id).Nodup := List.pairwise_map.mpr (h.imp Nat.ne_of_lt)
  refine List.Perm.eq_of_pairwise (fun a b ha hb hab hba => ?_) hsorted hreverse hperm
  have ha' : a ∈ rows := (List.mem_insertionSort _).mp ha
  have hb' : b ∈ rows := List.mem_reverse.mp hb
  exact List.inj_on_of_nodup_map hids ha' hb' (Nat.le_antisymm hba hab)

theorem statusEvents_eq (h : Ordered db) (tid : TaskId) (n : Nat) :
    Store.statusEvents tid n db = ((statusRows tid db).map EventRow.toEvent).rtake n := by
  unfold Store.statusEvents Store.statusRowsDesc
  have hrows : (statusRows tid db).Pairwise fun a b => a.id < b.id := h.filter _
  have hsort := insertionSort_newest hrows
  unfold statusRows isStatusOf at hsort
  rw [hsort, ← List.map_rtake, List.rtake_eq_reverse_take_reverse]
  rfl

/-- Of rows in order, those that are newer than the one at position `n` from the end are the last
`n`. -/
theorem filter_newer {rows : List EventRow} {n : Nat} {x : EventRow}
    (h : rows.Pairwise fun a b => a.id < b.id) (hx : rows.reverse[n]? = some x) :
    rows.filter (fun y => !decide (y.id ≤ x.id)) = rows.rtake n := by
  obtain ⟨hlt, hget⟩ := List.getElem?_eq_some_iff.mp hx
  have hsplit : rows.reverse = rows.reverse.take n ++ x :: rows.reverse.drop (n + 1) := by
    conv_lhs => rw [← List.take_append_drop n rows.reverse, List.drop_eq_getElem_cons hlt, hget]
  rw [List.rtake_eq_reverse_take_reverse]
  generalize rows.reverse.take n = newer at hsplit
  generalize rows.reverse.drop (n + 1) = older at hsplit
  have hrows : rows = older.reverse ++ x :: newer.reverse := by
    rw [← List.reverse_reverse rows, hsplit]
    simp
  rw [hrows, List.pairwise_append, List.pairwise_cons] at h
  obtain ⟨-, ⟨hnewer, -⟩, holder⟩ := h
  have hdrop : older.reverse.filter (fun y => !decide (y.id ≤ x.id)) = [] := by
    refine List.filter_eq_nil_iff.mpr fun y hy => ?_
    have hle := Nat.le_of_lt (holder y hy x List.mem_cons_self)
    simp [hle]
  have hkeep : newer.reverse.filter (fun y => !decide (y.id ≤ x.id)) = newer.reverse := by
    refine List.filter_eq_self.mpr fun y hy => ?_
    simpa using hnewer y hy
  rw [hrows, List.filter_append, hdrop, List.filter_cons, hkeep]
  simp

/-! ## What the calls do to the rows -/

/-- The rows after an event was appended. -/
theorem appendEvent_rows {e : Event} (hordered : Ordered db)
    (h : Store.appendEvent settings e db = (.ok (), db')) :
    ∃ x : EventRow, x.toEvent = e ∧ (∀ y ∈ db.event.rows, y.id < x.id) ∧
      ∃ dropped : EventRow → Bool,
        db'.event.rows = (db.event.rows ++ [x]).filter (fun y => !dropped y) ∧
        (∀ y, dropped y = true → e.type = "status" ∧ isStatusOf e.taskId y.toEvent = true) ∧
        (e.type = "status" → (statusRows e.taskId db ++ [x]).filter (fun y => !dropped y) =
          (statusRows e.taskId db ++ [x]).rtake (retention settings)) := by
  unfold Store.appendEvent connection at h
  cases hins : db.insertEvent e with
  | error err =>
    simp only [hins, Prod.mk.injEq, reduceCtorEq, false_and] at h
  | ok db₁ =>
    obtain ⟨-, -, -, hrows⟩ := Db.insertEvent_eq_ok hins
    simp only [hins] at h
    refine ⟨EventRow.mk e (db.eventSeq + 1), rfl,
      fun y hy => Nat.lt_succ_of_le (db.event_seq y hy), ?_⟩
    have hnew : ∀ y ∈ db.event.rows, y.id < db.eventSeq + 1 := fun y hy =>
      Nat.lt_succ_of_le (db.event_seq y hy)
    by_cases hst : e.type = "status"
    · have hstatus : isStatusOf e.taskId e = true := by simp [isStatusOf, hst]
      have hrows₁ : statusRows e.taskId db₁ =
          statusRows e.taskId db ++ [EventRow.mk e (db.eventSeq + 1)] := by
        unfold statusRows
        rw [hrows, List.filter_append]
        simp [hstatus]
      have hordered₁ : (statusRows e.taskId db₁).Pairwise fun a b => a.id < b.id := by
        rw [hrows₁, List.pairwise_append]
        refine ⟨hordered.filter _, List.pairwise_singleton _ _, fun y hy z hz => ?_⟩
        rw [List.mem_singleton.mp hz]
        exact hnew y (List.mem_filter.mp hy).1
      have hdesc : Store.statusRowsDesc e.taskId db₁ = (statusRows e.taskId db₁).reverse :=
        insertionSort_newest hordered₁
      have hretention : (max 1 settings.statusEventRetention).toNat = retention settings := rfl
      simp only [hst, if_true, hdesc, hretention] at h
      rw [← hrows₁]
      cases hget : (statusRows e.taskId db₁).reverse[retention settings]? with
      | none =>
        rw [hget] at h
        obtain rfl : db₁ = db' := congrArg Prod.snd h
        have hshort : (statusRows e.taskId db₁).length ≤ retention settings := by
          simpa using hget
        refine ⟨fun _ => false, by simp [hrows], fun y hy => (by cases hy), fun _ => ?_⟩
        simp [List.rtake, Nat.sub_eq_zero_of_le hshort]
      | some oldest =>
        rw [hget] at h
        obtain rfl := congrArg Prod.snd h
        refine ⟨fun y => y.taskId = e.taskId && y.type = "status" && y.id ≤ oldest.id,
          congrArg (List.filter _) hrows, fun y hy => ?_, fun _ => ?_⟩
        · rw [Bool.and_eq_true] at hy
          exact ⟨hst, hy.1⟩
        · rw [← filter_newer hordered₁ hget]
          refine List.filter_congr fun y hy => ?_
          have hy' : isStatusOf e.taskId y.toEvent = true := (List.mem_filter.mp hy).2
          unfold isStatusOf at hy'
          dsimp only
          rw [hy', Bool.true_and]
    · simp only [hst, if_false, Prod.mk.injEq, true_and] at h
      subst h
      exact ⟨fun _ => false, by simp [hrows], fun y hy => (by cases hy), fun h => absurd h hst⟩

/-- The rows after `finish_worker`. -/
theorem finishWorker_rows {now : String} {workerId : Option WorkerId} {terminalState : String}
    {event : Option Event} {r : Except PyErr Bool}
    (h : Store.finishWorker now tid workerId terminalState event db = (r, db')) :
    ∃ xs : List EventRow, db'.event.rows = db.event.rows ++ xs ∧
      (∀ x ∈ xs, ∀ y ∈ db.event.rows, y.id < x.id) ∧ xs.length ≤ 1 ∧
      xs.map EventRow.toEvent = if committed r then event.toList else [] := by
  unfold Store.finishWorker connection at h
  cases hrow : db.task? tid with
  | none =>
    simp only [hrow, Prod.mk.injEq] at h
    obtain ⟨rfl, rfl⟩ := h
    exact ⟨[], by simp, fun x hx => (by cases hx), Nat.zero_le 1, rfl⟩
  | some row =>
    cases htr : transition row.state terminalState with
    | error e =>
      simp only [hrow, htr, Prod.mk.injEq] at h
      obtain ⟨rfl, rfl⟩ := h
      exact ⟨[], by simp, fun x hx => (by cases hx), Nat.zero_le 1, rfl⟩
    | ok st =>
      simp only [hrow, htr] at h
      generalize hset : db.setStates (fun t => t.id = tid && t.state = row.state) st now = db₀ at h
      have hevents : (Store.endWorkerOpt db₀ workerId now).event = db.event := by
        rw [← hset]
        cases workerId <;> rfl
      cases event with
      | none =>
        simp only [Prod.mk.injEq] at h
        obtain ⟨rfl, rfl⟩ := h
        exact ⟨[], by rw [hevents, List.append_nil], fun x hx => (by cases hx), Nat.zero_le 1, rfl⟩
      | some ev =>
        cases hins : (Store.endWorkerOpt db₀ workerId now).insertEvent ev with
        | error e =>
          simp only [hins, Prod.mk.injEq] at h
          obtain ⟨rfl, rfl⟩ := h
          exact ⟨[], by simp, fun x hx => (by cases hx), Nat.zero_le 1, rfl⟩
        | ok db₁ =>
          simp only [hins, Prod.mk.injEq] at h
          obtain ⟨rfl, rfl⟩ := h
          obtain ⟨-, -, -, hrows⟩ := Db.insertEvent_eq_ok hins
          have hbelow := (Store.endWorkerOpt db₀ workerId now).event_seq
          rw [hevents] at hrows hbelow
          refine ⟨_, hrows, fun x hx y hy => ?_, Nat.le_refl 1, rfl⟩
          rw [List.mem_singleton.mp hx]
          exact Nat.lt_succ_of_le (hbelow y hy)

/-! ## The window -/

/-- The status events of each task are the newest that were appended, and all others are there. -/
structure Kept (settings : Settings) (s : Log) : Prop where
  ordered : Ordered s.db
  window : ∀ tid, (statusRows tid s.db).map EventRow.toEvent =
    (s.appended.filter (isStatusOf tid)).rtake (retention settings)
  others : (s.db.event.rows.filter fun y => y.type ≠ "status").map EventRow.toEvent =
    s.appended.filter fun e => e.type ≠ "status"

/-- What is dropped does not matter to a filter that it does not pass. -/
theorem filter_not_dropped {rows : List EventRow} {dropped q : EventRow → Bool}
    (h : ∀ y, q y = true → dropped y = false) :
    (rows.filter fun y => !dropped y).filter q = rows.filter q := by
  rw [List.filter_filter]
  refine List.filter_congr fun y _ => ?_
  cases hq : q y with
  | false => rfl
  | true => simp [h y hq]

theorem ordered_concat {rows : List EventRow} {x : EventRow}
    (h : rows.Pairwise fun a b => a.id < b.id) (hx : ∀ y ∈ rows, y.id < x.id) :
    (rows ++ [x]).Pairwise fun a b => a.id < b.id := by
  rw [List.pairwise_append]
  refine ⟨h, List.pairwise_singleton _ _, fun y hy z hz => ?_⟩
  rw [List.mem_singleton.mp hz]
  exact hx y hy

theorem kept_append {s : Log} (h : Kept settings s) (e : Event) :
    Kept settings (step settings (.append e) s) := by
  have hstep : step settings (.append e) s = ⟨(Store.appendEvent settings e s.db).2,
      if (Store.appendEvent settings e s.db).1.isOk then s.appended ++ [e] else s.appended⟩ := rfl
  rw [hstep]
  cases happend : Store.appendEvent settings e s.db with
  | mk r db' =>
  cases r with
  | error err =>
    have hsame : db' = s.db := connection_error happend
    subst hsame
    exact h
  | ok u =>
    obtain ⟨x, hx, hnew, dropped, hrows, hdropped, htrimmed⟩ := appendEvent_rows h.ordered happend
    refine ⟨?_, fun tid => ?_, ?_⟩
    · unfold Ordered
      rw [hrows]
      exact (ordered_concat h.ordered hnew).filter _
    · have hstatus : statusRows tid db' =
          ((s.db.event.rows ++ [x]).filter fun y => !dropped y).filter
            fun y => isStatusOf tid y.toEvent := by
        unfold statusRows
        rw [hrows]
      show (statusRows tid db').map EventRow.toEvent =
        ((s.appended ++ [e]).filter (isStatusOf tid)).rtake (retention settings)
      rw [List.filter_append, List.filter_cons, List.filter_nil, hstatus]
      by_cases hof : isStatusOf tid e = true
      · -- a status event of the task: the window moves on
        obtain ⟨htid, hst⟩ : e.taskId = tid ∧ e.type = "status" := by
          simpa [isStatusOf] using hof
        rw [if_pos hof, List.filter_comm, List.filter_append, List.filter_cons, List.filter_nil, hx,
          if_pos hof]
        have htrim := htrimmed hst
        have hwindow := h.window tid
        rw [htid] at htrim
        unfold statusRows at htrim hwindow
        rw [htrim, List.map_rtake, List.map_append, List.map_cons, List.map_nil, hx, hwindow,
          List.rtake_rtake_concat]
      · -- the window of another task, or an event of another type
        rw [if_neg hof, List.append_nil, ← h.window tid, filter_not_dropped fun y hy => ?_]
        · unfold statusRows
          rw [List.filter_append, List.filter_cons, List.filter_nil, hx, if_neg hof,
            List.append_nil]
        · rw [Bool.eq_false_iff]
          intro hy'
          obtain ⟨hst, hyof⟩ := hdropped y hy'
          have hsame : y.taskId = tid ∧ y.taskId = e.taskId := by
            simp only [isStatusOf, Bool.and_eq_true, decide_eq_true_eq] at hy hyof
            exact ⟨hy.1, hyof.1⟩
          refine hof ?_
          simp [isStatusOf, hst, ← hsame.1, ← hsame.2]
    · show (db'.event.rows.filter fun y => y.type ≠ "status").map EventRow.toEvent =
        (s.appended ++ [e]).filter fun e => e.type ≠ "status"
      rw [hrows, filter_not_dropped fun y hy => ?_]
      · rw [List.filter_append, List.map_append, h.others, List.filter_append, List.filter_cons,
          List.filter_nil, List.filter_cons, List.filter_nil]
        have htype : x.type = e.type := congrArg Event.type hx
        rw [htype]
        split <;> simp [hx]
      · rw [Bool.eq_false_iff]
        intro hy'
        have hst := (hdropped y hy').2
        simp only [isStatusOf, Bool.and_eq_true, decide_eq_true_eq] at hst hy
        exact hy hst.2

theorem kept_finish {s : Log} (h : Kept settings s) (now : String) (tid : TaskId)
    (workerId : Option WorkerId) (terminalState : String)
    (evaluation : Option (JsonObj × String)) :
    Kept settings (step settings (.finish now tid workerId terminalState evaluation) s) := by
  have hstep : step settings (.finish now tid workerId terminalState evaluation) s =
      ⟨(Store.finishWorker now tid workerId terminalState (evaluationEvent tid evaluation) s.db).2,
        if committed (Store.finishWorker now tid workerId terminalState
          (evaluationEvent tid evaluation) s.db).1
        then s.appended ++ (evaluationEvent tid evaluation).toList else s.appended⟩ := rfl
  rw [hstep]
  cases hfinish : Store.finishWorker now tid workerId terminalState
      (evaluationEvent tid evaluation) s.db with
  | mk r db' =>
  obtain ⟨xs, hrows, hnew, hlength, hxs⟩ := finishWorker_rows hfinish
  have happended : (if committed r then s.appended ++ (evaluationEvent tid evaluation).toList
      else s.appended) = s.appended ++ xs.map EventRow.toEvent := by
    rw [hxs]
    split <;> simp
  -- the event of an evaluation is no status event
  have htype : ∀ x ∈ xs, x.type = "evaluation" := by
    intro x hx
    have hmem := List.mem_map_of_mem (f := EventRow.toEvent) hx
    rw [hxs] at hmem
    split at hmem
    · obtain ⟨e, -, he⟩ := Option.map_eq_some_iff.mp (Option.mem_toList.mp hmem)
      exact (congrArg Event.type he).symm
    · cases hmem
  dsimp only
  rw [happended]
  refine ⟨?_, fun tid => ?_, ?_⟩
  · unfold Ordered
    dsimp only
    rw [hrows, List.pairwise_append]
    refine ⟨h.ordered, ?_, fun y hy x hx => hnew x hx y hy⟩
    cases xs with
    | nil => exact List.Pairwise.nil
    | cons x xs =>
      have hnil : xs = [] := List.length_eq_zero_iff.mp (by simpa using hlength)
      rw [hnil]
      exact List.pairwise_singleton _ _
  · have hnone : (xs.map EventRow.toEvent).filter (isStatusOf tid) = [] := by
      refine List.filter_eq_nil_iff.mpr fun e he => ?_
      obtain ⟨x, hx, rfl⟩ := List.mem_map.mp he
      simp [isStatusOf, htype x hx]
    have hrowsNone : xs.filter (fun y => isStatusOf tid y.toEvent) = [] := by
      refine List.filter_eq_nil_iff.mpr fun x hx => ?_
      simp [isStatusOf, htype x hx]
    unfold statusRows
    dsimp only
    rw [hrows, List.filter_append, hrowsNone, List.append_nil, List.filter_append, hnone,
      List.append_nil]
    exact h.window tid
  · dsimp only
    rw [hrows, List.filter_append, List.map_append, h.others, List.filter_append, List.filter_map]
    rfl

theorem kept_run (settings : Settings) (hempty : db.event.rows = []) (calls : List Call) :
    Kept settings (run settings calls db) := by
  have hstart : Kept settings ⟨db, []⟩ := by
    refine ⟨?_, fun tid => ?_, ?_⟩
    · unfold Ordered
      rw [hempty]
      exact List.Pairwise.nil
    · unfold statusRows
      simp [hempty]
    · simp [hempty]
  refine List.foldlRecOn calls _ hstart fun s h call _ => ?_
  cases call with
  | append e => exact kept_append h e
  | finish now tid workerId terminalState evaluation => exact kept_finish h _ _ _ _ _

/-- After every sequence of calls the status events of a task are the last that were appended, as
many as the retention allows, oldest first; every other event that was appended is still there, and
a status event drops no event of another type or task. -/
theorem newest_window (settings : Settings) {R : Nat} (hpos : 1 ≤ R)
    (hretention : settings.statusEventRetention = R) (hempty : db.event.rows = [])
    (calls : List Call) :
    (∀ tid n, Store.statusEvents tid n (run settings calls db).db =
      ((run settings calls db).appended.filter (isStatusOf tid)).rtake (min n R)) ∧
    ((run settings calls db).db.event.rows.filter fun y => y.type ≠ "status").map
        EventRow.toEvent = (run settings calls db).appended.filter (fun e => e.type ≠ "status") ∧
    ∀ e y, e.type = "status" → y ∈ (run settings calls db).db.event.rows →
      y.type ≠ "status" ∨ y.taskId ≠ e.taskId →
        y ∈ (step settings (.append e) (run settings calls db)).db.event.rows := by
  have hkept := kept_run settings hempty calls
  have hR : retention settings = R := by
    unfold retention
    rw [hretention]
    omega
  refine ⟨fun tid n => ?_, hkept.others, fun e y hst hy hother => ?_⟩
  · rw [statusEvents_eq hkept.ordered, hkept.window, hR, List.rtake_rtake]
  · have hstep : (step settings (.append e) (run settings calls db)).db =
        (Store.appendEvent settings e (run settings calls db).db).2 := rfl
    rw [hstep]
    cases happend : Store.appendEvent settings e (run settings calls db).db with
    | mk r db' =>
    cases r with
    | error err =>
      rw [show db' = _ from connection_error happend]
      exact hy
    | ok u =>
      obtain ⟨x, -, -, dropped, hrows, hdropped, -⟩ := appendEvent_rows hkept.ordered happend
      show y ∈ db'.event.rows
      rw [hrows, List.mem_filter]
      refine ⟨List.mem_append_left _ hy, ?_⟩
      cases hd : dropped y with
      | false => rfl
      | true =>
        have hof := (hdropped y hd).2
        simp only [isStatusOf, Bool.and_eq_true, decide_eq_true_eq] at hof
        exact absurd hother (not_or.mpr ⟨not_not.mpr hof.2, not_not.mpr hof.1⟩)

/-- A database with one task. -/
private def oneTask : Db :=
  (Store.createTasks [{ id := "t", projectId := "p", name := "n", spec := "s" }]
    (Store.createProject { id := "p", name := "n" } Db.init).2).2

/-- Three status events of the task, and a note. -/
private def fourCalls : List Call :=
  [.append ⟨"t", "status", [], "1"⟩, .append ⟨"t", "note", [], "2"⟩,
   .append ⟨"t", "status", [], "3"⟩, .append ⟨"t", "status", [], "4"⟩]

theorem newest_window_two :
    (run { statusEventRetention := 2 } fourCalls oneTask).appended.length = 4 ∧
      Store.statusEvents "t" 9 (run { statusEventRetention := 2 } fourCalls oneTask).db =
        ((run { statusEventRetention := 2 } fourCalls oneTask).appended.filter
          (isStatusOf "t")).rtake (min 9 2) :=
  ⟨by decide +kernel, (newest_window _ (by decide) rfl rfl _).1 "t" 9⟩

end StatusWindow

end Flotilla
