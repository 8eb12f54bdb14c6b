import KerSorMonitor.Flotilla.Transactions

/-!
# Events of one type

The events of a task that have one type, oldest first. Most transactions append no event of the type
and delete none.

Results: `eventsOf_of_keepsEvents`; `eventsOf_finished`.
-/

namespace Flotilla

open Keyed Store

/-- The event is one of a task, of this type. -/
def Event.isOf (type : String) (tid : TaskId) (e : Event) : Bool := e.taskId = tid && e.type = type

/-- The events of a task of this type, in the order of the table. -/
def Db.eventsOf (type : String) (tid : TaskId) (db : Db) : List Event :=
  (db.event.rows.map EventRow.toEvent).filter (Event.isOf type tid)

/-- The transaction appends no event of this type, and deletes none. -/
def Transaction.KeepsEvents (type : String) : {α : Type} → Transaction α → Prop
  | _, .appendEvent e => e.type ≠ type
  | _, .finishWorker _ _ _ event => ∀ e ∈ event, e.type ≠ type
  | _, .markStaleDispatchingLost => type ≠ "dispatch_lost"
  | _, .deleteTask _ => False
  | _, _ => True

namespace TypedEvents

open StoreLemmas

variable {type : String} {tid : TaskId} {α : Type} {db db' : Db}

theorem isOf_eq_false {e : Event} (h : ¬ (e.taskId = tid ∧ e.type = type)) :
    e.isOf type tid = false := by
  unfold Event.isOf
  simpa using h

theorem eventsOf_insertEvent {e : Event} (h : db.insertEvent e = .ok db') :
    db'.eventsOf type tid = db.eventsOf type tid ++ [e].filter (Event.isOf type tid) := by
  obtain ⟨-, -, -, hrows⟩ := Db.insertEvent_eq_ok h
  unfold Db.eventsOf
  rw [hrows, List.map_append, List.filter_append]
  rfl

theorem eventsOf_insertEvent_other {e : Event} (h : db.insertEvent e = .ok db')
    (ht : ¬ (e.taskId = tid ∧ e.type = type)) : db'.eventsOf type tid = db.eventsOf type tid := by
  rw [eventsOf_insertEvent h, List.filter_cons_of_neg (by simp [isOf_eq_false ht]), List.filter_nil,
    List.append_nil]

theorem eventsOf_markLostRows (htype : type ≠ "dispatch_lost") (now : String) (tid : TaskId) :
    ∀ (ids : List TaskId) (db : Db),
      (markLostRows now ids db).2.eventsOf type tid = db.eventsOf type tid
  | [], _ => rfl
  | id :: ids, db => by
    unfold markLostRows
    dsimp only
    split
    · rfl
    · next db₂ hins =>
      have hkeep : db₂.eventsOf type tid = _ :=
        eventsOf_insertEvent_other hins fun h => htype h.2.symm
      exact (eventsOf_markLostRows htype now tid ids db₂).trans hkeep

theorem eventsOf_connection {body : Db → Except PyErr α × Db}
    (h : (body db).2.eventsOf type tid = db.eventsOf type tid) :
    (connection body db).2.eventsOf type tid = db.eventsOf type tid := by
  unfold connection
  split
  · next heq =>
    rw [heq] at h
    exact h
  · rfl

/-- An event of another task or type leaves the events of the type alone; the retention drops events
of type `status` of the same task. -/
theorem eventsOf_appendEvent {settings : Settings} {e : Event} {r : Except PyErr Unit}
    (h : appendEvent settings e db = (r, db')) (ht : ¬ (e.taskId = tid ∧ e.type = type)) :
    db'.eventsOf type tid = db.eventsOf type tid := by
  obtain rfl : (appendEvent settings e db).2 = db' := congrArg Prod.snd h
  refine eventsOf_connection ?_
  dsimp only
  split
  · rfl
  · next db₁ hins =>
    have hkeep := eventsOf_insertEvent_other hins ht
    split
    · next hst =>
      split
      · exact hkeep
      · next oldest _ =>
        rw [← hkeep]
        unfold Db.eventsOf Db.deleteEvents Table.deleteWhere
        rw [List.filter_map, List.filter_map, List.filter_filter]
        refine congrArg _ (List.filter_congr fun x hx => ?_)
        cases hof : (Event.isOf type tid ∘ EventRow.toEvent) x with
        | false => rfl
        | true =>
          -- a dropped row would be of the task and type of the new event
          have hx' : x.taskId = tid ∧ x.type = type := by
            simpa [Event.isOf] using hof
          have hne : ¬ (x.taskId = e.taskId ∧ x.type = "status") := fun hboth =>
            ht ⟨hboth.1.symm.trans hx'.1, hst.trans (hboth.2.symm.trans hx'.2)⟩
          have hout := not_and_or.mp hne
          simp [hout]
    · exact hkeep

/-- What `finish_worker` appends. -/
theorem eventsOf_finished {event : Option Event}
    (h : db'.event.rows.map EventRow.toEvent =
      db.event.rows.map EventRow.toEvent ++ event.toList) :
    db'.eventsOf type tid =
      db.eventsOf type tid ++ event.toList.filter (Event.isOf type tid) := by
  unfold Db.eventsOf
  rw [h, List.filter_append]

/-- A transaction that keeps the events of a type leaves those of every task alone. -/
theorem eventsOf_of_keepsEvents {q : Transaction α} (hq : q.KeepsEvents type)
    {settings : Settings} {clock : Clock} {r : Except PyErr α}
    (h : q.exec settings clock db = (r, db')) (tid : TaskId) :
    db'.eventsOf type tid = db.eventsOf type tid := by
  have hsame (hevent : db'.event = db.event) : db'.eventsOf type tid = db.eventsOf type tid := by
    unfold Db.eventsOf
    rw [hevent]
  cases q with
  | getProject | getHost | existingTaskIds | getTask | allTasks | activeWorkerId | getWorker
  | statusEvents | endWorker | setWorkerSessionUuid =>
    cases h
    rfl
  | createProject p =>
    cases h
    exact hsame (Db.insertProject_event db p)
  | createHost host =>
    simp only [Transaction.exec, createHost, connection] at h
    cases hins : db.insertHost host with
    | error e =>
      simp only [hins, Prod.mk.injEq] at h
      rw [h.2]
    | ok db₁ =>
      simp only [hins, Prod.mk.injEq] at h
      exact hsame (h.2 ▸ (Db.insertHost_eq_ok hins).2.2)
  | createTasks ts =>
    rcases createTasks_cases h with ⟨rfl, -⟩ | ⟨-, -, hevent, -⟩
    · rfl
    · exact hsame hevent
  | setTaskState | releaseTaskClaim =>
    rcases setTaskState_cases h with ⟨rfl, -⟩ | ⟨row, st, -, -, -, -, rfl⟩
    · rfl
    · exact hsame (Db.setStates_event _ _ _ _)
  | claimQueuedTasks maxActive =>
    obtain rfl : (claimQueuedTasks clock.now maxActive db).2 = db' := congrArg Prod.snd h
    exact hsame (claimQueuedTasks_spec clock.now maxActive db).2.2.1
  | markStaleDispatchingLost =>
    obtain rfl : (markStaleDispatchingLost clock.now clock.cutoff db).2 = db' :=
      congrArg Prod.snd h
    refine eventsOf_connection ?_
    have hrows := eventsOf_markLostRows hq clock.now tid (staleDispatching clock.cutoff db) db
    dsimp only
    split
    · next heq =>
      rw [heq] at hrows
      exact hrows
    · next heq =>
      rw [heq] at hrows
      exact hrows
  | activateWorker tid' worker workspace =>
    rcases activateWorker_cases h with ⟨rfl, -⟩ | ⟨-, -, -, -, -, -, -, hevent, -⟩
    · rfl
    · exact hsame hevent
  | finishWorker tid' wid st event =>
    rcases finishWorker_cases h with ⟨rfl, -⟩ | ⟨row, st', -, -, -, -, hrows, -⟩
    · rfl
    · have hother : event.toList.filter (Event.isOf type tid) = [] := by
        refine List.filter_eq_nil_iff.mpr fun e he => ?_
        have hne := hq e (Option.mem_toList.mp he)
        rw [isOf_eq_false fun hboth => hne hboth.2]
        decide
      rw [eventsOf_finished hrows, hother, List.append_nil]
  | createWorker w =>
    simp only [Transaction.exec, createWorker, connection] at h
    cases hins : db.insertWorker w with
    | error e =>
      simp only [hins, Prod.mk.injEq] at h
      rw [h.2]
    | ok db₁ =>
      simp only [hins, Prod.mk.injEq] at h
      obtain ⟨-, -, -, -, hevent⟩ := Db.insertWorker_eq_ok hins
      exact hsame (h.2 ▸ hevent)
  | appendEvent e => exact eventsOf_appendEvent h fun ht => hq ht.2
  | deleteTask => exact hq.elim

end TypedEvents

end Flotilla
