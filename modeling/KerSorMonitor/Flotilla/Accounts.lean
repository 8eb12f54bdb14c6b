import KerSorMonitor.Flotilla.Effects
import KerSorMonitor.Flotilla.Sinks

/-!
# What the control plane and its sink hold of one task

An account of a task has its row, its last status, what the sink shows of it and its registered
handle. Every action is described by what it does to the accounts.

Results:
1. `latestStatus_of_keepsStatus`, `latestStatus_append`: the last status of a task.
2. `account_of_mute`, `account_store`, `account_publish`, ...: one lemma for each kind of action.
-/

namespace Flotilla

namespace Sinks

open Keyed Threads Store

/-! ## The last status of a task -/

/-- The transaction records and deletes no status event. -/
def KeepsStatus : {α : Type} → Transaction α → Prop
  | _, .appendEvent e => e.type ≠ "status"
  | _, .finishWorker _ _ _ event => ∀ e ∈ event, e.type ≠ "status"
  | _, .deleteTask _ => False
  | _, _ => True

/-- The status events of a task, in the order of the table. -/
def statusRows (tid : TaskId) (rows : List EventRow) : List EventRow :=
  rows.filter fun e => e.taskId = tid && e.type = "status"

theorem statusRows_append_other {tid : TaskId} {rows : List EventRow} {e : EventRow}
    (h : ¬ (e.taskId = tid ∧ e.type = "status")) :
    statusRows tid (rows ++ [e]) = statusRows tid rows := by
  unfold statusRows
  rw [List.filter_append, List.filter_cons_of_neg (by simpa using h), List.filter_nil,
    List.append_nil]

theorem latestStatus_congr {tid : TaskId} {db db' : Db}
    (h : statusRows tid db'.event.rows = statusRows tid db.event.rows) :
    latestStatus tid db' = latestStatus tid db := by
  unfold latestStatus statusEvents statusRowsDesc
  unfold statusRows at h
  rw [h]

theorem statusRows_insertEvent (tid : TaskId) {db db' : Db} {e : Event}
    (h : db.insertEvent e = .ok db') (ht : ¬ (e.taskId = tid ∧ e.type = "status")) :
    statusRows tid db'.event.rows = statusRows tid db.event.rows := by
  obtain ⟨-, -, -, hrows⟩ := Db.insertEvent_eq_ok h
  rw [hrows]
  exact statusRows_append_other ht

theorem statusRows_markLostRows (now : String) (tid : TaskId) : ∀ (ids : List TaskId) (db : Db),
    statusRows tid (markLostRows now ids db).2.event.rows = statusRows tid db.event.rows
  | [], _ => rfl
  | id :: ids, db => by
    unfold markLostRows
    dsimp only
    split
    · rfl
    · next db₂ hins =>
      have hkeep := statusRows_insertEvent tid hins fun h => absurd h.2 (by simp)
      exact (statusRows_markLostRows now tid ids db₂).trans hkeep

theorem statusRows_connection {α : Type} {body : Db → Except PyErr α × Db} {tid : TaskId} {db : Db}
    (h : statusRows tid (body db).2.event.rows = statusRows tid db.event.rows) :
    statusRows tid (connection body db).2.event.rows = statusRows tid db.event.rows := by
  unfold connection
  split
  · next heq =>
    rw [heq] at h
    exact h
  · rfl

theorem statusRows_finishWorker (now : String) (tid tid' : TaskId) (wid : Option WorkerId)
    (st : String) {event : Option Event} (hev : ∀ e ∈ event, e.type ≠ "status") (db : Db) :
    statusRows tid' (finishWorker now tid wid st event db).2.event.rows =
      statusRows tid' db.event.rows := by
  refine statusRows_connection ?_
  dsimp only
  split
  · rfl
  · split
    · rfl
    · have hsame (db₁ : Db) : (endWorkerOpt db₁ wid now).event = db₁.event :=
        StoreLemmas.endWorkerOpt_event db₁ wid now
      cases event with
      | none =>
        dsimp only
        rw [hsame, Db.setStates_event]
      | some e =>
        dsimp only
        split
        · rw [hsame, Db.setStates_event]
        · next db₂ hins =>
          rw [statusRows_insertEvent tid' hins fun h => hev e rfl h.2, hsame, Db.setStates_event]

theorem statusRows_appendEvent (settings : Settings) {tid : TaskId} {e : Event}
    (h : ¬ (e.taskId = tid ∧ e.type = "status")) (db : Db) :
    statusRows tid (appendEvent settings e db).2.event.rows = statusRows tid db.event.rows := by
  refine statusRows_connection ?_
  dsimp only
  split
  · rfl
  · next db₁ hins =>
    have hkeep := statusRows_insertEvent tid hins h
    split
    · next hst =>
      split
      · exact hkeep
      · next oldest _ =>
        rw [← hkeep]
        unfold statusRows Db.deleteEvents Table.deleteWhere
        rw [List.filter_filter]
        refine List.filter_congr fun x hx => ?_
        by_cases hx' : x.taskId = tid
        · have hne : tid ≠ e.taskId := fun heq => h ⟨heq.symm, hst⟩
          simp [hx', hne]
        · simp [hx']
    · exact hkeep

/-- The newest event comes first. -/
theorem head?_insertionSort_newest {rows : List EventRow} {x : EventRow} (hx : x ∈ rows)
    (hnew : ∀ y ∈ rows, y ≠ x → y.id < x.id) :
    (rows.insertionSort fun a b => b.id ≤ a.id).head? = some x := by
  have hpair := List.pairwise_insertionSort (fun a b : EventRow => b.id ≤ a.id) rows
  have hmem (y : EventRow) := List.mem_insertionSort (fun a b : EventRow => b.id ≤ a.id)
    (l := rows) (x := y)
  cases hl : rows.insertionSort fun a b => b.id ≤ a.id with
  | nil =>
    rw [hl] at hmem
    exact absurd ((hmem x).mpr hx) List.not_mem_nil
  | cons y ys =>
    rw [hl] at hmem hpair
    by_cases hyx : y = x
    · rw [hyx]
      rfl
    · have hlt := hnew y ((hmem y).mp List.mem_cons_self) hyx
      have hxys : x ∈ ys := (List.mem_cons.mp ((hmem x).mpr hx)).resolve_left (Ne.symm hyx)
      have hle := (List.pairwise_cons.mp hpair).1 x hxys
      omega

/-- An inserted event is newer than all others. -/
theorem newest_insertEvent {db db' : Db} {e : Event} (h : db.insertEvent e = .ok db') :
    EventRow.mk e (db.eventSeq + 1) ∈ db'.event.rows ∧
      ∀ y ∈ db'.event.rows, y ≠ EventRow.mk e (db.eventSeq + 1) → y.id < db.eventSeq + 1 := by
  obtain ⟨-, -, -, hrows⟩ := Db.insertEvent_eq_ok h
  rw [hrows]
  refine ⟨List.mem_append_right _ List.mem_cons_self, fun y hy hne => ?_⟩
  rcases List.mem_append.mp hy with hy | hy
  · exact Nat.lt_succ_of_le (db.event_seq y hy)
  · exact absurd (List.mem_singleton.mp hy) hne

theorem mem_deleteEvents {db : Db} {p : EventRow → Bool} {x : EventRow} :
    x ∈ (db.deleteEvents p).event.rows ↔ x ∈ db.event.rows ∧ p x = false :=
  Table.mem_rows_deleteWhere

theorem nodup_statusRowsDesc (tid : TaskId) (db : Db) : (statusRowsDesc tid db).Nodup :=
  (List.perm_insertionSort _ _).nodup_iff.mpr (db.event.nodup.of_map.filter _)

/-- The newest status event of a task is the first in the list of them. -/
theorem head?_statusRowsDesc {db : Db} {tid : TaskId} {x : EventRow} (hx : x ∈ db.event.rows)
    (htid : x.taskId = tid) (hst : x.type = "status")
    (hnew : ∀ y ∈ db.event.rows, y ≠ x → y.id < x.id) :
    (statusRowsDesc tid db).head? = some x :=
  head?_insertionSort_newest (List.mem_filter.mpr ⟨hx, by simp [htid, hst]⟩)
    fun y hy => hnew y (List.mem_filter.mp hy).1

theorem latestStatus_of_head? {db : Db} {tid : TaskId} {x : EventRow}
    (h : (statusRowsDesc tid db).head? = some x) : latestStatus tid db = x.payload := by
  obtain ⟨xs, hl⟩ := List.head?_eq_some_iff.mp h
  unfold latestStatus statusEvents
  rw [hl]
  rfl

/-- What follows the newest status event is older. -/
theorem older_of_getElem? {db : Db} {tid : TaskId} {x y : EventRow} {n : Nat} (hn : 0 < n)
    (hhead : (statusRowsDesc tid db).head? = some x) (hy : (statusRowsDesc tid db)[n]? = some y)
    (hnew : ∀ y ∈ db.event.rows, y ≠ x → y.id < x.id) : y.id < x.id := by
  obtain ⟨xs, hl⟩ := List.head?_eq_some_iff.mp hhead
  have hnodup := nodup_statusRowsDesc tid db
  have hrow : y ∈ db.event.rows := by
    have hmem := List.mem_of_getElem? hy
    exact (List.mem_filter.mp ((List.mem_insertionSort _).mp hmem)).1
  rw [hl] at hy hnodup
  obtain ⟨m, rfl⟩ := Nat.exists_eq_add_of_lt hn
  have hmem : y ∈ xs := by
    rw [List.getElem?_cons_succ] at hy
    exact List.mem_of_getElem? hy
  exact hnew y hrow fun heq => (List.nodup_cons.mp hnodup).1 (heq ▸ hmem)

/-- A status event that is appended is the last status of its task: the window keeps it. -/
theorem latestStatus_append {settings : Settings} {e : Event} (hst : e.type = "status")
    {db db' : Db} (h : appendEvent settings e db = (.ok (), db')) :
    latestStatus e.taskId db' = e.payload := by
  unfold appendEvent connection at h
  cases hins : db.insertEvent e with
  | error err => simp only [hins, Prod.mk.injEq, reduceCtorEq, false_and] at h
  | ok db₁ =>
    obtain ⟨hmem, hnew⟩ := newest_insertEvent hins
    have hhead := head?_statusRowsDesc hmem rfl hst hnew
    simp only [hins, hst, ↓reduceIte] at h
    cases hold : (statusRowsDesc e.taskId db₁)[(max 1 settings.statusEventRetention).toNat]? with
    | none =>
      simp only [hold, Prod.mk.injEq, true_and] at h
      rw [← h]
      exact latestStatus_of_head? hhead
    | some oldest =>
      simp only [hold, Prod.mk.injEq, true_and] at h
      have hlt := older_of_getElem? (by omega) hhead hold hnew
      have hkept : ∀ y ∈ (db₁.deleteEvents fun r => r.taskId = e.taskId && r.type = "status" &&
          r.id ≤ oldest.id).event.rows, y ≠ EventRow.mk e (db.eventSeq + 1) →
          y.id < db.eventSeq + 1 := fun y hy => hnew y (mem_deleteEvents.mp hy).1
      rw [← h]
      refine latestStatus_of_head? (head?_statusRowsDesc (mem_deleteEvents.mpr ⟨hmem, ?_⟩) rfl hst
        hkept)
      simp only [Bool.and_eq_false_iff, decide_eq_false_iff_not]
      exact Or.inr (Nat.not_le.mpr hlt)

theorem latestStatus_append_other {settings : Settings} {tid : TaskId} {e : Event} {db db' : Db}
    {r : Except PyErr Unit} (h : appendEvent settings e db = (r, db'))
    (ht : ¬ (e.taskId = tid ∧ e.type = "status")) : latestStatus tid db' = latestStatus tid db := by
  have hrows := statusRows_appendEvent settings ht db
  rw [h] at hrows
  exact latestStatus_congr hrows

/-- A task without a row has no status. -/
theorem latestStatus_of_no_task {db : Db} {tid : TaskId} (h : db.task? tid = none) :
    latestStatus tid db = [] := by
  have hrows : (db.event.rows.filter fun e => e.taskId = tid && e.type = "status") = [] := by
    refine List.filter_eq_nil_iff.mpr fun e he hst => ?_
    simp only [Bool.and_eq_true, decide_eq_true_eq] at hst
    exact Table.get?_eq_none_iff.mp h (hst.1 ▸ db.event_fk e he)
  unfold latestStatus statusEvents statusRowsDesc
  rw [hrows]
  rfl

theorem latestStatus_of_event {db db' : Db} (h : db'.event = db.event) (tid : TaskId) :
    latestStatus tid db' = latestStatus tid db :=
  latestStatus_congr (by rw [h])

/-- A transaction that records and deletes no status event keeps the last status of every task. -/
theorem latestStatus_of_keepsStatus {α : Type} {q : Transaction α} (hq : KeepsStatus q)
    {settings : Settings} {clock : Clock} {db db' : Db} {r : Except PyErr α}
    (h : q.exec settings clock db = (r, db')) (tid : TaskId) :
    latestStatus tid db' = latestStatus tid db := by
  cases q with
  | getProject | getHost | existingTaskIds | getTask | allTasks | activeWorkerId | getWorker
  | statusEvents | endWorker | setWorkerSessionUuid =>
    cases h
    exact latestStatus_of_event rfl tid
  | createProject p =>
    cases h
    exact latestStatus_of_event (Db.insertProject_event db p) tid
  | createHost host =>
    simp only [Transaction.exec, Store.createHost, connection] at h
    cases hins : db.insertHost host with
    | error e => simp only [hins, Prod.mk.injEq] at h; rw [h.2]
    | ok db₁ =>
      simp only [hins, Prod.mk.injEq] at h
      exact latestStatus_of_event (h.2 ▸ (Db.insertHost_eq_ok hins).2.2) tid
  | createTasks ts =>
    rcases StoreLemmas.createTasks_cases h with ⟨rfl, -⟩ | ⟨-, -, he, -⟩
    · rfl
    · exact latestStatus_of_event he tid
  | setTaskState | releaseTaskClaim =>
    rcases StoreLemmas.setTaskState_cases h with ⟨rfl, -⟩ | ⟨row, st, -, -, -, -, rfl⟩
    · rfl
    · exact latestStatus_of_event (Db.setStates_event _ _ _ _) tid
  | claimQueuedTasks maxActive =>
    rw [← show (Store.claimQueuedTasks clock.now maxActive db).2 = db' from congrArg Prod.snd h]
    exact latestStatus_of_event (StoreLemmas.claimQueuedTasks_spec clock.now maxActive db).2.2.1 tid
  | markStaleDispatchingLost =>
    rw [← show (Store.markStaleDispatchingLost clock.now clock.cutoff db).2 = db' from
      congrArg Prod.snd h]
    refine latestStatus_congr (statusRows_connection ?_)
    have hrows := statusRows_markLostRows clock.now tid (staleDispatching clock.cutoff db) db
    dsimp only
    split
    · next heq =>
      rw [heq] at hrows
      exact hrows
    · next heq =>
      rw [heq] at hrows
      exact hrows
  | activateWorker tid' worker workspace =>
    rcases StoreLemmas.activateWorker_cases h with ⟨rfl, -⟩ | ⟨-, -, -, -, -, -, -, he, -⟩
    · rfl
    · exact latestStatus_of_event he tid
  | finishWorker tid' wid st event =>
    have hrows := statusRows_finishWorker clock.now tid' tid wid st hq db
    rw [show finishWorker clock.now tid' wid st event db = (r, db') from h] at hrows
    exact latestStatus_congr hrows
  | createWorker w =>
    simp only [Transaction.exec, Store.createWorker, connection] at h
    cases hins : db.insertWorker w with
    | error e => simp only [hins, Prod.mk.injEq] at h; rw [h.2]
    | ok db₁ =>
      simp only [hins, Prod.mk.injEq] at h
      obtain ⟨-, -, -, -, he⟩ := Db.insertWorker_eq_ok hins
      exact latestStatus_of_event (h.2 ▸ he) tid
  | appendEvent e => exact latestStatus_append_other h fun ht => hq ht.2
  | deleteTask => exact hq.elim

/-! ## Accounts -/

/-- What is known of one task. -/
@[ext] structure Account where
  row : Option Task
  status : JsonObj
  /-- What the sink shows of the task, by project. -/
  entry : String → Option View
  ever : Bool
  handle : Option HandleEntry

/-- The account of a task. -/
def Published.account (s : Published) (tid : TaskId) : Account where
  row := s.world.db.task? tid
  status := latestStatus tid s.world.db
  entry pid := Dict.get? (s.latest pid) tid
  ever := s.ever.contains tid
  handle := Dict.get? s.world.handles tid

/-- The sink shows the task. -/
def Account.shown (a : Account) (task : Task) (status : JsonObj) : Account :=
  if task.id = "" then a
  else { a with
    entry := setAt a.entry task.projectId (some (buildTaskView task status false))
    ever := true }

/-- The sink no longer shows the task. -/
def Account.hidden (a : Account) (pid : String) : Account :=
  { a with entry := setAt a.entry pid none }

section

variable {settings : Settings} {env : Env} {s s' : Published}

theorem account_row_id {tid : TaskId} {task : Task} (h : (s.account tid).row = some task) :
    task.id = tid := Table.key_of_get? h

/-- What the sink shows after a view. -/
theorem latest_publishView (s : Published) (pid pid' : String) (v : View) (tid : TaskId) :
    Dict.get? ((s.publishView pid v).latest pid') tid =
      if pid' = pid ∧ v.id = tid ∧ tid ≠ "" then v.entry? else Dict.get? (s.latest pid') tid := by
  unfold Published.publishView WebSink.setAt
  by_cases hpid : pid' = pid
  · subst hpid
    by_cases htid : tid = ""
    · subst htid
      simp only [↓reduceIte, ne_eq, not_true_eq_false, and_false]
      unfold WebSink.applyView
      split
      · rfl
      · next hid =>
        split
        · rw [Dict.get?_pop, if_neg (Ne.symm hid)]
        · rw [Dict.get?_set, if_neg (Ne.symm hid)]
    · simp [WebSink.get?_applyView htid, htid]
  · simp [hpid]

/-- A view leaves the accounts of the other tasks alone. -/
theorem account_publishView_of_ne {pid : String} {v : View} {tid : TaskId}
    (h : v.id ≠ tid ∨ tid = "") : (s.publishView pid v).account tid = s.account tid := by
  have hne : ∀ pid', ¬ (pid' = pid ∧ v.id = tid ∧ tid ≠ "") := by
    rintro pid' ⟨-, hid, hne⟩
    exact h.elim (fun h => h hid) hne
  refine Account.ext rfl rfl ?_ ?_ rfl
  · funext pid'
    exact (latest_publishView s pid pid' v tid).trans (if_neg (hne pid'))
  · by_cases hv : (v.id = "" || v.deleted) = true
    · simp only [Published.account, Published.publishView, hv, ↓reduceIte]
    · have hid : tid ≠ v.id := by
        rintro rfl
        rcases h with h | h
        · exact h rfl
        · simp [h] at hv
      simp [Published.account, Published.publishView, hv, hid]

/-- A view that is no tombstone is shown. -/
theorem account_publishView (task : Task) (status : JsonObj) (tid : TaskId) :
    (s.publishView task.projectId (buildTaskView task status false)).account tid =
      if tid = task.id then (s.account tid).shown task status else s.account tid := by
  split
  · next heq =>
    subst heq
    by_cases hid : task.id = ""
    · rw [account_publishView_of_ne (Or.inr hid), Account.shown, if_pos hid]
    · rw [Account.shown, if_neg hid]
      refine Account.ext rfl rfl ?_ ?_ rfl
      · funext pid
        refine (latest_publishView s _ pid _ _).trans ?_
        by_cases hpid : pid = task.projectId
        · rw [if_pos ⟨hpid, rfl, hid⟩]
          dsimp only
          rw [setAt_apply, if_pos hpid]
          rfl
        · rw [if_neg fun h => hpid h.1]
          dsimp only
          rw [setAt_apply, if_neg hpid]
          rfl
      · simp [Published.account, Published.publishView, buildTaskView, hid]
  · next hne => exact account_publishView_of_ne (Or.inl (Ne.symm hne))

/-- A tombstone hides its task. -/
theorem account_tombstone (task : Task) (status : JsonObj) (tid : TaskId) :
    (s.publishView task.projectId (buildTaskView task status true)).account tid =
      if tid = task.id ∧ tid ≠ "" then (s.account tid).hidden task.projectId else s.account tid := by
  split
  · next h =>
    obtain ⟨rfl, hne⟩ := h
    refine Account.ext rfl rfl ?_ ?_ rfl
    · funext pid
      refine (latest_publishView s _ pid _ _).trans ?_
      by_cases hpid : pid = task.projectId
      · rw [if_pos ⟨hpid, rfl, hne⟩]
        dsimp only [Account.hidden]
        rw [setAt_apply, if_pos hpid]
        rfl
      · rw [if_neg fun h => hpid h.1]
        dsimp only [Account.hidden]
        rw [setAt_apply, if_neg hpid]
        rfl
    · simp [Published.account, Published.publishView, buildTaskView, Account.hidden]
  · next h =>
    by_cases hne : tid = ""
    · exact account_publishView_of_ne (Or.inr hne)
    · exact account_publishView_of_ne (Or.inl fun heq => h ⟨heq.symm, hne⟩)

/-! ## Actions -/

theorem exec_store {α : Type} {q : Transaction α} {r : Except PyErr α}
    (h : Published.exec settings (.store q) env s = (r, s')) :
    (∃ e, env.raises = some e ∧ r = .error ⟨.operationalError, e.msg⟩ ∧ s' = s) ∨
    (env.raises = none ∧ ∃ db', q.exec settings env.clock s.world.db = (r, db') ∧
      s' = { s with world := { s.world with db := db' } }) := by
  unfold Published.exec World.exec at h
  cases hraise : env.raises with
  | some e =>
    simp only [hraise] at h
    cases h
    exact Or.inl ⟨e, rfl, rfl, rfl⟩
  | none =>
    simp only [hraise] at h
    cases h
    exact Or.inr ⟨rfl, _, rfl, rfl⟩

/-- A transaction of a database that does not fail. -/
theorem exec_store_of_isNone {α : Type} {q : Transaction α} {r : Except PyErr α}
    (hnone : env.raises.isNone = true) (h : Published.exec settings (.store q) env s = (r, s')) :
    ∃ db', q.exec settings env.clock s.world.db = (r, db') ∧
      s' = { s with world := { s.world with db := db' } } := by
  rcases exec_store h with ⟨e, hsome, -⟩ | ⟨-, hexec⟩
  · rw [Option.isNone_iff_eq_none.mp hnone] at hsome
    cases hsome
  · exact hexec

/-- A transaction that keeps the status events changes no more of an account than the row. -/
theorem account_store {α : Type} {q : Transaction α} (hq : KeepsStatus q) {r : Except PyErr α}
    (h : Published.exec settings (.store q) env s = (r, s')) (tid : TaskId) :
    s'.account tid = { s.account tid with row := s'.world.db.task? tid } := by
  rcases exec_store h with ⟨-, -, -, rfl⟩ | ⟨-, db', hexec, rfl⟩
  · rfl
  · exact Account.ext rfl (latestStatus_of_keepsStatus hq hexec tid) rfl rfl rfl

/-- The actions that change no account. -/
def Mute : {β : Type} → Act β → Prop
  | _, .store q => TransactionLemmas.KeepsTasks q ∧ KeepsStatus q
  | _, .register _ _ _ => False
  | _, .unregister _ _ => False
  | _, .publish _ => False
  | _, _ => True

theorem mute_of_silent {β : Type} (a : Act β) (h : a.Silent) : Mute a := by
  cases a with
  | store q =>
    cases q with
    | createTasks | setTaskState | claimQueuedTasks | releaseTaskClaim | markStaleDispatchingLost
    | activateWorker | finishWorker | deleteTask | appendEvent => exact h.elim
    | _ => exact ⟨trivial, trivial⟩
  | register | unregister | publish => exact h.elim
  | _ => trivial

/-- The database and the registry are the same. -/
theorem world_of_mute {β : Type} {a : Act β} (ha : Mute a) {w w' : World} {r : Except PyErr β}
    (h : World.exec settings env a w = (r, w')) :
    (∀ tid, w'.db.task? tid = w.db.task? tid ∧ latestStatus tid w'.db = latestStatus tid w.db) ∧
      w'.handles = w.handles := by
  have hsame {w' : World} (hdb : w'.db = w.db) (hh : w'.handles = w.handles) :
      (∀ tid, w'.db.task? tid = w.db.task? tid ∧ latestStatus tid w'.db = latestStatus tid w.db) ∧
        w'.handles = w.handles := ⟨fun tid => by rw [hdb]; exact ⟨rfl, rfl⟩, hh⟩
  cases a with
  | store q =>
    unfold World.exec at h
    cases hraise : env.raises with
    | some e =>
      simp only [hraise] at h
      cases h
      exact hsame rfl rfl
    | none =>
      simp only [hraise] at h
      cases h
      refine ⟨fun tid => ⟨?_, latestStatus_of_keepsStatus ha.2 rfl tid⟩, rfl⟩
      exact congrArg (Table.get? · tid) (TransactionLemmas.task_eq_of_keepsTasks ha.1 rfl)
  | register | unregister | publish => exact ha.elim
  | now | newWorkerId | runningHandle | handlesSnapshot | endRetire | readStatus | isDir
  | dumpsLength | windowName =>
    cases h
    exact hsame rfl rfl
  | observe | paste | pauseWorker | resumeWorker | mineSessionUuid | sessionActivity
  | candidateCount | makeDirs | evaluate | findPane =>
    have hw := congrArg Prod.snd h
    simp only [World.exec, Effects.outside_world] at hw
    exact hsame (by rw [hw]) (by rw [hw])
  | beginRetire tid =>
    simp only [World.exec] at h
    split at h <;> cases h <;> exact hsame rfl rfl
  | acquire kind wid req =>
    rcases Effects.world_acquire_cases h with ⟨-, rfl⟩ | ⟨-, -, -, -, -, rfl⟩ | ⟨-, -, rfl⟩
    all_goals exact hsame rfl rfl
  | releaseId kind resourceId wid =>
    simp only [World.exec, World.releaseId] at h
    split at h
    · split at h
      · cases h
        exact hsame rfl rfl
      · have hw := congrArg Prod.snd h
        rw [Effects.outside_world] at hw
        obtain rfl : _ = w' := hw
        exact hsame rfl rfl
    · cases h
      exact hsame rfl rfl
  | asCompleted pending =>
    simp only [World.exec, World.startWorker] at h
    split at h
    · cases h
      exact hsame rfl rfl
    · split at h <;> cases h <;> exact hsame rfl rfl
  | stop handle caller =>
    simp only [World.exec, World.stop, World.stopWorker] at h
    split at h
    · cases h
      exact hsame rfl rfl
    · split at h <;> cases h <;> exact hsame rfl rfl

theorem note_of_mute {β : Type} {a : Act β} (ha : Mute a) (r : Except PyErr β) (s : Published) :
    Published.note a r s = s := by
  cases a with
  | publish => exact ha.elim
  | _ => rfl

/-- What changes no account. -/
theorem account_of_mute {β : Type} {a : Act β} (ha : Mute a) {r : Except PyErr β}
    (h : Published.exec settings a env s = (r, s')) (tid : TaskId) :
    s'.account tid = s.account tid := by
  unfold Published.exec at h
  obtain ⟨hrows, hhandles⟩ := world_of_mute ha
    (rfl : World.exec settings env a s.world = (_, (World.exec settings env a s.world).2))
  have hs : s' = { s with world := (World.exec settings env a s.world).2 } := by
    have h' := congrArg Prod.snd h
    exact h'.symm.trans (note_of_mute ha _ _)
  rw [hs]
  exact Account.ext (hrows tid).1 (hrows tid).2 rfl rfl (congrArg (Dict.get? · tid) hhandles)

theorem account_publish {p : Publication} {r : Except PyErr Unit} (hraise : env.raises = none)
    (h : Published.exec settings (.publish p) env s = (r, s')) : r = .ok () ∧ s' = s.publish p := by
  unfold Published.exec World.exec Env.outside at h
  simp only [hraise] at h
  cases h
  exact ⟨rfl, rfl⟩

/-- A task that is published is shown, with the given status or its last one. -/
theorem account_publishTask (task : Task) (status : Option JsonObj) (tid : TaskId) :
    (s.publish (.task task status)).account tid =
      if tid = task.id then (s.account tid).shown task (status.getD (s.account tid).status)
      else s.account tid := by
  refine (account_publishView task _ tid).trans ?_
  split
  · next heq =>
    subst heq
    rfl
  · rfl

theorem account_publishCurrent (tid : TaskId) (status : Option JsonObj) (tid' : TaskId) :
    (s.publish (.current tid status)).account tid' =
      if tid' = tid then
        ((s.account tid').row.elim (s.account tid') fun task =>
          (s.account tid').shown task (status.getD (s.account tid').status))
      else s.account tid' := by
  cases hrow : s.world.db.task? tid with
  | none =>
    have hskip : s.publish (.current tid status) = s := by simp only [Published.publish, hrow]
    rw [hskip]
    split
    · next heq =>
      subst heq
      have hrow' : (s.account tid').row = none := hrow
      rw [hrow']
      rfl
    · rfl
  | some task =>
    obtain rfl : task.id = tid := Table.key_of_get? hrow
    have htask : s.publish (.current task.id status) = s.publish (.task task status) := by
      simp only [Published.publish, hrow]
    rw [htask, account_publishTask]
    split
    · next heq =>
      subst heq
      have hrow' : (s.account task.id).row = some task := hrow
      rw [hrow']
      rfl
    · rfl

theorem account_register {tid : TaskId} {wid : Option WorkerId} {handle : WorkerHandle}
    {r : Except PyErr Unit} (h : Published.exec settings (.register tid wid handle) env s = (r, s'))
    (tid' : TaskId) : s'.account tid' =
      if tid' = tid then { s.account tid' with handle := some (wid, handle) }
      else s.account tid' := by
  cases h
  split
  · next heq =>
    exact Account.ext rfl rfl rfl rfl ((Dict.get?_set _ _ _ _).trans (if_pos heq))
  · next hne =>
    exact Account.ext rfl rfl rfl rfl ((Dict.get?_set _ _ _ _).trans (if_neg hne))

theorem account_unregister {tid : TaskId} {caller : Caller} {r : Except PyErr Unit}
    (h : Published.exec settings (.unregister tid caller) env s = (r, s')) (tid' : TaskId) :
    s'.account tid' = if tid' = tid then { s.account tid' with handle := none }
      else s.account tid' := by
  cases h
  split
  · next heq =>
    exact Account.ext rfl rfl rfl rfl ((Dict.get?_pop _ _ _).trans (if_pos heq))
  · next hne =>
    exact Account.ext rfl rfl rfl rfl ((Dict.get?_pop _ _ _).trans (if_neg hne))

/-- A status event that is recorded is the last status of its task. -/
theorem account_append {e : Event} (hst : e.type = "status") {r : Except PyErr Unit}
    (hraise : env.raises = none)
    (h : Published.exec settings (.store (.appendEvent e)) env s = (r, s')) (tid : TaskId) :
    ((s.account e.taskId).row = none ∧ (∃ err, r = .error err) ∧ s'.account tid = s.account tid) ∨
    (r = .ok () ∧ s'.account tid =
      if tid = e.taskId then { s.account tid with status := e.payload } else s.account tid) := by
  rcases exec_store h with ⟨_, hsome, -⟩ | ⟨-, db', hexec, rfl⟩
  · rw [hraise] at hsome
    cases hsome
  · rcases StoreLemmas.appendEvent_cases hexec with ⟨rfl, hno, herr⟩ | ⟨rfl, -, htask, -⟩
    · exact Or.inl ⟨Table.get?_eq_none_iff.mpr hno, herr, rfl⟩
    · refine Or.inr ⟨rfl, ?_⟩
      have hrow : db'.task? tid = s.world.db.task? tid := congrArg (Table.get? · tid) htask
      split
      · next heq =>
        subst heq
        exact Account.ext hrow (latestStatus_append hst hexec) rfl rfl rfl
      · next hne =>
        exact Account.ext hrow (latestStatus_append_other hexec fun hh => hne hh.1.symm) rfl rfl rfl

/-- A deletion takes the row, and the status with it. -/
theorem account_delete {tid : TaskId} {r : Except PyErr Unit} (hraise : env.raises = none)
    (h : Published.exec settings (.store (.deleteTask tid)) env s = (r, s')) (tid' : TaskId) :
    r = .ok () ∧ s'.account tid' =
      if tid' = tid then { s.account tid' with row := none, status := [] }
      else s.account tid' := by
  rcases exec_store h with ⟨_, hsome, -⟩ | ⟨-, db', hexec, rfl⟩
  · rw [hraise] at hsome
    cases hsome
  · cases hexec
    refine ⟨rfl, ?_⟩
    have hrow := Db.task?_deleteTaskRows s.world.db tid tid'
    split
    · next heq =>
      rw [if_pos heq] at hrow
      exact Account.ext hrow (latestStatus_of_no_task hrow) rfl rfl rfl
    · next hne =>
      rw [if_neg hne] at hrow
      refine Account.ext hrow (latestStatus_congr ?_) rfl rfl rfl
      unfold statusRows Db.deleteTaskRows Table.deleteWhere
      rw [List.filter_filter]
      refine List.filter_congr fun e _ => ?_
      by_cases he : e.taskId = tid'
      · simp [he, hne]
      · simp [he]

end

end Sinks

end Flotilla
