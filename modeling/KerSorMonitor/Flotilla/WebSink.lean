import KerSorMonitor.Lib.Threads
import KerSorMonitor.Flotilla.Models

/-!
# The live feed of a project (`flotilla/sinks/web.py`, `routes.py`)

`WebSink.render` applies views to the latest map under the lock and puts them into the queues of
the subscribers after it has released the lock. An event stream subscribes, sends the latest map
and then its queue. A publisher reads the row of a task and renders it as two steps; `DELETE`
deletes the row and renders a tombstone. All of these run concurrently.

Ghost fields record what a queue was ever given, what its stream took from the latest map, and
what each thread still has to do.

Result: `get?_applyViews`, a map after a sequence of views.
-/

namespace Flotilla

namespace WebSink

open Threads Keyed

variable {β : Type}

/-! ## Views -/

/-- A task view, as the sink and its clients read it: the rest is the body. -/
structure TaskView (β : Type) where
  id : TaskId
  projectId : Option String
  deleted : Bool
  body : β
  deriving DecidableEq

/-- A `ProjectSnapshot`. -/
structure ProjectSnapshot (β : Type) where
  tasks : List (TaskView β)
  projectId : Option String

/-- The project of a snapshot: its own, or that of the first task that has one. -/
def ProjectSnapshot.project? (s : ProjectSnapshot β) : Option String :=
  match s.projectId with
  | some pid => some pid
  | none => (s.tasks.filterMap fun v => v.projectId.filter (· ≠ "")).head?

abbrev TaskMap (β : Type) := Dict TaskId (TaskView β)

/-- One view: without an id it is skipped, a tombstone removes the entry. -/
def applyView (m : TaskMap β) (v : TaskView β) : TaskMap β :=
  if v.id = "" then m
  else if v.deleted then Dict.pop m v.id
  else Dict.set m v.id v

def applyViews (m : TaskMap β) (vs : List (TaskView β)) : TaskMap β := vs.foldl applyView m

/-- The last view of a task. -/
def lastOf (tid : TaskId) (vs : List (TaskView β)) : Option (TaskView β) :=
  vs.reverse.find? fun v => v.id = tid

/-- What a view leaves in a map. -/
def TaskView.entry? (v : TaskView β) : Option (TaskView β) := if v.deleted then none else some v

/-! ## State -/

abbrev QueueId := Nat

/-- A subscriber's queue. -/
structure Queue (β : Type) where
  items : List (TaskView β)
  /-- Ghost: the project of the stream. -/
  project : String
  /-- Ghost: all views that were put, in order. -/
  log : List (TaskView β)
  /-- Ghost: what the stream of the queue took from the latest map. -/
  snapshot : Option (List (TaskView β))

/-- A row of a task. -/
structure Row (β : Type) where
  projectId : String
  body : β

/-- Ghost: what a thread still has to do. -/
structure Work (β : Type) where
  /-- The project that it renders. -/
  project : String
  /-- The views that it has applied and not emitted to the end. -/
  pending : List (TaskView β)
  /-- The queues that the emission of the first of them still has to serve, once they are known. -/
  targets : Option (List QueueId)
  /-- The queue that it has opened. -/
  opened : Option QueueId
  /-- The tasks, by project, whose row it has read in order to publish it, and whose view it has
  not emitted yet. -/
  held : List (String × TaskId)
  /-- The tasks that it has deleted and whose tombstone it has not applied yet. -/
  owed : List (String × TaskId)

def Work.idle : Work β := ⟨"", [], none, none, [], []⟩

/-- The views are applied. -/
def Work.applied (w : Work β) (pid : String) (vs : List (TaskView β)) : Work β :=
  { w with
    project := pid
    pending := vs
    targets := none
    owed := w.owed.filter fun k => !(vs.any fun v => (pid, v.id) = k && v.deleted) }

/-- The first view is emitted. -/
def Work.emitted (w : Work β) : Work β :=
  { w with
    pending := w.pending.tail
    targets := none
    held := match w.pending.head? with
      | some v => w.held.erase (w.project, v.id)
      | none => w.held }

structure Feed (β : Type) where
  rows : Dict TaskId (Row β)
  latest : String → TaskMap β
  subs : String → List QueueId
  queues : QueueId → Queue β
  nextQueue : QueueId
  work : ThreadId → Work β

/-- The process has just started; the tasks that it finds have no entries. -/
def Feed.initial (rows : Dict TaskId (Row β)) : Feed β where
  rows := rows
  latest _ := Table.empty
  subs _ := []
  queues _ := ⟨[], "", [], none⟩
  nextQueue := 0
  work _ := .idle

/-- The entry of a function at one argument. -/
def setAt {α γ : Type} [DecidableEq α] (f : α → γ) (a : α) (c : γ) : α → γ :=
  fun x => if x = a then c else f x

/-! ## Actions -/

/-- `queue.Full` and `queue.Empty`, and the refusals of the routes and the store. -/
inductive FeedErr
  | full
  | empty
  | notFound
  | conflict
  deriving DecidableEq, Repr

/-- The atomic actions: sections under the lock, operations on a queue, transactions. -/
inductive Act (β : Type) : Type → Type 1
  | latest (pid : String) : Act β (List (TaskView β))
  | subscribe (pid : String) : Act β QueueId
  | unsubscribe (pid : String) (q : QueueId) : Act β Unit
  /-- The section under the lock in `render`. -/
  | applyViews (pid : String) (vs : List (TaskView β)) : Act β Unit
  /-- The section under the lock in `_emit`. -/
  | subscribers (pid : String) : Act β (List QueueId)
  | putNowait (q : QueueId) (v : TaskView β) : Act β Unit
  | getNowait (q : QueueId) : Act β (TaskView β)
  /-- Ghost: the end of `_emit`. -/
  | emitted : Act β Unit
  /-- Ghost: whether the row is read in order to publish it. -/
  | getTask (tid : TaskId) (publishes : Bool) : Act β (Option (Row β))
  | createTasks (pid : String) (rows : List (TaskId × β)) : Act β Unit
  | setBody (tid : TaskId) (body : β) : Act β Unit
  /-- Ghost: the project that the tombstone names. -/
  | deleteTask (tid : TaskId) (pid : String) : Act β Unit

/-- `maxsize`. -/
def maxSize : Nat := 1000

def Feed.setWork (s : Feed β) (t : ThreadId) (f : Work β → Work β) : Feed β :=
  { s with work := setAt s.work t (f (s.work t)) }

def Feed.setQueue (s : Feed β) (q : QueueId) (f : Queue β → Queue β) : Feed β :=
  { s with queues := setAt s.queues q (f (s.queues q)) }

/-- The latest map is taken; a thread that has opened a queue notes it there. -/
def Feed.takeLatest (s : Feed β) (t : ThreadId) (vs : List (TaskView β)) : Feed β :=
  match (s.work t).opened with
  | some q => s.setQueue q fun k => { k with snapshot := some vs }
  | none => s

def Feed.openQueue (s : Feed β) (t : ThreadId) (pid : String) : Feed β :=
  let s' : Feed β := { s with
    subs := setAt s.subs pid (s.subs pid ++ [s.nextQueue])
    queues := setAt s.queues s.nextQueue ⟨[], pid, [], none⟩
    nextQueue := s.nextQueue + 1 }
  s'.setWork t fun w => { w with opened := some s.nextQueue }

def Feed.applyAll (s : Feed β) (t : ThreadId) (pid : String) (vs : List (TaskView β)) : Feed β :=
  ({ s with latest := setAt s.latest pid (applyViews (s.latest pid) vs) } : Feed β).setWork t
    fun w => w.applied pid vs

/-- The section under the lock in `_emit`. -/
def Feed.takeSubs (s : Feed β) (t : ThreadId) (pid : String) : Feed β :=
  s.setWork t fun w => { w with targets := some (s.subs pid) }

def Feed.put (s : Feed β) (t : ThreadId) (q : QueueId) (v : TaskView β) : Feed β :=
  (s.setQueue q fun k => { k with items := k.items ++ [v], log := k.log ++ [v] }).setWork t fun w =>
    { w with targets := w.targets.map fun qs => qs.erase q }

/-- A row that was read in order to publish it is held. -/
def Feed.noteRead (s : Feed β) (t : ThreadId) (tid : TaskId) (publishes : Bool) : Feed β :=
  match Dict.get? s.rows tid with
  | some row =>
    if publishes then s.setWork t fun w => { w with held := (row.projectId, tid) :: w.held } else s
  | none => s

/-- Whether a batch can be inserted: the ids are unique, and new. -/
def Feed.Fresh (s : Feed β) (new : List (TaskId × β)) : Prop :=
  (new.map Prod.fst).Nodup ∧ ∀ kv ∈ new, Dict.get? s.rows kv.1 = none

instance (s : Feed β) (new : List (TaskId × β)) : Decidable (s.Fresh new) :=
  have : Decidable (∀ kv ∈ new, Dict.get? s.rows kv.1 = none) :=
    decidable_of_iff (∀ kv ∈ new, (Dict.get? s.rows kv.1).isNone = true) (by simp)
  inferInstanceAs (Decidable (_ ∧ _))

/-- The transaction of `create_tasks`. -/
def Feed.insertRows (s : Feed β) (t : ThreadId) (pid : String) (new : List (TaskId × β)) : Feed β :=
  ({ s with rows := new.foldl (fun d kv => Dict.set d kv.1 ⟨pid, kv.2⟩) s.rows } : Feed β).setWork t
    fun w => { w with held := new.map (fun kv => (pid, kv.1)) ++ w.held }

def Feed.deleteRow (s : Feed β) (t : ThreadId) (pid : String) (tid : TaskId) : Feed β :=
  ({ s with rows := Dict.pop s.rows tid } : Feed β).setWork t fun w =>
    { w with owed := (pid, tid) :: w.owed }

/-- What an action does. -/
def exec (t : ThreadId) {α : Type} (a : Act β α) (s : Feed β) : Except FeedErr α × Feed β :=
  match a with
  | .latest pid =>
    let vs := (s.latest pid).rows.map Prod.snd
    (.ok vs, s.takeLatest t vs)
  | .subscribe pid => (.ok s.nextQueue, s.openQueue t pid)
  | .unsubscribe pid q => (.ok (), { s with subs := setAt s.subs pid ((s.subs pid).erase q) })
  | .applyViews pid vs => (.ok (), s.applyAll t pid vs)
  | .subscribers pid => (.ok (s.subs pid), s.takeSubs t pid)
  | .putNowait q v =>
    if maxSize ≤ (s.queues q).items.length then (.error .full, s) else (.ok (), s.put t q v)
  | .getNowait q =>
    match (s.queues q).items with
    | [] => (.error .empty, s)
    | v :: vs => (.ok v, s.setQueue q fun k => { k with items := vs })
  | .emitted => (.ok (), s.setWork t Work.emitted)
  | .getTask tid publishes => (.ok (Dict.get? s.rows tid), s.noteRead t tid publishes)
  | .createTasks pid new =>
    if s.Fresh new then (.ok (), s.insertRows t pid new) else (.error .conflict, s)
  | .setBody tid body =>
    match Dict.get? s.rows tid with
    | some row => (.ok (), { s with rows := Dict.set s.rows tid { row with body := body } })
    | none => (.error .notFound, s)
  | .deleteTask tid pid => (.ok (), s.deleteRow t pid tid)

/-! ## Programs -/

abbrev FeedProg (β α : Type) := Prog (Act β) FeedErr α

/-- One queue of `_emit`: a full queue loses its oldest view. -/
def putFresh (q : QueueId) (v : TaskView β) : FeedProg β Unit :=
  (Prog.call (.putNowait q v)).tryCatch fun _ => do
    (Prog.call (.getNowait q) >>= fun _ => pure ()).ignoring
    (Prog.call (.putNowait q v)).ignoring

def putAll (v : TaskView β) : List QueueId → FeedProg β Unit
  | [] => pure ()
  | q :: qs => do
    putFresh q v
    putAll v qs

/-- `_emit`. -/
def emit (pid : String) (v : TaskView β) : FeedProg β Unit := do
  let subs ← Prog.call (.subscribers pid)
  putAll v subs
  Prog.call .emitted

def emitAll (pid : String) : List (TaskView β) → FeedProg β Unit
  | [] => pure ()
  | v :: vs => do
    emit pid v
    emitAll pid vs

/-- `WebSink.render`. -/
def render (snapshot : ProjectSnapshot β) : FeedProg β Unit :=
  match snapshot.project? with
  | none => pure ()
  | some pid => do
    Prog.call (.applyViews pid snapshot.tasks)
    emitAll pid snapshot.tasks

/-- `build_task_view`, of a row. -/
def buildTaskView (tid : TaskId) (row : Row β) (deleted : Bool) : TaskView β :=
  ⟨tid, some row.projectId, deleted, row.body⟩

/-- `publish_view`. -/
def publishView (pid : String) (v : TaskView β) : FeedProg β Unit := render ⟨[v], some pid⟩

/-- What the publishers have in common: the row is read, and published if it is there. -/
def publishTask (tid : TaskId) : FeedProg β Unit := do
  match ← Prog.call (.getTask tid true) with
  | none => pure ()
  | some row => publishView row.projectId (buildTaskView tid row false)

def publishRows (pid : String) : List (TaskId × β) → FeedProg β Unit
  | [] => pure ()
  | (tid, body) :: rows => do
    publishView pid (buildTaskView tid ⟨pid, body⟩ false)
    publishRows pid rows

/-- `POST /projects/{pid}/tasks`, from the transaction on. -/
def createTasks (pid : String) (rows : List (TaskId × β)) : FeedProg β Unit := do
  Prog.call (.createTasks pid rows)
  publishRows pid rows

/-- `DELETE /tasks/{tid}`, of a task that has no active worker (any more). -/
def deleteTask (tid : TaskId) : FeedProg β Unit := do
  match ← Prog.call (.getTask tid false) with
  | none => Prog.throw .notFound
  | some row =>
    let row' ← Prog.call (.getTask tid false)
    let tombstone := buildTaskView tid (row'.getD row) true
    Prog.call (.deleteTask tid (row'.getD row).projectId)
    publishView (row'.getD row).projectId tombstone

/-- `_project_event_stream` up to its first wait. -/
def openStream (pid : String) : FeedProg β Unit := do
  let _ ← Prog.call (.subscribe pid)
  let _ ← Prog.call (.latest pid)
  pure ()

/-- The operations. -/
inductive Op (β : Type)
  | render (snapshot : ProjectSnapshot β)
  | publish (tid : TaskId)
  | create (pid : String) (rows : List (TaskId × β))
  | setBody (tid : TaskId) (body : β)
  | delete (tid : TaskId)
  | openStream (pid : String)
  /-- The stream goes on until it waits for its queue again. -/
  | next (q : QueueId)
  | closeStream (pid : String) (q : QueueId)

def program : Op β → FeedProg β Unit
  | .render snapshot => render snapshot
  | .publish tid => publishTask tid
  | .create pid rows => createTasks pid rows
  | .setBody tid body => Prog.call (.setBody tid body)
  | .delete tid => deleteTask tid
  | .openStream pid => openStream pid
  | .next q => (Prog.call (.getNowait q) >>= fun _ => pure ()).ignoring
  | .closeStream pid q => Prog.call (.unsubscribe pid q)

/-- The feed as a system of threads. The process loses its sinks with a restart. -/
def feed : System (Act β) FeedErr (Feed β) Unit (Op β) where
  exec t _ a _ s := exec t a s
  program := program
  finish t s := { s with work := setAt s.work t .idle }
  restart s := .initial s.rows

/-- What a stream has sent or has in its queue: the latest map that it took, and all views that
were put. -/
def Queue.sent (k : Queue β) : List (TaskView β) := k.snapshot.getD [] ++ k.log

/-- What a client makes of it: it merges by task id, and removes on `deleted`. -/
def Queue.clientMap (k : Queue β) : TaskMap β := applyViews Table.empty k.sent

/-! ## Updates -/

section setAt

variable {α γ : Type} [DecidableEq α] {f : α → γ} {a b : α} {c : γ}

@[simp] theorem setAt_self : setAt f a c a = c := if_pos rfl

theorem setAt_of_ne (h : b ≠ a) : setAt f a c b = f b := if_neg h

end setAt

@[simp] theorem setWork_work_self (s : Feed β) (t : ThreadId) (f : Work β → Work β) :
    (s.setWork t f).work t = f (s.work t) := setAt_self

theorem setWork_work_of_ne {t t' : ThreadId} (h : t' ≠ t) (s : Feed β) (f : Work β → Work β) :
    (s.setWork t f).work t' = s.work t' := setAt_of_ne h

@[simp] theorem setQueue_queues_self (s : Feed β) (q : QueueId) (f : Queue β → Queue β) :
    (s.setQueue q f).queues q = f (s.queues q) := setAt_self

theorem setQueue_queues_of_ne {q q' : QueueId} (h : q' ≠ q) (s : Feed β)
    (f : Queue β → Queue β) : (s.setQueue q f).queues q' = s.queues q' := setAt_of_ne h

/-! ## Maps -/

theorem get?_applyView {m : TaskMap β} {v : TaskView β} {tid : TaskId} (h : tid ≠ "") :
    Dict.get? (applyView m v) tid = if v.id = tid then v.entry? else Dict.get? m tid := by
  unfold applyView TaskView.entry?
  by_cases hid : v.id = tid
  · subst hid
    rw [if_neg h, if_pos rfl]
    split
    · rw [Dict.get?_pop, if_pos rfl]
    · rw [Dict.get?_set, if_pos rfl]
  · rw [if_neg hid]
    split
    · rfl
    split
    · rw [Dict.get?_pop, if_neg (Ne.symm hid)]
    · rw [Dict.get?_set, if_neg (Ne.symm hid)]

theorem lastOf_append (tid : TaskId) (vs vs' : List (TaskView β)) :
    lastOf tid (vs ++ vs') = (lastOf tid vs').or (lastOf tid vs) := by
  rw [lastOf, List.reverse_append, List.find?_append]
  rfl

theorem lastOf_singleton (tid : TaskId) (v : TaskView β) :
    lastOf tid [v] = if v.id = tid then some v else none := by
  by_cases h : v.id = tid <;> simp [lastOf, h]

theorem lastOf_eq_none {tid : TaskId} {vs : List (TaskView β)} :
    lastOf tid vs = none ↔ ∀ v ∈ vs, v.id ≠ tid := by
  simp [lastOf, List.find?_eq_none]

theorem mem_of_lastOf {tid : TaskId} {vs : List (TaskView β)} {v : TaskView β}
    (h : lastOf tid vs = some v) : v ∈ vs ∧ v.id = tid :=
  ⟨List.mem_reverse.mp (List.mem_of_find?_eq_some h), by simpa using List.find?_some h⟩

/-- The last view of a task decides its entry. -/
theorem get?_applyViews {m : TaskMap β} {vs : List (TaskView β)} {tid : TaskId} (h : tid ≠ "") :
    Dict.get? (applyViews m vs) tid =
      match lastOf tid vs with
      | some v => v.entry?
      | none => Dict.get? m tid := by
  induction vs generalizing m with
  | nil => rfl
  | cons v vs ih =>
    have hcons : lastOf tid (v :: vs) = (lastOf tid vs).or (lastOf tid [v]) :=
      lastOf_append tid [v] vs
    rw [hcons, lastOf_singleton]
    change Dict.get? (applyViews (applyView m v) vs) tid = _
    rw [ih, get?_applyView h]
    cases lastOf tid vs with
    | some w => rfl
    | none =>
      by_cases hid : v.id = tid
      · simp [hid]
      · simp [hid]

/-- A view without an id leaves no entry. -/
theorem get?_applyViews_empty {m : TaskMap β} (vs : List (TaskView β))
    (h : Dict.get? m "" = none) : Dict.get? (applyViews m vs) "" = none := by
  induction vs generalizing m with
  | nil => exact h
  | cons v vs ih =>
    refine ih (m := applyView m v) ?_
    unfold applyView
    split
    · exact h
    · next hid =>
      split
      · rw [Dict.get?_pop, if_neg (Ne.symm hid)]
        exact h
      · rw [Dict.get?_set, if_neg (Ne.symm hid)]
        exact h

/-- The values of a map hold its entry as the last view. -/
theorem lastOf_values {m : TaskMap β} (h : ∀ k v, Dict.get? m k = some v → v.id = k)
    (tid : TaskId) : lastOf tid (m.rows.map Prod.snd) = Dict.get? m tid := by
  cases hlast : lastOf tid (m.rows.map Prod.snd) with
  | none =>
    cases hget : Dict.get? m tid with
    | none => rfl
    | some v =>
      have hmem : v ∈ m.rows.map Prod.snd :=
        List.mem_map.mpr ⟨(tid, v), Dict.mem_rows_iff.mpr hget, rfl⟩
      exact absurd (h tid v hget) (lastOf_eq_none.mp hlast v hmem)
  | some v =>
    obtain ⟨hmem, hid⟩ := mem_of_lastOf hlast
    obtain ⟨⟨k, v'⟩, hrow, rfl⟩ := List.mem_map.mp hmem
    have hget := Dict.mem_rows_iff.mp hrow
    rw [← hid, h k v' hget, hget]

end WebSink

end Flotilla
