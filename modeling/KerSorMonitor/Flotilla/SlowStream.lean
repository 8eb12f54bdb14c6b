import KerSorMonitor.Flotilla.WebSink

/-!
# A subscriber that falls behind (`flotilla/sinks/web.py`)

`_emit` puts a view into a bounded queue. When the queue is full it drops the oldest view, whichever
task that is of, and puts the new one. Here the renders come one after the other, and a subscriber
reads in between: is what it makes of the snapshot and of its queue the latest map?

Results:
1. `offerAll_suffix`: a queue is what its last puts have left.
2. `converges_iff`: the subscriber agrees with the latest map after every event iff each view that
   was dropped was followed by another of its task, or said what the subscriber knew.
3. `other_task_evicts`: an update of a second task drops the newest view of the first.
-/

namespace Flotilla

namespace WebSink

open Keyed

variable {β : Type}

/-! ## One queue -/

/-- `queue.Queue.put_nowait`. A queue of `maxsize` 0 has no bound. -/
def putNowait (maxsize : Nat) (v : TaskView β) (items : List (TaskView β)) :
    Except FeedErr (List (TaskView β)) :=
  if 0 < maxsize ∧ maxsize ≤ items.length then .error .full else .ok (items ++ [v])

/-- `queue.Queue.get_nowait`. -/
def getNowait : List (TaskView β) → Except FeedErr (TaskView β × List (TaskView β))
  | [] => .error .empty
  | v :: items => .ok (v, items)

/-- The `except queue.Full` of `_emit`: drop the oldest view and put this one. -/
def putFreshView (maxsize : Nat) (v : TaskView β) (items : List (TaskView β)) :
    List (TaskView β) :=
  let rest :=
    match getNowait items with
    | .ok (_, rest) => rest
    | .error _ => items
  match putNowait maxsize v rest with
  | .ok items => items
  | .error _ => rest

/-- One queue of `_emit`. -/
def offer (maxsize : Nat) (v : TaskView β) (items : List (TaskView β)) : List (TaskView β) :=
  match putNowait maxsize v items with
  | .ok items => items
  | .error _ => putFreshView maxsize v items

/-- The emissions of one render, into one queue. -/
def offerAll (maxsize : Nat) (vs items : List (TaskView β)) : List (TaskView β) :=
  vs.foldl (fun items v => offer maxsize v items) items

/-! ## Renders and reads -/

/-- `_LATEST`, and one subscriber of project `pid`: its queue, what it took from the latest map, and
what it has read since. -/
structure Subscription (β : Type) where
  latest : String → TaskMap β
  items : List (TaskView β)
  snapshot : List (TaskView β)
  read : List (TaskView β)

/-- A process that has rendered nothing. -/
def Subscription.initial : Subscription β := ⟨fun _ => Table.empty, [], [], []⟩

/-- `WebSink.render`. -/
def renderTo (maxsize : Nat) (pid : String) (s : Subscription β) (snapshot : ProjectSnapshot β) :
    Subscription β :=
  match snapshot.project? with
  | none => s
  | some p =>
    { s with
      latest := setAt s.latest p (applyViews (s.latest p) snapshot.tasks)
      items := if p = pid then offerAll maxsize snapshot.tasks s.items else s.items }

/-- `subscribe`. -/
def Subscription.subscribe (s : Subscription β) : Subscription β := { s with items := [] }

/-- `latest`. -/
def Subscription.takeLatest (pid : String) (s : Subscription β) : Subscription β :=
  { s with snapshot := (s.latest pid).rows.map Prod.snd }

/-- The subscriber reads one view, if there is one. -/
def Subscription.readOne (s : Subscription β) : Subscription β :=
  match getNowait s.items with
  | .error _ => s
  | .ok (v, items) => { s with items := items, read := s.read ++ [v] }

/-- After the renders `before` a subscriber subscribes, and it takes the latest map after the renders
`between`. -/
def opened (maxsize : Nat) (pid : String) (before between : List (ProjectSnapshot β)) :
    Subscription β :=
  let s := before.foldl (renderTo maxsize pid) .initial
  (between.foldl (renderTo maxsize pid) s.subscribe).takeLatest pid

/-- What happens then: a render, or a read. -/
inductive StreamEvent (β : Type)
  | render (snapshot : ProjectSnapshot β)
  | read

def StreamEvent.apply (maxsize : Nat) (pid : String) (s : Subscription β) :
    StreamEvent β → Subscription β
  | .render snapshot => renderTo maxsize pid s snapshot
  | .read => s.readOne

def runStream (maxsize : Nat) (pid : String) (events : List (StreamEvent β)) (s : Subscription β) :
    Subscription β :=
  events.foldl (StreamEvent.apply maxsize pid) s

/-- What the subscriber has of a task when it has read `sent`. -/
def clientEntry (sent : List (TaskView β)) (tid : TaskId) : Option (TaskView β) :=
  Dict.get? (applyViews Table.empty sent) tid

/-- When it has drained its queue, the subscriber has of every task what the latest map has. -/
def Subscription.Converged (pid : String) (s : Subscription β) : Prop :=
  ∀ tid, tid ≠ "" →
    clientEntry (s.snapshot ++ s.read ++ s.items) tid = Dict.get? (s.latest pid) tid

/-! ## What may be dropped -/

/-- Dropping `x` does no harm: a later view of the task is in the queue or on its way, or the
subscriber has read (in `known`) what `x` says. -/
def Superfluous (known : List (TaskView β)) (x : TaskView β) (later : List (TaskView β)) : Prop :=
  x.id = "" ∨ (∃ v ∈ later, v.id = x.id) ∨ clientEntry known x.id = x.entry?

/-- Each view that the emissions drop is superfluous. -/
def Spares (maxsize : Nat) (known : List (TaskView β)) :
    List (TaskView β) → List (TaskView β) → Prop
  | [], _ => True
  | v :: vs, items =>
    (0 < maxsize ∧ maxsize ≤ items.length →
      ∀ x rest, items = x :: rest → Superfluous known x (rest ++ v :: vs)) ∧
    Spares maxsize known vs (offer maxsize v items)

/-- A read drops nothing; a render drops only what is superfluous. -/
def StreamEvent.SparesNewest (maxsize : Nat) (pid : String) (s : Subscription β) :
    StreamEvent β → Prop
  | .render snapshot =>
    snapshot.project? = some pid →
      Spares maxsize (s.snapshot ++ s.read) snapshot.tasks s.items
  | .read => True

/-- So does each of the events. -/
def SparesAll (maxsize : Nat) (pid : String) : List (StreamEvent β) → Subscription β → Prop
  | [], _ => True
  | ev :: events, s =>
    ev.SparesNewest maxsize pid s ∧ SparesAll maxsize pid events (ev.apply maxsize pid s)

/-! ## What a queue holds -/

namespace SlowLemmas

variable {maxsize : Nat} {pid : String} {v : TaskView β} {vs items known : List (TaskView β)}

/-- The queue is not longer than its bound. -/
def Bounded (maxsize : Nat) (items : List (TaskView β)) : Prop :=
  0 < maxsize → items.length ≤ maxsize

theorem offer_of_room (h : ¬ (0 < maxsize ∧ maxsize ≤ items.length)) :
    offer maxsize v items = items ++ [v] := by
  unfold offer putNowait
  rw [if_neg h]

/-- A full queue loses its oldest view. -/
theorem offer_of_full (h : 0 < maxsize ∧ maxsize ≤ items.length) (hb : Bounded maxsize items) :
    ∃ x rest, items = x :: rest ∧ offer maxsize v items = rest ++ [v] := by
  cases items with
  | nil => exact absurd h.2 (Nat.not_le.mpr h.1)
  | cons x rest =>
    refine ⟨x, rest, rfl, ?_⟩
    have hlen : rest.length + 1 ≤ maxsize := hb h.1
    have hroom : ¬ (0 < maxsize ∧ maxsize ≤ rest.length) := fun h' => by omega
    unfold offer putFreshView putNowait getNowait
    rw [if_pos h]
    dsimp only
    rw [if_neg hroom]

theorem bounded_offer (hb : Bounded maxsize items) : Bounded maxsize (offer maxsize v items) := by
  intro hpos
  by_cases h : 0 < maxsize ∧ maxsize ≤ items.length
  · obtain ⟨x, rest, rfl, hoffer⟩ := offer_of_full (v := v) h hb
    rw [hoffer, List.length_append]
    exact hb hpos
  · rw [offer_of_room h, List.length_append, List.length_singleton]
    omega

theorem bounded_offerAll (hb : Bounded maxsize items) : Bounded maxsize (offerAll maxsize vs items) := by
  induction vs generalizing items with
  | nil => exact hb
  | cons v vs ih => exact ih (bounded_offer hb)

theorem offer_suffix (hb : Bounded maxsize items) : offer maxsize v items <:+ items ++ [v] := by
  by_cases h : 0 < maxsize ∧ maxsize ≤ items.length
  · obtain ⟨x, rest, rfl, hoffer⟩ := offer_of_full (v := v) h hb
    rw [hoffer]
    exact List.suffix_cons x (rest ++ [v])
  · have hoffer : offer maxsize v items = items ++ [v] := offer_of_room h
    exact hoffer ▸ List.suffix_rfl

/-- The queue holds the last of what was in it and was put into it. -/
theorem offerAll_suffix (hb : Bounded maxsize items) :
    offerAll maxsize vs items <:+ items ++ vs := by
  induction vs generalizing items with
  | nil =>
    rw [List.append_nil]
    exact List.suffix_rfl
  | cons v vs ih =>
    have hstep : offer maxsize v items ++ vs <:+ items ++ v :: vs := by
      obtain ⟨front, hfront⟩ := offer_suffix (v := v) hb
      exact ⟨front, by rw [← List.append_assoc, hfront, List.append_assoc]; rfl⟩
    exact (ih (bounded_offer hb)).trans hstep

/-- The last view of a task in the end of a list is its last view in the list. -/
theorem lastOf_suffix {xs ys : List (TaskView β)} (h : xs <:+ ys) {tid : TaskId}
    (hx : lastOf tid xs = some v) : lastOf tid ys = some v := by
  obtain ⟨zs, rfl⟩ := h
  rw [lastOf_append, hx]
  rfl

/-! ## What a client makes of it -/

theorem clientEntry_eq {tid : TaskId} (htid : tid ≠ "") (sent : List (TaskView β)) :
    clientEntry sent tid = (lastOf tid sent).bind TaskView.entry? := by
  unfold clientEntry
  rw [get?_applyViews htid]
  cases lastOf tid sent <;> rfl

/-- What comes first is seen only where the rest is silent. -/
theorem clientEntry_append {tid : TaskId} (htid : tid ≠ "") (xs ys : List (TaskView β)) :
    clientEntry (xs ++ ys) tid =
      match lastOf tid ys with
      | some v => v.entry?
      | none => clientEntry xs tid := by
  rw [clientEntry_eq htid, clientEntry_eq htid, lastOf_append]
  cases lastOf tid ys <;> rfl

/-- Dropping what is superfluous changes nothing for the client. -/
theorem clientEntry_drop {x : TaskView β} {later : List (TaskView β)}
    (hx : Superfluous known x later) {tid : TaskId} (htid : tid ≠ "") :
    clientEntry (known ++ later) tid = clientEntry (known ++ x :: later) tid := by
  rw [clientEntry_append htid, clientEntry_append htid]
  have hcons : lastOf tid (x :: later) = (lastOf tid later).or (lastOf tid [x]) :=
    lastOf_append tid [x] later
  rw [hcons, lastOf_singleton]
  cases hlast : lastOf tid later with
  | some v => rfl
  | none =>
    by_cases hid : x.id = tid
    · subst hid
      rw [if_pos rfl]
      rcases hx with hempty | ⟨v, hv, hvid⟩ | hsame
      · exact absurd hempty htid
      · exact absurd hvid (lastOf_eq_none.mp hlast v hv)
      · exact hsame
    · rw [if_neg hid]
      rfl

/-- After the emissions the client has what the latest map `m` has, iff they have dropped only what
is superfluous. -/
theorem offerAll_converges_iff {m : TaskMap β} (hb : Bounded maxsize items)
    (hm : ∀ tid, tid ≠ "" → clientEntry (known ++ (items ++ vs)) tid = Dict.get? m tid) :
    (∀ tid, tid ≠ "" →
      clientEntry (known ++ offerAll maxsize vs items) tid = Dict.get? m tid) ↔
      Spares maxsize known vs items := by
  induction vs generalizing items with
  | nil =>
    rw [List.append_nil] at hm
    exact ⟨fun _ => trivial, fun _ => hm⟩
  | cons v vs ih =>
    by_cases h : 0 < maxsize ∧ maxsize ≤ items.length
    · obtain ⟨x, rest, rfl, hoffer⟩ := offer_of_full (v := v) h hb
      by_cases hx : Superfluous known x (rest ++ v :: vs)
      · have hm' : ∀ tid, tid ≠ "" →
            clientEntry (known ++ (offer maxsize v (x :: rest) ++ vs)) tid = Dict.get? m tid := by
          intro tid htid
          rw [hoffer, List.append_assoc]
          exact (clientEntry_drop hx htid).trans (hm tid htid)
        refine (ih (bounded_offer hb) hm').trans ⟨fun hs => ⟨fun _ => ?_, hs⟩, fun hs => hs.2⟩
        rintro _ _ ⟨⟩
        exact hx
      · -- the client never hears of the view that is dropped
        refine ⟨fun hall => absurd (hall x.id fun he => hx (Or.inl he)) ?_,
          fun hs => absurd (hs.1 h x rest rfl) hx⟩
        have hid : x.id ≠ "" := fun he => hx (Or.inl he)
        have hlater : lastOf x.id (rest ++ v :: vs) = none :=
          lastOf_eq_none.mpr fun u hu hue => hx (Or.inr (Or.inl ⟨u, hu, hue⟩))
        have hkept : lastOf x.id (offerAll maxsize (v :: vs) (x :: rest)) = none := by
          have hsuffix : offerAll maxsize (v :: vs) (x :: rest) <:+ rest ++ v :: vs := by
            have hs : offerAll maxsize vs (offer maxsize v (x :: rest)) <:+ offer maxsize v (x :: rest) ++ vs :=
              offerAll_suffix (bounded_offer hb)
            rw [hoffer, List.append_assoc] at hs
            show offerAll maxsize vs (offer maxsize v (x :: rest)) <:+ _
            rw [hoffer]
            exact hs
          cases hlast : lastOf x.id (offerAll maxsize (v :: vs) (x :: rest)) with
          | none => rfl
          | some u => exact (lastOf_suffix hsuffix hlast).symm.trans hlater
        have hentry : Dict.get? m x.id = x.entry? := by
          have hcons : lastOf x.id ((x :: rest) ++ v :: vs) =
              (lastOf x.id (rest ++ v :: vs)).or (lastOf x.id [x]) :=
            lastOf_append x.id [x] (rest ++ v :: vs)
          rw [← hm x.id hid, clientEntry_append hid, hcons, hlater, lastOf_singleton, if_pos rfl]
          rfl
        rw [clientEntry_append hid, hkept, hentry]
        exact fun hsame => hx (Or.inr (Or.inr hsame))
    · have hm' : ∀ tid, tid ≠ "" →
          clientEntry (known ++ (offer maxsize v items ++ vs)) tid = Dict.get? m tid := by
        intro tid htid
        rw [offer_of_room h, List.append_assoc]
        exact hm tid htid
      refine (ih (bounded_offer hb) hm').trans ⟨fun hs => ⟨fun h' => absurd h' h, hs⟩, fun hs => hs.2⟩

/-! ## Before the stream is read -/

/-- The entries of a map are under their ids, and none is a tombstone. -/
def Entries (m : TaskMap β) : Prop := ∀ k v, Dict.get? m k = some v → v.id = k ∧ v.deleted = false

theorem entries_applyView {m : TaskMap β} (h : Entries m) (v : TaskView β) :
    Entries (applyView m v) := by
  intro k u hu
  unfold applyView at hu
  split at hu
  · exact h k u hu
  · split at hu
    · rw [Dict.get?_pop] at hu
      split at hu
      · cases hu
      · exact h k u hu
    · next hlive =>
      rw [Dict.get?_set] at hu
      split at hu
      · next hk =>
        cases hu
        exact ⟨hk.symm, by simpa using hlive⟩
      · exact h k u hu

theorem entries_applyViews {m : TaskMap β} (h : Entries m) (vs : List (TaskView β)) :
    Entries (applyViews m vs) := by
  induction vs generalizing m with
  | nil => exact h
  | cons v vs ih => exact ih (entries_applyView h v)

/-- What holds from the subscription on: the last view of a task in the queue is its entry. -/
structure Agreeing (maxsize : Nat) (pid : String) (s : Subscription β) : Prop where
  entries : Entries (s.latest pid)
  bounded : Bounded maxsize s.items
  queue : ∀ tid v, tid ≠ "" → lastOf tid s.items = some v →
    Dict.get? (s.latest pid) tid = v.entry?

theorem agreeing_renderTo {s : Subscription β} (h : Agreeing maxsize pid s)
    (snapshot : ProjectSnapshot β) : Agreeing maxsize pid (renderTo maxsize pid s snapshot) := by
  unfold renderTo
  split
  · exact h
  · next p hproject =>
    by_cases hp : p = pid
    · subst hp
      refine ⟨?_, ?_, ?_⟩
      · simp only [setAt_self]
        exact entries_applyViews h.entries _
      · simp only [↓reduceIte]
        exact bounded_offerAll h.bounded
      · intro tid v htid hlast
        simp only [↓reduceIte] at hlast
        have hall := lastOf_suffix (offerAll_suffix h.bounded) hlast
        simp only [setAt_self]
        rw [get?_applyViews htid]
        rw [lastOf_append] at hall
        cases htasks : lastOf tid snapshot.tasks with
        | some u =>
          rw [htasks] at hall
          cases hall
          rfl
        | none =>
          rw [htasks] at hall
          exact h.queue tid v htid hall
    · refine ⟨?_, ?_, ?_⟩
      · simp only [setAt_of_ne (Ne.symm hp)]
        exact h.entries
      · simp only [hp, ↓reduceIte]
        exact h.bounded
      · simp only [hp, ↓reduceIte, setAt_of_ne (Ne.symm hp)]
        exact h.queue

theorem agreeing_renders {s : Subscription β} (h : Agreeing maxsize pid s)
    (snapshots : List (ProjectSnapshot β)) :
    Agreeing maxsize pid (snapshots.foldl (renderTo maxsize pid) s) := by
  induction snapshots generalizing s with
  | nil => exact h
  | cons snapshot snapshots ih => exact ih (agreeing_renderTo h snapshot)

theorem bounded_nil : Bounded maxsize ([] : List (TaskView β)) := fun _ => Nat.zero_le _

theorem agreeing_subscribe {s : Subscription β} (h : Agreeing maxsize pid s) :
    Agreeing maxsize pid s.subscribe :=
  ⟨h.entries, bounded_nil, fun _ _ _ hlast => by cases hlast⟩

/-- A reader that takes the latest map while its queue agrees with it has converged. -/
theorem converged_takeLatest {s : Subscription β} (h : Agreeing maxsize pid s)
    (hread : s.read = []) : (s.takeLatest pid).Converged pid := by
  intro tid htid
  show clientEntry ((s.latest pid).rows.map Prod.snd ++ s.read ++ s.items) tid = _
  rw [hread, List.append_nil, clientEntry_append htid]
  cases hlast : lastOf tid s.items with
  | some v => exact (h.queue tid v htid hlast).symm
  | none =>
    show clientEntry ((s.latest pid).rows.map Prod.snd) tid = _
    rw [clientEntry_eq htid, lastOf_values fun k v hv => (h.entries k v hv).1]
    cases hget : Dict.get? (s.latest pid) tid with
    | none => exact hget.symm
    | some v =>
      have hlive := (h.entries tid v hget).2
      simp only [Option.bind_some, TaskView.entry?, hlive]
      exact hget.symm

theorem read_renders (snapshots : List (ProjectSnapshot β)) (s : Subscription β) :
    (snapshots.foldl (renderTo maxsize pid) s).read = s.read := by
  induction snapshots generalizing s with
  | nil => rfl
  | cons snapshot snapshots ih =>
    refine (ih _).trans ?_
    unfold renderTo
    split <;> rfl

theorem opened_converged (maxsize : Nat) (pid : String)
    (before between : List (ProjectSnapshot β)) :
    (opened maxsize pid before between).Converged pid ∧
      Bounded maxsize (opened maxsize pid before between).items := by
  have hinitial : Agreeing maxsize pid (Subscription.initial : Subscription β) :=
    ⟨fun k v h => (by cases h), bounded_nil, fun _ _ _ h => by cases h⟩
  have hbefore := agreeing_subscribe (agreeing_renders hinitial before)
  have hbetween := agreeing_renders hbefore between
  refine ⟨converged_takeLatest hbetween ?_, hbetween.bounded⟩
  rw [read_renders]
  exact read_renders before _

/-! ## While the stream is read -/

/-- One event keeps the agreement iff it drops only what is superfluous. -/
theorem apply_converged_iff {s : Subscription β} (hb : Bounded maxsize s.items)
    (hs : s.Converged pid) (ev : StreamEvent β) :
    (ev.apply maxsize pid s).Converged pid ↔ ev.SparesNewest maxsize pid s := by
  cases ev with
  | read =>
    refine ⟨fun _ => trivial, fun _ => ?_⟩
    show s.readOne.Converged pid
    unfold Subscription.readOne getNowait
    cases hitems : s.items with
    | nil => exact hs
    | cons v items =>
      intro tid htid
      have hsame := hs tid htid
      rw [hitems] at hsame
      show clientEntry (s.snapshot ++ (s.read ++ [v]) ++ items) tid = _
      rw [← hsame]
      simp only [List.append_assoc, List.singleton_append]
  | render snapshot =>
    show (renderTo maxsize pid s snapshot).Converged pid ↔
      (snapshot.project? = some pid → Spares maxsize (s.snapshot ++ s.read) snapshot.tasks s.items)
    unfold renderTo
    cases hproject : snapshot.project? with
    | none => exact ⟨fun _ h => (by cases h), fun _ => hs⟩
    | some p =>
      by_cases hp : p = pid
      · subst hp
        have hm : ∀ tid, tid ≠ "" →
            clientEntry (s.snapshot ++ s.read ++ (s.items ++ snapshot.tasks)) tid =
              Dict.get? (applyViews (s.latest p) snapshot.tasks) tid := by
          intro tid htid
          rw [← List.append_assoc, clientEntry_append htid, hs tid htid]
          refine Eq.trans ?_ (get?_applyViews htid).symm
          cases lastOf tid snapshot.tasks <;> rfl
        have hiff := offerAll_converges_iff hb hm
        simp only [Subscription.Converged, setAt_self, ↓reduceIte]
        exact hiff.trans ⟨fun h _ => h, fun h => h trivial⟩
      · have hne : some p ≠ some pid := fun h => hp (Option.some.inj h)
        simp only [Subscription.Converged, setAt_of_ne (Ne.symm hp), hp, ↓reduceIte]
        exact ⟨fun _ h => absurd h hne, fun _ => hs⟩

theorem bounded_apply {s : Subscription β} (hb : Bounded maxsize s.items) (ev : StreamEvent β) :
    Bounded maxsize (ev.apply maxsize pid s).items := by
  cases ev with
  | read =>
    show Bounded maxsize s.readOne.items
    unfold Subscription.readOne getNowait
    cases hitems : s.items with
    | nil =>
      rw [hitems] at hb
      simpa only [hitems] using hb
    | cons v items =>
      rw [hitems] at hb
      exact fun hpos => Nat.le_of_succ_le (hb hpos)
  | render snapshot =>
    show Bounded maxsize (renderTo maxsize pid s snapshot).items
    unfold renderTo
    split
    · exact hb
    · dsimp only
      split
      · exact bounded_offerAll hb
      · exact hb

theorem runStream_converged_iff {events : List (StreamEvent β)} {s : Subscription β}
    (hb : Bounded maxsize s.items) (hs : s.Converged pid) :
    (∀ pre, pre <+: events → (runStream maxsize pid pre s).Converged pid) ↔
      SparesAll maxsize pid events s := by
  induction events generalizing s with
  | nil =>
    refine ⟨fun _ => trivial, fun _ pre hpre => ?_⟩
    rw [List.prefix_nil.mp hpre]
    exact hs
  | cons ev events ih =>
    constructor
    · intro hall
      have hone : (ev.apply maxsize pid s).Converged pid :=
        hall [ev] ⟨events, rfl⟩
      refine ⟨(apply_converged_iff hb hs ev).mp hone, (ih (bounded_apply hb ev) hone).mp ?_⟩
      intro pre hpre
      exact hall (ev :: pre) (List.cons_prefix_cons.mpr ⟨rfl, hpre⟩)
    · rintro ⟨hev, hrest⟩ pre hpre
      have hone := (apply_converged_iff hb hs ev).mpr hev
      cases pre with
      | nil => exact hs
      | cons ev' pre =>
        obtain ⟨rfl, htail⟩ := List.cons_prefix_cons.mp hpre
        exact (ih (bounded_apply hb ev') hone).mpr hrest pre htail

end SlowLemmas

open SlowLemmas in
/-- A subscriber that drains its queue agrees with the latest map, after every event of a sequence
of renders and reads, iff each view that a full queue has dropped was superfluous. -/
theorem converges_iff (maxsize : Nat) (pid : String) (before between : List (ProjectSnapshot β))
    (events : List (StreamEvent β)) :
    (∀ pre, pre <+: events →
      (runStream maxsize pid pre (opened maxsize pid before between)).Converged pid) ↔
      SparesAll maxsize pid events (opened maxsize pid before between) := by
  obtain ⟨hs, hb⟩ := opened_converged maxsize pid before between
  exact runStream_converged_iff hb hs

/-- The view of a task that has no other fields. -/
def bareView (tid : TaskId) (state : String) : TaskView String := ⟨tid, some "p", false, state⟩

/-- The render of one view. -/
def renderView (v : TaskView String) : StreamEvent String := .render ⟨[v], v.projectId⟩

/-- An update of a second task drops the newest view of the first, and the subscriber never hears
that the first task is done. -/
theorem other_task_evicts :
    ¬ (runStream 1 "p" [renderView (bareView "a" "DONE"), renderView (bareView "b" "QUEUED")]
      (opened 1 "p" [⟨[bareView "a" "RUNNING"], some "p"⟩] [])).Converged "p" := by
  intro h
  have hentry := h "a" (by decide)
  revert hentry
  decide

end WebSink

end Flotilla
