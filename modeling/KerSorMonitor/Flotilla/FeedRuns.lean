import KerSorMonitor.Lib.RelyGuarantee
import KerSorMonitor.Flotilla.WebSink

/-!
# Runs of the feed

What every action keeps: the latest maps are keyed by task id and hold no tombstones, queues stay
with their project, and a thread changes its own work only.

Results: `shape_exec`, `exec_work_of_ne`, `grown_exec`; `triple_of_exec` for the contracts that add
an invariant of their own; `unstarted_run`, by which conditions on all threads can be decided.
-/

namespace Flotilla

namespace WebSink

open Threads Keyed

variable {β : Type}

/-! ## What every action keeps -/

/-- The queue is one of the project. -/
def Feed.Owns (s : Feed β) (pid : String) (q : QueueId) : Prop :=
  q < s.nextQueue ∧ (s.queues q).project = pid

structure Feed.Shape (s : Feed β) : Prop where
  keyed : ∀ pid k v, Dict.get? (s.latest pid) k = some v → k ≠ "" ∧ v.id = k ∧ v.deleted = false
  subs : ∀ pid q, q ∈ s.subs pid → s.Owns pid q

/-- Queues stay what they are. -/
def Grown (s s' : Feed β) : Prop :=
  s.nextQueue ≤ s'.nextQueue ∧ ∀ q < s.nextQueue, (s'.queues q).project = (s.queues q).project

theorem Grown.refl (s : Feed β) : Grown s s := ⟨Nat.le_refl _, fun _ _ => rfl⟩

theorem Grown.trans {s s' s'' : Feed β} (h : Grown s s') (h' : Grown s' s'') : Grown s s'' :=
  ⟨Nat.le_trans h.1 h'.1, fun q hq =>
    (h'.2 q (Nat.lt_of_lt_of_le hq h.1)).trans (h.2 q hq)⟩

theorem Grown.owns {s s' : Feed β} (h : Grown s s') {pid : String} {q : QueueId}
    (hq : s.Owns pid q) : s'.Owns pid q :=
  ⟨Nat.lt_of_lt_of_le hq.1 h.1, (h.2 q hq.1).trans hq.2⟩

theorem grown_setQueue {s : Feed β} {q : QueueId} {f : Queue β → Queue β}
    (hf : (f (s.queues q)).project = (s.queues q).project) : Grown s (s.setQueue q f) := by
  refine ⟨Nat.le_refl _, fun q' _ => ?_⟩
  by_cases heq : q' = q
  · subst heq
    rw [setQueue_queues_self]
    exact hf
  · rw [setQueue_queues_of_ne heq]

theorem takeLatest_of_opened {s : Feed β} {t : ThreadId} {q : QueueId}
    (h : (s.work t).opened = some q) (vs : List (TaskView β)) :
    s.takeLatest t vs = s.setQueue q fun k => { k with snapshot := some vs } := by
  rw [Feed.takeLatest, h]

theorem grown_exec (t : ThreadId) {α : Type} (a : Act β α) (s : Feed β) :
    Grown s (exec t a s).2 := by
  cases a with
  | latest pid =>
    change Grown s (s.takeLatest t _)
    unfold Feed.takeLatest
    split
    · exact grown_setQueue rfl
    · exact .refl s
  | subscribe pid =>
    exact ⟨Nat.le_succ _, fun q hq => congrArg Queue.project (setAt_of_ne (Nat.ne_of_lt hq))⟩
  | putNowait q v =>
    rw [exec]
    split
    · exact .refl s
    · have hput : Grown s (s.setQueue q fun k =>
          { k with items := k.items ++ [v], log := k.log ++ [v] }) := grown_setQueue rfl
      exact hput
  | getNowait q =>
    rw [exec]
    split
    · exact .refl s
    · exact grown_setQueue rfl
  | getTask tid publishes =>
    change Grown s (s.noteRead t tid publishes)
    unfold Feed.noteRead
    split
    · split <;> exact .refl s
    · exact .refl s
  | createTasks pid new =>
    rw [exec]
    split <;> exact .refl s
  | setBody tid body =>
    rw [exec]
    split <;> exact .refl s
  | unsubscribe pid q => exact .refl s
  | applyViews pid vs => exact .refl s
  | subscribers pid => exact .refl s
  | emitted => exact .refl s
  | deleteTask tid pid => exact .refl s

/-- The latest maps change with `render` only. -/
theorem exec_latest (t : ThreadId) {α : Type} (a : Act β α) (s : Feed β) :
    (exec t a s).2.latest = s.latest ∨
      ∃ pid vs, (exec t a s).2.latest = setAt s.latest pid (applyViews (s.latest pid) vs) := by
  cases a with
  | latest pid =>
    left
    change (s.takeLatest t _).latest = s.latest
    unfold Feed.takeLatest
    split <;> rfl
  | applyViews pid vs => exact Or.inr ⟨pid, vs, rfl⟩
  | putNowait q v | getNowait q | createTasks pid new | setBody tid body =>
    left
    rw [exec]
    split <;> rfl
  | getTask tid publishes =>
    left
    change (s.noteRead t tid publishes).latest = s.latest
    unfold Feed.noteRead
    split
    · split <;> rfl
    · rfl
  | subscribe pid => exact Or.inl rfl
  | unsubscribe pid q => exact Or.inl rfl
  | subscribers pid => exact Or.inl rfl
  | emitted => exact Or.inl rfl
  | deleteTask tid pid => exact Or.inl rfl

/-- A subscriber is an old one, or the queue that was opened just now. -/
theorem exec_subs {t : ThreadId} {α : Type} {a : Act β α} {s : Feed β} {pid : String} {q : QueueId}
    (h : q ∈ (exec t a s).2.subs pid) : q ∈ s.subs pid ∨
      q = s.nextQueue ∧ (exec t a s).2 = s.openQueue t pid := by
  cases a with
  | latest pid' =>
    left
    change q ∈ (s.takeLatest t _).subs pid at h
    unfold Feed.takeLatest at h
    split at h <;> exact h
  | subscribe pid' =>
    by_cases hpid : pid = pid'
    · subst hpid
      have hq : q ∈ s.subs pid ++ [s.nextQueue] := by
        have heq : (s.openQueue t pid).subs pid = s.subs pid ++ [s.nextQueue] := setAt_self
        exact heq ▸ h
      exact (List.mem_append.mp hq).imp_right fun hq => ⟨List.mem_singleton.mp hq, rfl⟩
    · have heq : (s.openQueue t pid').subs pid = s.subs pid := setAt_of_ne hpid
      exact Or.inl (heq ▸ h)
  | unsubscribe pid' q' =>
    left
    have h' : q ∈ setAt s.subs pid' ((s.subs pid').erase q') pid := h
    by_cases hpid : pid = pid'
    · subst hpid
      rw [setAt_self] at h'
      exact List.mem_of_mem_erase h'
    · rwa [setAt_of_ne hpid] at h'
  | putNowait q v | getNowait q | createTasks pid new | setBody tid body =>
    left
    rw [exec] at h
    split at h <;> exact h
  | getTask tid publishes =>
    left
    change q ∈ (s.noteRead t tid publishes).subs pid at h
    unfold Feed.noteRead at h
    split at h
    · split at h <;> exact h
    · exact h
  | applyViews pid' vs => exact Or.inl h
  | subscribers pid' => exact Or.inl h
  | emitted => exact Or.inl h
  | deleteTask tid pid' => exact Or.inl h

/-- The actions that no client sees. -/
def Idle : {α : Type} → Act β α → Prop
  | _, .unsubscribe _ _ => True
  | _, .getNowait _ => True
  | _, .getTask _ _ => True
  | _, .createTasks _ _ => True
  | _, .setBody _ _ => True
  | _, .deleteTask _ _ => True
  | _, _ => False

/-- Nothing that a client sees has changed. -/
structure Unseen (s s' : Feed β) : Prop where
  latest : s'.latest = s.latest
  log : ∀ q, (s'.queues q).log = (s.queues q).log
  snapshot : ∀ q, (s'.queues q).snapshot = (s.queues q).snapshot
  subs : ∀ pid, s'.subs pid ⊆ s.subs pid
  project : ∀ t, (s'.work t).project = (s.work t).project
  pending : ∀ t, (s'.work t).pending = (s.work t).pending
  targets : ∀ t, (s'.work t).targets = (s.work t).targets

theorem Unseen.refl (s : Feed β) : Unseen s s :=
  ⟨rfl, fun _ => rfl, fun _ => rfl, fun _ _ h => h, fun _ => rfl, fun _ => rfl, fun _ => rfl⟩

theorem Unseen.sent {s s' : Feed β} (h : Unseen s s') (q : QueueId) :
    (s'.queues q).sent = (s.queues q).sent := by
  unfold Queue.sent
  rw [h.snapshot, h.log]

/-- Rows and what a thread notes about them. -/
theorem unseen_setWork {s : Feed β} {t : ThreadId} {rows : Dict TaskId (Row β)}
    {f : Work β → Work β} (hproject : (f (s.work t)).project = (s.work t).project)
    (hpending : (f (s.work t)).pending = (s.work t).pending)
    (htargets : (f (s.work t)).targets = (s.work t).targets) :
    Unseen s (({ s with rows := rows } : Feed β).setWork t f) := by
  have hcases : ∀ t', (({ s with rows := rows } : Feed β).setWork t f).work t' =
      if t' = t then f (s.work t) else s.work t' := fun _ => rfl
  refine ⟨rfl, fun _ => rfl, fun _ => rfl, fun _ _ h => h, fun t' => ?_, fun t' => ?_, fun t' => ?_⟩
  all_goals
    rw [hcases]
    split
    · next heq =>
      subst heq
      assumption
    · rfl

theorem unseen_exec {α : Type} {a : Act β α} (ha : Idle a) (t : ThreadId) (s : Feed β) :
    Unseen s (exec t a s).2 := by
  cases a with
  | unsubscribe pid q =>
    refine { Unseen.refl s with subs := fun pid' q' hq' => ?_ }
    exact (exec_subs hq').elim id fun hopen => absurd (congrArg Feed.nextQueue hopen.2)
      (Nat.ne_of_lt (Nat.lt_succ_self s.nextQueue))
  | getNowait q =>
    rw [exec]
    split
    · exact .refl s
    · have hqueue : ∀ vs, ∀ q', (((s.setQueue q fun k => { k with items := vs }).queues q').log =
          (s.queues q').log) ∧ ((s.setQueue q fun k => { k with items := vs }).queues q').snapshot =
          (s.queues q').snapshot := by
        intro vs q'
        by_cases heq : q' = q
        · subst heq
          rw [setQueue_queues_self]
          exact ⟨rfl, rfl⟩
        · rw [setQueue_queues_of_ne heq]
          exact ⟨rfl, rfl⟩
      exact ⟨rfl, fun q' => (hqueue _ q').1, fun q' => (hqueue _ q').2, fun _ _ h => h,
        fun _ => rfl, fun _ => rfl, fun _ => rfl⟩
  | getTask tid publishes =>
    change Unseen s (s.noteRead t tid publishes)
    unfold Feed.noteRead
    split
    · split
      · exact unseen_setWork rfl rfl rfl
      · exact .refl s
    · exact .refl s
  | createTasks pid new =>
    rw [exec]
    split
    · change Unseen s (s.insertRows t pid new)
      unfold Feed.insertRows
      exact unseen_setWork rfl rfl rfl
    · exact .refl s
  | setBody tid body =>
    rw [exec]
    split
    · exact ⟨rfl, fun _ => rfl, fun _ => rfl, fun _ _ h => h, fun _ => rfl, fun _ => rfl,
        fun _ => rfl⟩
    · exact .refl s
  | deleteTask tid pid =>
    change Unseen s (s.deleteRow t pid tid)
    unfold Feed.deleteRow
    exact unseen_setWork rfl rfl rfl
  | latest pid => exact ha.elim
  | subscribe pid => exact ha.elim
  | applyViews pid vs => exact ha.elim
  | subscribers pid => exact ha.elim
  | putNowait q v => exact ha.elim
  | emitted => exact ha.elim

theorem keyed_applyViews {m : TaskMap β} {vs : List (TaskView β)}
    (h : ∀ k v, Dict.get? m k = some v → k ≠ "" ∧ v.id = k ∧ v.deleted = false) (k : TaskId)
    (v : TaskView β) (hget : Dict.get? (applyViews m vs) k = some v) :
    k ≠ "" ∧ v.id = k ∧ v.deleted = false := by
  by_cases hk : k = ""
  · subst hk
    have hnone : Dict.get? m "" = none := by
      cases hold : Dict.get? m "" with
      | none => rfl
      | some w => exact absurd rfl (h "" w hold).1
    rw [get?_applyViews_empty vs hnone] at hget
    cases hget
  · rw [get?_applyViews hk] at hget
    cases hlast : lastOf k vs with
    | none =>
      rw [hlast] at hget
      exact h k v hget
    | some w =>
      rw [hlast] at hget
      simp only [TaskView.entry?] at hget
      split at hget
      · cases hget
      · next hdeleted =>
        cases hget
        exact ⟨hk, (mem_of_lastOf hlast).2, Bool.eq_false_iff.mpr hdeleted⟩

theorem shape_exec {s : Feed β} (h : s.Shape) (t : ThreadId) {α : Type} (a : Act β α) :
    (exec t a s).2.Shape := by
  refine ⟨fun pid k v hget => ?_, fun pid q hq => ?_⟩
  · rcases exec_latest t a s with hsame | ⟨pid', vs, happlied⟩
    · exact h.keyed pid k v (hsame ▸ hget)
    · rw [happlied] at hget
      by_cases hpid : pid = pid'
      · subst hpid
        rw [setAt_self] at hget
        exact keyed_applyViews (h.keyed pid) k v hget
      · rw [setAt_of_ne hpid] at hget
        exact h.keyed pid k v hget
  · rcases exec_subs hq with hold | ⟨rfl, hopen⟩
    · exact (grown_exec t a s).owns (h.subs pid q hold)
    · rw [hopen]
      exact ⟨Nat.lt_succ_self _, congrArg Queue.project (setAt_self (f := s.queues))⟩

theorem shape_initial (rows : Dict TaskId (Row β)) : (Feed.initial rows).Shape where
  keyed _ _ _ hget := by cases hget
  subs _ _ hq := absurd hq List.not_mem_nil

/-! ## Threads that have not started -/

/-- An action leaves the work of the other threads alone. -/
theorem exec_work_of_ne {t t' : ThreadId} (hne : t' ≠ t) {α : Type} (a : Act β α) (s : Feed β) :
    (exec t a s).2.work t' = s.work t' := by
  cases a with
  | latest pid =>
    change (s.takeLatest t _).work t' = s.work t'
    unfold Feed.takeLatest
    split <;> rfl
  | subscribe pid => exact setAt_of_ne hne
  | unsubscribe pid q => rfl
  | applyViews pid vs => exact setAt_of_ne hne
  | subscribers pid => exact setAt_of_ne hne
  | putNowait q v =>
    rw [exec]
    split
    · rfl
    · exact setAt_of_ne hne
  | getNowait q =>
    rw [exec]
    split <;> rfl
  | emitted => exact setAt_of_ne hne
  | getTask tid publishes =>
    change (s.noteRead t tid publishes).work t' = s.work t'
    unfold Feed.noteRead
    split
    · split
      · exact setAt_of_ne hne
      · rfl
    · rfl
  | createTasks pid new =>
    rw [exec]
    split
    · exact setAt_of_ne hne
    · rfl
  | setBody tid body =>
    rw [exec]
    split <;> rfl
  | deleteTask tid pid => exact setAt_of_ne hne

/-- Threads that have not started are not in flight and have no work. -/
structure Unstarted (c : Config (Act β) FeedErr (Feed β)) : Prop where
  threads : ∀ t, c.next ≤ t → Dict.get? c.threads t = none
  work : ∀ t, c.next ≤ t → c.shared.work t = .idle

theorem unstarted_initial (rows : Dict TaskId (Row β)) :
    Unstarted (Config.initial (Feed.initial rows)) :=
  ⟨fun _ _ => rfl, fun _ _ => rfl⟩

theorem Unstarted.resume {c : Config (Act β) FeedErr (Feed β)} {t : ThreadId} (h : Unstarted c)
    (ht : t < c.next) (p : FeedProg β Unit) : Unstarted (c.resume feed t p) := by
  have hne : ∀ t', c.next ≤ t' → t' ≠ t := fun t' hle => Nat.ne_of_gt (Nat.lt_of_lt_of_le ht hle)
  have hend : Unstarted ({ c with
      shared := feed.finish t c.shared, threads := Dict.pop c.threads t } : Config _ _ _) := by
    refine ⟨fun t' hle => ?_, fun t' hle => (setAt_of_ne (hne t' hle)).trans (h.work t' hle)⟩
    simp only [Dict.get?_pop, hne t' hle, ↓reduceIte]
    exact h.threads t' hle
  cases p with
  | pure a => exact hend
  | throw e => exact hend
  | act a k =>
    refine ⟨fun t' hle => ?_, h.work⟩
    simp only [Config.resume, Dict.get?_set, hne t' hle, ↓reduceIte]
    exact h.threads t' hle

theorem Unstarted.apply {c : Config (Act β) FeedErr (Feed β)} (h : Unstarted c)
    (ev : Threads.Event Unit (Op β)) : Unstarted (Config.apply feed ev c) := by
  cases ev with
  | spawn op =>
    have hdone : Unstarted ({ c with next := c.next + 1 } : Config _ _ _) :=
      ⟨fun t hle => h.threads t (Nat.le_of_succ_le hle),
        fun t hle => h.work t (Nat.le_of_succ_le hle)⟩
    cases hp : feed.program op with
    | pure a => exact Config.apply_spawn_done (fun _ _ => by rw [hp]; simp) c ▸ hdone
    | throw e => exact Config.apply_spawn_done (fun _ _ => by rw [hp]; simp) c ▸ hdone
    | act a k =>
      rw [Config.apply_spawn hp]
      refine ⟨fun t hle => ?_, hdone.work⟩
      have hne : t ≠ c.next := fun heq => absurd (heq ▸ hle) (Nat.not_succ_le_self _)
      simp only [Dict.get?_set, hne, ↓reduceIte]
      exact hdone.threads t hle
  | step t env =>
    by_cases hact : ∃ (α : Type) (a : Act β α) (k : Except FeedErr α → FeedProg β Unit),
        Dict.get? c.threads t = some (.act a k)
    · obtain ⟨α, a, k, hget⟩ := hact
      have ht : t < c.next := by
        by_contra hle
        rw [h.threads t (Nat.not_lt.mp hle)] at hget
        cases hget
      rw [Config.apply_step hget]
      have hstep : Unstarted ({ c with shared := (exec t a c.shared).2 } : Config _ _ _) := by
        refine ⟨h.threads, fun t' hle => ?_⟩
        have hne : t' ≠ t := Nat.ne_of_gt (Nat.lt_of_lt_of_le ht hle)
        exact (exec_work_of_ne hne a c.shared).trans (h.work t' hle)
      exact hstep.resume ht _
    · rw [Config.apply_step_none fun a k hget => hact ⟨_, a, k, hget⟩]
      exact h
  | restart => exact ⟨fun _ _ => rfl, fun _ _ => rfl⟩

theorem unstarted_run (rows : Dict TaskId (Row β)) (events : List (Threads.Event Unit (Op β))) :
    Unstarted (Config.run feed events (Config.initial (Feed.initial rows))) := by
  have h := unstarted_initial rows
  revert h
  generalize Config.initial (Feed.initial rows) = c
  intro h
  induction events generalizing c with
  | nil => exact h
  | cons ev events ih => exact ih _ (h.apply ev)

/-! ## Contracts

A contract adds an invariant to what every action keeps. It asks that queues have room, and may ask
more of the state before an action, and something of the work of every other thread. -/

/-- A queue that a view is put into has room. -/
def Room {α : Type} (a : Act β α) (s : Feed β) : Prop :=
  match a with
  | .putNowait q _ => (s.queues q).items.length < maxSize
  | _ => True

instance {α : Type} (a : Act β α) (s : Feed β) : Decidable (Room a s) :=
  match a with
  | .putNowait q _ => inferInstanceAs (Decidable ((s.queues q).items.length < maxSize))
  | .latest _ | .subscribe _ | .unsubscribe _ _ | .applyViews _ _ | .subscribers _ | .getNowait _
  | .emitted | .getTask _ _ | .createTasks _ _ | .setBody _ _ | .deleteTask _ _ =>
    inferInstanceAs (Decidable True)

/-- No queue is full when a view is put into it. -/
def Roomy (c : Config (Act β) FeedErr (Feed β)) : Threads.Event Unit (Op β) → Prop
  | .step t _ => c.Next t fun a => Room a c.shared
  | _ => True

instance : ∀ (c : Config (Act β) FeedErr (Feed β)) (ev : Threads.Event Unit (Op β)),
    Decidable (Roomy c ev)
  | c, .step t _ => inferInstanceAs (Decidable (c.Next t fun a => Room a c.shared))
  | _, .spawn _ | _, .restart => inferInstanceAs (Decidable True)

theorem exec_putNowait {t : ThreadId} {q : QueueId} {v : TaskView β} {s : Feed β}
    (hroom : Room (.putNowait q v) s) : exec t (.putNowait q v) s = (.ok (), s.put t q v) :=
  if_neg (Nat.not_le.mpr hroom)

abbrev Asks (β : Type) := {α : Type} → Act β α → Feed β → Prop

abbrev Apart (β : Type) := {α : Type} → Act β α → Feed β → Work β → Prop

def feedContract (inv : Feed β → Prop) (asks : Asks β) (apart : Apart β) :
    Contract (feed (β := β)) where
  inv s := s.Shape ∧ inv s
  rely t s s' := s'.work t = s.work t ∧ Grown s s'
  guar t s s' := (s'.Shape ∧ inv s') ∧ (∀ t', t' ≠ t → s'.work t' = s.work t') ∧ Grown s s'
  clean t s := s.work t = .idle
  assume t _ a _ s := Room a s ∧ asks a s ∧ ∀ t', t' ≠ t → apart a s (s.work t')
  check _ _ _ _ := True
  rely_refl _ s := ⟨rfl, Grown.refl s⟩
  rely_trans h h' := ⟨h'.1.trans h.1, h.2.trans h'.2⟩
  clean_rely h h' := h'.1.trans h
  inv_guar _ h := h.1
  rely_guar _ h hne := ⟨h.2.1 _ hne, h.2.2⟩

section Contract

variable {inv : Feed β → Prop} {asks : Asks β} {apart : Apart β} {t : ThreadId}

/-- An action keeps the contract if it keeps the invariant of the contract. -/
theorem triple_of_exec {P : Feed β → Prop} {α : Type} {a : Act β α}
    {Q : Except FeedErr α → Feed β → Prop}
    (h : ∀ s, s.Shape → inv s → P s → Room a s → asks a s →
      (∀ t', t' ≠ t → apart a s (s.work t')) →
        inv (exec t a s).2 ∧ Q (exec t a s).1 (exec t a s).2) :
    Triple (feedContract inv asks apart) t P a Q := by
  rintro s ⟨hshape, hinv⟩ hP
  refine ⟨trivial, fun _ r s' ⟨hroom, hasks, hapart⟩ hexec => ?_⟩
  obtain ⟨rfl, rfl⟩ : (exec t a s).1 = r ∧ (exec t a s).2 = s' := Prod.ext_iff.mp hexec
  obtain ⟨hinv', hQ⟩ := h s hshape hinv hP hroom hasks hapart
  exact ⟨⟨⟨shape_exec hshape t a, hinv'⟩, fun _ hne => exec_work_of_ne hne a s, grown_exec t a s⟩, hQ⟩

/-- Nobody else changes the work of a thread. -/
theorem work_stable {R : Work β → Prop} :
    Stable (feedContract inv asks apart) t fun s => R (s.work t) := by
  intro s s' hR hrely
  rw [hrely.1]
  exact hR

theorem shape_setWork {s : Feed β} (h : s.Shape) (f : Work β → Work β) : (s.setWork t f).Shape :=
  ⟨h.keyed, h.subs⟩

/-- The operations are safe if each of them leaves a state in which its work can be dropped. -/
theorem feed_sound {ops : Op β → Prop} (hinitial : ∀ rows, inv (.initial rows))
    (h : ∀ op, ops op → ∀ t s, s.work t = .idle → Safe (feedContract inv asks apart) t (program op)
      (fun _ s => inv s → inv (s.setWork t fun _ => .idle)) s) :
    (feedContract inv asks apart).Sound ops True where
  safe op hop t s _ hclean := by
    refine (h op hop t s hclean).mono fun _ s hleave hinv => ?_
    refine ⟨⟨shape_setWork hinv.1 fun _ => .idle, hleave hinv.2⟩, setAt_self, fun t' hne => ?_⟩
    exact ⟨setAt_of_ne hne, Grown.refl _⟩
  restart _ s _ := ⟨⟨shape_initial s.rows, hinitial s.rows⟩, fun _ => rfl⟩

/-- What holds in every state of a run that the contract permits. -/
theorem feed_run {ops : Op β → Prop} (hsound : (feedContract inv asks apart).Sound ops True)
    (hinitial : ∀ rows, inv (.initial rows)) {rows : Dict TaskId (Row β)}
    {events : List (Threads.Event Unit (Op β))}
    (hok : Config.Along feed ((feedContract inv asks apart).Permits ops True) events
      (Config.initial (Feed.initial rows))) :
    (Config.run feed events (Config.initial (Feed.initial rows))).shared.Shape ∧
      inv (Config.run feed events (Config.initial (Feed.initial rows))).shared :=
  (hsound.holds_run hok
    (Contract.holds_initial ⟨shape_initial rows, hinitial rows⟩ fun _ => rfl)).inv

/-! ### Checking a run

Only threads that have started have work, so what a contract asks can be decided. -/

/-- What `Permits` asks, of the threads that have started. -/
def Allowed (asks : Asks β) (apart : Apart β) (ops : Op β → Prop)
    (c : Config (Act β) FeedErr (Feed β)) : Threads.Event Unit (Op β) → Prop
  | .spawn op => ops op
  | .step t _ => c.Next t fun a =>
      Room a c.shared ∧ asks a c.shared ∧
        ∀ t' < c.next, t' ≠ t → apart a c.shared (c.shared.work t')
  | .restart => True

instance [hasks : ∀ {α : Type} (a : Act β α) (s : Feed β), Decidable (asks a s)]
    [hapart : ∀ {α : Type} (a : Act β α) (s : Feed β) (w : Work β), Decidable (apart a s w)]
    {ops : Op β → Prop} [hops : ∀ op, Decidable (ops op)] :
    ∀ (c : Config (Act β) FeedErr (Feed β)) (ev : Threads.Event Unit (Op β)),
      Decidable (Allowed asks apart ops c ev)
  | _, .spawn op => hops op
  | c, .step t _ => inferInstanceAs (Decidable (c.Next t fun a =>
      Room a c.shared ∧ asks a c.shared ∧
        ∀ t' < c.next, t' ≠ t → apart a c.shared (c.shared.work t')))
  | _, .restart => inferInstanceAs (Decidable True)

theorem permits_of_allowed {ops : Op β → Prop}
    (hidle : ∀ {α : Type} (a : Act β α) (s : Feed β), apart a s .idle)
    {events : List (Threads.Event Unit (Op β))} {c : Config (Act β) FeedErr (Feed β)}
    (h : Unstarted c) (hok : Config.Along feed (Allowed asks apart ops) events c) :
    Config.Along feed ((feedContract inv asks apart).Permits ops True) events c := by
  induction events generalizing c with
  | nil => trivial
  | cons ev events ih =>
    refine ⟨?_, ih (h.apply ev) hok.2⟩
    cases ev with
    | spawn op => exact hok.1
    | step t env =>
      intro α a k hget
      obtain ⟨hroom, hasks, hapart⟩ := hok.1 α a k hget
      refine ⟨hroom, hasks, fun t' hne => ?_⟩
      rcases Nat.lt_or_ge t' c.next with hlt | hge
      · exact hapart t' hlt hne
      · rw [h.work t' hge]
        exact hidle a c.shared
    | restart => trivial

/-- What is true of idle work need be checked of the threads that have started only. -/
theorem forall_work {c : Config (Act β) FeedErr (Feed β)} (h : Unstarted c) {R : Work β → Prop}
    (hidle : R .idle) (hbelow : ∀ t < c.next, R (c.shared.work t)) (t : ThreadId) :
    R (c.shared.work t) := by
  rcases Nat.lt_or_ge t c.next with hlt | hge
  · exact hbelow t hlt
  · rw [h.work t hge]
    exact hidle

end Contract

/-! ## Rendering -/

/-- The thread has nothing to emit. -/
def Work.Free (w : Work β) : Prop := w.pending = [] ∧ w.targets = none

/-- What a contract has to keep for `render`: `pre` is what the thread knows of its own work when
it applies views. -/
structure Renders (inv : Feed β → Prop) (asks : Asks β) (apart : Apart β)
    (pre : Work β → String → List (TaskView β) → Prop) : Prop where
  apply : ∀ {s : Feed β} {t pid vs}, s.Shape → inv s → (s.work t).Free → pre (s.work t) pid vs →
    asks (.applyViews pid vs) s → (∀ t', t' ≠ t → apart (.applyViews pid vs) s (s.work t')) →
      inv (s.applyAll t pid vs)
  subs : ∀ {s : Feed β} {t}, s.Shape → inv s → (s.work t).targets = none →
    inv (s.takeSubs t (s.work t).project)
  put : ∀ {s : Feed β} {t q v}, s.Shape → inv s → (s.work t).pending.head? = some v →
    (∃ qs, (s.work t).targets = some (q :: qs)) → s.Owns (s.work t).project q → inv (s.put t q v)
  emitted : ∀ {s : Feed β} {t}, s.Shape → inv s → (s.work t).targets = some [] →
    inv (s.setWork t Work.emitted)

/-- What the work becomes when all these views are emitted. -/
def Work.emittedAll (w : Work β) : List (TaskView β) → Work β
  | [] => w
  | _ :: vs => w.emitted.emittedAll vs

/-- The work of the thread is this, and the queues that it serves are queues of its project. -/
structure At (t : ThreadId) (w : Work β) (s : Feed β) : Prop where
  work : s.work t = w
  owns : ∀ qs, w.targets = some qs → ∀ q ∈ qs, s.Owns w.project q

namespace Renders

variable {inv : Feed β → Prop} {asks : Asks β} {apart : Apart β}
  {pre : Work β → String → List (TaskView β) → Prop} {t : ThreadId} {s : Feed β} {w : Work β}

theorem at_stable : Stable (feedContract inv asks apart) t (At t w) := by
  rintro s s' ⟨hwork, howns⟩ ⟨hsame, hgrown⟩
  exact ⟨hsame.trans hwork, fun qs hqs q hq => hgrown.owns (howns qs hqs q hq)⟩

/-- In a queue with room a view needs one attempt. -/
theorem safe_putFresh (hr : Renders inv asks apart pre) {v : TaskView β} {q : QueueId}
    {qs : List QueueId} (hhead : w.pending.head? = some v) (h : At t { w with targets := some (q :: qs) } s) :
    Safe (feedContract inv asks apart) t (putFresh q v) (fun
      | .ok _ => At t { w with targets := some qs }
      | .error _ => fun _ => False) s := by
  refine Safe.tryCatch (Triple.safe (P := At t { w with targets := some (q :: qs) }) ?_ at_stable h)
  refine triple_of_exec fun s hshape hinv ⟨hwork, howns⟩ hroom _ _ => ?_
  rw [exec_putNowait hroom]
  have hown := howns _ rfl q List.mem_cons_self
  refine ⟨hr.put hshape hinv (by rw [hwork]; exact hhead) ⟨qs, by rw [hwork]⟩ (by rw [hwork]; exact hown),
    ?_, fun qs' hqs' q' hq' => ?_⟩
  · simp [Feed.put, Feed.setQueue, hwork]
  · cases hqs'
    have hgrown := grown_exec t (.putNowait q v) s
    rw [exec_putNowait hroom] at hgrown
    exact hgrown.owns (howns _ rfl q' (List.mem_cons_of_mem _ hq'))

theorem safe_putAll (hr : Renders inv asks apart pre) {v : TaskView β} {qs : List QueueId}
    (hhead : w.pending.head? = some v) (h : At t { w with targets := some qs } s) :
    Safe (feedContract inv asks apart) t (putAll v qs) (fun
      | .ok _ => At t { w with targets := some [] }
      | .error _ => fun _ => False) s := by
  induction qs generalizing s with
  | nil => exact h
  | cons q qs ih =>
    exact Safe.seq (hr.safe_putFresh hhead h) (fun _ s hs => ih hs) fun _ _ hs => hs.elim

theorem safe_emit (hr : Renders inv asks apart pre) {v : TaskView β}
    (hhead : w.pending.head? = some v) (htargets : w.targets = none) (h : At t w s) :
    Safe (feedContract inv asks apart) t (emit w.project v) (fun
      | .ok _ => At t w.emitted
      | .error _ => fun _ => False) s := by
  have hsubscribers : Triple (feedContract inv asks apart) t (At t w) (.subscribers w.project) fun
      | .ok qs => At t { w with targets := some qs }
      | .error _ => fun _ => False := by
    refine triple_of_exec fun s hshape hinv ⟨hwork, howns⟩ _ _ _ => ⟨?_, ?_, fun qs hqs q hq => ?_⟩
    · subst hwork
      exact hr.subs hshape hinv htargets
    · exact setAt_self.trans (by rw [hwork])
    · cases hqs
      exact hshape.subs w.project q hq
  have hemitted : Triple (feedContract inv asks apart) t (At t { w with targets := some [] })
      Act.emitted fun
        | .ok _ => At t w.emitted
        | .error _ => fun _ => False := by
    refine triple_of_exec fun s hshape hinv ⟨hwork, howns⟩ _ _ _ => ⟨?_, ?_, fun qs hqs => ?_⟩
    · exact hr.emitted hshape hinv (by rw [hwork])
    · exact setAt_self.trans (by rw [hwork]; rfl)
    · cases hqs
  refine Safe.seq (hsubscribers.safe at_stable h) (fun qs s hs => ?_) fun _ _ hs => hs.elim
  refine Safe.seq (hr.safe_putAll hhead hs) (fun _ s hs => ?_) fun _ _ hs => hs.elim
  exact hemitted.safe at_stable hs

theorem safe_emitAll (hr : Renders inv asks apart pre) {vs : List (TaskView β)} {pid : String}
    (hproject : w.project = pid) (hpending : w.pending = vs) (htargets : w.targets = none)
    (h : At t w s) :
    Safe (feedContract inv asks apart) t (emitAll pid vs)
      (fun r s => r = .ok () ∧ s.work t = w.emittedAll vs) s := by
  induction vs generalizing s w with
  | nil => exact ⟨rfl, h.work⟩
  | cons v vs ih =>
    subst hproject
    refine Safe.seq (hr.safe_emit (by rw [hpending]; rfl) htargets h) (fun _ s hs => ?_)
      fun _ _ hs => hs.elim
    exact ih rfl (by rw [Work.emitted, hpending]; rfl) rfl hs

/-- `render` applies the views and emits them, and does not raise. -/
theorem safe_render (hr : Renders inv asks apart pre) {snapshot : ProjectSnapshot β} {pid : String}
    (hpid : snapshot.project? = some pid) (hw : s.work t = w) (hfree : w.Free)
    (hpre : pre w pid snapshot.tasks) :
    Safe (feedContract inv asks apart) t (render snapshot)
      (fun r s => r = .ok () ∧
        s.work t = (w.applied pid snapshot.tasks).emittedAll snapshot.tasks) s := by
  have happly : Triple (feedContract inv asks apart) t (fun s => s.work t = w)
      (Act.applyViews pid snapshot.tasks : Act β Unit) fun
        | .ok _ => At t (w.applied pid snapshot.tasks)
        | .error _ => fun _ => False := by
    refine triple_of_exec fun s hshape hinv hwork _ hasks hapart => ⟨?_, ?_, fun qs hqs => ?_⟩
    · subst hwork
      exact hr.apply hshape hinv hfree hpre hasks hapart
    · exact setAt_self.trans (by rw [hwork])
    · cases hqs
  unfold render
  rw [hpid]
  refine Safe.seq (happly.safe (work_stable (R := fun w' => w' = w)) hw) (fun _ s hs => ?_)
    fun _ _ hs => hs.elim
  exact hr.safe_emitAll rfl rfl rfl hs

end Renders

theorem Work.emittedAll_free {w : Work β} {vs : List (TaskView β)} (hpending : w.pending = vs)
    (htargets : w.targets = none) : (w.emittedAll vs).Free := by
  induction vs generalizing w with
  | nil => exact ⟨hpending, htargets⟩
  | cons v vs ih => exact ih (by rw [Work.emitted, hpending]; rfl) rfl

/-- One task of the project `p`, from which runs can start. -/
def oneRow : Dict TaskId (Row Nat) := Dict.set Table.empty "t" ⟨"p", 0⟩

end WebSink

end Flotilla
