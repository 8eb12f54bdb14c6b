import KerSorMonitor.Flotilla.FeedRuns
import KerSorMonitor.Lib.Ordered

/-!
# Deleted tasks on the feed

`DELETE` deletes the row of a task and then renders a tombstone, which removes the entry of the
task from the latest map; nothing remembers it. A publisher that has read the row before renders
what it has read. So a deleted task stays deleted if, when its tombstone is applied, no other thread
holds a row of it that it has still to render.

Result: `deleted_stays_deleted`; `deleted_comes_back` is a run in which a publisher that has read the
row renders it after the tombstone.
-/

namespace Flotilla

namespace WebSink

open Threads Keyed

variable {β : Type}

/-! ## The invariant -/

/-- The task has a row in the project. -/
def Feed.Has (s : Feed β) (pid : String) (tid : TaskId) : Prop :=
  (Dict.get? s.rows tid).map Row.projectId = some pid

instance (s : Feed β) (pid : String) (tid : TaskId) : Decidable (s.Has pid tid) :=
  inferInstanceAs (Decidable (_ = _))

/-- The last that the stream was given of the task, if anything, is a tombstone. -/
def Queue.Buried (k : Queue β) (tid : TaskId) : Prop :=
  ∀ v, lastOf tid k.sent = some v → v.deleted = true

/-- The thread has a tombstone of the task to put into the queue. -/
def Work.Tolls (w : Work β) (pid : String) (tid : TaskId) (q : QueueId) : Prop :=
  w.project = pid ∧ ∃ v, w.pending = [v] ∧ v.id = tid ∧ v.deleted = true ∧
    ∀ qs, w.targets = some qs → q ∈ qs

/-- The task is gone from the feed of the project, and nobody will bring it back. -/
structure Gone (s : Feed β) (pid : String) (tid : TaskId) : Prop where
  unheld : ∀ t, (pid, tid) ∉ (s.work t).held
  entry : Dict.get? (s.latest pid) tid = none
  buried : ∀ q ∈ s.subs pid, (s.queues q).Buried tid ∨ ∃ t, (s.work t).Tolls pid tid q

/-- Views are rendered one at a time, and a thread that renders one that is no tombstone holds the
task. -/
def Work.Single (w : Work β) : Prop :=
  w.pending = [] ∨ ∃ v, w.pending = [v] ∧ (v.deleted = false → (w.project, v.id) ∈ w.held)

structure GraveInv (s : Feed β) : Prop where
  single : ∀ t, (s.work t).Single
  gone : ∀ pid tid, ¬ s.Has pid tid → Gone s pid tid ∨ ∃ t, (pid, tid) ∈ (s.work t).owed

/-! ## The contract -/

/-- `DELETE` deletes a row of the project that its tombstone names. -/
def OwnProject {α : Type} (a : Act β α) (s : Feed β) : Prop :=
  match a with
  | .deleteTask tid pid => ∀ row, Dict.get? s.rows tid = some row → row.projectId = pid
  | _ => True

/-- A tombstone of a task that has no row is applied only when no other thread holds the task. -/
def Unheld {α : Type} (a : Act β α) (s : Feed β) (w : Work β) : Prop :=
  match a with
  | .applyViews pid vs => ∀ v ∈ vs, v.deleted = true → ¬ s.Has pid v.id → (pid, v.id) ∉ w.held
  | _ => True

instance {α : Type} (a : Act β α) (s : Feed β) : Decidable (OwnProject a s) :=
  match a with
  | .deleteTask tid pid =>
    decidable_of_iff ((Dict.get? s.rows tid).all fun row => row.projectId = pid) (by
      cases h : Dict.get? s.rows tid <;> simp [OwnProject, h])
  | .latest _ | .subscribe _ | .unsubscribe _ _ | .applyViews _ _ | .subscribers _ | .putNowait _ _
  | .getNowait _ | .emitted | .getTask _ _ | .createTasks _ _ | .setBody _ _ =>
    inferInstanceAs (Decidable True)

instance {α : Type} (a : Act β α) (s : Feed β) (w : Work β) : Decidable (Unheld a s w) :=
  match a with
  | .applyViews pid vs => inferInstanceAs (Decidable
      (∀ v ∈ vs, v.deleted = true → ¬ s.Has pid v.id → (pid, v.id) ∉ w.held))
  | .latest _ | .subscribe _ | .unsubscribe _ _ | .putNowait _ _ | .subscribers _ | .getNowait _
  | .emitted | .getTask _ _ | .createTasks _ _ | .setBody _ _ | .deleteTask _ _ =>
    inferInstanceAs (Decidable True)

theorem unheld_idle {α : Type} (a : Act β α) (s : Feed β) : Unheld a s .idle := by
  cases a with
  | applyViews pid vs => exact fun _ _ _ _ => List.not_mem_nil
  | _ => trivial

abbrev graveContract : Contract (feed (β := β)) := feedContract GraveInv OwnProject Unheld

/-- What a thread knows when it applies a view: it holds the task, or applies a tombstone and holds
nothing. -/
def OneView (w : Work β) (pid : String) (vs : List (TaskView β)) : Prop :=
  ∃ v, vs = [v] ∧ (v.deleted = false → (pid, v.id) ∈ w.held) ∧ (v.deleted = true → w.held = [])

/-! ## What the actions keep -/

/-- What a client sees stays, and at the tasks that have no row nobody gets hold of the task or
forgets a tombstone. -/
theorem GraveInv.of_unseen {s s' : Feed β} (h : GraveInv s) (hs : Unseen s s')
    (hheld : ∀ t, (s.work t).held ⊆ (s'.work t).held)
    (hrows : ∀ pid tid, ¬ s'.Has pid tid → (¬ s.Has pid tid ∧
      (∀ t, (pid, tid) ∈ (s'.work t).held → (pid, tid) ∈ (s.work t).held) ∧
      ∀ t, (pid, tid) ∈ (s.work t).owed → (pid, tid) ∈ (s'.work t).owed) ∨
      ∃ t, (pid, tid) ∈ (s'.work t).owed) : GraveInv s' := by
  refine ⟨fun t => ?_, fun pid tid hrow => ?_⟩
  · rcases h.single t with hnil | ⟨v, hv, hlive⟩
    · exact Or.inl ((hs.pending t).trans hnil)
    · refine Or.inr ⟨v, (hs.pending t).trans hv, fun hkept => hheld t ?_⟩
      rw [hs.project]
      exact hlive hkept
  · rcases hrows pid tid hrow with ⟨hrow', hheld', howed⟩ | howed
    · rcases h.gone pid tid hrow' with hgone | ⟨t, ht⟩
      · refine Or.inl ⟨fun t ht => hgone.unheld t (hheld' t ht), by rw [hs.latest, hgone.entry],
          fun q hq => ?_⟩
        rcases hgone.buried q (hs.subs pid hq) with hburied | ⟨t, hp, v, hv, hid, hdeleted, hwait⟩
        · exact Or.inl fun v hv => hburied v (by rwa [hs.sent] at hv)
        · refine Or.inr ⟨t, (hs.project t).trans hp, v, (hs.pending t).trans hv, hid, hdeleted, ?_⟩
          rwa [hs.targets]
      · exact Or.inr ⟨t, howed t ht⟩
    · exact Or.inr howed

theorem has_insertRows {s : Feed β} {t : ThreadId} {pid : String} {new : List (TaskId × β)}
    (hfresh : s.Fresh new) {pid' : String} {tid : TaskId} (h : ¬ (s.insertRows t pid new).Has pid' tid) :
    ¬ s.Has pid' tid ∧ (pid', tid) ∉ new.map fun kv => (pid, kv.1) := by
  have hget : Dict.get? (s.insertRows t pid new).rows tid =
      ((new.reverse.find? fun kv => kv.1 = tid).map fun kv => ⟨pid, kv.2⟩).or (Dict.get? s.rows tid) :=
    Dict.get?_foldl_set Prod.fst (fun kv : TaskId × β => (⟨pid, kv.2⟩ : Row β)) new s.rows tid
  unfold Feed.Has at h ⊢
  rw [hget] at h
  cases hfind : new.reverse.find? fun kv => kv.1 = tid with
  | some kv =>
    have hmem : kv ∈ new := List.mem_reverse.mp (List.mem_of_find?_eq_some hfind)
    have hkey : kv.1 = tid := by simpa using List.find?_some hfind
    rw [hfind] at h
    refine ⟨?_, fun hin => ?_⟩
    · rw [← hkey, hfresh.2 kv hmem]
      simp
    · obtain ⟨kv', -, heq⟩ := List.mem_map.mp hin
      exact h (congrArg some (Prod.ext_iff.mp heq).1)
  | none =>
    rw [hfind] at h
    refine ⟨h, fun hin => ?_⟩
    obtain ⟨kv', hkv', heq⟩ := List.mem_map.mp hin
    have hnone := List.find?_eq_none.mp hfind kv' (List.mem_reverse.mpr hkv')
    exact hnone (by simpa using (Prod.ext_iff.mp heq).2)

/-- The actions that no client sees. -/
theorem GraveInv.idle {s : Feed β} (h : GraveInv s) {α : Type} {a : Act β α} (ha : Idle a)
    (t : ThreadId) (hasks : OwnProject a s) : GraveInv (exec t a s).2 := by
  have hunseen := unseen_exec ha t s
  -- only the work of the thread itself changes
  have hothers : ∀ t', t' ≠ t → (exec t a s).2.work t' = s.work t' := fun t' hne =>
    exec_work_of_ne hne a s
  have hsplit : ∀ {R : Work β → Work β → Prop}, (∀ w, R w w) → R (s.work t) ((exec t a s).2.work t) →
      ∀ t', R (s.work t') ((exec t a s).2.work t') := by
    intro R hrefl hself t'
    by_cases heq : t' = t
    · rw [heq]
      exact hself
    · rw [hothers t' heq]
      exact hrefl _
  have hkept : (∀ pid tid, (exec t a s).2.Has pid tid ↔ s.Has pid tid) →
      (exec t a s).2.work t = s.work t → GraveInv (exec t a s).2 := by
    intro hrows hwork
    refine h.of_unseen hunseen (hsplit (R := fun w w' => w.held ⊆ w'.held) (fun _ _ hk => hk) ?_)
      fun pid tid hrow => Or.inl ⟨fun hhas => hrow ((hrows pid tid).mpr hhas), ?_, ?_⟩
    · rw [hwork]
      exact fun _ hk => hk
    · exact hsplit (R := fun w w' => (pid, tid) ∈ w'.held → (pid, tid) ∈ w.held) (fun _ hk => hk)
        (by rw [hwork]; exact id)
    · exact hsplit (R := fun w w' => (pid, tid) ∈ w.owed → (pid, tid) ∈ w'.owed) (fun _ hk => hk)
        (by rw [hwork]; exact id)
  cases a with
  | unsubscribe pid q => exact hkept (fun _ _ => Iff.rfl) rfl
  | getNowait q =>
    refine hkept (fun _ _ => ?_) ?_
    · rw [exec]
      split <;> exact Iff.rfl
    · rw [exec]
      split <;> rfl
  | setBody tid body =>
    refine hkept (fun pid' tid' => ?_) ?_
    · rw [exec]
      split
      · next row hrow =>
        unfold Feed.Has
        rw [Dict.get?_set]
        split
        · next heq =>
          subst heq
          rw [hrow]
          exact Iff.rfl
        · exact Iff.rfl
      · exact Iff.rfl
    · rw [exec]
      split <;> rfl
  | getTask tid publishes =>
    by_cases hread : ∃ row, Dict.get? s.rows tid = some row ∧ publishes = true
    · obtain ⟨row, hrow, rfl⟩ := hread
      have hwork : (exec t (Act.getTask tid true) s).2.work t =
          { s.work t with held := (row.projectId, tid) :: (s.work t).held } := by
        change (s.noteRead t tid true).work t = _
        rw [Feed.noteRead, hrow]
        exact setAt_self
      have hrows : (exec t (Act.getTask tid true) s).2.rows = s.rows := by
        change (s.noteRead t tid true).rows = _
        rw [Feed.noteRead, hrow]
        rfl
      refine h.of_unseen hunseen (hsplit (R := fun w w' => w.held ⊆ w'.held) (fun _ _ hk => hk) ?_)
        fun pid' tid' hnone => Or.inl ⟨?_, ?_, ?_⟩
      · rw [hwork]
        exact List.subset_cons_self _ _
      · unfold Feed.Has at hnone
        rwa [hrows] at hnone
      · refine hsplit (R := fun w w' => (pid', tid') ∈ w'.held → (pid', tid') ∈ w.held)
          (fun _ hk => hk) fun hk => ?_
        rw [hwork] at hk
        refine (List.mem_cons.mp hk).resolve_left fun heq => hnone ?_
        obtain ⟨rfl, rfl⟩ := Prod.mk.inj heq
        unfold Feed.Has
        rw [hrows, hrow]
        rfl
      · exact hsplit (R := fun w w' => (pid', tid') ∈ w.owed → (pid', tid') ∈ w'.owed)
          (fun _ hk => hk) (by rw [hwork]; exact id)
    · have hsame : s.noteRead t tid publishes = s := by
        unfold Feed.noteRead
        split
        · next row hrow => exact if_neg fun hp => hread ⟨row, hrow, hp⟩
        · rfl
      change GraveInv (s.noteRead t tid publishes)
      rw [hsame]
      exact h
  | createTasks pid new =>
    by_cases hfresh : s.Fresh new
    · have hexec : (exec t (Act.createTasks pid new) s).2 = s.insertRows t pid new := by
        rw [exec, if_pos hfresh]
      rw [hexec] at hunseen hsplit ⊢
      have hwork : (s.insertRows t pid new).work t = { s.work t with
          held := new.map (fun kv => (pid, kv.1)) ++ (s.work t).held } := setAt_self
      refine h.of_unseen hunseen (hsplit (R := fun w w' => w.held ⊆ w'.held) (fun _ _ hk => hk) ?_)
        fun pid' tid' hnone => Or.inl ⟨(has_insertRows hfresh hnone).1, ?_, ?_⟩
      · rw [hwork]
        exact List.subset_append_right _ _
      · refine hsplit (R := fun w w' => (pid', tid') ∈ w'.held → (pid', tid') ∈ w.held)
          (fun _ hk => hk) fun hk => ?_
        rw [hwork] at hk
        exact (List.mem_append.mp hk).resolve_left (has_insertRows hfresh hnone).2
      · exact hsplit (R := fun w w' => (pid', tid') ∈ w.owed → (pid', tid') ∈ w'.owed)
          (fun _ hk => hk) (by rw [hwork]; exact id)
    · have hexec : (exec t (Act.createTasks pid new) s).2 = s := by rw [exec, if_neg hfresh]
      rw [hexec]
      exact h
  | deleteTask tid pid =>
    have hwork : (s.deleteRow t pid tid).work t =
        { s.work t with owed := (pid, tid) :: (s.work t).owed } := setAt_self
    have hrows : (s.deleteRow t pid tid).rows = Dict.pop s.rows tid := rfl
    refine h.of_unseen hunseen (hsplit (R := fun w w' => w.held ⊆ w'.held) (fun _ _ hk => hk) ?_)
      fun pid' tid' hnone => ?_
    · change (s.work t).held ⊆ ((s.deleteRow t pid tid).work t).held
      rw [hwork]
      exact fun _ hk => hk
    · by_cases heq : (pid', tid') = (pid, tid)
      · refine Or.inr ⟨t, ?_⟩
        change (pid', tid') ∈ ((s.deleteRow t pid tid).work t).owed
        rw [hwork, heq]
        exact List.mem_cons_self
      · refine Or.inl ⟨fun hhas => ?_, ?_, ?_⟩
        · by_cases htid : tid' = tid
          · subst htid
            obtain ⟨row, hrow, hpid⟩ := Option.map_eq_some_iff.mp hhas
            exact heq (by rw [← hpid, hasks row hrow])
          · refine hnone ?_
            change (Dict.get? (Dict.pop s.rows tid) tid').map Row.projectId = some pid'
            rw [Dict.get?_pop, if_neg htid]
            exact hhas
        · refine hsplit (R := fun w w' => (pid', tid') ∈ w'.held → (pid', tid') ∈ w.held)
            (fun _ hk => hk) fun hk => ?_
          change (pid', tid') ∈ ((s.deleteRow t pid tid).work t).held at hk
          rwa [hwork] at hk
        · refine hsplit (R := fun w w' => (pid', tid') ∈ w.owed → (pid', tid') ∈ w'.owed)
            (fun _ hk => hk) fun hk => ?_
          change (pid', tid') ∈ ((s.deleteRow t pid tid).work t).owed
          rw [hwork]
          exact List.mem_cons_of_mem _ hk
  | latest pid => exact ha.elim
  | subscribe pid => exact ha.elim
  | applyViews pid vs => exact ha.elim
  | subscribers pid => exact ha.elim
  | putNowait q v => exact ha.elim
  | emitted => exact ha.elim

/-! ### Rendering -/

theorem entry_applyAll_of_ne {s : Feed β} {t : ThreadId} {pid pid' : String} {v : TaskView β}
    {tid : TaskId} (hne : (pid', tid) ≠ (pid, v.id)) :
    Dict.get? ((s.applyAll t pid [v]).latest pid') tid = Dict.get? (s.latest pid') tid := by
  by_cases hpid : pid' = pid
  · subst hpid
    have hid : tid ≠ v.id := fun heq => hne (by rw [heq])
    have hlatest : (s.applyAll t pid' [v]).latest pid' = applyView (s.latest pid') v := setAt_self
    rw [hlatest, applyView]
    split
    · rfl
    split
    · rw [Dict.get?_pop, if_neg hid]
    · rw [Dict.get?_set, if_neg hid]
  · have hlatest : (s.applyAll t pid [v]).latest pid' = s.latest pid' := setAt_of_ne hpid
    rw [hlatest]

theorem entry_applyAll_of_deleted {s : Feed β} {t : ThreadId} {pid : String} {v : TaskView β}
    (hshape : s.Shape) (hdeleted : v.deleted = true) :
    Dict.get? ((s.applyAll t pid [v]).latest pid) v.id = none := by
  have hlatest : (s.applyAll t pid [v]).latest pid = applyView (s.latest pid) v := setAt_self
  rw [hlatest, applyView]
  split
  · next hid =>
    cases hget : Dict.get? (s.latest pid) v.id with
    | none => rfl
    | some w => exact absurd hid (hshape.keyed pid v.id w hget).1
  · rw [Dict.get?_pop, if_pos rfl]

/-- One view is applied. -/
theorem GraveInv.applyAll {s : Feed β} {t : ThreadId} {pid : String} {v : TaskView β}
    (hshape : s.Shape) (h : GraveInv s) (hfree : (s.work t).Free)
    (hlive : v.deleted = false → (pid, v.id) ∈ (s.work t).held)
    (hdead : v.deleted = true → (s.work t).held = [])
    (hapart : ∀ t', t' ≠ t → Unheld (.applyViews pid [v]) s (s.work t')) :
    GraveInv (s.applyAll t pid [v]) := by
  have hself : (s.applyAll t pid [v]).work t = (s.work t).applied pid [v] := setAt_self
  have hother : ∀ t', t' ≠ t → (s.applyAll t pid [v]).work t' = s.work t' := fun t' hne =>
    setAt_of_ne hne
  have hheld : ∀ t', ((s.applyAll t pid [v]).work t').held = (s.work t').held := by
    intro t'
    by_cases heq : t' = t
    · subst heq
      rw [hself]
      rfl
    · rw [hother t' heq]
  refine ⟨fun t' => ?_, fun pid' tid hrow => ?_⟩
  · by_cases heq : t' = t
    · subst heq
      rw [hself]
      exact Or.inr ⟨v, rfl, hlive⟩
    · rw [hother t' heq]
      exact h.single t'
  by_cases hbury : v.deleted = true ∧ (pid', tid) = (pid, v.id)
  · -- the tombstone of a task that has no row
    obtain ⟨hdeleted, heq⟩ := hbury
    obtain ⟨rfl, rfl⟩ := Prod.mk.inj heq
    refine Or.inl ⟨fun t' ht' => ?_, entry_applyAll_of_deleted hshape hdeleted, fun q _ =>
      Or.inr ⟨t, ?_⟩⟩
    · rw [hheld] at ht'
      by_cases heq : t' = t
      · rw [heq, hdead hdeleted] at ht'
        exact absurd ht' List.not_mem_nil
      · exact hapart t' heq v (List.mem_singleton.mpr rfl) hdeleted hrow ht'
    · rw [hself]
      exact ⟨rfl, v, rfl, rfl, hdeleted, fun _ hqs => (by cases hqs)⟩
  · rcases h.gone pid' tid hrow with hgone | ⟨t', ht'⟩
    · have hne : (pid', tid) ≠ (pid, v.id) := by
        intro heq
        cases hdeleted : v.deleted with
        | true => exact hbury ⟨hdeleted, heq⟩
        | false => exact hgone.unheld t (heq ▸ hlive hdeleted)
      refine Or.inl ⟨fun t' ht' => hgone.unheld t' (by rwa [hheld] at ht'), ?_, fun q hq => ?_⟩
      · rw [entry_applyAll_of_ne hne]
        exact hgone.entry
      · rcases hgone.buried q hq with hburied | ⟨t', ht'⟩
        · exact Or.inl hburied
        · refine Or.inr ⟨t', ?_⟩
          have hne' : t' ≠ t := by
            rintro rfl
            obtain ⟨-, w, hw, -⟩ := ht'
            rw [hfree.1] at hw
            cases hw
          rwa [hother t' hne']
    · refine Or.inr ⟨t', ?_⟩
      by_cases heq : t' = t
      · subst heq
        rw [hself]
        refine List.mem_filter.mpr ⟨ht', ?_⟩
        simp only [List.any_cons, List.any_nil, Bool.or_false, Bool.not_eq_true',
          Bool.and_eq_false_iff, decide_eq_false_iff_not]
        by_cases hid : (pid, v.id) = (pid', tid)
        · right
          exact Bool.eq_false_iff.mpr fun hdeleted => hbury ⟨hdeleted, hid.symm⟩
        · exact Or.inl hid
      · rwa [hother t' heq]

/-- The view is put into one queue. -/
theorem GraveInv.put {s : Feed β} {t : ThreadId} {q : QueueId} {qs : List QueueId} {v : TaskView β}
    (hshape : s.Shape) (h : GraveInv s) (hhead : (s.work t).pending.head? = some v)
    (htargets : (s.work t).targets = some (q :: qs)) (howns : s.Owns (s.work t).project q) :
    GraveInv (s.put t q v) := by
  have hother : ∀ t', t' ≠ t → (s.put t q v).work t' = s.work t' := fun t' hne => setAt_of_ne hne
  have hself : (s.put t q v).work t = { s.work t with targets := some qs } := by
    simp [Feed.put, Feed.setQueue, htargets]
  have hqueue : (s.put t q v).queues q = { s.queues q with
      items := (s.queues q).items ++ [v], log := (s.queues q).log ++ [v] } := setAt_self
  have hqueues : ∀ q', q' ≠ q → (s.put t q v).queues q' = s.queues q' := fun q' hne =>
    setAt_of_ne hne
  have hkept : ∀ t', ((s.put t q v).work t').held = (s.work t').held ∧
      ((s.put t q v).work t').owed = (s.work t').owed ∧
      (((s.work t').Single) → ((s.put t q v).work t').Single) := by
    intro t'
    by_cases heq : t' = t
    · subst heq
      rw [hself]
      exact ⟨rfl, rfl, id⟩
    · rw [hother t' heq]
      exact ⟨rfl, rfl, id⟩
  refine ⟨fun t' => (hkept t').2.2 (h.single t'), fun pid tid hrow => ?_⟩
  rcases h.gone pid tid hrow with hgone | ⟨t', ht'⟩
  · refine Or.inl ⟨fun t' ht' => hgone.unheld t' ((hkept t').1 ▸ ht'), hgone.entry, fun q' hq' => ?_⟩
    obtain ⟨v', hv', hheld⟩ : ∃ v', (s.work t).pending = [v'] ∧
        (v'.deleted = false → ((s.work t).project, v'.id) ∈ (s.work t).held) := by
      refine (h.single t).resolve_left fun hnil => ?_
      rw [hnil] at hhead
      cases hhead
    obtain rfl : v' = v := by
      rw [hv'] at hhead
      exact Option.some.inj hhead
    by_cases hq : q' = q
    · subst hq
      obtain rfl : pid = (s.work t).project := (hshape.subs pid q' hq').2.symm.trans howns.2
      have hsent : ((s.put t q' v').queues q').sent = (s.queues q').sent ++ [v'] := by
        rw [hqueue, Queue.sent, Queue.sent, List.append_assoc]
      by_cases hid : v'.id = tid
      · left
        intro w hw
        rw [hsent, lastOf_append, lastOf_singleton, if_pos hid] at hw
        obtain rfl : v' = w := Option.some.inj hw
        by_contra hdeleted
        refine hgone.unheld t ?_
        rw [← hid]
        exact hheld (Bool.eq_false_iff.mpr hdeleted)
      · rcases hgone.buried q' hq' with hburied | ⟨t', ht'⟩
        · left
          intro w hw
          rw [hsent, lastOf_append, lastOf_singleton, if_neg hid] at hw
          exact hburied w hw
        · refine Or.inr ⟨t', ?_⟩
          have hne : t' ≠ t := by
            rintro rfl
            obtain ⟨-, w, hw, hwid, -⟩ := ht'
            rw [hv'] at hw
            cases hw
            exact hid hwid
          rwa [hother t' hne]
    · rcases hgone.buried q' hq' with hburied | ⟨t', hp, w, hw, hwid, hdeleted, hwait⟩
      · left
        rwa [hqueues q' hq]
      · refine Or.inr ⟨t', ?_⟩
        by_cases heq : t' = t
        · subst heq
          rw [hself]
          refine ⟨hp, w, hw, hwid, hdeleted, fun qs' hqs' => ?_⟩
          cases hqs'
          exact (List.mem_cons.mp (hwait _ htargets)).resolve_left hq
        · rw [hother t' heq]
          exact ⟨hp, w, hw, hwid, hdeleted, hwait⟩
  · exact Or.inr ⟨t', (hkept t').2.1 ▸ ht'⟩

/-- A thread finishes its views, or learns whom it emits to. -/
theorem GraveInv.of_work {s : Feed β} {t : ThreadId} {f : Work β → Work β} (h : GraveInv s)
    (hsingle : (f (s.work t)).Single) (hheld : (f (s.work t)).held ⊆ (s.work t).held)
    (howed : (s.work t).owed ⊆ (f (s.work t)).owed)
    (htolls : ∀ pid tid q, q ∈ s.subs pid → (s.work t).Tolls pid tid q →
      (f (s.work t)).Tolls pid tid q) : GraveInv (s.setWork t f) := by
  have hsplit : ∀ {R : Work β → Work β → Prop}, (∀ w, R w w) → R (s.work t) (f (s.work t)) →
      ∀ t', R (s.work t') ((s.setWork t f).work t') := by
    intro R hrefl hself t'
    by_cases heq : t' = t
    · rw [heq, setWork_work_self]
      exact hself
    · rw [setWork_work_of_ne heq]
      exact hrefl _
  refine ⟨fun t' => hsplit (R := fun w w' => w.Single → w'.Single) (fun _ => id) (fun _ => hsingle)
    t' (h.single t'), fun pid tid hrow => ?_⟩
  rcases h.gone pid tid hrow with hgone | ⟨t', ht'⟩
  · refine Or.inl ⟨fun t' ht' => hgone.unheld t' (hsplit (R := fun w w' => w'.held ⊆ w.held)
      (fun _ _ hk => hk) hheld t' ht'), hgone.entry, fun q hq => ?_⟩
    refine (hgone.buried q hq).imp_right fun ⟨t', ht'⟩ => ⟨t', ?_⟩
    exact hsplit (R := fun w w' => w.Tolls pid tid q → w'.Tolls pid tid q) (fun _ => id)
      (htolls pid tid q hq) t' ht'
  · exact Or.inr ⟨t', hsplit (R := fun w w' => w.owed ⊆ w'.owed) (fun _ _ hk => hk) howed t' ht'⟩

theorem grave_renders : Renders (β := β) GraveInv OwnProject Unheld OneView where
  apply hshape hinv hfree hpre _ hapart := by
    obtain ⟨v, rfl, hlive, hdead⟩ := hpre
    exact hinv.applyAll hshape hfree hlive hdead hapart
  subs {s t} _ hinv htargets := by
    refine hinv.of_work (hinv.single t) (fun _ hk => hk) (fun _ hk => hk) ?_
    rintro pid tid q hq ⟨rfl, v, hv, hid, hdeleted, -⟩
    refine ⟨rfl, v, hv, hid, hdeleted, fun qs hqs => ?_⟩
    cases hqs
    exact hq
  put hshape hinv hhead htargets howns := by
    obtain ⟨qs, hqs⟩ := htargets
    exact hinv.put hshape hhead hqs howns
  emitted {s t} _ hinv htargets := by
    refine hinv.of_work (Or.inl ?_) ?_ (fun _ hk => hk) ?_
    · rcases hinv.single t with hnil | ⟨v, hv, -⟩
      · rw [Work.emitted, hnil]
        rfl
      · rw [Work.emitted, hv]
        rfl
    · unfold Work.emitted
      split
      · exact List.erase_subset
      · exact fun _ hk => hk
    · rintro pid tid q - ⟨-, v, -, -, -, hwait⟩
      exact absurd (hwait [] htargets) List.not_mem_nil

/-! ### Streams -/

theorem GraveInv.openQueue {s : Feed β} {t : ThreadId} {pid : String} (hshape : s.Shape)
    (h : GraveInv s) : GraveInv (s.openQueue t pid) := by
  have hqueues : ∀ q, q < s.nextQueue → (s.openQueue t pid).queues q = s.queues q := fun q hlt =>
    setAt_of_ne (Nat.ne_of_lt hlt)
  have hnew : (s.openQueue t pid).queues s.nextQueue = ⟨[], pid, [], none⟩ := setAt_self
  have hkept : ∀ {R : Work β → Work β → Prop}, (∀ w, R w w) →
      R (s.work t) { s.work t with opened := some s.nextQueue } →
      ∀ t', R (s.work t') ((s.openQueue t pid).work t') := by
    intro R hrefl hself t'
    by_cases heq : t' = t
    · subst heq
      exact (congrArg (R (s.work t')) (setAt_self (f := s.work))).mpr hself
    · exact (congrArg (R (s.work t')) (setAt_of_ne (f := s.work) heq)).mpr (hrefl _)
  refine ⟨fun t' => hkept (R := fun w w' => w.Single → w'.Single) (fun _ => id) id t' (h.single t'),
    fun pid' tid hrow => ?_⟩
  rcases h.gone pid' tid hrow with hgone | ⟨t', ht'⟩
  · refine Or.inl ⟨fun t' ht' => hgone.unheld t' (hkept (R := fun w w' => w'.held ⊆ w.held)
      (fun _ _ hk => hk) (fun _ hk => hk) t' ht'), hgone.entry, fun q hq => ?_⟩
    rcases exec_subs (t := t) (a := .subscribe pid) hq with hq | ⟨rfl, -⟩
    · rcases hgone.buried q hq with hburied | ⟨t', ht'⟩
      · left
        rwa [hqueues q (hshape.subs pid' q hq).1]
      · exact Or.inr ⟨t', hkept (R := fun w w' => w.Tolls pid' tid q → w'.Tolls pid' tid q)
          (fun _ => id) id t' ht'⟩
    · left
      rw [hnew]
      exact fun v hv => (by cases hv)
  · exact Or.inr ⟨t', hkept (R := fun w w' => w.owed ⊆ w'.owed) (fun _ _ hk => hk)
      (fun _ hk => hk) t' ht'⟩

theorem GraveInv.takeLatest {s : Feed β} {t : ThreadId} {pid : String} {q : QueueId}
    (hshape : s.Shape) (h : GraveInv s) (hopened : (s.work t).opened = some q)
    (howns : s.Owns pid q) :
    GraveInv (s.takeLatest t ((s.latest pid).rows.map Prod.snd)) := by
  rw [takeLatest_of_opened hopened]
  refine ⟨h.single, fun pid' tid hrow => (h.gone pid' tid hrow).imp_left fun hgone =>
    ⟨hgone.unheld, hgone.entry, fun q' hq' => ?_⟩⟩
  refine (hgone.buried q' hq').imp_left fun hburied => ?_
  by_cases heq : q' = q
  · subst heq
    obtain rfl : pid' = pid := (hshape.subs pid' q' hq').2.symm.trans howns.2
    rw [setQueue_queues_self]
    intro v hv
    have hvalues := lastOf_values (fun k v hget => (hshape.keyed pid' k v hget).2.1) tid
    rw [Queue.sent, lastOf_append, Option.getD_some, hvalues, hgone.entry, Option.or_none] at hv
    refine hburied v ?_
    rw [Queue.sent, lastOf_append, hv]
    rfl
  · rwa [setQueue_queues_of_ne heq]

/-! ## The programs -/

section Programs

variable {t : ThreadId} {s : Feed β}

/-- The thread has nothing to emit, owes no tombstone and holds these tasks. -/
structure Work.Rests (w : Work β) (held : List (String × TaskId)) : Prop where
  free : w.Free
  owed : w.owed = []
  held : w.held = held

theorem Work.rests_idle : (Work.idle : Work β).Rests [] := ⟨⟨rfl, rfl⟩, rfl, rfl⟩

theorem rests_stable {held : List (String × TaskId)} :
    Stable (graveContract (β := β)) t fun s => (s.work t).Rests held :=
  work_stable (R := fun w => w.Rests held)

/-- The actions that no client sees and that leave the work of the thread alone. -/
def Mute : {α : Type} → Act β α → Prop
  | _, .unsubscribe _ _ => True
  | _, .getNowait _ => True
  | _, .getTask _ publishes => publishes = false
  | _, .setBody _ _ => True
  | _, _ => False

theorem mute_exec {α : Type} {a : Act β α} (ha : Mute a) :
    Idle a ∧ OwnProject a s ∧ (exec t a s).2.work = s.work := by
  cases a with
  | unsubscribe pid q => exact ⟨trivial, trivial, rfl⟩
  | getNowait q =>
    refine ⟨trivial, trivial, ?_⟩
    rw [exec]
    split <;> rfl
  | getTask tid publishes =>
    cases ha
    refine ⟨trivial, trivial, ?_⟩
    change (s.noteRead t tid false).work = s.work
    unfold Feed.noteRead
    split <;> rfl
  | setBody tid body =>
    refine ⟨trivial, trivial, ?_⟩
    rw [exec]
    split <;> rfl
  | createTasks pid new => exact ha.elim
  | deleteTask tid pid => exact ha.elim
  | latest pid => exact ha.elim
  | subscribe pid => exact ha.elim
  | applyViews pid vs => exact ha.elim
  | subscribers pid => exact ha.elim
  | putNowait q v => exact ha.elim
  | emitted => exact ha.elim

theorem grave_mute {held : List (String × TaskId)} {α : Type} {p : FeedProg β α} (hp : p.All Mute)
    (h : (s.work t).Rests held) :
    Safe graveContract t p (fun _ s => (s.work t).Rests held) s := by
  refine Safe.of_all rests_stable (fun a ha => ?_) hp h
  refine triple_of_exec fun s _ hinv hrests _ hasks _ => ?_
  obtain ⟨hidle, -, hwork⟩ := mute_exec (s := s) (t := t) ha
  refine ⟨hinv.idle hidle t hasks, ?_⟩
  rw [hwork]
  exact hrests

/-- A view of a task that the thread holds, or a tombstone. -/
theorem grave_publishView {w : Work β} {pid : String} {v : TaskView β} (hw : s.work t = w)
    (hfree : w.Free) (hlive : v.deleted = false → (pid, v.id) ∈ w.held ∧ w.owed = [])
    (hdead : v.deleted = true → w.held = [] ∧ w.owed = [(pid, v.id)]) :
    Safe graveContract t (publishView pid v)
      (fun r s => r = .ok () ∧ (s.work t).Rests (w.held.erase (pid, v.id))) s := by
  refine (grave_renders.safe_render rfl hw hfree ⟨v, rfl, fun hv => (hlive hv).1,
    fun hv => (hdead hv).1⟩).mono fun _ s' ⟨hr, hs'⟩ => ⟨hr, ?_⟩
  rw [hs']
  refine ⟨⟨rfl, rfl⟩, ?_, rfl⟩
  change (w.owed.filter fun k => !(List.any [v] fun v => (pid, v.id) = k && v.deleted)) = []
  cases hdeleted : v.deleted with
  | false =>
    rw [(hlive hdeleted).2]
    rfl
  | true =>
    rw [(hdead hdeleted).2]
    simp [hdeleted]

theorem grave_publishTask (tid : TaskId) (h : (s.work t).Rests []) :
    Safe graveContract t (publishTask tid) (fun _ s => (s.work t).Rests []) s := by
  have hread : Triple graveContract t (fun s => (s.work t).Rests [])
      (Act.getTask tid true : Act β _) fun r s => ∃ row : Option (Row β), r = .ok row ∧
        (s.work t).Rests (row.toList.map fun row => (row.projectId, tid)) := by
    refine triple_of_exec fun s _ hinv hrests _ hasks _ =>
      ⟨hinv.idle (a := .getTask tid true) trivial t hasks, Dict.get? s.rows tid, rfl, ?_⟩
    change ((s.noteRead t tid true).work t).Rests _
    unfold Feed.noteRead
    cases hget : Dict.get? s.rows tid with
    | none => exact hrests
    | some row =>
      refine ⟨?_, ?_, ?_⟩
      · simpa [Work.Free] using hrests.free
      · simpa using hrests.owed
      · simpa using hrests.held
  refine Safe.seq (hread.safe rests_stable h) (fun row s hs => ?_)
    fun _ _ ⟨_, hr, _⟩ => (by cases hr)
  obtain ⟨row', hr, hrests⟩ := hs
  cases hr
  cases row with
  | none => exact hrests
  | some row =>
    refine (grave_publishView rfl hrests.free (fun _ => ⟨?_, hrests.owed⟩)
      fun hv => (by cases hv)).mono fun _ s' ⟨_, hs'⟩ => ?_
    · rw [hrests.held]
      exact List.mem_singleton.mpr rfl
    · rw [hrests.held] at hs'
      simpa [buildTaskView] using hs'

theorem grave_publishRows {pid : String} {rows : List (TaskId × β)}
    (h : (s.work t).Rests (rows.map fun kv => (pid, kv.1))) :
    Safe graveContract t (publishRows pid rows) (fun _ s => (s.work t).Rests []) s := by
  induction rows generalizing s with
  | nil => exact h
  | cons kv rows ih =>
    have hview : Safe graveContract t
        (publishView pid (buildTaskView kv.1 ⟨pid, kv.2⟩ false))
        (fun r s => r = .ok () ∧ (s.work t).Rests (rows.map fun kv => (pid, kv.1))) s := by
      refine (grave_publishView rfl h.free (fun _ => ⟨?_, h.owed⟩) fun hv => (by cases hv)).mono
        fun _ s' ⟨hr, hs'⟩ => ⟨hr, ?_⟩
      · rw [h.held]
        exact List.mem_cons_self
      · rw [h.held] at hs'
        simpa [buildTaskView] using hs'
    exact Safe.seq hview (fun _ s hs => ih hs.2) fun _ _ hs => (by cases hs.1)

/-- Where a `POST` is after its commit. -/
def Created (t : ThreadId) (pid : String) (rows : List (TaskId × β)) (r : Except FeedErr Unit)
    (s : Feed β) : Prop :=
  match r with
  | .ok _ => (s.work t).Rests (rows.map fun kv => (pid, kv.1))
  | .error _ => (s.work t).Rests []

theorem grave_createTasks (pid : String) (rows : List (TaskId × β)) (h : (s.work t).Rests []) :
    Safe graveContract t (createTasks pid rows) (fun _ s => (s.work t).Rests []) s := by
  have hcreate : Triple graveContract t (fun s => (s.work t).Rests [])
      (Act.createTasks pid rows : Act β _) (Created t pid rows) := by
    refine triple_of_exec fun s _ hinv hrests _ hasks _ =>
      ⟨hinv.idle (a := .createTasks pid rows) trivial t hasks, ?_⟩
    rw [exec]
    split
    · refine ⟨?_, ?_, ?_⟩
      · simpa [Feed.insertRows, Work.Free] using hrests.free
      · simpa [Feed.insertRows] using hrests.owed
      · simpa [Feed.insertRows] using hrests.held
    · exact hrests
  exact Safe.seq (hcreate.safe rests_stable h) (fun _ s hs => grave_publishRows hs) fun _ _ hs => hs

theorem grave_deleteTask (tid : TaskId) (h : (s.work t).Rests []) :
    Safe graveContract t (deleteTask tid) (fun _ s => (s.work t).Rests []) s := by
  have hread : ∀ {s : Feed β}, (s.work t).Rests [] → Safe graveContract t
      (Prog.call (Act.getTask tid false : Act β _)) (fun _ s => (s.work t).Rests []) s :=
    fun hs => grave_mute (Prog.all_call.mpr rfl) hs
  refine Safe.seq (hread h) (fun row s hs => ?_) fun _ _ hs => hs
  cases row with
  | none => exact hs
  | some row =>
    refine Safe.seq (hread hs) (fun row' s hs => ?_) fun _ _ hs => hs
    have hdelete : Triple graveContract t (fun s => (s.work t).Rests [])
        (Act.deleteTask tid (row'.getD row).projectId : Act β _) fun r s => r = .ok () ∧
          (s.work t).Free ∧ (s.work t).held = [] ∧
            (s.work t).owed = [((row'.getD row).projectId, tid)] := by
      refine triple_of_exec fun s _ hinv hrests _ hasks _ =>
        ⟨hinv.idle (a := .deleteTask tid (row'.getD row).projectId) trivial t hasks, rfl, ?_, ?_, ?_⟩
      · simpa [exec, Feed.deleteRow, Work.Free] using hrests.free
      · simpa [exec, Feed.deleteRow] using hrests.held
      · simpa [exec, Feed.deleteRow] using hrests.owed
    refine Safe.seq (hdelete.safe rests_stable hs) (fun _ s hs => ?_) fun _ _ hs => (by cases hs.1)
    obtain ⟨-, hfree, hheld, howed⟩ := hs
    refine (grave_publishView rfl hfree (fun hv => (by cases hv)) fun _ => ⟨hheld, howed⟩).mono
      fun _ s' hs' => ?_
    have hrests := hs'.2
    rw [hheld] at hrests
    exact hrests

/-- Where a stream is that has subscribed. -/
structure Streaming (t : ThreadId) (pid : String) (s : Feed β) : Prop where
  rests : (s.work t).Rests []
  queue : ∃ q, (s.work t).opened = some q ∧ s.Owns pid q

theorem Streaming.stable {pid : String} : Stable (graveContract (β := β)) t (Streaming t pid) := by
  rintro s s' ⟨hrests, q, hopened, howns⟩ ⟨hwork, hgrown⟩
  exact ⟨hwork ▸ hrests, q, hwork ▸ hopened, hgrown.owns howns⟩

theorem grave_openStream (pid : String) (h : (s.work t).Rests []) :
    Safe graveContract t (openStream pid) (fun _ s => (s.work t).Rests []) s := by
  have hsubscribe : Triple graveContract t (fun s => (s.work t).Rests [])
      (Act.subscribe pid : Act β QueueId) fun _ => Streaming t pid := by
    refine triple_of_exec fun s hshape hinv hrests _ _ _ => ?_
    refine ⟨hinv.openQueue hshape, ⟨?_, ?_, ?_⟩, s.nextQueue, ?_, ?_⟩
    · simpa [exec, Feed.openQueue, Work.Free] using hrests.free
    · simpa [exec, Feed.openQueue] using hrests.owed
    · simpa [exec, Feed.openQueue] using hrests.held
    · simp [exec, Feed.openQueue]
    · exact ⟨Nat.lt_succ_self _, congrArg Queue.project (setAt_self (f := s.queues))⟩
  have hlatest : Triple graveContract t (Streaming t pid) (Act.latest pid : Act β _)
      fun _ s => (s.work t).Rests [] := by
    refine triple_of_exec fun s hshape hinv hs _ _ _ => ?_
    obtain ⟨hrests, q, hopened, howns⟩ := hs
    refine ⟨hinv.takeLatest hshape hopened howns, ?_⟩
    change ((s.takeLatest t _).work t).Rests []
    rw [takeLatest_of_opened hopened]
    exact hrests
  refine Safe.seq (hsubscribe.safe rests_stable h) (fun _ s hs => ?_) fun _ _ hs => hs.rests
  exact Safe.seq (hlatest.safe Streaming.stable hs) (fun _ s hs => hs) fun _ _ hs => hs

/-- All operations but `render` of views that were made up. -/
def Op.FromRows : Op β → Prop
  | .render _ => False
  | _ => True

instance : ∀ op : Op β, Decidable op.FromRows
  | .render _ => inferInstanceAs (Decidable False)
  | .publish _ | .create _ _ | .setBody _ _ | .delete _ | .openStream _ | .next _
  | .closeStream _ _ => inferInstanceAs (Decidable True)

theorem grave_program (op : Op β) (hop : op.FromRows) (h : (s.work t).Rests []) :
    Safe graveContract t (program op) (fun _ s => (s.work t).Rests []) s := by
  cases op with
  | render snapshot => exact hop.elim
  | publish tid => exact grave_publishTask tid h
  | create pid rows => exact grave_createTasks pid rows h
  | setBody tid body => exact grave_mute (Prog.all_call.mpr trivial) h
  | delete tid => exact grave_deleteTask tid h
  | openStream pid => exact grave_openStream pid h
  | next q =>
    refine Safe.ignoring (grave_mute (Prog.All.bind ?_ fun _ => ?_) h) fun _ hs => hs
    · exact Prog.all_call.mpr trivial
    · trivial
  | closeStream pid q => exact grave_mute (Prog.all_call.mpr trivial) h

end Programs

/-! ## Runs -/

theorem graveInv_initial (rows : Dict TaskId (Row β)) : GraveInv (Feed.initial rows) :=
  ⟨fun _ => Or.inl rfl, fun _ _ _ =>
    Or.inl ⟨fun _ => List.not_mem_nil, rfl, fun _ hq => absurd hq List.not_mem_nil⟩⟩

theorem grave_sound : (graveContract (β := β)).Sound Op.FromRows True := by
  refine feed_sound graveInv_initial fun op hop t s hidle => ?_
  refine (grave_program op hop (hidle ▸ Work.rests_idle)).mono fun _ s hrests hinv => ?_
  refine hinv.of_work (Or.inl rfl) (List.nil_subset _) ?_ fun _ _ _ _ htolls => ?_
  · rw [hrests.owed]
    exact List.nil_subset _
  · obtain ⟨-, v, hv, -⟩ := htolls
    rw [hrests.free.1] at hv
    cases hv

/-- No thread owes a tombstone of the task, or has a view of it to emit. -/
def Feed.Finished (s : Feed β) (pid : String) (tid : TaskId) : Prop :=
  ∀ t, (pid, tid) ∉ (s.work t).owed ∧ ∀ v ∈ (s.work t).pending, v.id ≠ tid

/-- In every state of a run that keeps publishers of a task away from its tombstone: if the task has
no row in the project and all who published it have finished, the latest map has no entry of it, and
the last message of it that a subscriber was given, if any, is a tombstone. -/
theorem deleted_stays_deleted {rows : Dict TaskId (Row β)}
    {events : List (Threads.Event Unit (Op β))}
    (hok : Config.Along feed (graveContract.Permits Op.FromRows True) events
      (Config.initial (Feed.initial rows))) {s : Feed β}
    (hs : (Config.run feed events (Config.initial (Feed.initial rows))).shared = s)
    {pid : String} {tid : TaskId} (hrow : ¬ s.Has pid tid) (hfinished : s.Finished pid tid) :
    Dict.get? (s.latest pid) tid = none ∧
      ∀ q ∈ s.subs pid, ∀ v, lastOf tid (s.queues q).sent = some v → v.deleted = true := by
  obtain ⟨-, hinv⟩ := feed_run grave_sound graveInv_initial hok
  rw [hs] at hinv
  have hgone := (hinv.gone pid tid hrow).resolve_right fun ⟨t, ht⟩ => (hfinished t).1 ht
  refine ⟨hgone.entry, fun q hq => (hgone.buried q hq).resolve_right ?_⟩
  rintro ⟨t, -, v, hv, hid, -⟩
  exact (hfinished t).2 v (by rw [hv]; exact List.mem_singleton.mpr rfl) hid

section Examples

/-- A stream is opened, the task is published, and then it is deleted. -/
def deleteEvents : List (Threads.Event Unit (Op Nat)) :=
  [.spawn (.openStream "p"), .step 0 (), .step 0 (), .spawn (.publish "t"), .step 1 (), .step 1 (),
    .step 1 (), .step 1 (), .step 1 (), .spawn (.delete "t"), .step 2 (), .step 2 (), .step 2 (),
    .step 2 (), .step 2 (), .step 2 (), .step 2 ()]

theorem deleted_stays_deleted_once :
    let s := (Config.run feed deleteEvents (Config.initial (Feed.initial oneRow))).shared
    lastOf "t" (s.queues 0).sent = some ⟨"t", some "p", true, 0⟩ ∧
      Dict.get? (s.latest "p") "t" = none ∧
      ∀ q ∈ s.subs "p", ∀ v, lastOf "t" (s.queues q).sent = some v → v.deleted = true := by
  intro s
  have hok : Config.Along feed (graveContract.Permits Op.FromRows True) deleteEvents
      (Config.initial (Feed.initial oneRow)) :=
    permits_of_allowed unheld_idle (unstarted_initial oneRow) (by decide +kernel)
  have hfinished : s.Finished "p" "t" :=
    forall_work (R := fun w => ("p", "t") ∉ w.owed ∧ ∀ v ∈ w.pending, v.id ≠ "t")
      (unstarted_run oneRow deleteEvents) (by decide) (by decide +kernel)
  exact ⟨by decide +kernel, deleted_stays_deleted hok rfl (by decide +kernel) hfinished⟩

/-- A publisher reads the row, the task is deleted, and then the publisher renders what it read. -/
def ghostEvents : List (Threads.Event Unit (Op Nat)) :=
  [.spawn (.openStream "p"), .step 0 (), .step 0 (), .spawn (.publish "t"), .step 1 (),
    .spawn (.delete "t"), .step 2 (), .step 2 (), .step 2 (), .step 2 (), .step 2 (), .step 2 (),
    .step 2 (), .step 1 (), .step 1 (), .step 1 (), .step 1 ()]

/-- All have finished and the row is gone, but the latest map has the task, and it is the last that
the subscriber was given. -/
theorem deleted_comes_back :
    let c := Config.run feed ghostEvents (Config.initial (Feed.initial oneRow))
    Config.Along feed Roomy ghostEvents (Config.initial (Feed.initial oneRow)) ∧
      c.Quiescent ∧ Dict.get? c.shared.rows "t" = none ∧ 0 ∈ c.shared.subs "p" ∧
      Dict.get? (c.shared.latest "p") "t" = some ⟨"t", some "p", false, 0⟩ ∧
      lastOf "t" (c.shared.queues 0).sent = some ⟨"t", some "p", false, 0⟩ := by
  refine ⟨by decide +kernel, List.isEmpty_iff.mp (by decide +kernel),
    Option.isNone_iff_eq_none.mp (by decide +kernel), ?_⟩
  decide +kernel

end Examples

end WebSink

end Flotilla
