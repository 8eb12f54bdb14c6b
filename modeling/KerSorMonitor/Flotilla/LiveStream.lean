import KerSorMonitor.Flotilla.FeedRuns

/-!
# The live stream and the latest map

A client merges the latest map that its stream took and every view that was put into its queue.
Nothing orders the emissions of two renders, so the client ends with the latest map if a view of
a task is applied only when all earlier views of that task have been emitted.

Result: `stream_agrees`; `stream_disagrees` is a run in which two renders race.
-/

namespace Flotilla

namespace WebSink

open Threads Keyed

variable {β : Type}

/-! ## The invariant -/

/-- The entry of a task in the latest map. -/
def Feed.entry (s : Feed β) (pid : String) (tid : TaskId) : Option (TaskView β) :=
  Dict.get? (s.latest pid) tid

/-- The thread has applied a view of the task and not emitted it to the end. -/
def Work.Pending (w : Work β) (pid : String) (tid : TaskId) : Prop :=
  w.project = pid ∧ lastOf tid w.pending ≠ none

/-- The last of these views is still to be put into the queue. -/
def Work.Due (w : Work β) (pid : String) (tid : TaskId) (q : QueueId) : Prop :=
  w.project = pid ∧ ∃ v vs, w.pending = v :: vs ∧
    (lastOf tid vs ≠ none ∨ v.id = tid ∧ ∀ qs, w.targets = some qs → q ∈ qs)

/-- What the queue was given agrees with the entry. -/
structure Queue.Good (k : Queue β) (tid : TaskId) (entry : Option (TaskView β)) : Prop where
  log : ∀ v, lastOf tid k.log = some v → entry = v.entry?
  sent : ∀ vs, k.snapshot = some vs → lastOf tid k.log = none → entry = lastOf tid vs

/-- One task of one project: at most one thread has views of it to emit, the last of these is the
entry, and each subscriber has been given the entry or will be. -/
structure Coherent (s : Feed β) (pid : String) (tid : TaskId) : Prop where
  sole : ∀ t t', (s.work t).Pending pid tid → (s.work t').Pending pid tid → t = t'
  last : ∀ t v, (s.work t).project = pid → lastOf tid (s.work t).pending = some v →
    s.entry pid tid = v.entry?
  good : ∀ q ∈ s.subs pid, (s.queues q).Good tid (s.entry pid tid) ∨
    ∃ t, (s.work t).Due pid tid q

/-- Each task of each project. -/
def FeedInv (s : Feed β) : Prop := ∀ pid tid, tid ≠ "" → Coherent s pid tid

/-! ## The contract -/

/-- A view of a task is applied only when every other thread has emitted its views of that task. -/
def NoOverlap {α : Type} (a : Act β α) (_ : Feed β) (w : Work β) : Prop :=
  match a with
  | .applyViews pid vs => w.project = pid → ∀ v ∈ w.pending, ∀ u ∈ vs, v.id ≠ u.id
  | _ => True

instance {α : Type} (a : Act β α) (s : Feed β) (w : Work β) : Decidable (NoOverlap a s w) :=
  match a with
  | .applyViews pid vs => inferInstanceAs (Decidable (w.project = pid →
      ∀ v ∈ w.pending, ∀ u ∈ vs, v.id ≠ u.id))
  | .latest _ | .subscribe _ | .unsubscribe _ _ | .putNowait _ _ | .subscribers _ | .getNowait _
  | .emitted | .getTask _ _ | .createTasks _ _ | .setBody _ _ | .deleteTask _ _ =>
    inferInstanceAs (Decidable True)

theorem noOverlap_idle {α : Type} (a : Act β α) (s : Feed β) : NoOverlap a s .idle := by
  cases a with
  | applyViews pid vs => exact fun _ v hv => absurd hv List.not_mem_nil
  | _ => trivial

/-- The contract of the feed. -/
abbrev liveContract : Contract (feed (β := β)) := feedContract FeedInv (fun _ _ => True) NoOverlap

/-! ## What the actions keep -/

theorem FeedInv.of_unseen {s s' : Feed β} (h : FeedInv s) (hs : Unseen s s') : FeedInv s' := by
  intro pid tid htid
  have hc := h pid tid htid
  have hentry : s'.entry pid tid = s.entry pid tid := by
    unfold Feed.entry
    rw [hs.latest]
  have hpending : ∀ t, (s'.work t).Pending pid tid ↔ (s.work t).Pending pid tid := by
    intro t
    unfold Work.Pending
    rw [hs.project, hs.pending]
  have hdue : ∀ t q, (s'.work t).Due pid tid q ↔ (s.work t).Due pid tid q := by
    intro t q
    unfold Work.Due
    rw [hs.project, hs.pending, hs.targets]
  refine ⟨fun t t' ht ht' => hc.sole t t' ((hpending t).mp ht) ((hpending t').mp ht'),
    fun t v hp hlast => ?_, fun q hq => ?_⟩
  · rw [hentry]
    exact hc.last t v (hs.project t ▸ hp) (hs.pending t ▸ hlast)
  · rw [hentry]
    rcases hc.good q (hs.subs pid hq) with hgood | ⟨t, ht⟩
    · refine Or.inl ⟨fun v hv => hgood.log v (hs.log q ▸ hv), fun vs hvs hnone => ?_⟩
      exact hgood.sent vs (hs.snapshot q ▸ hvs) (hs.log q ▸ hnone)
    · exact Or.inr ⟨t, (hdue t q).mpr ht⟩

/-- A thread gets on with its views, or learns whom it emits to. -/
theorem FeedInv.of_work {s : Feed β} {t : ThreadId} {f : Work β → Work β} (h : FeedInv s)
    (hproject : (f (s.work t)).pending ≠ [] → (f (s.work t)).project = (s.work t).project)
    (hpending : (f (s.work t)).pending <:+ (s.work t).pending)
    (hdue : ∀ pid tid q, q ∈ s.subs pid → (s.work t).Due pid tid q → (f (s.work t)).Due pid tid q) :
    FeedInv (s.setWork t f) := by
  intro pid tid htid
  have hc := h pid tid htid
  have hlast : ∀ v, lastOf tid (f (s.work t)).pending = some v →
      lastOf tid (s.work t).pending = some v := by
    intro v hv
    obtain ⟨pre, hpre⟩ := hpending
    rw [← hpre, lastOf_append, hv]
    rfl
  have hkept : lastOf tid (f (s.work t)).pending ≠ none →
      (f (s.work t)).project = (s.work t).project := fun hne =>
    hproject fun hnil => hne (by rw [hnil]; rfl)
  have hwork : ∀ t', ((s.setWork t f).work t').Pending pid tid → (s.work t').Pending pid tid := by
    rintro t' ⟨hp, hne⟩
    by_cases heq : t' = t
    · subst heq
      rw [setWork_work_self] at hp hne
      obtain ⟨v, hv⟩ := Option.ne_none_iff_exists'.mp hne
      exact ⟨hkept hne ▸ hp, by rw [hlast v hv]; simp⟩
    · rw [setWork_work_of_ne heq] at hp hne
      exact ⟨hp, hne⟩
  refine ⟨fun t₁ t₂ h₁ h₂ => hc.sole t₁ t₂ (hwork t₁ h₁) (hwork t₂ h₂), fun t' v hp hv => ?_,
    fun q hq => ?_⟩
  · by_cases heq : t' = t
    · subst heq
      rw [setWork_work_self] at hp hv
      exact hc.last t' v (hkept (by rw [hv]; simp) ▸ hp) (hlast v hv)
    · rw [setWork_work_of_ne heq] at hp hv
      exact hc.last t' v hp hv
  · rcases hc.good q hq with hgood | ⟨t', ht'⟩
    · exact Or.inl hgood
    · refine Or.inr ⟨t', ?_⟩
      by_cases heq : t' = t
      · subst heq
        rw [setWork_work_self]
        exact hdue pid tid q hq ht'
      · rwa [setWork_work_of_ne heq]

theorem Work.not_due {w : Work β} (h : w.pending = []) {pid : String} {tid : TaskId}
    {q : QueueId} : ¬ w.Due pid tid q := by
  rintro ⟨-, v, vs, hpending, -⟩
  rw [h] at hpending
  cases hpending

theorem Work.not_pending {w : Work β} (h : w.pending = []) {pid : String} {tid : TaskId} :
    ¬ w.Pending pid tid := by
  rintro ⟨-, hne⟩
  rw [h] at hne
  exact hne rfl

/-- The section under the lock in `render`. -/
theorem FeedInv.applyAll {s : Feed β} {t : ThreadId} {pid : String} {vs : List (TaskView β)}
    (h : FeedInv s) (hfree : (s.work t).pending = [])
    (horder : ∀ t', t' ≠ t → NoOverlap (.applyViews pid vs) s (s.work t')) :
    FeedInv (s.applyAll t pid vs) := by
  have hself : ((s.applyAll t pid vs).work t).project = pid ∧
      ((s.applyAll t pid vs).work t).pending = vs ∧
      ((s.applyAll t pid vs).work t).targets = none := by
    simp [Feed.applyAll, Work.applied]
  have hother : ∀ t', t' ≠ t → (s.applyAll t pid vs).work t' = s.work t' := fun t' hne =>
    setAt_of_ne hne
  have hlatest : ∀ pid', pid' ≠ pid → (s.applyAll t pid vs).latest pid' = s.latest pid' :=
    fun pid' hne => setAt_of_ne hne
  have hsame : (s.applyAll t pid vs).latest pid = applyViews (s.latest pid) vs := setAt_self
  have hentry : ∀ tid, tid ≠ "" → (s.applyAll t pid vs).entry pid tid =
      (lastOf tid vs).elim (s.entry pid tid) TaskView.entry? := by
    intro tid htid
    rw [Feed.entry, hsame, get?_applyViews htid]
    cases lastOf tid vs <;> rfl
  intro pid' tid htid
  have hc := h pid' tid htid
  by_cases hpid : pid' = pid
  · subst hpid
    cases hlast : lastOf tid vs with
    | none =>
      -- the snapshot has no view of the task
      have hsameEntry : (s.applyAll t pid' vs).entry pid' tid = s.entry pid' tid := by
        rw [hentry tid htid, hlast]
        rfl
      have hnot : ¬ ((s.applyAll t pid' vs).work t).Pending pid' tid := by
        rintro ⟨-, hne⟩
        rw [hself.2.1, hlast] at hne
        exact hne rfl
      refine ⟨fun t₁ t₂ h₁ h₂ => ?_, fun t' v hp hv => ?_, fun q hq => ?_⟩
      · have hne₁ : t₁ ≠ t := fun heq => hnot (heq ▸ h₁)
        have hne₂ : t₂ ≠ t := fun heq => hnot (heq ▸ h₂)
        rw [hother t₁ hne₁] at h₁
        rw [hother t₂ hne₂] at h₂
        exact hc.sole t₁ t₂ h₁ h₂
      · have hne : t' ≠ t := fun heq => by
          rw [heq, hself.2.1, hlast] at hv
          cases hv
        rw [hother t' hne] at hp hv
        rw [hsameEntry]
        exact hc.last t' v hp hv
      · rw [hsameEntry]
        rcases hc.good q hq with hgood | ⟨t', ht'⟩
        · exact Or.inl hgood
        · have hne : t' ≠ t := fun heq => Work.not_due hfree (heq ▸ ht')
          exact Or.inr ⟨t', by rwa [hother t' hne]⟩
    | some v =>
      have hnone : ∀ t', t' ≠ t → ¬ ((s.applyAll t pid' vs).work t').Pending pid' tid := by
        rintro t' hne ⟨hp, hpend⟩
        rw [hother t' hne] at hp hpend
        obtain ⟨w, hw⟩ := Option.ne_none_iff_exists'.mp hpend
        obtain ⟨hmem, hid⟩ := mem_of_lastOf hw
        obtain ⟨hmem', hid'⟩ := mem_of_lastOf hlast
        exact horder t' hne hp w hmem v hmem' (hid.trans hid'.symm)
      refine ⟨fun t₁ t₂ h₁ h₂ => ?_, fun t' w hp hw => ?_, fun q hq => Or.inr ⟨t, ?_⟩⟩
      · have heq₁ : t₁ = t := by_contra fun hne => hnone t₁ hne h₁
        have heq₂ : t₂ = t := by_contra fun hne => hnone t₂ hne h₂
        rw [heq₁, heq₂]
      · have heq : t' = t := by_contra fun hne => hnone t' hne ⟨hp, by rw [hw]; simp⟩
        rw [heq, hself.2.1, hlast] at hw
        cases hw
        rw [hentry tid htid, hlast]
        rfl
      · refine ⟨hself.1, ?_⟩
        rw [hself.2.1, hself.2.2]
        cases vs with
        | nil => cases hlast
        | cons v₀ rest =>
          refine ⟨v₀, rest, rfl, ?_⟩
          by_cases hrest : lastOf tid rest = none
          · refine Or.inr ⟨?_, fun _ hqs => by cases hqs⟩
            by_contra hid
            have hall : lastOf tid ([v₀] ++ rest) = none := by
              rw [lastOf_append, hrest, lastOf_singleton, if_neg hid]
              rfl
            exact absurd (hall.symm.trans hlast) (by simp)
          · exact Or.inl hrest
  · have hsameEntry : (s.applyAll t pid vs).entry pid' tid = s.entry pid' tid := by
      rw [Feed.entry, hlatest pid' hpid]
      rfl
    have hnot : ∀ t', ((s.applyAll t pid vs).work t').project = pid' → t' ≠ t := by
      rintro t' hp rfl
      exact hpid (hp.symm.trans hself.1)
    refine ⟨fun t₁ t₂ h₁ h₂ => ?_, fun t' v hp hv => ?_, fun q hq => ?_⟩
    · rw [hother t₁ (hnot t₁ h₁.1)] at h₁
      rw [hother t₂ (hnot t₂ h₂.1)] at h₂
      exact hc.sole t₁ t₂ h₁ h₂
    · have hne := hnot t' hp
      rw [hother t' hne] at hp hv
      rw [hsameEntry]
      exact hc.last t' v hp hv
    · rw [hsameEntry]
      rcases hc.good q hq with hgood | ⟨t', ht'⟩
      · exact Or.inl hgood
      · have hne : t' ≠ t := fun heq => Work.not_due hfree (heq ▸ ht')
        exact Or.inr ⟨t', by rwa [hother t' hne]⟩

/-- One view into one queue. -/
theorem FeedInv.put {s : Feed β} {t : ThreadId} {pid : String} {q : QueueId} {qs : List QueueId}
    {v : TaskView β} {rest : List (TaskView β)} (hshape : s.Shape) (h : FeedInv s)
    (hproject : (s.work t).project = pid)
    (hpending : (s.work t).pending = v :: rest) (htargets : (s.work t).targets = some (q :: qs))
    (howns : s.Owns pid q) : FeedInv (s.put t q v) := by
  have hother : ∀ t', t' ≠ t → (s.put t q v).work t' = s.work t' := fun t' hne => setAt_of_ne hne
  have hself : (s.put t q v).work t = { s.work t with targets := some qs } := by
    simp [Feed.put, Feed.setQueue, htargets]
  have hqueue : (s.put t q v).queues q = { s.queues q with
      items := (s.queues q).items ++ [v], log := (s.queues q).log ++ [v] } := setAt_self
  have hqueues : ∀ q', q' ≠ q → (s.put t q v).queues q' = s.queues q' := fun q' hne =>
    setAt_of_ne hne
  have hpend : ∀ t', ((s.put t q v).work t').project = (s.work t').project ∧
      ((s.put t q v).work t').pending = (s.work t').pending := by
    intro t'
    by_cases heq : t' = t
    · subst heq
      rw [hself]
      exact ⟨rfl, rfl⟩
    · rw [hother t' heq]
      exact ⟨rfl, rfl⟩
  intro pid' tid htid
  have hc := h pid' tid htid
  refine ⟨fun t₁ t₂ h₁ h₂ => hc.sole t₁ t₂ ?_ ?_, fun t' w hp hw => ?_, fun q' hq' => ?_⟩
  · exact ⟨(hpend t₁).1 ▸ h₁.1, (hpend t₁).2 ▸ h₁.2⟩
  · exact ⟨(hpend t₂).1 ▸ h₂.1, (hpend t₂).2 ▸ h₂.2⟩
  · exact hc.last t' w ((hpend t').1 ▸ hp) ((hpend t').2 ▸ hw)
  -- what becomes of a queue that waits for another thread, or for a later view
  have hdue : ∀ t', (s.work t').Due pid' tid q' →
      (q' = q → t' = t → lastOf tid rest ≠ none ∨ q ∈ qs) →
      ((s.put t q v).work t').Due pid' tid q' := by
    rintro t' ⟨hp, v', vs', hpending', hwait⟩ hstill
    by_cases heq : t' = t
    · subst heq
      rw [hself]
      rw [hpending] at hpending'
      cases hpending'
      refine ⟨hp, v, rest, hpending, ?_⟩
      rcases hwait with hlater | ⟨hid, hin⟩
      · exact Or.inl hlater
      · by_cases hq : q' = q
        · rcases hstill hq rfl with hlater | hmem
          · exact Or.inl hlater
          · refine Or.inr ⟨hid, fun qs' hqs' => ?_⟩
            cases hqs'
            rw [hq]
            exact hmem
        · refine Or.inr ⟨hid, fun qs' hqs' => ?_⟩
          cases hqs'
          exact (List.mem_cons.mp (hin _ htargets)).resolve_left hq
    · rw [hother t' heq]
      exact ⟨hp, v', vs', hpending', hwait⟩
  by_cases hq : q' = q
  · subst hq
    obtain rfl : pid' = pid := (hshape.subs pid' q' hq').2.symm.trans howns.2
    by_cases hid : v.id = tid
    · by_cases hlater : lastOf tid rest ≠ none ∨ q' ∈ qs
      · have hself' : (s.put t q' v).work t = { s.work t with targets := some qs } := hself
        refine Or.inr ⟨t, ?_⟩
        rw [hself']
        refine ⟨hproject, v, rest, hpending, ?_⟩
        rcases hlater with hlater | hmem
        · exact Or.inl hlater
        · refine Or.inr ⟨hid, fun qs' hqs' => ?_⟩
          cases hqs'
          exact hmem
      · -- the last view of the task has reached the queue
        rw [not_or, not_not] at hlater
        have hlast : lastOf tid (s.work t).pending = some v := by
          rw [hpending, show v :: rest = [v] ++ rest from rfl, lastOf_append, hlater.1,
            lastOf_singleton, if_pos hid]
          rfl
        have hentry := hc.last t v hproject hlast
        left
        rw [hqueue]
        refine ⟨fun w hw => ?_, fun vs hvs hnone => ?_⟩
        · rw [lastOf_append, lastOf_singleton, if_pos hid] at hw
          cases hw
          exact hentry
        · rw [lastOf_append, lastOf_singleton, if_pos hid] at hnone
          cases hnone
    · rcases hc.good q' hq' with hgood | ⟨t', ht'⟩
      · left
        rw [hqueue]
        have hlog : lastOf tid ((s.queues q').log ++ [v]) = lastOf tid (s.queues q').log := by
          rw [lastOf_append, lastOf_singleton, if_neg hid]
          rfl
        exact ⟨fun w hw => hgood.log w (hlog ▸ hw), fun vs hvs hnone =>
          hgood.sent vs hvs (hlog ▸ hnone)⟩
      · refine Or.inr ⟨t', hdue t' ht' fun _ heq => ?_⟩
        subst heq
        obtain ⟨-, v', vs', hpending', hwait⟩ := ht'
        rw [hpending] at hpending'
        cases hpending'
        exact Or.inl (hwait.resolve_right fun hr => hid hr.1)
  · rcases hc.good q' hq' with hgood | ⟨t', ht'⟩
    · left
      rw [hqueues q' hq]
      exact hgood
    · exact Or.inr ⟨t', hdue t' ht' fun heq => absurd heq hq⟩

/-- A new subscriber has been given nothing. -/
theorem FeedInv.openQueue {s : Feed β} {t : ThreadId} {pid : String} (hshape : s.Shape)
    (h : FeedInv s) : FeedInv (s.openQueue t pid) := by
  have hqueues : ∀ q, q < s.nextQueue → (s.openQueue t pid).queues q = s.queues q := fun q hlt =>
    setAt_of_ne (Nat.ne_of_lt hlt)
  have hnew : (s.openQueue t pid).queues s.nextQueue = ⟨[], pid, [], none⟩ := setAt_self
  have hsubs : ∀ pid' q, q ∈ (s.openQueue t pid).subs pid' → q ∈ s.subs pid' ∨
      q = s.nextQueue ∧ pid' = pid := by
    intro pid' q hq
    by_cases hpid : pid' = pid
    · subst hpid
      have hq' : q ∈ s.subs pid' ++ [s.nextQueue] := by
        have heq : (s.openQueue t pid').subs pid' = s.subs pid' ++ [s.nextQueue] := setAt_self
        rwa [heq] at hq
      rcases List.mem_append.mp hq' with hq' | hq'
      · exact Or.inl hq'
      · exact Or.inr ⟨List.mem_singleton.mp hq', rfl⟩
    · have heq : (s.openQueue t pid).subs pid' = s.subs pid' := setAt_of_ne hpid
      exact Or.inl (heq ▸ hq)
  have hwork : ∀ t', ((s.openQueue t pid).work t').project = (s.work t').project ∧
      ((s.openQueue t pid).work t').pending = (s.work t').pending ∧
      ((s.openQueue t pid).work t').targets = (s.work t').targets := by
    intro t'
    by_cases heq : t' = t
    · subst heq
      simp [Feed.openQueue]
    · have hsame : (s.openQueue t pid).work t' = s.work t' := setAt_of_ne heq
      rw [hsame]
      exact ⟨rfl, rfl, rfl⟩
  intro pid' tid htid
  have hc := h pid' tid htid
  refine ⟨fun t₁ t₂ h₁ h₂ => hc.sole t₁ t₂ ?_ ?_, fun t' v hp hv => ?_, fun q hq => ?_⟩
  · exact ⟨(hwork t₁).1 ▸ h₁.1, (hwork t₁).2.1 ▸ h₁.2⟩
  · exact ⟨(hwork t₂).1 ▸ h₂.1, (hwork t₂).2.1 ▸ h₂.2⟩
  · exact hc.last t' v ((hwork t').1 ▸ hp) ((hwork t').2.1 ▸ hv)
  · rcases hsubs pid' q hq with hq | ⟨rfl, rfl⟩
    · rcases hc.good q hq with hgood | ⟨t', hp, v, vs, hpending, hwait⟩
      · left
        rw [hqueues q (hshape.subs pid' q hq).1]
        exact hgood
      · refine Or.inr ⟨t', (hwork t').1.trans hp, v, vs, (hwork t').2.1.trans hpending, ?_⟩
        rw [(hwork t').2.2]
        exact hwait
    · left
      rw [hnew]
      exact ⟨fun v hv => (by cases hv), fun vs hvs _ => (by cases hvs)⟩

/-- The stream takes the latest map after it has subscribed. -/
theorem FeedInv.takeLatest {s : Feed β} {t : ThreadId} {pid : String} {q : QueueId}
    (hshape : s.Shape) (h : FeedInv s) (hopened : (s.work t).opened = some q)
    (howns : s.Owns pid q) :
    FeedInv (s.takeLatest t ((s.latest pid).rows.map Prod.snd)) := by
  rw [takeLatest_of_opened hopened]
  have hqueues : ∀ q', q' ≠ q → (s.setQueue q fun k =>
      { k with snapshot := some ((s.latest pid).rows.map Prod.snd) }).queues q' = s.queues q' :=
    fun q' hne => setAt_of_ne hne
  intro pid' tid htid
  have hc := h pid' tid htid
  refine ⟨hc.sole, hc.last, fun q' hq' => ?_⟩
  rcases hc.good q' hq' with hgood | hdue
  · left
    by_cases heq : q' = q
    · subst heq
      obtain rfl : pid' = pid := (hshape.subs pid' q' hq').2.symm.trans howns.2
      rw [setQueue_queues_self]
      refine ⟨hgood.log, fun vs hvs hnone => ?_⟩
      cases hvs
      exact (lastOf_values (fun k v hget => (hshape.keyed pid' k v hget).2.1) tid).symm
    · rw [hqueues q' heq]
      exact hgood
  · exact Or.inr hdue

/-! ## The programs -/

/-- Nothing but `NoOverlap` is asked. -/
theorem live_renders : Renders (β := β) FeedInv (fun _ _ => True) NoOverlap fun _ _ _ => True where
  apply _ hinv hfree _ _ hapart := hinv.applyAll hfree.1 hapart
  subs {s t} _ hinv htargets := by
    refine hinv.of_work (fun _ => rfl) List.suffix_rfl ?_
    rintro pid tid q hq ⟨hp, v, vs, hpending, hwait⟩
    refine ⟨hp, v, vs, hpending, hwait.imp_right fun hid => ⟨hid.1, fun qs hqs => ?_⟩⟩
    cases hqs
    rwa [hp]
  put {s t q v} hshape hinv hhead htargets howns := by
    obtain ⟨qs, hqs⟩ := htargets
    obtain ⟨rest, hpending⟩ := List.head?_eq_some_iff.mp hhead
    exact hinv.put hshape rfl hpending hqs howns
  emitted {s t} _ hinv htargets := by
    refine hinv.of_work (fun _ => rfl) (List.tail_suffix _) ?_
    rintro pid tid q hq ⟨hp, v, vs, hpending, hwait⟩
    have hlater : lastOf tid vs ≠ none := hwait.resolve_right fun hid =>
      absurd (hid.2 [] htargets) List.not_mem_nil
    cases vs with
    | nil => exact absurd rfl hlater
    | cons v₁ vs₁ =>
      refine ⟨hp, v₁, vs₁, by rw [Work.emitted, hpending]; rfl, ?_⟩
      by_cases hrest : lastOf tid vs₁ = none
      · refine Or.inr ⟨?_, fun qs hqs => by cases hqs⟩
        by_contra hid
        refine hlater ?_
        rw [show v₁ :: vs₁ = [v₁] ++ vs₁ from rfl, lastOf_append, hrest, lastOf_singleton,
          if_neg hid]
        rfl
      · exact Or.inl hrest

section Programs

variable {t : ThreadId} {s : Feed β}

/-- A program of actions that no client sees leaves the thread with nothing to emit. -/
theorem safe_idle {α : Type} {p : FeedProg β α} (hp : p.All Idle) (hfree : (s.work t).Free) :
    Safe liveContract t p (fun _ s => (s.work t).Free) s := by
  refine Safe.of_all (work_stable (R := Work.Free)) (fun a ha => ?_) hp hfree
  refine triple_of_exec fun s _ hinv hfree _ _ _ => ?_
  have hunseen := unseen_exec ha t s
  exact ⟨hinv.of_unseen hunseen, (hunseen.pending t).trans hfree.1,
    (hunseen.targets t).trans hfree.2⟩

/-- One such action. -/
theorem safe_call {α : Type} {a : Act β α} (ha : Idle a) (h : (s.work t).Free) :
    Safe liveContract t (Prog.call a) (fun _ s => (s.work t).Free) s :=
  safe_idle (Prog.all_call.mpr ha) h

theorem safe_render (snapshot : ProjectSnapshot β) (h : (s.work t).Free) :
    Safe liveContract t (render snapshot) (fun _ s => (s.work t).Free) s := by
  cases hpid : snapshot.project? with
  | none =>
    unfold render
    rw [hpid]
    exact h
  | some pid =>
    refine (live_renders.safe_render hpid rfl h trivial).mono fun _ s' hs' => ?_
    rw [hs'.2]
    exact Work.emittedAll_free rfl rfl

theorem safe_publishRows (pid : String) (rows : List (TaskId × β)) (h : (s.work t).Free) :
    Safe liveContract t (publishRows pid rows) (fun _ s => (s.work t).Free) s := by
  induction rows generalizing s with
  | nil => exact h
  | cons kv rows ih => exact Safe.seq (safe_render _ h) (fun _ s hs => ih hs) fun _ _ hs => hs

theorem safe_publishTask (tid : TaskId) (h : (s.work t).Free) :
    Safe liveContract t (publishTask tid) (fun _ s => (s.work t).Free) s := by
  refine Safe.seq (safe_call trivial h) (fun row s hs => ?_) fun _ _ hs => hs
  cases row with
  | none => exact hs
  | some row => exact safe_render _ hs

theorem safe_deleteTask (tid : TaskId) (h : (s.work t).Free) :
    Safe liveContract t (deleteTask tid) (fun _ s => (s.work t).Free) s := by
  refine Safe.seq (safe_call trivial h) (fun row s hs => ?_) fun _ _ hs => hs
  cases row with
  | none => exact hs
  | some row =>
    refine Safe.seq (safe_call trivial hs) (fun row' s hs => ?_) fun _ _ hs => hs
    refine Safe.seq (safe_call trivial hs) (fun _ s hs => ?_) fun _ _ hs => hs
    exact safe_render _ hs

/-- Where a stream is that has subscribed. -/
structure Opened (t : ThreadId) (pid : String) (s : Feed β) : Prop where
  free : (s.work t).Free
  queue : ∃ q, (s.work t).opened = some q ∧ s.Owns pid q

theorem Opened.stable {pid : String} : Stable (liveContract (β := β)) t (Opened t pid) := by
  rintro s s' ⟨hfree, q, hopened, howns⟩ ⟨hwork, hgrown⟩
  exact ⟨hwork ▸ hfree, q, hwork ▸ hopened, hgrown.owns howns⟩

theorem safe_openStream (pid : String) (h : (s.work t).Free) :
    Safe liveContract t (openStream pid) (fun _ s => (s.work t).Free) s := by
  have hsubscribe : Triple liveContract t (fun s => (s.work t).Free)
      (Act.subscribe pid : Act β QueueId) fun _ => Opened t pid := by
    refine triple_of_exec fun s hshape hinv hfree _ _ _ => ?_
    refine ⟨hinv.openQueue hshape, ?_, s.nextQueue, ?_, ?_⟩
    · simpa [exec, Feed.openQueue, Work.Free] using hfree
    · simp [exec, Feed.openQueue]
    · exact ⟨Nat.lt_succ_self _, congrArg Queue.project (setAt_self (f := s.queues))⟩
  have hlatest : Triple liveContract t (Opened t pid) (Act.latest pid : Act β _)
      fun _ s => (s.work t).Free := by
    refine triple_of_exec fun s hshape hinv hs _ _ _ => ?_
    obtain ⟨hfree, q, hopened, howns⟩ := hs
    refine ⟨hinv.takeLatest hshape hopened howns, ?_⟩
    change ((s.takeLatest t _).work t).Free
    rw [takeLatest_of_opened hopened]
    exact hfree
  refine Safe.seq (hsubscribe.safe (work_stable (R := Work.Free)) h) (fun _ s hs => ?_)
    fun _ _ hs => hs.free
  exact Safe.seq (hlatest.safe Opened.stable hs) (fun _ s hs => hs) fun _ _ hs => hs

theorem safe_program (op : Op β) (h : (s.work t).Free) :
    Safe liveContract t (program op) (fun _ s => (s.work t).Free) s := by
  cases op with
  | render snapshot => exact safe_render snapshot h
  | publish tid => exact safe_publishTask tid h
  | create pid rows =>
    exact Safe.seq (safe_call trivial h) (fun _ s hs => safe_publishRows pid rows hs)
      fun _ _ hs => hs
  | setBody tid body => exact safe_call trivial h
  | delete tid => exact safe_deleteTask tid h
  | openStream pid => exact safe_openStream pid h
  | next q =>
    refine Safe.ignoring (safe_idle (Prog.All.bind ?_ fun _ => ?_) h) fun _ hs => hs
    · exact Prog.all_call.mpr trivial
    · trivial
  | closeStream pid q => exact safe_call trivial h

end Programs

/-! ## Runs -/

theorem feedInv_initial (rows : Dict TaskId (Row β)) : FeedInv (Feed.initial rows) := fun _ _ _ =>
  { sole := fun _ _ h _ => absurd h (Work.not_pending rfl)
    last := fun _ _ _ hlast => by cases hlast
    good := fun _ hq => absurd hq List.not_mem_nil }

/-- All operations keep the contract. -/
theorem live_sound : (liveContract (β := β)).Sound (fun _ => True) True := by
  refine feed_sound feedInv_initial fun op _ t s hidle => ?_
  refine (safe_program op (hidle ▸ ⟨rfl, rfl⟩)).mono fun _ s hfree hinv => ?_
  refine hinv.of_work (fun hne => absurd rfl hne) List.nil_suffix fun _ _ _ _ hdue => ?_
  exact absurd hdue (Work.not_due hfree.1)

/-- All render calls have returned: no thread has a view left to emit. -/
def Feed.Settled (s : Feed β) : Prop := ∀ t, (s.work t).pending = []

/-- In every state of a run that keeps the renders of one task apart, once all render calls have
returned, the client of every stream has exactly the latest map. -/
theorem stream_agrees {rows : Dict TaskId (Row β)} {events : List (Threads.Event Unit (Op β))}
    (hok : Config.Along feed (liveContract.Permits (fun _ => True) True) events
      (Config.initial (Feed.initial rows))) {s : Feed β}
    (hs : (Config.run feed events (Config.initial (Feed.initial rows))).shared = s)
    (hsettled : s.Settled) {pid : String} {q : QueueId} (hq : q ∈ s.subs pid)
    (hsnapshot : (s.queues q).snapshot ≠ none) (tid : TaskId) :
    Dict.get? (s.queues q).clientMap tid = Dict.get? (s.latest pid) tid := by
  obtain ⟨hshape, hinv⟩ := feed_run live_sound feedInv_initial hok
  rw [hs] at hshape hinv
  obtain ⟨vs, hvs⟩ := Option.ne_none_iff_exists'.mp hsnapshot
  by_cases htid : tid = ""
  · subst htid
    have hlatest : Dict.get? (s.latest pid) "" = none := by
      cases hget : Dict.get? (s.latest pid) "" with
      | none => rfl
      | some v => exact absurd rfl (hshape.keyed pid "" v hget).1
    rw [hlatest]
    exact get?_applyViews_empty _ rfl
  have hgood : (s.queues q).Good tid (s.entry pid tid) :=
    ((hinv pid tid htid).good q hq).resolve_right fun ⟨t, hdue⟩ =>
      Work.not_due (hsettled t) hdue
  rw [Queue.clientMap, get?_applyViews htid, Queue.sent, hvs, Option.getD_some, lastOf_append]
  change _ = s.entry pid tid
  cases hlog : lastOf tid (s.queues q).log with
  | some v => exact (hgood.log v hlog).symm
  | none =>
    have hsent := hgood.sent vs hvs hlog
    cases hlast : lastOf tid vs with
    | none => rw [hsent, hlast]; rfl
    | some v =>
      have hget : Dict.get? (s.latest pid) tid = some v := hsent.trans hlast
      have hkept := (hshape.keyed pid tid v hget).2.2
      rw [hsent, hlast]
      exact if_neg (by simp [hkept])

section Examples

/-- A stream is opened, and then the task is published. -/
def publishEvents : List (Threads.Event Unit (Op Nat)) :=
  [.spawn (.openStream "p"), .step 0 (), .step 0 (), .spawn (.publish "t"), .step 1 (), .step 1 (),
    .step 1 (), .step 1 (), .step 1 ()]

theorem stream_agrees_publish :
    let s := (Config.run feed publishEvents (Config.initial (Feed.initial oneRow))).shared
    Dict.get? (s.latest "p") "t" = some ⟨"t", some "p", false, 0⟩ ∧
      Dict.get? (s.queues 0).clientMap "t" = Dict.get? (s.latest "p") "t" := by
  intro s
  have hok : Config.Along feed (liveContract.Permits (fun _ => True) True) publishEvents
      (Config.initial (Feed.initial oneRow)) :=
    permits_of_allowed noOverlap_idle (unstarted_initial oneRow) (by decide +kernel)
  have hsettled : s.Settled :=
    forall_work (R := fun w => w.pending = []) (unstarted_run oneRow publishEvents) rfl
      (by decide +kernel)
  have hagrees : Dict.get? (s.queues 0).clientMap "t" = Dict.get? (s.latest "p") "t" :=
    stream_agrees hok rfl hsettled (by decide +kernel) (by decide +kernel) "t"
  exact ⟨by decide +kernel, hagrees⟩

/-- Two updates of one task race: the second publisher applies its view after the first one, and
emits it before the first one emits. -/
def racingEvents : List (Threads.Event Unit (Op Nat)) :=
  [.spawn (.openStream "p"), .step 0 (), .step 0 (), .spawn (.publish "t"), .step 1 (),
    .spawn (.setBody "t" 1), .step 2 (), .spawn (.publish "t"), .step 3 (), .step 1 (),
    .step 3 (), .step 3 (), .step 3 (), .step 3 (), .step 1 (), .step 1 (), .step 1 ()]

/-- No queue was full and all operations have ended, but the client has the first view of the task
and the latest map has the second. -/
theorem stream_disagrees :
    let c := Config.run feed racingEvents (Config.initial (Feed.initial oneRow))
    Config.Along feed Roomy racingEvents (Config.initial (Feed.initial oneRow)) ∧
      c.Quiescent ∧ 0 ∈ c.shared.subs "p" ∧ ((c.shared.queues 0).snapshot ≠ none) ∧
      Dict.get? (c.shared.queues 0).clientMap "t" = some ⟨"t", some "p", false, 0⟩ ∧
      Dict.get? (c.shared.latest "p") "t" = some ⟨"t", some "p", false, 1⟩ := by
  refine ⟨by decide +kernel, List.isEmpty_iff.mp (by decide +kernel), ?_⟩
  decide +kernel

end Examples

end WebSink

end Flotilla
