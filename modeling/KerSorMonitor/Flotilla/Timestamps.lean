import KerSorMonitor.Lib.Datetime
import KerSorMonitor.Flotilla.Transactions

/-!
# Timestamps in the store (`flotilla/store.py`, `_now`)

Every time in the database is the text of `_now`, and SQLite compares these texts byte by byte.
The queue, the expiry of claims and the choice of the active worker rest on that order.

Results:
1. `pairwise_queuedTasks`: the queue is sorted by `updated_at`, then by `id`.
2. `timestamp_order_iff`: the order of the texts is the order of time, and so are the queue, the
   sweep and the active worker, exactly where no two of the compared times clash.
-/

namespace Flotilla

open Keyed Store Store.StoreLemmas Datetime

namespace TimestampLemmas

/-! ## Sorted rows -/

instance : Std.Total queueOrder where
  total a b := by
    unfold queueOrder
    rcases lt_trichotomy a.updatedAt b.updatedAt with h | h | h
    · exact Or.inl (Or.inl h)
    · rcases le_total a.id b.id with h' | h'
      · exact Or.inl (Or.inr ⟨h, h'⟩)
      · exact Or.inr (Or.inr ⟨h.symm, h'⟩)
    · exact Or.inr (Or.inl h)

instance : IsTrans Task queueOrder where
  trans a b c hab hbc := by
    unfold queueOrder at *
    rcases hab with hab | ⟨hab, hab'⟩
    · rcases hbc with hbc | ⟨hbc, -⟩
      · exact Or.inl (hab.trans hbc)
      · exact Or.inl (hbc ▸ hab)
    · rcases hbc with hbc | ⟨hbc, hbc'⟩
      · exact Or.inl (hab ▸ hbc)
      · exact Or.inr ⟨hab.trans hbc, hab'.trans hbc'⟩

/-- The queue is served in the order of `updated_at`, then of `id`. -/
theorem pairwise_queuedTasks (db : Db) : (queuedTasks db).Pairwise queueOrder :=
  List.pairwise_insertionSort queueOrder _

theorem updatedAt_le_of_queueOrder {t t' : Task} (h : queueOrder t t') :
    t.updatedAt ≤ t'.updatedAt := by
  rcases h with h | ⟨h, -⟩
  · exact h.le
  · exact h.le

/-- Of two different members of a list one comes first. -/
theorem pairwise_rel {α : Type} {R : α → α → Prop} {l : List α} (h : l.Pairwise R) {a b : α}
    (ha : a ∈ l) (hb : b ∈ l) (hne : a ≠ b) : R a b ∨ R b a := by
  induction h with
  | nil => cases ha
  | cons hhead _ ih =>
    rcases List.mem_cons.mp ha with rfl | ha'
    · rcases List.mem_cons.mp hb with rfl | hb'
      · exact absurd rfl hne
      · exact Or.inl (hhead b hb')
    · rcases List.mem_cons.mp hb with rfl | hb'
      · exact Or.inr (hhead a ha')
      · exact ih ha' hb'

/-- The active worker started no earlier, as a text, than any other. -/
theorem activeWorkerId_eq {tid : TaskId} {db : Db} {wid : WorkerId}
    (h : activeWorkerId tid db = some wid) : ∃ w ∈ db.worker.rows, w.id = wid ∧ w.taskId = tid ∧
      w.isActive = true ∧ ∀ w' ∈ db.worker.rows, w'.taskId = tid → w'.isActive = true →
        w'.startedAt ≤ w.startedAt := by
  have htotal : Std.Total fun a b : Worker => b.startedAt ≤ a.startedAt :=
    ⟨fun a b => le_total _ _⟩
  have htrans : IsTrans Worker fun a b => b.startedAt ≤ a.startedAt :=
    ⟨fun a b c hab hbc => hbc.trans hab⟩
  have hsorted := List.pairwise_insertionSort (fun a b : Worker => b.startedAt ≤ a.startedAt)
    (db.worker.rows.filter fun w => w.taskId = tid && w.isActive)
  have hmem (w : Worker) := List.mem_insertionSort (fun a b : Worker => b.startedAt ≤ a.startedAt)
    (l := db.worker.rows.filter fun w => w.taskId = tid && w.isActive) (x := w)
  unfold activeWorkerId at h
  cases hl : (db.worker.rows.filter fun w => w.taskId = tid && w.isActive).insertionSort
      fun a b => b.startedAt ≤ a.startedAt with
  | nil =>
    rw [hl] at h
    cases h
  | cons w ws =>
    rw [hl] at h hsorted
    obtain rfl := Option.some.inj h
    have hw := (hmem w).mp (hl ▸ List.mem_cons_self)
    rw [List.mem_filter, Bool.and_eq_true, decide_eq_true_eq] at hw
    refine ⟨w, hw.1, rfl, hw.2.1, hw.2.2, fun w' hw' htid hactive => ?_⟩
    have hin : w' ∈ w :: ws :=
      hl ▸ (hmem w').mpr (List.mem_filter.mpr ⟨hw', by rw [htid, hactive]; simp⟩)
    rcases List.mem_cons.mp hin with rfl | hin
    · exact le_refl _
    · exact List.rel_of_pairwise_cons hsorted hin

end TimestampLemmas

/-! ## The order of time -/

/-- The times of the rows are texts of `_now`: `stamp` is when a task row was last written, and
`start` when a worker started. -/
structure Stamped (db : Db) (stamp : TaskId → Datetime) (start : WorkerId → Datetime) : Prop where
  task : ∀ t ∈ db.task.rows, t.updatedAt = (stamp t.id).text
  worker : ∀ w ∈ db.worker.rows, w.startedAt = (start w.id).text

section Order

variable {db : Db} {stamp : TaskId → Datetime} {start : WorkerId → Datetime}

namespace TimestampLemmas

theorem row_of_queued {t : Task} (h : t ∈ queuedTasks db) : t ∈ db.task.rows :=
  (List.mem_filter.mp ((List.mem_insertionSort _).mp h)).1

/-- The queue is in the order of time unless two of its times clash. -/
theorem queue_in_order_iff (h : Stamped db stamp start) :
    ((queuedTasks db).Pairwise fun t t' => ¬ stamp t'.id < stamp t.id) ↔
      ∀ t ∈ queuedTasks db, ∀ t' ∈ queuedTasks db, ¬ Clash (stamp t.id) (stamp t'.id) := by
  have htext {t : Task} (ht : t ∈ queuedTasks db) : t.updatedAt = (stamp t.id).text :=
    h.task t (row_of_queued ht)
  constructor
  · intro hordered t ht t' ht' hclash
    have hne : t ≠ t' := by
      rintro rfl
      exact hclash.2.2 hclash.2.1
    have hlater := text_lt_of_clash hclash
    rw [← htext ht, ← htext ht'] at hlater
    rcases pairwise_rel ((pairwise_queuedTasks db).and hordered) ht ht' hne with hfirst | hfirst
    · exact absurd (updatedAt_le_of_queueOrder hfirst.1) (not_le.mpr hlater)
    · exact hfirst.2 (clash_lt hclash)
  · intro hclash
    refine (pairwise_queuedTasks db).imp_of_mem fun {t t'} ht ht' hle hlt => ?_
    have hle := updatedAt_le_of_queueOrder hle
    rw [htext ht, htext ht'] at hle
    exact absurd ((text_lt_iff hlt).mpr (hclash t' ht' t ht)) (not_lt.mpr hle)

/-- The sweep selects the claims that are older than `age` unless one of them clashes with the
cutoff. -/
theorem sweep_exact_iff (h : Stamped db stamp start) {now cutoff : Datetime} {age : Nat}
    (hcutoff : cutoff.micros + age = now.micros) :
    (∀ tid, tid ∈ staleDispatching cutoff.text db ↔ ∃ t, db.task? tid = some t ∧
        t.state = .dispatching ∧ (stamp tid).micros + age < now.micros) ↔
      ∀ t ∈ db.task.rows, t.state = .dispatching →
        ¬ Clash (stamp t.id) cutoff ∧ ¬ Clash cutoff (stamp t.id) := by
  have holder (a : Datetime) : a.micros + age < now.micros ↔ a < cutoff := by
    change _ ↔ a.micros < cutoff.micros
    omega
  have hrow {t : Task} : t ∈ db.task.rows ↔ db.task? t.id = some t := by
    unfold Db.task?
    rw [Table.get?_eq_some_iff]
    simp
  have htext {t : Task} (ht : t ∈ db.task.rows) : t.updatedAt = (stamp t.id).text := h.task t ht
  have hid {tid : TaskId} {t : Task} (ht : db.task? tid = some t) : t.id = tid := Table.key_of_get? ht
  constructor
  · intro hexact t ht hstate
    have hmem := (hexact t.id).symm.trans StoreLemmas.mem_staleDispatching
    have hiff : (stamp t.id) < cutoff ↔ (stamp t.id).text < cutoff.text := by
      rw [← holder]
      constructor
      · intro hlt
        obtain ⟨t', ht', -, hlt'⟩ := hmem.mp ⟨t, hrow.mp ht, hstate, hlt⟩
        rw [hrow.mp ht] at ht'
        cases ht'
        rwa [htext ht] at hlt'
      · intro hlt
        obtain ⟨t', -, -, hlt'⟩ := hmem.mpr ⟨t, hrow.mp ht, hstate, htext ht ▸ hlt⟩
        exact hlt'
    refine ⟨fun hclash => ?_, fun hclash => ?_⟩
    · exact lt_asymm (text_lt_of_clash hclash) (hiff.mp (clash_lt hclash))
    · exact lt_asymm (show (stamp t.id).micros < cutoff.micros from
        hiff.mpr (text_lt_of_clash hclash)) (clash_lt hclash)
  · intro hclash tid
    rw [StoreLemmas.mem_staleDispatching]
    constructor
    · rintro ⟨t, ht, hstate, hlt⟩
      have hmem : t ∈ db.task.rows := hrow.mpr (by rw [hid ht]; exact ht)
      refine ⟨t, ht, hstate, (holder _).mpr ?_⟩
      rw [htext hmem] at hlt
      have hlt := lt_of_text_lt hlt (hclash t hmem hstate).2
      rwa [hid ht] at hlt
    · rintro ⟨t, ht, hstate, hlt⟩
      have hmem : t ∈ db.task.rows := hrow.mpr (by rw [hid ht]; exact ht)
      refine ⟨t, ht, hstate, ?_⟩
      rw [htext hmem, text_lt_iff]
      · exact (hclash t hmem hstate).1
      · rw [hid ht]
        exact (holder _).mp hlt

/-- The active worker is the last one that started unless the last second clashes. -/
theorem activeWorker_latest_iff (h : Stamped db stamp start) (tid : TaskId) :
    (∀ wid, activeWorkerId tid db = some wid → ∀ w ∈ db.worker.rows, w.taskId = tid →
        w.isActive = true → ¬ start wid < start w.id) ↔
      ∀ w ∈ db.worker.rows, w.taskId = tid → w.isActive = true →
        ∀ w' ∈ db.worker.rows, w'.taskId = tid → w'.isActive = true →
          Clash (start w.id) (start w'.id) → ∃ w'' ∈ db.worker.rows, w''.taskId = tid ∧
            w''.isActive = true ∧ (start w.id).seconds < (start w''.id).seconds := by
  constructor
  · intro hlatest w hw htid hactive w' hw' htid' hactive' hclash
    by_contra hlast
    have hsome : (activeWorkerId tid db).isSome := activeWorkerId_isSome hw htid hactive
    obtain ⟨wid, hwid⟩ := Option.isSome_iff_exists.mp hsome
    obtain ⟨c, hc, rfl, hctid, hcactive, hmax⟩ := activeWorkerId_eq hwid
    -- the text of `w` is the last one of its second, so the worker that is chosen started then
    have hle := hmax w hw htid hactive
    rw [h.worker w hw, h.worker c hc, ← not_lt, text_lt_text_iff] at hle
    have hseconds : (start c.id).seconds ≤ (start w.id).seconds :=
      not_lt.mp fun hlt => hlast ⟨c, hc, hctid, hcactive, hlt⟩
    refine hlatest c.id hwid w' hw' htid' hactive' (lt_iff.mpr ?_)
    obtain ⟨hs, hzero, hpos⟩ := hclash
    have hcmicro := (start c.id).microsecond_lt
    unfold rank at hle
    rw [if_pos hzero] at hle
    split at hle <;> omega
  · intro hclash wid hwid w hw htid hactive hlt
    obtain ⟨c, hc, rfl, hctid, hcactive, hmax⟩ := activeWorkerId_eq hwid
    have hmax' {w : Worker} (hw : w ∈ db.worker.rows) (htid : w.taskId = tid)
        (hactive : w.isActive = true) : ¬ (start c.id).text < (start w.id).text := by
      rw [← h.worker w hw, ← h.worker c hc]
      exact not_lt.mpr (hmax w hw htid hactive)
    have hc' : Clash (start c.id) (start w.id) :=
      not_not.mp fun hno => hmax' hw htid hactive ((text_lt_iff hlt).mpr hno)
    obtain ⟨w'', hw'', htid'', hactive'', hseconds⟩ :=
      hclash c hc hctid hcactive w hw htid hactive hc'
    exact hmax' hw'' htid'' hactive'' (text_lt_text_iff.mpr (Or.inl hseconds))

end TimestampLemmas

end Order

/-- Midnight of the first day of 2026, and some microseconds. -/
def newYear (microsecond : Nat) (h : microsecond < 1000000) : Datetime :=
  { year := 2026, month := 1, day := 1, hour := 0, minute := 0, second := 0, microsecond
    year_pos := by decide, year_le := by decide, month_pos := by decide, month_le := by decide
    day_pos := by decide, day_le := by decide, hour_lt := by decide, minute_lt := by decide
    second_lt := by decide, microsecond_lt := h }

/-- A database with two queued tasks. -/
def twoQueued (first second : Datetime) : Db :=
  (createTasks
    [{ id := "a", projectId := "p", name := "n", spec := "s", state := .queued
       createdAt := first.text, updatedAt := first.text },
     { id := "b", projectId := "p", name := "n", spec := "s", state := .queued
       createdAt := second.text, updatedAt := second.text }]
    (Db.init.insertProject { id := "p", name := "p" }).2).2

end Flotilla
