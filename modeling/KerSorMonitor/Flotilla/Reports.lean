import KerSorMonitor.Lib.Interference
import KerSorMonitor.Flotilla.Quiet

/-!
# What a retirement reports (`flotilla/actuator.py`, `retire`)

`retire` reads the task row, and writes it in a later transaction. What other threads do in
between is arbitrary here: each action of the call finds any state at all. A `Visit` keeps what
the call itself read, asked for and committed.

Results:
1. `retire_visit`: how a retirement as `DONE`, `FAILED` or `STUCK` ends, whatever it found.
2. `retire_honest_iff`: it reports only what it committed, and refuses no live task, exactly when
   its write finds a row that may take the state.
-/

namespace Flotilla

open Keyed Threads TaskState
open Prog (call)

/-! ## Visits -/

/-- What one call of `retire` did to the task row. -/
structure Visit where
  /-- The state that it read. -/
  read : Option TaskState := none
  /-- The state that it asked for, and the state that its write found: none when there was no
  row. -/
  write : Option (String × Option TaskState) := none
  /-- The state that it committed. -/
  committed : Option TaskState := none
  deriving DecidableEq

/-- A write of `target` into the row of task `tid`. -/
def Visit.writing (v : Visit) (settings : Settings) (tid : TaskId) (target : String)
    (a : Act Bool) (env : Env) (w : World) : Visit :=
  match env.raises with
  | some _ => v
  | none =>
    { v with
      write := some (target, w.db.state? tid)
      committed :=
        match World.exec settings env a w with
        | (.ok true, w') => w'.db.state? tid
        | _ => v.committed }

/-- What an action adds to a visit of task `tid`. -/
def Visit.note (settings : Settings) (tid : TaskId) :
    {β : Type} → Act β → Env → World → Visit → Visit
  | _, .store (.getTask tid'), env, w, v =>
    if tid' = tid ∧ env.raises = none then { v with read := w.db.state? tid } else v
  | _, .store (.setTaskState tid' target expected), env, w, v =>
    if tid' = tid then v.writing settings tid target (.store (.setTaskState tid' target expected))
      env w
    else v
  | _, .store (.finishWorker tid' wid target event), env, w, v =>
    if tid' = tid then v.writing settings tid target
      (.store (.finishWorker tid' wid target event)) env w
    else v
  | _, _, _, _, v => v

/-- The actions that add nothing to a visit. -/
def Act.Unnoted : {β : Type} → Act β → Prop
  | _, .store (.getTask _) => False
  | _, .store (.setTaskState _ _ _) => False
  | _, .store (.finishWorker _ _ _ _) => False
  | _, _ => True

/-- The state that the write of a visit found. -/
def Visit.found (v : Visit) : Option TaskState := v.write.bind Prod.snd

/-- A state is reported only if it was committed by this very call, and a live task raises no
`IllegalTransition`. -/
structure Honest (r : Except PyErr (Option String)) (v : Visit) : Prop where
  committed : ∀ state, r = .ok (some state) → v.committed.map name = some state
  accepted : v.read.any isLive = true ∨ v.found.any isLive = true →
    ∀ e, r = .error e → e.cls ≠ .illegalTransition

/-- The write of a `STUCK` report finds the task `RUNNING` or `STUCK`; another write, for a task
that was read live, finds a row that may take the state, or none. -/
def Clear (request : String) (v : Visit) : Prop :=
  ∀ target found, v.write = some (target, found) →
    if request = "STUCK" then found = some running ∨ found = some stuck
    else v.read.any isLive = true → ∀ st, found = some st → (transition st target).isOk = true

/-- The runs of one call of `retire`, whatever the other threads do. -/
abbrev Visits (settings : Settings) (tid : TaskId) {α : Type} (p : Program α)
    (Q : Except PyErr α → World × Visit → Prop) (s : World × Visit) : Prop :=
  Safe (.exposed (process settings) 0 (Visit.note settings tid) fun _ _ _ => True) 0 p Q s

namespace ReportLemmas

open Effects

variable {settings : Settings} {tid : TaskId} {s : World × Visit}

theorem note_of_unnoted {β : Type} {a : Act β} (ha : a.Unnoted) (env : Env) (w : World)
    (v : Visit) : Visit.note settings tid a env w v = v := by
  cases a with
  | store q =>
    cases q with
    | getTask | setTaskState | finishWorker => exact ha.elim
    | _ => rfl
  | _ => rfl

/-- What adds nothing to the visit. -/
theorem unnoted_visits {α : Type} {p : Program α} (hp : p.All Act.Unnoted) (v : Visit)
    (hs : s.2 = v) : Visits settings tid p (fun _ s => s.2 = v) s :=
  Exposed.of_all (P := fun g => g = v)
    (fun _ ha env w g _ hg => (note_of_unnoted ha env w g).trans hg) hp hs

/-- An exception that is no refused transition. -/
abbrev Other {α : Type} (r : Except PyErr α) : Prop := ∀ e, r = .error e → e.cls ≠ .illegalTransition

theorem other_ok {α : Type} (a : α) : Other (.ok a) := fun e h => (by cases h)

theorem other_operational {α : Type} (msg : String) :
    Other (.error ⟨.operationalError, msg⟩ : Except PyErr α) := by
  rintro e ⟨⟩ hcls
  cases hcls

/-- A store call that adds nothing and cannot fail by itself. -/
theorem store_visits {α : Type} (q : Transaction α) (hq : Act.Unnoted (.store q))
    (hok : ∀ clock db, ∃ x, (q.exec settings clock db).1 = .ok x) (v : Visit) (hs : s.2 = v) :
    Visits settings tid (store q) (fun r s => Other r ∧ s.2 = v) s := by
  refine Exposed.call fun env found _ => ?_
  refine ⟨?_, (note_of_unnoted hq env found s.2).trans hs⟩
  change Other (World.exec settings env (.store q) found).1
  cases hraises : env.raises with
  | some e =>
    rw [exec_store_raised q hraises]
    exact other_operational e.msg
  | none =>
    rw [exec_store_done q hraises]
    obtain ⟨x, hx⟩ := hok env.clock found.db
    rw [hx]
    exact other_ok x

theorem getWorker?_visits (wid : Option WorkerId) (v : Visit) (hs : s.2 = v) :
    Visits settings tid (getWorker? wid) (fun r s => Other r ∧ s.2 = v) s := by
  cases wid with
  | none => exact ⟨other_ok none, hs⟩
  | some w => exact store_visits (.getWorker w) trivial (fun _ _ => ⟨_, rfl⟩) v hs

theorem endWorker?_visits (wid : Option WorkerId) (v : Visit) (hs : s.2 = v) :
    Visits settings tid (endWorker? wid) (fun r s => Other r ∧ s.2 = v) s := by
  cases wid with
  | none => exact ⟨other_ok (), hs⟩
  | some w => exact store_visits (.endWorker w) trivial (fun _ _ => ⟨_, rfl⟩) v hs

theorem recordEvent_unnoted (tid : TaskId) (type : String) (payload : JsonObj) :
    (recordEvent tid type payload).All Act.Unnoted :=
  Prog.All.bind (Prog.All.bind (Prog.all_call.mpr trivial) fun _ => trivial) fun _ =>
    Prog.all_call.mpr trivial

/-- A step whose failure is recorded, if that is possible, and ignored. -/
theorem recorded_visits {p : Program Unit} (hp : p.All Act.Unnoted) (type : String)
    (payload : PyErr → JsonObj) (v : Visit) (hs : s.2 = v) :
    Visits settings tid
      (p.tryCatch fun exc => (recordEvent tid type (payload exc)).ignoring)
      (fun r s => r = .ok () ∧ s.2 = v) s := by
  refine Safe.tryCatch ((unnoted_visits hp v hs).mono fun r s hs => ?_)
  cases r with
  | ok _ => exact ⟨rfl, hs⟩
  | error exc =>
    exact Safe.ignoring (unnoted_visits (recordEvent_unnoted _ _ _) v hs) fun s hs => ⟨rfl, hs⟩

theorem stopForRetire_visits (wid : Option WorkerId) (stopRuntime : Bool)
    (handle : Option WorkerHandle) (v : Visit) (hs : s.2 = v) :
    Visits settings tid (stopForRetire tid wid stopRuntime handle)
      (fun r s => r = .ok () ∧ s.2 = v) s := by
  unfold stopForRetire
  split
  · refine recorded_visits ?_ _ _ v hs
    exact Prog.all_call.mpr trivial
  · exact ⟨rfl, hs⟩

theorem releaseForRetire_visits (task : Task) (worker : Option Worker) (v : Visit)
    (hs : s.2 = v) :
    Visits settings tid (releaseForRetire task tid worker) (fun r s => r = .ok () ∧ s.2 = v) s := by
  unfold releaseForRetire
  split
  · exact ⟨rfl, hs⟩
  · split
    · refine recorded_visits ?_ _ _ v hs
      exact Prog.All.bind (Prog.all_ofExcept _) fun _ => Prog.all_call.mpr trivial
    · exact ⟨rfl, hs⟩

/-- A change of the registry. -/
theorem unregister_visits (caller : Caller) {α : Type} (a : α) (v : Visit) (hs : s.2 = v) :
    Visits settings tid (call (.unregister tid caller) >>= fun _ => pure a)
      (fun r s => r = .ok a ∧ s.2 = v) s :=
  Safe.bind (Exposed.call fun _ _ _ => ⟨rfl, hs⟩)

theorem concludeRetire_visits (task : Task) (wid : Option WorkerId) (worker : Option Worker)
    (result : Option String) (v : Visit) (hs : s.2 = v) :
    Visits settings tid (concludeRetire task tid wid worker result)
      (fun r s => r = .ok result ∧ s.2 = v) s := by
  refine Safe.seq (releaseForRetire_visits task worker v hs) ?_ ?_
  · rintro _ s ⟨-, hs⟩
    exact unregister_visits _ result v hs
  · rintro e s ⟨hok, -⟩
    cases hok

/-! ### The gate -/

theorem evaluateLocally_unnoted (task : Task) (name : String) (handle : Option WorkerHandle) :
    (evaluateLocally task name handle).All Act.Unnoted := by
  unfold evaluateLocally
  split
  · trivial
  · refine Prog.All.bind (Prog.all_call.mpr trivial) fun exists' => ?_
    split
    · trivial
    · exact Prog.All.bind (Prog.all_ofExcept _) fun _ => Prog.all_call.mpr trivial

theorem evaluationEvent_visits (task : Task) (handle : Option WorkerHandle) (v : Visit)
    (hs : s.2 = v) :
    Visits settings tid (evaluationEvent task handle) (fun r s => ∃ state event,
      r = .ok (state, event) ∧ (state = "DONE" ∨ state = "FAILED") ∧ s.2 = v) s := by
  unfold evaluationEvent
  split
  · exact ⟨"DONE", none, rfl, Or.inl rfl, hs⟩
  · refine Safe.bind (Safe.attempt ((unnoted_visits (evaluateLocally_unnoted _ _ _) v hs).mono
      fun result s hs => ?_))
    refine Safe.bind (Safe.bind (Exposed.call fun env found _ => ?_))
    refine ⟨_, _, rfl, ?_, hs⟩
    cases result with
    | error exc => exact Or.inr rfl
    | ok result =>
      unfold evaluationOutcome
      dsimp only
      split
      · exact Or.inl rfl
      · exact Or.inr rfl

theorem gateTerminal_visits {task : Task} (hlive : task.state.isTerminal = false)
    {terminal : String} (hterminal : terminal = "DONE" ∨ terminal = "FAILED")
    (handle : Option WorkerHandle) (v : Visit) (hs : s.2 = v) :
    Visits settings tid (gateTerminal task (some terminal) handle) (fun r s => ∃ state event,
      r = .ok (some state, event) ∧ (state = "DONE" ∨ state = "FAILED") ∧ s.2 = v) s := by
  unfold gateTerminal
  rw [if_neg (by rw [hlive]; decide)]
  split
  · refine Safe.seq (evaluationEvent_visits task handle v hs) ?_ ?_
    · rintro gated s ⟨state, event, hok, hstate, hs⟩
      cases hok
      exact ⟨state, event, rfl, hstate, hs⟩
    · rintro e s ⟨state, event, hok, -⟩
      cases hok
  · exact ⟨terminal, none, rfl, hterminal, hs⟩

/-! ### The writes -/

/-- How a write of `target` into a row ends, by the state that it found. -/
inductive WriteEnds (found : Option TaskState) (target : String)
    (expected : Option (List TaskState)) : Except PyErr Bool → Option TaskState → Prop
  | missing {left : Option TaskState} : found = none →
      WriteEnds found target expected (.ok false) left
  | unexpected {st : TaskState} {set : List TaskState} {left : Option TaskState} :
      found = some st → expected = some set → st ∉ set →
      WriteEnds found target expected (.ok false) left
  | refused {st : TaskState} {e : PyErr} {left : Option TaskState} :
      found = some st → (∀ set, expected = some set → st ∈ set) →
      transition st target = .error e →
      WriteEnds found target expected (.error e) left
  | failed {st st' : TaskState} {e : PyErr} {left : Option TaskState} :
      found = some st → (∀ set, expected = some set → st ∈ set) →
      transition st target = .ok st' → e.cls ≠ .illegalTransition →
      WriteEnds found target expected (.error e) left
  | done {st st' : TaskState} : found = some st → (∀ set, expected = some set → st ∈ set) →
      transition st target = .ok st' → WriteEnds found target expected (.ok true) (some st')

section Writes

variable {now target : String} {db db' : Db} {r : Except PyErr Bool}

theorem setTaskState_ends {expected : Option (List TaskState)}
    (h : Store.setTaskState now tid target expected db = (r, db')) :
    WriteEnds (db.state? tid) target expected r (db'.state? tid) := by
  unfold Store.setTaskState connection at h
  cases hrow : db.task? tid with
  | none =>
    simp only [hrow, Prod.mk.injEq] at h
    rw [← h.1]
    exact .missing (congrArg (Option.map Task.state) hrow)
  | some row =>
    have hfound : db.state? tid = some row.state := congrArg (Option.map Task.state) hrow
    simp only [hrow] at h
    by_cases hexp : (expected.any fun set => !set.contains row.state) = true
    · simp only [hexp, ↓reduceIte, Prod.mk.injEq] at h
      rw [← h.1]
      cases expected with
      | none => cases hexp
      | some set => exact .unexpected hfound rfl (by simpa using hexp)
    · have hexpected : ∀ set, expected = some set → row.state ∈ set := by
        rintro set rfl
        simpa using hexp
      simp only [hexp, Bool.false_eq_true, ↓reduceIte] at h
      cases htr : transition row.state target with
      | error e =>
        simp only [htr, Prod.mk.injEq] at h
        rw [← h.1]
        exact .refused hfound hexpected htr
      | ok st =>
        simp only [htr, Prod.mk.injEq] at h
        have hleft : db'.state? tid = some st := by
          rw [← h.2]
          unfold Db.state?
          rw [Store.StoreLemmas.task?_setStates_of hrow, if_pos rfl]
          rfl
        rw [← h.1, hleft]
        exact .done hfound hexpected htr

theorem finishWorker_ends {wid : Option WorkerId} {event : Option Event}
    (h : Store.finishWorker now tid wid target event db = (r, db')) :
    WriteEnds (db.state? tid) target none r (db'.state? tid) := by
  rcases Store.StoreLemmas.finishWorker_cases h with
    ⟨-, ⟨rfl, hrow⟩ | ⟨e, rfl⟩⟩ | ⟨row, st, hrow, htr, rfl, -, -, htask⟩
  · exact .missing (congrArg (Option.map Task.state) hrow)
  · unfold Store.finishWorker connection at h
    cases hrow : db.task? tid with
    | none =>
      simp only [hrow, Prod.mk.injEq] at h
      cases h.1
    | some row =>
      have hfound : db.state? tid = some row.state := congrArg (Option.map Task.state) hrow
      cases htr : transition row.state target with
      | error e' =>
        simp only [hrow, htr, Prod.mk.injEq] at h
        obtain rfl := Except.error.inj h.1
        exact .refused hfound (fun set hset => by cases hset) htr
      | ok st =>
        refine .failed hfound (fun set hset => by cases hset) htr ?_
        simp only [hrow, htr] at h
        cases event with
        | none =>
          simp only [Prod.mk.injEq] at h
          cases h.1
        | some ev =>
          generalize hended : Store.endWorkerOpt (db.setStates
            (fun t => t.id = tid && t.state = row.state) st now) wid now = db₁ at h
          cases hins : db₁.insertEvent ev with
          | ok db₂ =>
            simp only [hins, Prod.mk.injEq] at h
            cases h.1
          | error e' =>
            simp only [hins, Prod.mk.injEq] at h
            obtain rfl := Except.error.inj h.1
            unfold Db.insertEvent at hins
            split at hins
            · cases hins
            · cases hins
              intro hcls
              cases hcls
  · have hleft : db'.state? tid = some st := by
      unfold Db.state?
      rw [htask, if_pos rfl]
      rfl
    rw [hleft]
    exact .done (congrArg (Option.map Task.state) hrow) (fun set hset => by cases hset) htr

end Writes

/-- What a write of `target` adds to a visit. -/
inductive Written (v : Visit) (target : String) (expected : Option (List TaskState)) :
    Except PyErr Bool → Visit → Prop
  | busy {e : PyErr} : e.cls ≠ .illegalTransition → Written v target expected (.error e) v
  | ended {r : Except PyErr Bool} {found left committed : Option TaskState} :
      WriteEnds found target expected r left →
      committed = (if r.toOption = some true then left else v.committed) →
      Written v target expected r { v with write := some (target, found), committed := committed }

theorem write_visits (q : Transaction Bool) {target : String} {expected : Option (List TaskState)}
    (hnote : ∀ env w v, Visit.note settings tid (.store q) env w v =
      v.writing settings tid target (.store q) env w)
    (hends : ∀ {clock db r db'}, q.exec settings clock db = (r, db') →
      WriteEnds (db.state? tid) target expected r (db'.state? tid)) (v : Visit) (hs : s.2 = v) :
    Visits settings tid (store q) (fun r s => Written v target expected r s.2) s := by
  refine Exposed.call fun env found _ => ?_
  obtain rfl := hs
  dsimp only
  rw [hnote]
  change Written s.2 target expected (World.exec settings env (.store q) found).1 _
  unfold Visit.writing
  cases hraises : env.raises with
  | some e =>
    rw [exec_store_raised q hraises]
    exact .busy (other_operational (α := Unit) e.msg _ rfl)
  | none =>
    rw [exec_store_done q hraises]
    refine .ended (hends rfl) ?_
    dsimp only
    rcases (q.exec settings env.clock found.db).1 with e | _ | _ <;> rfl

theorem setTaskState_visits (target : String) (expected : Option (List TaskState)) (v : Visit)
    (hs : s.2 = v) : Visits settings tid (store (.setTaskState tid target expected))
      (fun r s => Written v target expected r s.2) s := by
  refine write_visits (.setTaskState tid target expected) (fun _ _ _ => if_pos rfl) ?_ v hs
  intro clock db r db' h
  exact setTaskState_ends h

theorem finishWorker_visits (wid : Option WorkerId) (target : String) (event : Option Event)
    (v : Visit) (hs : s.2 = v) : Visits settings tid (store (.finishWorker tid wid target event))
      (fun r s => Written v target none r s.2) s := by
  refine write_visits (.finishWorker tid wid target event) (fun _ _ _ => if_pos rfl) ?_ v hs
  intro clock db r db' h
  exact finishWorker_ends h

/-! ### Honest reports -/

theorem honest_of_unreported {r : Except PyErr (Option String)} {v : Visit} (hother : Other r)
    (h : ∀ state, r ≠ .ok (some state)) : Honest r v :=
  ⟨fun state hr => absurd hr (h state), fun _ => hother⟩

theorem clear_of_unwritten {request : String} {v : Visit} (h : v.write = none) :
    Clear request v := by
  intro target found hwrite
  rw [h] at hwrite
  cases hwrite

/-- Nothing was written, and nothing is reported. -/
theorem honest_iff_unwritten {request : String} {r : Except PyErr (Option String)} {v : Visit}
    (hother : Other r) (h : ∀ state, r ≠ .ok (some state)) (hwrite : v.write = none) :
    Honest r v ↔ Clear request v :=
  iff_of_true (honest_of_unreported hother h) (clear_of_unwritten hwrite)

theorem transition_of_live {st : TaskState} (h : st.isLive = true) {target : String}
    (htarget : target = "DONE" ∨ target = "FAILED") : (transition st target).isOk = true := by
  rcases htarget with rfl | rfl <;> cases st <;> first | rfl | cases h

theorem not_live_of_refused {st : TaskState} {target : String} {e : PyErr}
    (htarget : target = "DONE" ∨ target = "FAILED") (h : transition st target = .error e) :
    st.isLive = false := by
  by_contra hlive
  have hok := transition_of_live (Bool.not_eq_false _ ▸ hlive) htarget
  rw [h] at hok
  cases hok

/-- A write that found `st`, for a request other than `STUCK`. -/
theorem clear_iff {request target : String} (hrequest : request ≠ "STUCK") {st : TaskState}
    {v : Visit} (hwrite : v.write = some (target, some st)) :
    Clear request v ↔ (v.read.any isLive = true → (transition st target).isOk = true) := by
  constructor
  · intro h hread
    have hclear := h target (some st) hwrite
    rw [if_neg hrequest] at hclear
    exact hclear hread st rfl
  · rintro h target' found hwrite'
    rw [hwrite] at hwrite'
    cases hwrite'
    rw [if_neg hrequest]
    rintro hread _ ⟨⟩
    exact h hread

/-- What a retirement as `DONE` or `FAILED` makes of its write. -/
def finishReport (target : String) : Except PyErr Bool → Except PyErr (Option String)
  | .ok true => .ok (some target)
  | .ok false => .ok none
  | .error e => .error e

theorem honest_iff_finished {request target : String} (hrequest : request ≠ "STUCK")
    (htarget : target = "DONE" ∨ target = "FAILED") {r : Except PyErr Bool} {v v' : Visit}
    (hv : v.write = none) (hwritten : Written v target none r v') :
    Honest (finishReport target r) v' ↔ Clear request v' := by
  cases hwritten with
  | busy hcls =>
    refine honest_iff_unwritten ?_ (fun state hr => by cases hr) hv
    rintro _ ⟨⟩
    exact hcls
  | ended hends hcommitted =>
    cases hends with
    | missing hfound =>
      refine iff_of_true (honest_of_unreported (other_ok none) fun state hr => by cases hr) ?_
      rintro target' found ⟨⟩
      rw [if_neg hrequest, hfound]
      rintro - st ⟨⟩
    | unexpected hfound hset => cases hset
    | refused hfound _ htr =>
      subst hfound
      have hillegal := transition_eq_error htr
      have hdead := not_live_of_refused htarget htr
      rw [clear_iff hrequest rfl, htr]
      constructor
      · intro h hread
        exact absurd hillegal (h.accepted (Or.inl hread) _ rfl)
      · intro h
        refine ⟨fun state hr => (by cases hr), fun hlive => ?_⟩
        rcases hlive with hread | hlive
        · exact absurd (h hread) Bool.false_ne_true
        · have : (some _ : Option TaskState).any isLive = true := hlive
          rw [Option.any_some, hdead] at this
          cases this
    | failed hfound _ htr hcls =>
      subst hfound
      rw [clear_iff hrequest rfl, htr]
      refine iff_of_true ⟨fun state hr => (by cases hr), fun _ e he => ?_⟩ fun _ => rfl
      cases he
      exact hcls
    | done hfound hexp htr =>
      subst hfound
      rw [clear_iff hrequest rfl, htr]
      refine iff_of_true ⟨fun state hr => ?_, fun _ e he => (by cases he)⟩ fun _ => rfl
      cases hr
      rw [hcommitted]
      exact congrArg some (name_of_ofName? (transition_eq_ok htr).1)

/-- What a `STUCK` report makes of its write: whether it was committed is not asked. -/
def stuckReport : Except PyErr Bool → Except PyErr (Option String)
  | .ok _ => .ok (some "STUCK")
  | .error e => .error e

/-- A write of a `STUCK` report that found `found`. -/
theorem clear_stuck_iff {target : String} {found : Option TaskState} {v : Visit}
    (hwrite : v.write = some (target, found)) :
    Clear "STUCK" v ↔ found = some running ∨ found = some stuck := by
  constructor
  · intro h
    have hclear := h target found hwrite
    rwa [if_pos rfl] at hclear
  · rintro h target' found' hwrite'
    rw [hwrite] at hwrite'
    cases hwrite'
    rw [if_pos rfl]
    exact h

/-- From `PAUSED` there is no way to `STUCK`. -/
theorem stuck_of_expected {st : TaskState} (h : st ∈ [running, paused, stuck]) :
    (∃ st', transition st "STUCK" = .ok st' ∧ (st = running ∨ st = stuck)) ∨
      st = paused ∧ ∃ e, transition st "STUCK" = .error e ∧ e.cls = .illegalTransition := by
  simp only [List.mem_cons, List.not_mem_nil, or_false] at h
  rcases h with rfl | rfl | rfl
  · exact Or.inl ⟨_, rfl, Or.inl rfl⟩
  · exact Or.inr ⟨rfl, _, rfl, rfl⟩
  · exact Or.inl ⟨_, rfl, Or.inr rfl⟩

theorem honest_iff_stuck {r : Except PyErr Bool} {v v' : Visit} (hv : v.write = none)
    (hc : v.committed = none)
    (hwritten : Written v "STUCK" (some [running, paused, stuck]) r v') :
    Honest (stuckReport r) v' ↔ Clear "STUCK" v' := by
  have hunreported {v' : Visit} (hc' : v'.committed = none) : ¬ Honest (stuckReport (.ok false)) v' := by
    intro h
    have hname := h.committed "STUCK" rfl
    rw [hc'] at hname
    cases hname
  cases hwritten with
  | busy hcls =>
    refine honest_iff_unwritten ?_ (fun state hr => by cases hr) hv
    rintro _ ⟨⟩
    exact hcls
  | ended hends hcommitted =>
    rw [clear_stuck_iff rfl]
    cases hends with
    | missing hfound =>
      refine iff_of_false (hunreported (hcommitted.trans hc)) ?_
      rw [hfound]
      rintro (h | h) <;> cases h
    | unexpected hfound hset hmem =>
      cases hset
      refine iff_of_false (hunreported (hcommitted.trans hc)) ?_
      rw [hfound]
      rintro (h | h) <;> cases h <;> exact hmem (by decide)
    | refused hfound hexp htr =>
      subst hfound
      rcases stuck_of_expected (hexp _ rfl) with ⟨st', hok, -⟩ | ⟨rfl, -⟩
      · rw [hok] at htr
        cases htr
      · refine iff_of_false (fun h => ?_) (by decide)
        exact h.accepted (Or.inr rfl) _ rfl (transition_eq_error htr)
    | failed hfound hexp htr hcls =>
      subst hfound
      rcases stuck_of_expected (hexp _ rfl) with ⟨st', -, hst⟩ | ⟨rfl, e, he, -⟩
      · refine iff_of_true ⟨fun state hr => (by cases hr), fun _ e he => ?_⟩ ?_
        · cases he
          exact hcls
        · exact hst.imp (congrArg some) (congrArg some)
      · rw [he] at htr
        cases htr
    | done hfound hexp htr =>
      subst hfound
      rcases stuck_of_expected (hexp _ rfl) with ⟨st', -, hst⟩ | ⟨rfl, e, he, -⟩
      · refine iff_of_true ⟨fun state hr => ?_, fun _ e he => (by cases he)⟩ ?_
        · cases hr
          rw [hcommitted]
          exact congrArg some (name_of_ofName? (transition_eq_ok htr).1)
        · exact hst.imp (congrArg some) (congrArg some)
      · rw [he] at htr
        cases htr

/-! ### The programs -/

/-- The read of the row. -/
theorem getTask_visits (v : Visit) (hs : s.2 = v) :
    Visits settings tid (store (.getTask tid)) (fun r s =>
      (∃ e, r = .error e ∧ e.cls ≠ .illegalTransition ∧ s.2 = v) ∨
        ∃ task, r = .ok task ∧ s.2 = { v with read := task.map Task.state }) s := by
  refine Exposed.call fun env found _ => ?_
  obtain rfl := hs
  change (∃ e, (World.exec settings env (.store (.getTask tid)) found).1 = .error e ∧ _ ∧ _) ∨
    ∃ task, (World.exec settings env (.store (.getTask tid)) found).1 = .ok task ∧ _
  cases hraises : env.raises with
  | some e =>
    rw [exec_store_raised _ hraises]
    refine Or.inl ⟨_, rfl, other_operational (α := Unit) e.msg _ rfl, ?_⟩
    simp only [Visit.note, hraises]
    rfl
  | none =>
    rw [exec_store_done _ hraises]
    refine Or.inr ⟨_, rfl, ?_⟩
    simp only [Visit.note, hraises, and_self, if_true]
    rfl

theorem retireStuck_visits (v : Visit) (hw : v.write = none) (hc : v.committed = none)
    (hs : s.2 = v) :
    Visits settings tid (retireStuck tid) (fun r s => Honest r s.2 ↔ Clear "STUCK" s.2) s := by
  have hunread (st : Option TaskState) : Honest (.ok none) { v with read := st } ↔
      Clear "STUCK" { v with read := st } :=
    honest_iff_unwritten (other_ok none) (fun state hr => by cases hr) hw
  refine Safe.seq (getTask_visits v hs) ?_ ?_
  · rintro task s (⟨e, he, -⟩ | ⟨_, ⟨⟩, hs⟩)
    · cases he
    · cases task with
      | none =>
        change Honest (.ok none) s.2 ↔ Clear "STUCK" s.2
        rw [hs]
        exact hunread _
      | some task =>
        dsimp only
        split
        · change Honest (.ok none) s.2 ↔ Clear "STUCK" s.2
          rw [hs]
          exact hunread _
        · refine Safe.bind ((setTaskState_visits _ _ _ hs).mono fun r s hwritten => ?_)
          have hiff := honest_iff_stuck (v := { v with read := some task.state }) hw hc hwritten
          cases r <;> exact hiff
  · rintro e s (⟨_, ⟨⟩, hcls, hs⟩ | ⟨task, he, -⟩)
    · refine honest_iff_unwritten ?_ (fun state hr => by cases hr) (by rw [hs]; exact hw)
      rintro _ ⟨⟩
      exact hcls
    · cases he

theorem commitRetire_visits {task : Task} (hlive : task.state.isTerminal = false)
    {request : String} (hrequest : request = "DONE" ∨ request = "FAILED")
    (wid : Option WorkerId) (worker : Option Worker) (handle : Option WorkerHandle) (v : Visit)
    (hw : v.write = none) (hs : s.2 = v) :
    Visits settings tid (commitRetire task tid wid worker (some request) handle)
      (fun r s => Honest r s.2 ↔ Clear request s.2) s := by
  have hne : request ≠ "STUCK" := by rcases hrequest with rfl | rfl <;> decide
  refine Safe.seq (gateTerminal_visits hlive hrequest handle v hs) ?_ ?_
  · rintro _ s ⟨target, event, ⟨⟩, htarget, hs⟩
    have hsome : nonEmpty? (some target) = some target := by
      rcases htarget with rfl | rfl <;> rfl
    dsimp only
    rw [hsome]
    refine Safe.bind ((finishWorker_visits wid target event v hs).mono fun r s hwritten => ?_)
    have hiff := honest_iff_finished hne htarget hw hwritten
    rcases r with e | _ | _
    · exact hiff
    · exact hiff
    · refine (concludeRetire_visits task wid worker _ s.2 rfl).mono ?_
      rintro _ s' ⟨rfl, hs'⟩
      rw [hs', hlive]
      exact hiff
  · rintro e s ⟨_, _, he, -⟩
    cases he

/-- The end of a worker whose task is already terminal: nothing is written, nothing reported. -/
theorem commitRetire_ended {task : Task} (hended : task.state.isTerminal = true)
    (request : Option String) (wid : Option WorkerId) (worker : Option Worker)
    (handle : Option WorkerHandle) (v : Visit) (hs : s.2 = v) :
    Visits settings tid (commitRetire task tid wid worker request handle)
      (fun r s => Other r ∧ (∀ state, r ≠ .ok (some state)) ∧ s.2 = v) s := by
  have hgate : gateTerminal task request handle = pure (none, none) := if_pos hended
  unfold commitRetire
  rw [hgate]
  change Visits settings tid
    (endWorker? wid >>= fun _ => concludeRetire task tid wid worker none) _ s
  refine Safe.seq (endWorker?_visits wid v hs) ?_ ?_
  · rintro _ s ⟨-, hs⟩
    refine (concludeRetire_visits task wid worker none v hs).mono ?_
    rintro _ s ⟨rfl, hs⟩
    exact ⟨other_ok none, fun state hr => (by cases hr), hs⟩
  · rintro e s ⟨hother, hs⟩
    refine ⟨?_, fun state hr => (by cases hr), hs⟩
    rintro _ ⟨⟩
    exact hother e rfl

theorem retireBody_visits {request : String} (hrequest : request = "DONE" ∨ request = "FAILED")
    (wid : Option WorkerId) (stopRuntime : Bool) (handle : Option WorkerHandle) (v : Visit)
    (hw : v.write = none) (hs : s.2 = v) :
    Visits settings tid (retireBody tid wid (some request) stopRuntime handle)
      (fun r s => Honest r s.2 ↔ Clear request s.2) s := by
  have hquiet {r : Except PyErr (Option String)} (hother : Other r) (h : ∀ state, r ≠ .ok (some state))
      {v' : Visit} (hw' : v'.write = none) : Honest r v' ↔ Clear request v' :=
    honest_iff_unwritten hother h hw'
  have hnone (st : Option TaskState) : Honest (.ok none) { v with read := st } ↔
      Clear request { v with read := st } :=
    hquiet (other_ok none) (fun state hr => by cases hr) hw
  refine Safe.seq (getWorker?_visits wid v hs) ?_ ?_
  · rintro worker s ⟨-, hs⟩
    refine Safe.seq (getTask_visits v hs) ?_ ?_
    · rintro task s (⟨e, he, -⟩ | ⟨_, ⟨⟩, hs⟩)
      · cases he
      · cases task with
        | none =>
          refine (unregister_visits _ none _ hs).mono ?_
          rintro _ s ⟨rfl, hs⟩
          rw [hs]
          exact hnone _
        | some task =>
          dsimp only
          split
          · refine (unregister_visits _ none _ hs).mono ?_
            rintro _ s ⟨rfl, hs⟩
            rw [hs]
            exact hnone _
          · refine Safe.seq (stopForRetire_visits wid stopRuntime handle _ hs) ?_ ?_
            · rintro _ s ⟨-, hs⟩
              cases hterminal : task.state.isTerminal with
              | false =>
                exact commitRetire_visits hterminal hrequest wid worker handle
                  { v with read := some task.state } hw hs
              | true =>
                refine (commitRetire_ended hterminal _ wid worker handle _ hs).mono ?_
                rintro r s ⟨hother, hunreported, hs⟩
                exact hquiet hother hunreported (by rw [hs]; exact hw)
            · rintro e s ⟨he, -⟩
              cases he
    · rintro e s (⟨_, ⟨⟩, hcls, hs⟩ | ⟨task, he, -⟩)
      · refine hquiet ?_ (fun state hr => by cases hr) (by rw [hs]; exact hw)
        rintro _ ⟨⟩
        exact hcls
      · cases he
  · rintro e s ⟨hother, hs⟩
    refine hquiet ?_ (fun state hr => by cases hr) (by rw [hs]; exact hw)
    rintro _ ⟨⟩
    exact hother e rfl

theorem retire_visits {request : String} (hrequest : request ∈ ["DONE", "FAILED", "STUCK"])
    (wid : Option WorkerId) (stopRuntime : Bool) (w : World) :
    Visits settings tid (retire tid wid (some request) stopRuntime)
      (fun r s => Honest r s.2 ↔ Clear request s.2) (w, {}) := by
  unfold retire
  by_cases hstuck : request = "STUCK"
  · subst hstuck
    rw [if_pos rfl]
    exact retireStuck_visits {} rfl rfl rfl
  · have hfinish : request = "DONE" ∨ request = "FAILED" := by
      simp only [List.mem_cons, List.not_mem_nil, or_false] at hrequest
      rcases hrequest with h | h | h
      · exact Or.inl h
      · exact Or.inr h
      · exact absurd h hstuck
    rw [if_neg fun h => hstuck (Option.some.inj h)]
    refine Safe.bind (Exposed.call fun env found _ => ?_)
    have hnone : Honest (.ok none) ({} : Visit) ↔ Clear request {} :=
      honest_iff_unwritten (other_ok none) (fun state hr => by cases hr) rfl
    have hbegin : ∃ handle, ((process settings).exec 0 (.beginRetire tid) env found).1 = .ok handle := by
      change ∃ handle, (World.exec settings env (.beginRetire tid) found).1 = .ok handle
      simp only [World.exec]
      split
      · exact ⟨_, rfl⟩
      · exact ⟨_, rfl⟩
    obtain ⟨handle, hhandle⟩ := hbegin
    rw [hhandle]
    cases handle with
    | none => exact hnone
    | some handle =>
      refine Safe.tryFinally ((retireBody_visits hfinish wid stopRuntime handle {} rfl rfl).mono
        fun r s hiff => Exposed.call fun _ _ _ => ?_)
      exact hiff

end ReportLemmas

open ReportLemmas in
/-- Whatever the other threads do, a retirement as `DONE`, `FAILED` or `STUCK` is honest if and only
if its write finds a row that may take the state. -/
theorem retire_honest_iff (settings : Settings) (tid : TaskId) (wid : Option WorkerId)
    (request : String) (hrequest : request ∈ ["DONE", "FAILED", "STUCK"]) (stopRuntime : Bool)
    (found : List (World × Env)) {r : Except PyErr (Option String)} {v : Visit}
    (hrun : (retire tid wid (some request) stopRuntime).exposed (process settings) 0
      (Visit.note settings tid) found {} = some (r, v)) : Honest r v ↔ Clear request v := by
  have hsafe : Visits settings tid (retire tid wid (some request) stopRuntime)
      (fun r s => Honest r s.2 ↔ Clear request s.2) (World.boot Db.init, {}) :=
    retire_visits hrequest wid stopRuntime (World.boot Db.init)
  refine Exposed.of_run (Q := fun r v => Honest r v ↔ Clear request v) hsafe ?_ hrun
  exact Prog.suffers_of_forall _ _ fun _ _ _ => trivial

/-- A world with one task, in a state. -/
def rowIn (st : TaskState) : World :=
  .boot (Store.createTasks [{ id := "t", projectId := "p", name := "n", spec := "s", state := st }]
    (Db.init.insertProject { id := "p", name := "p" }).2).2

/-- A `STUCK` report of a task that is found in these states, one by each of its transactions. -/
def stuckRun (states : List TaskState) : Option (Except PyErr (Option String) × Visit) :=
  (retire "t" none (some "STUCK") true).exposed (process {}) 0 (Visit.note {} "t")
    (states.map fun st => (rowIn st, {})) {}

theorem stuck_report_honest :
    Honest (.ok (some "STUCK")) ⟨some .running, some ("STUCK", some .running), some .stuck⟩ := by
  refine (retire_honest_iff {} "t" none "STUCK" (by decide) true
    [(rowIn .running, {}), (rowIn .running, {})] rfl).mpr ?_
  rintro target found ⟨⟩
  exact Or.inl rfl

/-- Another thread retires the task as `DONE` between the read and the write: `STUCK` is reported
and nothing was committed. A `PAUSED` task raises `IllegalTransition`. -/
theorem stuck_report_dishonest :
    stuckRun [.running, .done] =
      some (.ok (some "STUCK"), ⟨some .running, some ("STUCK", some .done), none⟩) ∧
    ¬ Honest (.ok (some "STUCK")) ⟨some .running, some ("STUCK", some .done), none⟩ ∧
    ∃ e, stuckRun [.paused, .paused] =
        some (.error e, ⟨some .paused, some ("STUCK", some .paused), none⟩) ∧
      ¬ Honest (.error e) ⟨some .paused, some ("STUCK", some .paused), none⟩ := by
  refine ⟨rfl, fun h => ?_, _, rfl, fun h => ?_⟩
  · cases h.committed "STUCK" rfl
  · exact h.accepted (Or.inl rfl) _ rfl rfl

end Flotilla
