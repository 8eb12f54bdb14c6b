import KerSorMonitor.Lib.Interference
import KerSorMonitor.Flotilla.Routes

/-!
# Verdicts on a worker (`observe_and_record`, `_map_terminal`)

A local worker writes its state to `status.json`. The observer keeps that state when its
lower-cased form is terminal (it is authoritative), else it adopts the state that the runtime
adapter reports; `_map_terminal` classifies what was recorded, as it stands.

Results:
1. `observeAndRecord_record`: every record of a local observation is an `observedRecord`.
2. `verdict_agrees_iff`: the two agree on a state, in the file and in a heartbeat, if and only if
   the state is terminal as it is written whenever its lower-cased form is.
-/

namespace Flotilla

open Threads
open Prog (call)

/-! ## What is recorded -/

/-- No key of a record decides a verdict. -/
def Unclaimed (record : JsonObj) : Prop :=
  ∀ kv ∈ record, kv.1 ≠ "status_state" ∧ kv.1 ≠ "pane_tail" ∧ kv.1 ≠ "exited"

/-- The record of a local worker: its status file, the observation of the adapter and what is
known of its session. -/
def observedRecord (status : JsonObj) (candidates : Nat) (obs : Observation) (session : JsonObj) :
    JsonObj :=
  normalizeStatusRecord
    (((adoptObservation status (localRecord status candidates) obs).update session).set
      "exited" (.bool obs.exited))

/-- The state that is recorded: the file's if its lower-cased form is terminal, else the
adapter's. -/
def recordedState (status : JsonObj) (obs : Observation) : Json :=
  if terminalStatusStates.contains (statusStateText status) then
    (status.get? "state").getD (.str "running")
  else obs.state

namespace VerdictLemmas

theorem takeChars_of_length_le {limit : Nat} {s : String} (h : s.toList.length ≤ limit) :
    takeChars limit s = s := by
  unfold takeChars
  rw [List.take_of_length_le h, String.ofList_toList]

theorem length_lastChars_le (limit : Nat) (s : String) :
    (lastChars limit s).toList.length ≤ limit := by
  unfold lastChars
  rw [String.toList_ofList, List.length_drop]
  omega

theorem get?_normalize_statusState (source : JsonObj) :
    ((normalizeStatusRecord source).get? "status_state").bind Json.str? =
      ((source.get? "status_state").bind Json.str?).map (takeChars 64) := by
  simp only [normalizeStatusRecord, stringLimits, List.foldl, JsonObj.get?_set,
    reduceIte, String.reduceEq]
  cases hget : source.get? "status_state" with
  | none => rfl
  | some v => cases v <;> rfl

theorem get?_normalize_paneTail (source : JsonObj) :
    ((normalizeStatusRecord source).get? "pane_tail").bind Json.str? =
      some ((((source.get? "pane_tail").bind Json.str?).map (takeChars 16384)).getD "") := by
  simp only [normalizeStatusRecord, stringLimits, List.foldl, JsonObj.get?_set,
    reduceIte, String.reduceEq]
  cases hget : source.get? "pane_tail" with
  | none => rfl
  | some v => cases v <;> rfl

theorem get?_normalize_exited (source : JsonObj) :
    ((normalizeStatusRecord source).get? "exited").any Json.truthy =
      (source.get? "exited").any Json.truthy :=
  (congrArg (Option.any Json.truthy) (JsonObj.get?_set_self _ _ _)).trans rfl

theorem get?_adoptObservation_statusState (status : JsonObj) (candidates : Nat)
    {obs : Observation} (h : Unclaimed obs.extra) :
    (adoptObservation status (localRecord status candidates) obs).get? "status_state" =
      some (recordedState status obs) := by
  unfold adoptObservation recordedState
  rw [JsonObj.get?_update_of_ne _ _ fun kv hkv => (h kv hkv).1]
  split
  · rw [JsonObj.get?_set_of_ne _ _ _ (by decide)]
    rfl
  · rw [JsonObj.get?_set_self]

theorem get?_adoptObservation_paneTail (status record : JsonObj) {obs : Observation}
    (h : Unclaimed obs.extra) :
    (adoptObservation status record obs).get? "pane_tail" =
      some (.str (lastChars 300 obs.paneTail)) := by
  unfold adoptObservation
  rw [JsonObj.get?_update_of_ne _ _ fun kv hkv => (h kv hkv).2.1]
  split
  · rw [JsonObj.get?_set_self]
  · rw [JsonObj.get?_set_of_ne _ _ _ (by decide), JsonObj.get?_set_self]

theorem recordTerminal_observedRecord {status : JsonObj} (candidates : Nat) {obs : Observation}
    {session : JsonObj} (hobs : Unclaimed obs.extra) (hsession : Unclaimed session) :
    recordTerminal (observedRecord status candidates obs session) =
      mapTerminal ((recordedState status obs).str?.map (takeChars 64)) obs.exited
        (lastChars 300 obs.paneTail) := by
  have htail : takeChars 16384 (lastChars 300 obs.paneTail) = lastChars 300 obs.paneTail :=
    takeChars_of_length_le ((length_lastChars_le 300 obs.paneTail).trans (by decide))
  unfold recordTerminal observedRecord
  rw [get?_normalize_statusState, get?_normalize_paneTail, get?_normalize_exited,
    JsonObj.get?_set_of_ne _ _ _ (by decide), JsonObj.get?_set_self,
    JsonObj.get?_set_of_ne _ _ _ (by decide),
    JsonObj.get?_update_of_ne _ _ fun kv hkv => (hsession kv hkv).1,
    JsonObj.get?_update_of_ne _ _ fun kv hkv => (hsession kv hkv).2.1,
    get?_adoptObservation_statusState status candidates hobs,
    get?_adoptObservation_paneTail status _ hobs]
  change mapTerminal _ _ (takeChars 16384 (lastChars 300 obs.paneTail)) = _
  rw [htail]
  rfl

end VerdictLemmas

/-! ## The program -/

/-- What a local observation is answered: the status file, and the observation of the adapter;
what is read of the session decides no verdict. -/
def LocalAnswers (file : StatusFile) (obs : Observation) : {β : Type} → Act β → Env → World → Prop
  | _, .readStatus _, env, _ => env.statusFile = file
  | _, .observe _, env, _ => env.raises = none ∧ env.observation = obs
  | _, .sessionActivity _ _, env, _ => ∀ record, env.record = some record → Unclaimed record
  | _, _, _, _ => True

section Program

variable {settings : Settings} {file : StatusFile} {obs : Observation} {status : JsonObj}
  {s : World × Unit}

/-- The runs of an observation with these answers, whatever the other threads do. -/
abbrev LocalRuns (settings : Settings) (file : StatusFile) (obs : Observation) {α : Type}
    (p : Program α) (Q : Except PyErr α → World × Unit → Prop) (s : World × Unit) : Prop :=
  Safe (.exposed (process settings) 0 (fun _ _ _ g => g) (LocalAnswers file obs)) 0 p Q s

namespace VerdictLemmas

theorem outside_eq_ok {α : Type} {env : Env} {a x : α} {w : World}
    (h : (env.outside a w).1 = .ok x) : a = x := by
  unfold Env.outside at h
  cases hraises : env.raises with
  | none =>
    rw [hraises] at h
    exact Except.ok.inj h
  | some e =>
    rw [hraises] at h
    cases h

/-- The pairs that a record of the session can start with. -/
theorem unclaimed_session (uuid : String) {activity : JsonObj} (h : Unclaimed activity) :
    Unclaimed (("session_uuid", .str uuid) :: activity) := by
  intro kv hkv
  rcases List.mem_cons.mp hkv with rfl | hkv
  · show "session_uuid" ≠ "status_state" ∧ "session_uuid" ≠ "pane_tail" ∧ "session_uuid" ≠ "exited"
    decide
  · exact h kv hkv

theorem unclaimed_nil : Unclaimed [] := fun _ hkv => absurd hkv List.not_mem_nil

theorem addActivity_runs (wid : Option WorkerId) (h : WorkerHandle) (record : JsonObj) :
    LocalRuns settings file obs (addActivity wid h record) (fun r _ => ∀ out, r = .ok out →
      ∃ session, Unclaimed session ∧ out = record.update session) s := by
  have hout {session : JsonObj} (hsession : Unclaimed session) : ∀ out,
      (Except.ok (record.update session) : Except PyErr JsonObj) = .ok out →
      ∃ session, Unclaimed session ∧ out = record.update session :=
    fun out heq => ⟨session, hsession, (Except.ok.inj heq).symm⟩
  refine Safe.bind (Safe.attempt ((Exposed.any _ s).mono fun uuid s _ => ?_))
  rcases uuid with _ | _ | uuid
  · exact hout unclaimed_nil
  · exact hout unclaimed_nil
  · refine Safe.bind (Safe.attempt (Exposed.call fun env found hallow => ?_))
    have hactivity : ∀ activity, (env.outside env.record found).1 = .ok (some activity) →
        Unclaimed activity := fun activity hok => hallow activity (outside_eq_ok hok)
    rcases hres : ((process settings).exec 0 (.sessionActivity h.workspace uuid) env found).1
      with e | _ | activity
    · exact hout (unclaimed_session uuid unclaimed_nil)
    · exact hout (unclaimed_session uuid unclaimed_nil)
    · exact hout (unclaimed_session uuid (hactivity activity hres))

theorem observeLocal_runs (hload : loadStatus settings.limits file = .ok status)
    (wid : Option WorkerId) (h : WorkerHandle) (rt : RuntimeAdapter) :
    LocalRuns settings file obs (observeLocal settings wid h rt) (fun r _ => ∀ out, r = .ok out →
      ∃ candidates session, Unclaimed session ∧ out.2 = obs.exited ∧ out.1 =
        (adoptObservation status (localRecord status candidates) obs).update session) s := by
  refine Safe.bind (Exposed.call fun env found hallow => ?_)
  obtain rfl : env.statusFile = file := hallow
  change LocalRuns _ _ _ (Prog.ofExcept (loadStatus settings.limits env.statusFile) >>= _) _ _
  rw [hload, Prog.ofExcept_ok_bind]
  refine Safe.seq (Exposed.any _ _) (fun candidates s _ => ?_) (fun e s _ out hout => by cases hout)
  refine Safe.bind (Safe.attempt (Exposed.call fun env found hallow => ?_))
  obtain ⟨hraises, rfl⟩ : env.raises = none ∧ env.observation = obs := hallow
  have hobs : ((process settings).exec 0 (.observe h) env found).1 = .ok env.observation := by
    change (env.outside env.observation found).1 = _
    unfold Env.outside
    rw [hraises]
  rw [hobs]
  dsimp only
  split
  · refine Safe.seq (addActivity_runs wid h _) (fun record s hrecord => ?_)
      (fun e s _ out hout => by cases hout)
    rintro out ⟨⟩
    obtain ⟨session, hsession, rfl⟩ := hrecord record rfl
    exact ⟨candidates, session, hsession, rfl, rfl⟩
  · rintro out ⟨⟩
    exact ⟨candidates, [], unclaimed_nil, rfl, rfl⟩

end VerdictLemmas

open VerdictLemmas in
/-- Whatever the other threads do, the record of a local observation is made of the status file,
of the observation of the adapter and of what is known of the session. -/
theorem observeAndRecord_record (hload : loadStatus settings.limits file = .ok status)
    (wid : Option WorkerId) {h : WorkerHandle} (hlocal : h.host? = none) (publish : Bool) :
    LocalRuns settings file obs (observeAndRecord settings wid h publish) (fun r _ =>
      ∀ record, r = .ok record → ∃ candidates session, Unclaimed session ∧
        record = observedRecord status candidates obs session) s := by
  have herr (e : PyErr) (s : World × Unit) (record : JsonObj)
      (hout : (Except.error e : Except PyErr JsonObj) = .ok record) : ∃ candidates session,
      Unclaimed session ∧ record = observedRecord status candidates obs session := by cases hout
  unfold observeAndRecord
  refine Safe.seq (Exposed.any _ _) (fun rt s _ => ?_) (fun e s _ => herr e s)
  have hworker : observeWorker settings wid h rt = observeLocal settings wid h rt := by
    unfold observeWorker
    rw [hlocal]
    rfl
  rw [hworker]
  refine Safe.seq (observeLocal_runs hload wid h rt) (fun out s hout => ?_)
    (fun e s _ => herr e s)
  obtain ⟨candidates, session, hsession, hexited, hrecord⟩ := hout out rfl
  obtain ⟨record, exited⟩ := out
  obtain rfl : exited = obs.exited := hexited
  obtain rfl := hrecord
  refine Safe.seq (Exposed.any _ _) (fun _ s _ => ?_) (fun e s _ => herr e s)
  have hdone (s : World × Unit) : ∀ record, Except.ok (observedRecord status candidates obs session)
      = (.ok record : Except PyErr JsonObj) → ∃ candidates session, Unclaimed session ∧
      record = observedRecord status candidates obs session :=
    fun record hout => ⟨candidates, session, hsession, (Except.ok.inj hout).symm⟩
  split
  · exact Safe.seq (Exposed.any _ _) (fun _ s _ => hdone s) (fun e s _ => herr e s)
  · exact hdone s

end Program

/-! ## Verdicts -/

/-- The file keeps its authority: the adapter's state is discarded. -/
def Authoritative (s : String) : Prop := terminalStatusStates.contains (pyLower s) = true

instance (s : String) : Decidable (Authoritative s) := inferInstanceAs (Decidable (_ = true))

/-- The task state that a terminal status stands for. -/
def statusClass (s : String) : Option String :=
  if successStatusStates.contains s then some "DONE"
  else if stuckStatusStates.contains s then some "STUCK"
  else if failedStatusStates.contains s then some "FAILED"
  else none

/-- The observations of one process with a file that says `s` and without it: an adapter may
itself report the state of the file. -/
def SameProcess (s : String) (obs obs' : Observation) : Prop :=
  obs'.exited = obs.exited ∧ obs'.paneTail = obs.paneTail ∧
    (obs'.state = obs.state ∨ obs.state = .str s ∧ obs'.state = .str "running")

/-- What is asked of the verdicts on a state: from the file, without the file, and from a
heartbeat. -/
structure VerdictsAgree (s : String) (fromFile withoutFile fromPing : Option String) : Prop where
  authoritative : Authoritative s → fromFile = statusClass (pyLower s)
  ordinary : ¬ Authoritative s → fromFile = withoutFile
  heartbeat : fromPing = statusClass (pyLower s)

namespace VerdictLemmas

theorem statusClass_isSome {s : String} :
    (statusClass s).isSome = terminalStatusStates.contains s := by
  unfold statusClass terminalStatusStates
  rw [List.contains_append, List.contains_append]
  cases successStatusStates.contains s <;> cases stuckStatusStates.contains s <;>
    cases failedStatusStates.contains s <;> rfl

theorem mapTerminal_some (s : String) (exited : Bool) (paneTail : String) :
    mapTerminal (some s) exited paneTail =
      (statusClass s).or (mapTerminal none exited paneTail) := by
  unfold mapTerminal statusClass
  simp only [Option.any_some, Option.any_none, Bool.false_eq_true, if_false]
  split_ifs <;> rfl

/-- A terminal state is short, and in lower case. -/
theorem plain_of_terminal {s : String} (h : terminalStatusStates.contains s = true) :
    s.toList.length < 64 ∧ pyLower s = s := by
  have hall : terminalStatusStates.all
      (fun s => decide (s.toList.length < 64 ∧ pyLower s = s)) = true := by decide
  exact of_decide_eq_true (List.all_eq_true.mp hall s (List.contains_iff_mem.mp h))

theorem terminal_of_takeChars {s : String}
    (h : terminalStatusStates.contains (takeChars 64 s) = true) :
    terminalStatusStates.contains s = true := by
  have hlen := (plain_of_terminal h).1
  unfold takeChars at hlen
  rw [String.toList_ofList, List.length_take] at hlen
  rwa [takeChars_of_length_le (by omega)] at h

theorem authoritative_of_terminal {s : String} (h : terminalStatusStates.contains s = true) :
    Authoritative s := by
  unfold Authoritative
  rwa [(plain_of_terminal h).2]

theorem mapTerminal_of_not_authoritative {s : String} (h : ¬ Authoritative s) (exited : Bool)
    (paneTail : String) :
    mapTerminal (some (takeChars 64 s)) exited paneTail = mapTerminal none exited paneTail := by
  have hnone : statusClass (takeChars 64 s) = none := by
    rw [← Option.not_isSome_iff_eq_none, statusClass_isSome]
    exact fun hterminal => h (authoritative_of_terminal (terminal_of_takeChars hterminal))
  rw [mapTerminal_some, hnone, Option.none_or]

theorem statusStateText_of_str {status : JsonObj} {s : String}
    (h : status.get? "state" = some (.str s)) : statusStateText status = pyLower s := by
  unfold statusStateText
  rw [h, Option.filter_some]
  by_cases hs : s = ""
  · subst hs
    rfl
  · have htruthy : (Json.str s).truthy = true := by simpa [Json.truthy] using hs
    rw [htruthy]
    rfl

theorem recordedState_authoritative {status : JsonObj} {s : String}
    (h : status.get? "state" = some (.str s)) (hs : Authoritative s) (obs : Observation) :
    recordedState status obs = .str s := by
  unfold Authoritative at hs
  unfold recordedState
  rw [statusStateText_of_str h, if_pos hs, h]
  rfl

theorem recordedState_ordinary {status : JsonObj} {s : String}
    (h : status.get? "state" = some (.str s)) (hs : ¬ Authoritative s) (obs : Observation) :
    recordedState status obs = obs.state := by
  unfold Authoritative at hs
  unfold recordedState
  rw [statusStateText_of_str h, if_neg hs]

theorem recordedState_nil (obs : Observation) : recordedState [] obs = obs.state := by
  have hnil : ¬ terminalStatusStates.contains (statusStateText []) = true := by decide
  unfold recordedState
  rw [if_neg hnil]

theorem mapTerminal_of_terminal {s : String} (h : terminalStatusStates.contains s = true)
    (exited : Bool) (paneTail : String) :
    mapTerminal (some s) exited paneTail = statusClass s := by
  obtain ⟨c, hc⟩ := Option.isSome_iff_exists.mp (statusClass_isSome.trans h)
  rw [mapTerminal_some, hc, Option.some_or]

theorem mapTerminal_ping (s : String) : mapTerminal (some s) false "" = statusClass s := by
  have hnone : mapTerminal none false "" = none := by decide
  rw [mapTerminal_some, hnone, Option.or_none]

end VerdictLemmas

open VerdictLemmas in
/-- The verdicts on a state agree if and only if the state is terminal as it is written whenever
its lower-cased form is. -/
theorem verdict_agrees_iff {status : JsonObj} {s : String}
    (hstate : status.get? "state" = some (.str s)) {obs obs' : Observation}
    (hsame : SameProcess s obs obs') (hobs : Unclaimed obs.extra) (hobs' : Unclaimed obs'.extra)
    {session session' : JsonObj} (hsession : Unclaimed session) (hsession' : Unclaimed session')
    (candidates candidates' : Nat) :
    VerdictsAgree s (recordTerminal (observedRecord status candidates obs session))
      (recordTerminal (observedRecord [] candidates' obs' session'))
      (mapTerminal (some s) false "") ↔
    (Authoritative s → terminalStatusStates.contains s = true) := by
  rw [recordTerminal_observedRecord candidates hobs hsession,
    recordTerminal_observedRecord candidates' hobs' hsession', recordedState_nil, mapTerminal_ping]
  constructor
  · intro h hs
    have hclass := h.heartbeat
    rw [← statusClass_isSome, hclass, statusClass_isSome]
    exact hs
  · intro h
    obtain ⟨hexited, htail, hadapter⟩ := hsame
    refine ⟨fun hs => ?_, fun hs => ?_, ?_⟩
    · have hplain := plain_of_terminal (h hs)
      rw [recordedState_authoritative hstate hs]
      change mapTerminal (some (takeChars 64 s)) _ _ = _
      rw [takeChars_of_length_le hplain.1.le, mapTerminal_of_terminal (h hs), hplain.2]
    · rw [recordedState_ordinary hstate hs, hexited, htail]
      rcases hadapter with hadapter | ⟨hfile, hnofile⟩
      · rw [hadapter]
      · -- the adapter reads the file too
        rw [hfile, hnofile]
        exact mapTerminal_of_not_authoritative hs _ _
    · by_cases hs : Authoritative s
      · rw [(plain_of_terminal (h hs)).2]
      · have hterminal : statusClass s = none := by
          rw [← Option.not_isSome_iff_eq_none, statusClass_isSome]
          exact fun hc => hs (authoritative_of_terminal hc)
        have hlower : statusClass (pyLower s) = none := by
          rw [← Option.not_isSome_iff_eq_none, statusClass_isSome]
          exact hs
        rw [hterminal, hlower]

open VerdictLemmas in
/-- A worker that says `promoted` and runs on. -/
theorem promoted_agrees : VerdictsAgree "promoted"
    (recordTerminal (observedRecord [("state", .str "promoted")] 0 {} []))
    (recordTerminal (observedRecord [] 0 {} [])) (mapTerminal (some "promoted") false "") :=
  (verdict_agrees_iff rfl ⟨rfl, rfl, Or.inl rfl⟩ unclaimed_nil unclaimed_nil unclaimed_nil
    unclaimed_nil 0 0).mpr fun _ => (by decide)

/-- A shell worker writes `COMPLETE` and exits with 0: its task becomes `FAILED`, where it is `DONE`
without the file, and the same state in a heartbeat retires nothing. -/
theorem complete_in_capitals :
    let obs : Observation := { state := .str "complete", exited := true }
    let fromFile := recordTerminal (observedRecord [("state", .str "COMPLETE")] 0 obs [])
    let withoutFile := recordTerminal (observedRecord [] 0 obs [])
    let fromPing := mapTerminal (some "COMPLETE") false ""
    ¬ VerdictsAgree "COMPLETE" fromFile withoutFile fromPing ∧ fromFile = some "FAILED" ∧
      withoutFile = some "DONE" ∧ fromPing = none := by
  refine ⟨fun h => ?_, by decide +kernel⟩
  have hclass := h.authoritative (by decide)
  exact absurd hclass (by decide +kernel)

end Flotilla
