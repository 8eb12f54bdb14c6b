import KerSorMonitor.Scripts.Nudge

/-!
# Nudges into a human question (`generic_control.py`)

For its label, `classify_pane_activity` looks at the human markers first. For its idle flag, which is
what the actuation checks, it only looks at the idle and the busy markers.

Result: `humanQuestion_safe_iff`, the panes whose questions are never answered by a nudge.
-/

namespace Scripts

open Flotilla

variable (py : Python)

/-! ## Markers -/

/-- The last lines of a pane. -/
def paneTail (paneLines : List Char) : List Char :=
  let lines := Csv.splitLines paneLines []
  List.intercalate ['\n'] (lines.drop (lines.length - 20))

/-- Whether the text has one of the markers. -/
def Marked (markers : List String) (text : List Char) : Prop := ∃ m ∈ markers, m.toList <:+: text

/-- The pane has a busy marker. -/
def LooksBusy (paneLines : List Char) : Prop :=
  Marked ["esc to interrupt", "ctrl+c to interrupt", "galloping", "thinking"]
    (py.lower (String.ofList (paneTail paneLines))).toList

/-- The pane has a human marker. -/
def AsksHuman (paneLines : List Char) : Prop :=
  Marked ["askuserquestion", "needs human", "which thing", "what do you want"]
    (py.lower (String.ofList (paneTail paneLines))).toList

/-- The pane has an idle marker. -/
def HasPrompt (paneLines : List Char) : Prop :=
  Marked ["❯", "check current task"] (paneTail paneLines)

namespace MarkerLemmas

variable {py}

theorem any_isIn_iff {markers : List String} {text : List Char} :
    (markers.any fun m => isIn m.toList text) = true ↔ Marked markers text := by
  simp only [List.any_eq_true, isIn_iff, Marked]

theorem idle_iff {paneLines : List Char} :
    (classifyPaneActivity py paneLines).idle = true ↔
      HasPrompt paneLines ∧ ¬ LooksBusy py paneLines := by
  unfold HasPrompt LooksBusy
  rw [← any_isIn_iff, ← any_isIn_iff, Bool.not_eq_true, ← Bool.not_eq_true', ← Bool.and_eq_true]
  rfl

theorem needsHuman_iff {paneLines : List Char} :
    (classifyPaneActivity py paneLines).activity = "needs_human" ↔ AsksHuman py paneLines := by
  unfold AsksHuman
  rw [← any_isIn_iff]
  unfold classifyPaneActivity paneTail
  dsimp only
  constructor
  · intro h
    by_contra hhuman
    rw [if_neg hhuman] at h
    split at h
    · exact absurd h (by decide)
    · split at h <;> exact absurd h (by decide)
  · exact fun h => if_pos h

/-- A worker that has to be idle is not sent anything while its idle flag is off. -/
theorem willSend_idle {w : WorkerConfig} {obs : Observation} {v : Verdict} {send : Bool} {now : Int}
    {transport : Transport} {action : Action} (hidle : obs.policy.requireIdle = true)
    (h : buildGenericActuation py w obs v send now transport = .ok action)
    (hsend : action.willSend = true) : obs.activity.idle = true := by
  unfold buildGenericActuation at h
  dsimp only at h
  split at h
  · cases h
    cases hsend
  · next hpass =>
    by_contra hbusy
    rw [Bool.not_eq_true] at hbusy
    have hblocked : obs.policy.requireIdle && !obs.activity.idle := by rw [hidle, hbusy]; rfl
    unfold blockedReason at hpass
    dsimp only at hpass
    rw [if_pos hblocked] at hpass
    repeat' first
      | cases hpass
      | split at hpass

theorem lower_active : py.lower "active" = "active" := by
  have hascii : "active".toList.all (fun c => decide (c.toNat < 128)) = true := by decide +kernel
  have hlower := py.lower_ascii "active" fun c hc =>
    of_decide_eq_true (List.all_eq_true.mp hascii c hc)
  exact String.toList_inj.mp (hlower.trans (by decide +kernel))

end MarkerLemmas

open MarkerLemmas

/-! ## Nudges -/

/-- A pane that is labelled `needs_human` is not taken for an idle one. -/
def LabelAgrees (paneLines : List Char) : Prop :=
  (classifyPaneActivity py paneLines).activity = "needs_human" →
    (classifyPaneActivity py paneLines).idle = false

/-- If a pane is labelled `needs_human`, then no observation with its activity signals is sent a
nudge, whatever the verdict is, as long as that asks for no human either. -/
def NeverNudged (paneLines : List Char) : Prop :=
  (classifyPaneActivity py paneLines).activity = "needs_human" →
    ∀ (w : WorkerConfig) (obs : Observation) (verdict : Json) (v : Verdict) (send : Bool) (now : Int)
      (transport : Transport) (action : Action),
      obs.activity = classifyPaneActivity py paneLines → obs.policy.requireIdle = true →
      validateGenericVerdict py verdict = .ok v → v.needsHuman = false →
      buildGenericActuation py w obs v send now transport = .ok action → action.willSend = false

namespace MarkerLemmas

variable {py}

theorem labelAgrees_iff {paneLines : List Char} : LabelAgrees py paneLines ↔
    ¬ (AsksHuman py paneLines ∧ HasPrompt paneLines ∧ ¬ LooksBusy py paneLines) := by
  unfold LabelAgrees
  rw [needsHuman_iff, ← Bool.not_eq_true, idle_iff]
  exact not_and.symm

/-- A worker without a cooldown that may be nudged while it is idle. -/
def nudgeableWorker : WorkerConfig :=
  ⟨"w1", false, "%1", none, some true, .none, ⟨"active", 0, true, true⟩⟩

/-- A verdict with a nudge. -/
def continueVerdict : Json := .obj [("activity", .str "idle"), ("nudge", .str "continue")]

variable (py) in
theorem continueVerdict_ok : ∃ v, validateGenericVerdict py continueVerdict = .ok v ∧
    v.needsHuman = false ∧ v.nudge = "continue" :=
  ⟨_, rfl, rfl, rfl⟩

/-- The nudge is sent once the idle flag is on. -/
theorem willSend_of_idle {paneLines : List Char} {v : Verdict}
    (hidle : (classifyPaneActivity py paneLines).idle = true) (hhuman : v.needsHuman = false)
    (hnudge : v.nudge = "continue") :
    ∃ action, buildGenericActuation py nudgeableWorker
        (buildGenericObservation py nudgeableWorker ⟨0, "%1", paneLines⟩) v true 0 .ssh = .ok action ∧
      action.willSend = true := by
  have hpass : blockedReason py nudgeableWorker
      (buildGenericObservation py nudgeableWorker ⟨0, "%1", paneLines⟩) v = none := by
    simp [blockedReason, buildGenericObservation, nudgeableWorker, workerPolicy, hidle, hhuman,
      hnudge, lower_active]
  unfold buildGenericActuation
  dsimp only
  rw [hpass]
  exact ⟨_, rfl, rfl⟩

end MarkerLemmas

/-- The questions that no nudge answers, and those whose label and idle flag agree, are those of the
panes without an idle marker, and of those with a busy one. -/
theorem humanQuestion_safe_iff (paneLines : List Char) :
    (NeverNudged py paneLines ↔
      ¬ (AsksHuman py paneLines ∧ HasPrompt paneLines ∧ ¬ LooksBusy py paneLines)) ∧
    (LabelAgrees py paneLines ↔
      ¬ (AsksHuman py paneLines ∧ HasPrompt paneLines ∧ ¬ LooksBusy py paneLines)) := by
  refine ⟨⟨?_, ?_⟩, labelAgrees_iff⟩
  · rintro hnever ⟨hasks, hidle⟩
    obtain ⟨v, hv, hhuman, hnudge⟩ := continueVerdict_ok py
    obtain ⟨action, haction, hsend⟩ := willSend_of_idle (idle_iff.mpr hidle) hhuman hnudge
    have hnot := hnever (needsHuman_iff.mpr hasks) nudgeableWorker
      (buildGenericObservation py nudgeableWorker ⟨0, "%1", paneLines⟩) continueVerdict v true 0 .ssh
      action rfl rfl hv hhuman haction
    rw [hsend] at hnot
    cases hnot
  · intro hsafe hlabel w obs verdict v send now transport action hactivity hidle _ _ haction
    have hflag := labelAgrees_iff.mpr hsafe hlabel
    rw [← hactivity] at hflag
    by_contra hsend
    rw [willSend_idle hidle haction (by simpa using hsend)] at hflag
    cases hflag

/-- A prompt below a question. -/
def promptedQuestion : List Char := "Needs human: keep the seed?\n❯ ".toList

theorem promptedQuestion_nudged :
    (classifyPaneActivity asciiPython promptedQuestion).activity = "needs_human" ∧
      (buildGenericActuation asciiPython nudgeableWorker
        (buildGenericObservation asciiPython nudgeableWorker ⟨0, "%1", promptedQuestion⟩)
        { activity := "idle", phase := "", progress := "", blockedOn := "", requiredNextStep := "",
          needsHuman := false, nudge := "continue", confidence := "low", reason := "",
          nextCheckSeconds := 0 } true 0 .ssh).toOption.map Action.willSend = some true ∧
      ¬ NeverNudged asciiPython promptedQuestion := by
  refine ⟨by decide +kernel, by decide +kernel, fun hnever => ?_⟩
  obtain ⟨v, hv, hhuman, hnudge⟩ := continueVerdict_ok asciiPython
  have hidle : (classifyPaneActivity asciiPython promptedQuestion).idle = true := by decide +kernel
  obtain ⟨action, haction, hsend⟩ := willSend_of_idle hidle hhuman hnudge
  have hnot := hnever (by decide +kernel) nudgeableWorker
    (buildGenericObservation asciiPython nudgeableWorker ⟨0, "%1", promptedQuestion⟩) continueVerdict v
    true 0 .ssh action rfl rfl hv hhuman haction
  rw [hsend] at hnot
  cases hnot

end Scripts
