import Mathlib.Data.List.DropRight
import Mathlib.Logic.Function.Basic
import KerSorMonitor.Lib.Paths

/-!
# Remote monitors (`scripts/generic_control.py`, `scripts/generic_remote_monitor.py`)

Each worker of a generic configuration has a monitor beside it: a directory with a bundle, a state
file and artifacts, and a tmux window. Their names come from the worker's id through
`safe_filename`; the status script takes the id as it is.

Results:
1. `apart_and_shown_iff`: for which ids two monitors share nothing, and for which id the status
   script reads what the monitor wrote.
2. `shared_names`: two ids that clash.
-/

namespace RemoteMonitor

open Paths

/-! ## Names -/

/-- `[A-Za-z0-9_.-]`. -/
def kept (c : Char) : Bool := c.isAlphanum || c = '_' || c = '.' || c = '-'

/-- `re.sub(r"[^A-Za-z0-9_.-]+", "-", value)`, inside a run of other characters or not. -/
def dashed (inRun : Bool) : List Char → List Char
  | [] => []
  | c :: cs =>
    if kept c then c :: dashed false cs
    else if inRun then dashed true cs
    else '-' :: dashed true cs

/-- `value.strip("-")`. -/
def stripDashes (cs : List Char) : List Char := (cs.dropWhile (· = '-')).rdropWhile (· = '-')

/-- `safe_filename`. -/
def safeFilename (value : String) : String :=
  let safe := stripDashes (dashed false value.toList)
  if safe = [] then "worker" else String.ofList safe

/-! ## Settings -/

/-- A worker after `normalize_worker`, which rejects an id without text. The rest are texts that the
entry may give. -/
structure Worker where
  id : String
  remoteMonitorDir : Option String := none
  monitorTmuxSession : Option String := none
  monitorWindow : Option String := none
  id_ne : id ≠ ""

/-- A text that counts as true. -/
def truthy (text : Option String) : Option String := text.filter (· ≠ "")

/-- `text.rstrip("/")`. -/
def rstripSlash (text : String) : String := String.ofList (text.toList.rdropWhile (· = '/'))

/-- `DEFAULT_REMOTE_MONITOR_BASE`. -/
def defaultRemoteMonitorBase : String := "/home/Agent-lsh/.local/share/kda-monitor"

/-- `remote_monitor_dir`. -/
def remoteMonitorDir (worker : Worker) (override : Option String) : String :=
  match truthy override, truthy worker.remoteMonitorDir with
  | some dir, _ => rstripSlash dir
  | none, some dir => rstripSlash dir
  | none, none => defaultRemoteMonitorBase ++ "/" ++ safeFilename worker.id

/-- What `remote_monitor_settings` returns. -/
structure Settings where
  dir : String
  session : String
  window : String
  bundlePath : String
  statePath : String
  logPath : String
  artifactDir : String
  deriving DecidableEq, Repr

/-- `remote_monitor_settings`. -/
def remoteMonitorSettings (worker : Worker) (remoteDir : Option String) : Settings :=
  let root := remoteMonitorDir worker remoteDir
  { dir := root
    session := (truthy worker.monitorTmuxSession).getD "newkw"
    window := (truthy worker.monitorWindow).getD ("monitor-" ++ safeFilename worker.id)
    bundlePath := root ++ "/bundle.json"
    statePath := root ++ "/state.json"
    logPath := root ++ "/logs/monitor.log"
    artifactDir := root ++ "/artifacts" }

/-- The part of the bundle that says where things go. -/
structure Bundle where
  outputDir : String
  workerId : String
  remoteMonitor : Settings
  deriving DecidableEq, Repr

/-- `build_remote_monitor_bundle`. -/
def buildRemoteMonitorBundle (worker : Worker) (remoteDir : Option String) : Bundle :=
  let settings := remoteMonitorSettings worker remoteDir
  { outputDir := settings.artifactDir, workerId := worker.id, remoteMonitor := settings }

/-- The bundle that `deploy_generic_remote_monitor` copies: it goes through the settings twice. -/
def deployGenericRemoteMonitor (worker : Worker) (remoteDir : Option String) : Bundle :=
  buildRemoteMonitorBundle worker (some (remoteMonitorSettings worker remoteDir).dir)

/-! ## Files -/

/-- The texts of the files, where no directory is a link. -/
abbrev Files := Location → Option String

/-- `path.write_text(text)`, the directories made. -/
def writeText (cwd : Location) (path : Path) (text : String) (files : Files) : Files :=
  Function.update files (path.resolve cwd) (some text)

/-- `output_dir`: of the configuration's text and an id. -/
def outputDir (configured : String) (workerId : String) : Path :=
  if workerId = "" then parse configured else (parse configured).join (safeFilename workerId)

/-- The time in a file name, of which only digits and letters are left. -/
structure Stamp where
  text : String
  plain : text.toList.all Char.isAlphanum = true

/-- `write_json_artifact`. -/
def writeJsonArtifact (cwd : Location) (configured workerId kind : String) (stamp : Stamp)
    (payload : String) (files : Files) : Files :=
  let path := ((outputDir configured workerId).join kind).join (stamp.text ++ ".json")
  writeText cwd (path.parent.join "latest.json") payload (writeText cwd path payload files)

/-- `record_state`: the temporary file is gone when it is over. -/
def recordState (cwd : Location) (bundle : Bundle) (state : String) (files : Files) : Files :=
  writeText cwd (parse bundle.remoteMonitor.statePath) state files

/-- How an iteration of the monitor ends, with the texts of what it found. -/
inductive Outcome
  | unreachable (observation : String)
  | promptOnly (observation prompt : String)
  | verdictFailed (observation : String)
  | judged (observation verdict action : String)

/-- What each iteration has. -/
def Outcome.observation : Outcome → String
  | .unreachable observation => observation
  | .promptOnly observation _ => observation
  | .verdictFailed observation => observation
  | .judged observation _ _ => observation

/-- What an iteration with a verdict has. -/
def Outcome.verdict : Outcome → Option String
  | .unreachable _ => none
  | .promptOnly _ _ => none
  | .verdictFailed _ => none
  | .judged _ verdict _ => some verdict

def Outcome.action : Outcome → Option String
  | .unreachable _ => none
  | .promptOnly _ _ => none
  | .verdictFailed _ => none
  | .judged _ _ action => some action

/-- The files after `run_once`. The stamps are the times of the artifacts. -/
def runOnce (cwd : Location) (bundle : Bundle) (workerId : String) (stamp : String → Stamp)
    (outcome : Outcome) (state : String) (files : Files) : Files :=
  let write kind payload := writeJsonArtifact cwd bundle.outputDir workerId kind (stamp kind) payload
  let files := write "observations" outcome.observation files
  match outcome with
  | .unreachable _ => recordState cwd bundle state files
  | .promptOnly _ prompt =>
    -- the id goes into this path as it is
    let promptPath := (((parse bundle.outputDir).join workerId).join "prompts").join "latest.txt"
    recordState cwd bundle state (writeText cwd promptPath prompt files)
  | .verdictFailed _ => recordState cwd bundle state files
  | .judged _ verdict action =>
    recordState cwd bundle state (write "actuations" action (write "verdicts" verdict files))

/-- What the status script reads from files. -/
structure Status where
  state : Option String
  latestObservation : Option String
  latestVerdict : Option String
  latestAction : Option String
  deriving DecidableEq, Repr

/-- `REMOTE_MONITOR_STATUS_SCRIPT` on the words that `collect_generic_remote_monitor_status` passes. -/
def remoteMonitorStatus (cwd : Location) (settings : Settings) (workerId : String) (files : Files) :
    Status :=
  let root := parse settings.dir
  let latest kind :=
    files (((((root.join "artifacts").join workerId).join kind).join "latest.json").resolve cwd)
  { state := files ((root.join "state.json").resolve cwd)
    latestObservation := latest "observations"
    latestVerdict := latest "verdicts"
    latestAction := latest "actuations" }

/-! ## What monitors should do -/

/-- No overrides. -/
structure Worker.Plain (worker : Worker) : Prop where
  dir : truthy worker.remoteMonitorDir = none
  session : truthy worker.monitorTmuxSession = none
  window : truthy worker.monitorWindow = none

/-- The monitors of two workers have their own directories, state files, windows and artifacts. The
artifacts are those of the deployed monitors and those of the configuration itself. -/
structure Apart (cwd : Location) (configured : String) (v w : Worker) : Prop where
  dir : (parse (remoteMonitorSettings v none).dir).resolve cwd
    ≠ (parse (remoteMonitorSettings w none).dir).resolve cwd
  statePath : (parse (deployGenericRemoteMonitor v none).remoteMonitor.statePath).resolve cwd
    ≠ (parse (deployGenericRemoteMonitor w none).remoteMonitor.statePath).resolve cwd
  window : ((remoteMonitorSettings v none).session, (remoteMonitorSettings v none).window)
    ≠ ((remoteMonitorSettings w none).session, (remoteMonitorSettings w none).window)
  artifacts : (outputDir (deployGenericRemoteMonitor v none).outputDir v.id).resolve cwd
    ≠ (outputDir (deployGenericRemoteMonitor w none).outputDir w.id).resolve cwd
  configured : (outputDir configured v.id).resolve cwd ≠ (outputDir configured w.id).resolve cwd

/-- Whatever there was before, the status after an iteration has what the iteration wrote. The
monitor and the status script may run in different directories. -/
structure Shown (w : Worker) : Prop where
  state : ∀ cwd home stamp outcome state files,
    (remoteMonitorStatus home (remoteMonitorSettings w none) w.id
      (runOnce cwd (deployGenericRemoteMonitor w none) w.id stamp outcome state files)).state
      = some state
  observation : ∀ cwd home stamp outcome state files,
    (remoteMonitorStatus home (remoteMonitorSettings w none) w.id
      (runOnce cwd (deployGenericRemoteMonitor w none) w.id stamp outcome state files)).latestObservation
      = some outcome.observation
  verdict : ∀ cwd home stamp outcome state files, outcome.verdict ≠ none →
    (remoteMonitorStatus home (remoteMonitorSettings w none) w.id
      (runOnce cwd (deployGenericRemoteMonitor w none) w.id stamp outcome state files)).latestVerdict
      = outcome.verdict
  action : ∀ cwd home stamp outcome state files, outcome.action ≠ none →
    (remoteMonitorStatus home (remoteMonitorSettings w none) w.id
      (runOnce cwd (deployGenericRemoteMonitor w none) w.id stamp outcome state files)).latestAction
      = outcome.action

/-- The names that lead to the directory itself or above it. -/
def Dots (name : String) : Prop := name = "." ∨ name = ".."

namespace RemoteMonitorLemmas

/-! ## Sanitised names -/

/-- Kept and not a dash. -/
def letter (c : Char) : Bool := kept c && c ≠ '-'

def letters (text : String) : Nat := text.toList.countP letter

theorem countP_dashed (inRun : Bool) (cs : List Char) :
    (dashed inRun cs).countP letter = cs.countP letter := by
  induction cs generalizing inRun with
  | nil => rfl
  | cons c cs ih =>
    unfold dashed
    split
    · rw [List.countP_cons, List.countP_cons, ih]
    · next hkept =>
      have hletter : ¬ letter c = true := by simp [letter, hkept]
      rw [List.countP_cons_of_neg hletter]
      split
      · exact ih true
      · rw [List.countP_cons_of_neg (by decide)]
        exact ih true

theorem countP_dropWhile (cs : List Char) :
    (cs.dropWhile (· = '-')).countP letter = cs.countP letter := by
  induction cs with
  | nil => rfl
  | cons c cs ih =>
    rw [List.dropWhile_cons]
    split
    · next hdash =>
      have hletter : ¬ letter c = true := by simp_all [letter]
      rw [List.countP_cons_of_neg hletter, ih]
    · rfl

theorem countP_stripDashes (cs : List Char) : (stripDashes cs).countP letter = cs.countP letter := by
  rw [stripDashes, List.rdropWhile, List.countP_reverse, countP_dropWhile, List.countP_reverse,
    countP_dropWhile]

theorem letters_le_safe (value : String) : letters value ≤ letters (safeFilename value) := by
  have hcount : (stripDashes (dashed false value.toList)).countP letter = letters value := by
    rw [countP_stripDashes, countP_dashed, letters]
  unfold safeFilename
  dsimp only
  split
  · next hnil =>
    -- nothing is left: there was no letter
    rw [← hcount, hnil]
    exact Nat.zero_le _
  · rw [← hcount, letters, String.toList_ofList]

theorem kept_of_mem_dashed {inRun : Bool} {cs : List Char} :
    ∀ c ∈ dashed inRun cs, kept c = true := by
  induction cs generalizing inRun with
  | nil => exact fun c h => (by cases h)
  | cons d cs ih =>
    unfold dashed
    split
    · next hkept => exact List.forall_mem_cons.mpr ⟨hkept, ih⟩
    · split
      · exact ih
      · exact List.forall_mem_cons.mpr ⟨by decide, ih⟩

theorem kept_of_mem_safe {value : String} : ∀ c ∈ (safeFilename value).toList, kept c = true := by
  unfold safeFilename
  dsimp only
  split
  · exact List.all_eq_true.mp (by decide)
  · rw [String.toList_ofList]
    exact fun c h => kept_of_mem_dashed c
      ((List.dropWhile_sublist _).subset ((List.rdropWhile_prefix _ _).subset h))

theorem safe_ne_empty (value : String) : safeFilename value ≠ "" := by
  unfold safeFilename
  dsimp only
  split
  · decide
  · next hne => exact fun hempty => hne (by simpa using hempty)

/-- One level down, or none for a dot. -/
def down (loc : Location) (name : String) : Location := if name = "." then loc else walk loc name

theorem parse_safe (value : String) :
    parse (safeFilename value)
      = ⟨false, if safeFilename value = "." then [] else [safeFilename value]⟩ := by
  rw [parse_of_no_slash fun h => absurd (kept_of_mem_safe _ h) (by decide)]
  split
  · next hdot =>
    rw [hdot]
    rfl
  · next hdot => simp [safe_ne_empty, hdot]

theorem foldl_walk_safe (loc : Location) (value : String) :
    (parse (safeFilename value)).parts.foldl walk loc = down loc (safeFilename value) := by
  rw [parse_safe, down]
  split <;> rfl

theorem resolve_join_safe (cwd : Location) (p : Path) (value : String) :
    (p.join (safeFilename value)).resolve cwd = down (p.resolve cwd) (safeFilename value) := by
  rw [resolve_join (by rw [parse_safe]), foldl_walk_safe]

theorem down_cases (loc : Location) (name : String) :
    name = "." ∧ down loc name = loc ∨ name = ".." ∧ down loc name = loc.dropLast
      ∨ name ≠ "." ∧ name ≠ ".." ∧ down loc name = loc ++ [name] := by
  unfold down walk
  split
  · next hdot => exact Or.inl ⟨hdot, rfl⟩
  · next hdot =>
    split
    · next hup => exact Or.inr (Or.inl ⟨hup, rfl⟩)
    · next hup => exact Or.inr (Or.inr ⟨hdot, hup, rfl⟩)

/-- To stay, to go up and to go down lead to places at three depths. -/
theorem length_down_lt (loc : Location) (name : String) :
    (down loc name).length = loc.length ∧ name = "." ∨ (down loc name).length = loc.length - 1 ∧ name = ".."
      ∨ (down loc name).length = loc.length + 1 ∧ down loc name = loc ++ [name] := by
  rcases down_cases loc name with ⟨hname, hdown⟩ | ⟨hname, hdown⟩ | ⟨-, -, hdown⟩
  · exact Or.inl ⟨by rw [hdown], hname⟩
  · exact Or.inr (Or.inl ⟨by rw [hdown, List.length_dropLast], hname⟩)
  · exact Or.inr (Or.inr ⟨by rw [hdown]; simp, hdown⟩)

/-- The name decides the place, except that the root directory is above itself. -/
theorem down_inj {loc : Location} {name name' : String} (heq : down loc name = down loc name')
    (h : loc ≠ []) : name = name' := by
  have hpos : 0 < loc.length := List.length_pos_of_ne_nil h
  have hlength := congrArg List.length heq
  rcases length_down_lt loc name with ⟨hl, hn⟩ | ⟨hl, hn⟩ | ⟨hl, hn⟩ <;>
    rcases length_down_lt loc name' with ⟨hl', hn'⟩ | ⟨hl', hn'⟩ | ⟨hl', hn'⟩ <;>
    first
    | omega
    | exact hn.trans hn'.symm
    | rw [hn, hn'] at heq
      exact List.singleton_injective (List.append_cancel_left heq)

theorem down_root (name : String) : Dots name ∧ down [] name = [] ∨ down [] name = [name] := by
  rcases down_cases [] name with ⟨rfl, -⟩ | ⟨rfl, -⟩ | ⟨-, -, hdown⟩
  · exact Or.inl ⟨Or.inl rfl, rfl⟩
  · exact Or.inl ⟨Or.inr rfl, rfl⟩
  · exact Or.inr hdown

/-! ## Where the settings lead -/

/-- `DEFAULT_REMOTE_MONITOR_BASE` from the root directory on. -/
def base : Location := ["home", "Agent-lsh", ".local", "share", "kda-monitor"]

theorem parse_base : parse defaultRemoteMonitorBase = ⟨true, base⟩ := by decide

/-- The directory of artifacts under the directory of the same name. -/
def artifacts (name : String) : Location := down (down base name ++ ["artifacts"]) name

theorem artifacts_cases (name : String) :
    name = "." ∧ artifacts name = base ++ ["artifacts"] ∨ name = ".." ∧ artifacts name = base.dropLast
      ∨ artifacts name = base ++ [name, "artifacts", name] := by
  rcases down_cases base name with ⟨rfl, -⟩ | ⟨rfl, -⟩ | ⟨hdot, hup, hdown⟩
  · exact Or.inl ⟨rfl, by decide⟩
  · exact Or.inr (Or.inl ⟨rfl, by decide⟩)
  · rw [artifacts, hdown, down, if_neg hdot, walk, if_neg hup, List.append_assoc, List.append_assoc]
    exact Or.inr (Or.inr rfl)

theorem artifacts_inj {name name' : String} (heq : artifacts name = artifacts name') :
    name = name' := by
  have hlength := congrArg List.length heq
  rcases artifacts_cases name with ⟨hn, ha⟩ | ⟨hn, ha⟩ | ha <;>
    rcases artifacts_cases name' with ⟨hn', ha'⟩ | ⟨hn', ha'⟩ | ha' <;>
    rw [ha, ha'] at hlength <;>
    first
    | exact hn.trans hn'.symm
    | rw [ha, ha'] at heq
      exact (List.cons.inj (List.append_cancel_left heq)).1
    | exact absurd hlength (by simp [base])

section
variable {w : Worker} {cwd : Location}

theorem dir_of_plain (h : w.Plain) :
    (remoteMonitorSettings w none).dir = defaultRemoteMonitorBase ++ "/" ++ safeFilename w.id := by
  show remoteMonitorDir w none = _
  rw [remoteMonitorDir, h.dir]
  rfl

theorem dir_ne_empty (h : w.Plain) : (remoteMonitorSettings w none).dir ≠ "" := by
  rw [dir_of_plain h]
  simp [safe_ne_empty]

/-- The directory ends with a kept character. -/
theorem rstripSlash_dir (h : w.Plain) :
    rstripSlash (remoteMonitorSettings w none).dir = (remoteMonitorSettings w none).dir := by
  have hne : (safeFilename w.id).toList ≠ [] := by simpa using safe_ne_empty w.id
  have hself : (remoteMonitorSettings w none).dir.toList.rdropWhile (· = '/')
      = (remoteMonitorSettings w none).dir.toList := by
    refine (List.rdropWhile_eq_self_iff).mpr fun hdir => ?_
    have hlast : (remoteMonitorSettings w none).dir.toList.getLast hdir
        = (safeFilename w.id).toList.getLast hne := by
      simp only [dir_of_plain h, String.toList_append]
      exact List.getLast_append_of_ne_nil _ hne
    have hkept := kept_of_mem_safe _ (List.getLast_mem hne)
    rw [hlast]
    intro hslash
    rw [of_decide_eq_true hslash] at hkept
    exact absurd hkept (by decide)
  rw [rstripSlash, hself, String.ofList_toList]

/-- To go through the settings twice changes nothing. -/
theorem deploy_of_plain (h : w.Plain) :
    deployGenericRemoteMonitor w none = buildRemoteMonitorBundle w none := by
  have hdir : remoteMonitorDir w (some (remoteMonitorSettings w none).dir)
      = remoteMonitorDir w none := by
    have htruthy : truthy (some (remoteMonitorSettings w none).dir)
        = some (remoteMonitorSettings w none).dir := by
      simp [truthy, dir_ne_empty h]
    rw [remoteMonitorDir, htruthy]
    exact rstripSlash_dir h
  unfold deployGenericRemoteMonitor buildRemoteMonitorBundle
  unfold remoteMonitorSettings at hdir ⊢
  rw [hdir]

theorem resolve_dir (h : w.Plain) :
    (parse (remoteMonitorSettings w none).dir).resolve cwd = down base (safeFilename w.id) := by
  rw [dir_of_plain h, resolve_slash (by decide), foldl_walk_safe, parse_base]
  rfl

theorem resolve_statePath (h : w.Plain) :
    (parse (remoteMonitorSettings w none).statePath).resolve cwd
      = down base (safeFilename w.id) ++ ["state.json"] := by
  have hpath : (remoteMonitorSettings w none).statePath
      = (remoteMonitorSettings w none).dir ++ "/" ++ "state.json" := by
    rw [String.append_assoc]
    rfl
  rw [hpath, resolve_slash (dir_ne_empty h), resolve_dir h]
  rfl

theorem resolve_artifactDir (h : w.Plain) :
    (parse (remoteMonitorSettings w none).artifactDir).resolve cwd
      = down base (safeFilename w.id) ++ ["artifacts"] := by
  have hpath : (remoteMonitorSettings w none).artifactDir
      = (remoteMonitorSettings w none).dir ++ "/" ++ "artifacts" := by
    rw [String.append_assoc]
    rfl
  rw [hpath, resolve_slash (dir_ne_empty h), resolve_dir h]
  rfl

theorem resolve_outputDir (configured : String) :
    (outputDir configured w.id).resolve cwd
      = down ((parse configured).resolve cwd) (safeFilename w.id) := by
  rw [outputDir, if_neg w.id_ne, resolve_join_safe]

theorem resolve_artifacts (h : w.Plain) :
    (outputDir (deployGenericRemoteMonitor w none).outputDir w.id).resolve cwd
      = artifacts (safeFilename w.id) := by
  rw [deploy_of_plain h, resolve_outputDir]
  show down ((parse (remoteMonitorSettings w none).artifactDir).resolve cwd) _ = _
  rw [resolve_artifactDir h, artifacts]

theorem window_of_plain (h : w.Plain) :
    (remoteMonitorSettings w none).window = "monitor-" ++ safeFilename w.id := by
  show (truthy w.monitorWindow).getD _ = _
  rw [h.window]
  rfl

end

end RemoteMonitorLemmas

/-! ## Two workers -/

open RemoteMonitorLemmas in
/-- The sanitised ids decide. In the root directory `.` and `..` are the same place. -/
theorem apart_iff {cwd : Location} {configured : String} {v w : Worker} (hv : v.Plain) (hw : w.Plain) :
    Apart cwd configured v w ↔ safeFilename v.id ≠ safeFilename w.id
      ∧ ¬ ((parse configured).resolve cwd = []
        ∧ Dots (safeFilename v.id) ∧ Dots (safeFilename w.id)) := by
  have hdots : ∀ name, Dots name → down [] name = [] := by
    rintro name (rfl | rfl) <;> rfl
  constructor
  · intro h
    refine ⟨fun heq => h.dir ?_, fun ⟨hroot, hdv, hdw⟩ => h.configured ?_⟩
    · rw [resolve_dir hv, resolve_dir hw, heq]
    · rw [resolve_outputDir, resolve_outputDir, hroot, hdots _ hdv, hdots _ hdw]
  · rintro ⟨hne, hroot⟩
    refine ⟨fun heq => hne ?_, fun heq => hne ?_, fun heq => hne ?_, fun heq => hne ?_, fun heq => ?_⟩
    · rw [resolve_dir hv, resolve_dir hw] at heq
      exact down_inj heq (by decide)
    · rw [deploy_of_plain hv, deploy_of_plain hw] at heq
      have hstate : down base (safeFilename v.id) ++ ["state.json"]
          = down base (safeFilename w.id) ++ ["state.json"] := by
        rw [← resolve_statePath hv, ← resolve_statePath hw]
        exact heq
      exact down_inj (List.append_cancel_right hstate) (by decide)
    · have hwindow := (Prod.mk.inj heq).2
      rw [window_of_plain hv, window_of_plain hw] at hwindow
      simpa using hwindow
    · rw [resolve_artifacts hv, resolve_artifacts hw] at heq
      exact artifacts_inj heq
    · rw [resolve_outputDir, resolve_outputDir] at heq
      rcases List.eq_nil_or_concat ((parse configured).resolve cwd) with hnil | ⟨init, last, hloc⟩
      · rw [hnil] at heq
        rcases down_root (safeFilename v.id) with ⟨hdv, hv'⟩ | hv' <;>
          rcases down_root (safeFilename w.id) with ⟨hdw, hw'⟩ | hw' <;>
          rw [hv', hw'] at heq
        · exact hroot ⟨hnil, hdv, hdw⟩
        · exact absurd heq (List.cons_ne_nil _ _).symm
        · exact absurd heq (List.cons_ne_nil _ _)
        · exact hne (List.singleton_injective heq)
      · exact hne (down_inj heq (by rw [hloc]; simp))

/-! ## One worker -/

namespace RemoteMonitorLemmas

theorem letters_le_flatten {part : String} {parts : List String} (h : part ∈ parts) :
    letters part ≤ (parts.map String.toList).flatten.countP letter :=
  (List.sublist_flatten_of_mem (List.mem_map_of_mem h)).countP_le

/-- The sanitised id has the letters of all parts of the id. -/
theorem letters_parts_le {id : String} {before after : List String} {part : String}
    (h : (parse id).parts = before ++ part :: after) :
    (before.map String.toList).flatten.countP letter
      + (letters part + (after.map String.toList).flatten.countP letter)
      ≤ letters (safeFilename id) := by
  have hsub := (parts_sublist id).countP_le (p := letter)
  rw [h, List.map_append, List.map_cons, List.flatten_append, List.flatten_cons, List.countP_append,
    List.countP_append] at hsub
  exact hsub.trans (letters_le_safe id)

theorem letters_add_le {id part part' : String} (h : part ∈ (parse id).parts)
    (h' : part' ∈ (parse id).parts) (hne : part' ≠ part) :
    letters part + letters part' ≤ letters (safeFilename id) := by
  obtain ⟨before, after, hsplit⟩ := List.append_of_mem h
  have hsum := letters_parts_le hsplit
  rw [hsplit] at h'
  rcases List.mem_append.mp h' with hmem | hmem
  · have hle := letters_le_flatten hmem
    omega
  · have hle := letters_le_flatten ((List.mem_cons.mp hmem).resolve_left hne)
    omega

/-- A way with the parts of a relative id leads to the place of the sanitised id only when it has
the same parts. -/
theorem foldl_walk_id {loc : Location} {id : String} (hloc : loc ≠ [])
    (h : (parse id).parts.foldl walk loc = down loc (safeFilename id)) :
    (parse id).parts = (parse (safeFilename id)).parts := by
  have hpos : 0 < loc.length := List.length_pos_of_ne_nil hloc
  rw [parse_safe]
  by_cases hup : ".." ∈ (parse id).parts
  · obtain ⟨before, after, hsplit⟩ := List.append_of_mem hup
    have hsum := letters_parts_le hsplit
    have htwo : letters ".." = 2 := by decide
    rcases down_cases loc (safeFilename id) with ⟨hsafe, -⟩ | ⟨hsafe, hdown⟩ | ⟨-, hsafe, hdown⟩
    · have hone : letters "." = 1 := by decide
      rw [hsafe] at hsum
      omega
    · -- the other parts have no letters, so they lead down
      rw [hsafe] at hsum
      have hdowns : ∀ parts : List String,
          (parts.map String.toList).flatten.countP letter = 0 → ".." ∉ parts := fun parts hzero hmem =>
        absurd (letters_le_flatten hmem) (by omega)
      have hlength := congrArg List.length h
      rw [hdown, hsplit, List.foldl_append, List.foldl_cons,
        foldl_walk_of_no_up (hdowns before (by omega)), foldl_walk_of_no_up (hdowns after (by omega)),
        walk, if_pos rfl] at hlength
      simp only [List.length_append, List.length_dropLast] at hlength
      have hbefore : before = [] := List.eq_nil_of_length_eq_zero (by omega)
      have hafter : after = [] := List.eq_nil_of_length_eq_zero (by omega)
      rw [hsplit, hbefore, hafter, hsafe]
      rfl
    · -- the sanitised id is a part beside `..`, and there are not letters enough for both
      obtain ⟨back, on, heq, hback, hon⟩ := foldl_walk_eq loc (parse id).parts
      rw [h, hdown] at heq
      rcases List.eq_nil_or_concat on with rfl | ⟨init, last, rfl⟩
      · have hlength := congrArg List.length heq
        have hle := hback.length_le
        simp only [List.length_append, List.length_cons, List.length_nil] at hlength
        omega
      · rw [List.concat_eq_append, ← List.append_assoc] at heq
        have hlast := List.singleton_injective (List.append_inj_right' heq rfl)
        have hmem : safeFilename id ∈ (parse id).parts :=
          hon _ (by rw [hlast]; simp)
        have hadd := letters_add_le hmem hup (Ne.symm hsafe)
        omega
  · rw [foldl_walk_of_no_up hup] at h
    rcases down_cases loc (safeFilename id) with ⟨hsafe, hdown⟩ | ⟨-, hdown⟩ | ⟨hsafe, -, hdown⟩
    · rw [hdown] at h
      rw [if_pos hsafe]
      exact List.append_right_eq_self.mp h
    · have hlength := congrArg List.length h
      rw [hdown, List.length_append, List.length_dropLast] at hlength
      omega
    · rw [hdown] at h
      rw [if_neg hsafe]
      exact List.append_cancel_left h

/-- An absolute id does not lead to the artifacts: it would need the letters of their place. -/
theorem foldl_walk_root_ne (id : String) :
    (parse id).parts.foldl walk [] ≠ artifacts (safeFilename id) := by
  intro h
  have hmem : ∀ name ∈ artifacts (safeFilename id), name ∈ (parse id).parts := fun name hname =>
    mem_of_mem_foldl_walk (h ▸ hname)
  have hhome : "home" ∈ artifacts (safeFilename id) ∧ "share" ∈ artifacts (safeFilename id) := by
    rcases artifacts_cases (safeFilename id) with ⟨-, ha⟩ | ⟨-, ha⟩ | ha <;> rw [ha] <;> simp [base]
  have hadd := letters_add_le (hmem _ hhome.1) (hmem _ hhome.2) (by decide)
  have hletters : letters "home" = 4 ∧ letters "share" = 5 ∧ letters "." = 1 ∧ letters ".." = 2 := by
    decide
  rcases artifacts_cases (safeFilename id) with ⟨hsafe, -⟩ | ⟨hsafe, -⟩ | ha
  · rw [hsafe] at hadd
    omega
  · rw [hsafe] at hadd
    omega
  · have hsafe := hmem (safeFilename id) (by rw [ha]; simp)
    by_cases heq : safeFilename id = "home"
    · have hshare := letters_add_le hsafe (hmem _ hhome.2) (by rw [heq]; decide)
      omega
    · have hshome := letters_add_le hsafe (hmem _ hhome.1) (Ne.symm heq)
      omega

theorem component_stamp (stamp : Stamp) : Component (stamp.text ++ ".json") := by
  have hlength : 5 ≤ (stamp.text ++ ".json").toList.length := by
    rw [String.toList_append, List.length_append]
    show 5 ≤ stamp.text.toList.length + 5
    omega
  refine component_of_no_slash (fun h => ?_) ?_ ?_ ?_
  · rw [String.toList_append] at h
    rcases List.mem_append.mp h with h | h
    · exact absurd (List.all_eq_true.mp stamp.plain _ h) (by decide)
    · exact absurd h (by decide)
  all_goals
    intro h
    rw [h] at hlength
    exact absurd hlength (by decide)

/-- The names of the directories and files of a monitor. -/
theorem component_names : ∀ name ∈ ["observations", "verdicts", "actuations", "prompts", "artifacts",
    "latest.json", "latest.txt", "state.json"], Component name :=
  components_of_plainNames (by decide)

section
variable {w : Worker} {cwd home : Location} {id kind configured payload : String} {stamp : Stamp}
variable {files : Files}

theorem resolve_latest {p : Path} (h : Component kind) :
    ((p.join kind).join "latest.json").resolve cwd = p.resolve cwd ++ [kind, "latest.json"] := by
  rw [resolve_join_component (component_names "latest.json" (by simp)), resolve_join_component h,
    List.append_assoc]
  rfl

/-- Of the latest artifacts, those of one kind at one place change. -/
theorem writeJsonArtifact_latest {dir : Location} {kind' : String} (h : Component kind') :
    writeJsonArtifact cwd configured id kind' stamp payload files (dir ++ [kind, "latest.json"])
      = if dir = (outputDir configured id).resolve cwd ∧ kind = kind' then some payload
        else files (dir ++ [kind, "latest.json"]) := by
  unfold writeJsonArtifact
  rw [parent_join_component (component_stamp stamp), writeText, resolve_latest h, writeText,
    resolve_join_component (component_stamp stamp), resolve_join_component h, Function.update_apply,
    Function.update_apply, List.append_assoc, List.singleton_append]
  have hcut : ∀ name, dir ++ [kind, "latest.json"]
      = (outputDir configured id).resolve cwd ++ [kind', name]
      → dir = (outputDir configured id).resolve cwd ∧ kind = kind' := fun name heq => by
    obtain ⟨hdir, hnames⟩ := List.append_inj' heq rfl
    exact ⟨hdir, (List.cons.inj hnames).1⟩
  by_cases hplace : dir = (outputDir configured id).resolve cwd ∧ kind = kind'
  · rw [if_pos hplace, hplace.1, hplace.2, if_pos rfl]
  · rw [if_neg hplace, if_neg fun heq => hplace (hcut _ heq), if_neg fun heq => hplace (hcut _ heq)]

/-- Files of other names are left alone. -/
theorem writeText_latest {p : Path} {text name : String} {init dir : Location}
    (hp : p.resolve cwd = init ++ [name]) (hname : name ≠ "latest.json") :
    writeText cwd p text files (dir ++ [kind, "latest.json"]) = files (dir ++ [kind, "latest.json"]) := by
  rw [writeText, hp]
  refine Function.update_of_ne (fun heq => hname ?_) _ _
  have hlast := congrArg List.getLast? heq
  simpa using hlast.symm

/-- What an iteration writes of each kind. -/
def written (outcome : Outcome) (kind : String) : Option String :=
  if kind = "observations" then some outcome.observation
  else if kind = "verdicts" then outcome.verdict
  else if kind = "actuations" then outcome.action
  else none

/-- The latest artifacts after an iteration. -/
theorem runOnce_latest (h : w.Plain) {stamps : String → Stamp} {outcome : Outcome} {state : String}
    {dir : Location} :
    runOnce cwd (deployGenericRemoteMonitor w none) w.id stamps outcome state files
        (dir ++ [kind, "latest.json"])
      = if dir = artifacts (safeFilename w.id) then
          (written outcome kind).or (files (dir ++ [kind, "latest.json"]))
        else files (dir ++ [kind, "latest.json"]) := by
  have hplace : ∀ cwd, (outputDir (deployGenericRemoteMonitor w none).outputDir w.id).resolve cwd
      = artifacts (safeFilename w.id) := fun _ => resolve_artifacts h
  have hstate : ∀ files : Files, recordState cwd (deployGenericRemoteMonitor w none) state files
      (dir ++ [kind, "latest.json"]) = files (dir ++ [kind, "latest.json"]) := fun files => by
    rw [recordState, deploy_of_plain h]
    exact writeText_latest (resolve_statePath h) (by decide)
  have hobservations : Component "observations" := component_names _ (by simp)
  have hverdicts : Component "verdicts" := component_names _ (by simp)
  have hactuations : Component "actuations" := component_names _ (by simp)
  have hprompt : Component "latest.txt" := component_names _ (by simp)
  cases outcome with
  | unreachable observation =>
    simp only [runOnce, hstate]
    rw [writeJsonArtifact_latest hobservations, hplace]
    simp only [written, Outcome.verdict, Outcome.action]
    split_ifs <;> simp_all
  | promptOnly observation prompt =>
    simp only [runOnce, hstate]
    rw [writeText_latest (resolve_join_component hprompt) (by decide),
      writeJsonArtifact_latest hobservations, hplace]
    simp only [written, Outcome.verdict, Outcome.action]
    split_ifs <;> simp_all
  | verdictFailed observation =>
    simp only [runOnce, hstate]
    rw [writeJsonArtifact_latest hobservations, hplace]
    simp only [written, Outcome.verdict, Outcome.action]
    split_ifs <;> simp_all
  | judged observation verdict action =>
    simp only [runOnce, hstate]
    rw [writeJsonArtifact_latest hactuations, writeJsonArtifact_latest hverdicts,
      writeJsonArtifact_latest hobservations, hplace]
    simp only [written, Outcome.verdict, Outcome.action]
    split_ifs <;> simp_all

/-- The state comes last. -/
theorem runOnce_state (h : w.Plain) {stamps : String → Stamp} {outcome : Outcome} {state : String} :
    runOnce cwd (deployGenericRemoteMonitor w none) w.id stamps outcome state files
      (down base (safeFilename w.id) ++ ["state.json"]) = some state := by
  have hstate : ∀ files : Files, recordState cwd (deployGenericRemoteMonitor w none) state files
      (down base (safeFilename w.id) ++ ["state.json"]) = some state := fun files => by
    rw [recordState, deploy_of_plain h, writeText]
    show Function.update files ((parse (remoteMonitorSettings w none).statePath).resolve cwd) _ _ = _
    rw [resolve_statePath h]
    exact Function.update_self ..
  cases outcome <;> exact hstate _

/-- The status script looks at the place of the artifacts when the id and its sanitised form have
the same parts, and otherwise elsewhere. -/
theorem resolve_status_iff (h : w.Plain) :
    ((((parse (remoteMonitorSettings w none).dir).join "artifacts").join w.id).resolve home
        = artifacts (safeFilename w.id))
      ↔ parse w.id = parse (safeFilename w.id) := by
  have hartifacts : ((parse (remoteMonitorSettings w none).dir).join "artifacts").resolve home
      = down base (safeFilename w.id) ++ ["artifacts"] := by
    rw [resolve_join_component (component_names "artifacts" (by simp)), resolve_dir h]
  constructor
  · intro heq
    cases habsolute : (parse w.id).absolute with
    | true =>
      rw [Path.join, if_pos habsolute, Path.resolve, if_pos habsolute] at heq
      exact absurd heq (foldl_walk_root_ne w.id)
    | false =>
      rw [resolve_join habsolute, hartifacts] at heq
      have hparts := foldl_walk_id (by simp) heq
      rw [show parse w.id = ⟨(parse w.id).absolute, (parse w.id).parts⟩ from rfl, habsolute, hparts,
        parse_safe]
  · intro heq
    have habsolute : (parse w.id).absolute = false := by rw [heq, parse_safe]
    rw [resolve_join habsolute, hartifacts, heq, foldl_walk_safe]
    rfl

end

end RemoteMonitorLemmas

open RemoteMonitorLemmas in
/-- The status of a worker shows what its monitor wrote when the sanitiser leaves the parts of the id
as they are. -/
theorem shown_iff {w : Worker} (h : w.Plain) :
    Shown w ↔ parse w.id = parse (safeFilename w.id) := by
  have hcomponents : Component "observations" ∧ Component "verdicts" ∧ Component "actuations" :=
    ⟨component_names _ (by simp), component_names _ (by simp), component_names _ (by simp)⟩
  constructor
  · intro hshown
    -- a first iteration: there is nothing to read elsewhere
    have hread := hshown.observation [] [] (fun _ => ⟨"0", by decide⟩) (.unreachable "") "" fun _ => none
    simp only [remoteMonitorStatus] at hread
    rw [resolve_latest hcomponents.1, runOnce_latest h] at hread
    refine (@resolve_status_iff w [] h).mp ?_
    by_contra hne
    rw [if_neg hne] at hread
    cases hread
  · intro heq
    have hplace : ∀ home, (((parse (remoteMonitorSettings w none).dir).join "artifacts").join
        w.id).resolve home = artifacts (safeFilename w.id) := fun home => (resolve_status_iff h).mpr heq
    refine ⟨fun cwd home stamp outcome state files => ?_,
      fun cwd home stamp outcome state files => ?_,
      fun cwd home stamp outcome state files hverdict => ?_,
      fun cwd home stamp outcome state files haction => ?_⟩
    · simp only [remoteMonitorStatus]
      rw [resolve_join_component (component_names "state.json" (by simp)), resolve_dir h]
      exact runOnce_state h
    · simp only [remoteMonitorStatus]
      rw [resolve_latest hcomponents.1, runOnce_latest h, if_pos (hplace home)]
      rfl
    · obtain ⟨verdict, hverdict⟩ := Option.ne_none_iff_exists'.mp hverdict
      simp only [remoteMonitorStatus]
      rw [resolve_latest hcomponents.2.1, runOnce_latest h, if_pos (hplace home)]
      show outcome.verdict.or _ = _
      rw [hverdict]
      rfl
    · obtain ⟨action, haction⟩ := Option.ne_none_iff_exists'.mp haction
      simp only [remoteMonitorStatus]
      rw [resolve_latest hcomponents.2.2, runOnce_latest h, if_pos (hplace home)]
      show outcome.action.or _ = _
      rw [haction]
      rfl

/-- When two monitors share nothing, and when the status of one shows what it wrote. -/
theorem apart_and_shown_iff {v w : Worker} (hv : v.Plain) (hw : w.Plain) :
    (∀ cwd configured, Apart cwd configured v w ↔ safeFilename v.id ≠ safeFilename w.id
      ∧ ¬ ((parse configured).resolve cwd = []
        ∧ Dots (safeFilename v.id) ∧ Dots (safeFilename w.id)))
      ∧ (Shown v ↔ parse v.id = parse (safeFilename v.id)) :=
  ⟨fun _ _ => apart_iff hv hw, shown_iff hv⟩

/-- A worker without overrides. -/
def bare (id : String) (h : id ≠ "") : Worker := { id := id, id_ne := h }

theorem apart_and_shown_bare :
    Apart [] "/srv/outputs" (bare "gpu-1" (by decide)) (bare "gpu-2" (by decide))
      ∧ Shown (bare "gpu-1" (by decide)) := by
  have h := @apart_and_shown_iff (bare "gpu-1" (by decide)) (bare "gpu-2" (by decide))
    ⟨rfl, rfl, rfl⟩ ⟨rfl, rfl, rfl⟩
  exact ⟨(h.1 [] "/srv/outputs").mpr ⟨by decide +kernel, fun hroot => absurd hroot.1 (by decide +kernel)⟩,
    h.2.mpr (by decide +kernel)⟩

/-- The space of one id becomes the dash of the other: the monitors share their directory, state file,
window and artifacts, and the status of the first does not find its artifacts. -/
theorem shared_names :
    let v := bare "gpu 1" (by decide)
    let w := bare "gpu-1" (by decide)
    v.Plain ∧ w.Plain ∧ v.id ≠ w.id ∧ remoteMonitorSettings v none = remoteMonitorSettings w none
      ∧ outputDir (deployGenericRemoteMonitor v none).outputDir v.id
        = outputDir (deployGenericRemoteMonitor w none).outputDir w.id
      ∧ remoteMonitorStatus [] (remoteMonitorSettings v none) v.id
        (runOnce [] (deployGenericRemoteMonitor v none) v.id (fun _ => ⟨"0", by decide⟩)
          (.judged "observation" "verdict" "action") "state" fun _ => none)
        = ⟨some "state", none, none, none⟩ :=
  ⟨⟨rfl, rfl, rfl⟩, ⟨rfl, rfl, rfl⟩, by decide, by decide +kernel, by decide +kernel,
    by decide +kernel⟩

end RemoteMonitor
