import KerSorMonitor.Lib.Shlex
import KerSorMonitor.Scripts.Metrics
import Mathlib.Data.List.Nodup

/-!
# Start plans (`scripts/install-autokaggle-control.py`)

The installer writes a plan of the starts, a line for each task, and the installed script reads it.

Results:
1. `parse_planLine`: the line of a task is read as it was written.
2. `start_plan_round_trip`: the script reads the tasks in order, spread evenly over the GPUs.
-/

namespace Scripts

open Flotilla Csv

variable (py : Python)

/-! ## The installer -/

/-- What `yaml.safe_load` makes of the tasks file: the ids of the tasks of each group. -/
structure Group where
  tasks : List String

structure TasksFile where
  groups : List Group

/-- The ids of all groups. -/
def TasksFile.ids (file : TasksFile) : List String := file.groups.flatMap Group.tasks

/-- The monitor modes. -/
inductive MonitorMode
  | shadow
  | active
  deriving DecidableEq, Repr

def MonitorMode.text : MonitorMode → String
  | .shadow => "shadow"
  | .active => "active"

/-- The comments of a plan. -/
def planComments : List (List Char) :=
  ["# task_id gpu slot gpu_uuid monitor_mode".toList,
    "# gpu_uuid=auto resolves the current UUID from nvidia-smi at launch time.".toList]

/-- `f"{task_id}\t{gpu}\t{slot}\tauto\t{monitor_mode}"` -/
def planLine (gpuCount : Nat) (mode : MonitorMode) (index : Nat) (taskId : String) : List Char :=
  taskId.toList ++ '\t' :: (toString (index % gpuCount)).toList ++
    '\t' :: (toString (index / gpuCount)).toList ++ '\t' :: "auto".toList ++ '\t' :: mode.text.toList

/-- The lines so far, and the index of the next task. -/
abbrev PlanState := List (List Char) × Nat

def addTask (gpuCount : Nat) (mode : MonitorMode) (s : PlanState) (taskId : String) : PlanState :=
  (s.1 ++ [planLine gpuCount mode s.2 taskId], s.2 + 1)

/-- `build_start_plan_text`. -/
def buildStartPlanText (file : TasksFile) (gpuCount : Nat) (mode : MonitorMode) : List Char :=
  let s := file.groups.foldl (fun s group => group.tasks.foldl (addTask gpuCount mode) s)
    (planComments, 0)
  ['\n'].intercalate s.1 ++ ['\n']

/-! ## The installed script -/

/-- A row of the plan. -/
structure BatchRow where
  task : String
  gpu : Int
  slot : Int
  gpuUuid : String
  monitorMode : Option String
  line : Nat
  deriving DecidableEq, Repr

/-- `int(text)` -/
def intOf (text : List Char) : Except PyErr Int :=
  match py.intOfStr (String.ofList text) with
  | some n => .ok n
  | none => .error ⟨.valueError, "invalid literal for int() with base 10"⟩

/-- A line whose first word is the name of a column. -/
def isHeader (parts : List (List Char)) : Bool :=
  parts.head?.any fun part => py.lower (String.ofList part) ∈ ["task", "task_id"]

/-- What the words of a line say. -/
def batchRow (path : String) (lineno : Nat) : List (List Char) → Except PyErr BatchRow
  | task :: gpu :: slot :: more =>
    let monitorMode := more[1]?.map String.ofList
    if monitorMode.all fun mode => mode ∈ ["shadow", "active"] then do
      let gpu ← intOf py gpu
      let slot ← intOf py slot
      .ok ⟨String.ofList task, gpu, slot, (more[0]?.map String.ofList).getD "auto", monitorMode, lineno⟩
    else
      .error ⟨.runtimeError,
        path ++ ":" ++ toString lineno ++ ": monitor_mode must be shadow or active"⟩
  | _ =>
    .error ⟨.runtimeError,
      path ++ ":" ++ toString lineno ++ ": expected task_id gpu slot [gpu_uuid] [monitor_mode]"⟩

/-- A line: blank lines, comments and the header have no row. -/
def parseBatchLine (path : String) (lineno : Nat) (raw : List Char) : Except PyErr (Option BatchRow) :=
  let line := py.strip raw
  if line = [] ∨ line.head? = some '#' then .ok none
  else
    match Shlex.split line with
    | .error msg => .error ⟨.valueError, msg⟩
    | .ok parts =>
      if isHeader py parts then .ok none
      else (batchRow py path lineno parts).map some

/-- The rows of the lines from number `lineno` on. -/
def parseBatchLines (path : String) : Nat → List (List Char) → Except PyErr (List BatchRow)
  | _, [] => .ok []
  | lineno, raw :: lines => do
    let row ← parseBatchLine py path lineno raw
    let rows ← parseBatchLines path (lineno + 1) lines
    .ok (row.toList ++ rows)

/-- `parse_start_batch_config`, of the text at `path`. -/
def parseStartBatchConfig (path : String) (text : List Char) : Except PyErr (List BatchRow) := do
  let rows ← parseBatchLines py path 1 (splitLines text [])
  if rows.isEmpty then .error ⟨.runtimeError, "empty start batch config: " ++ path⟩ else .ok rows

/-! ## What should be read -/

/-- An id over `[A-Za-z0-9._-]` that is not the name of a column. -/
structure PlainId (id : String) : Prop where
  ne : id ≠ ""
  chars : ∀ c ∈ id.toList, c.isAlphanum = true ∨ c ∈ ['.', '_', '-']
  notTask : id.toList.map Char.toLower ≠ "task".toList
  notTaskId : id.toList.map Char.toLower ≠ "task_id".toList

/-- The row of the task with an index; two lines of comments come first. -/
def plannedRow (gpuCount : Nat) (mode : MonitorMode) (index : Nat) (taskId : String) : BatchRow :=
  ⟨taskId, (index % gpuCount : Nat), (index / gpuCount : Nat), "auto", some mode.text, index + 3⟩

/-- How many rows are on a GPU. -/
def load (rows : List BatchRow) (gpu : Nat) : Nat := rows.countP fun row => row.gpu = (gpu : Int)

namespace StartPlanLemmas

variable {py}

/-! ## Characters -/

/-- A character of the words of a plan. -/
def Bare (c : Char) : Prop := 45 ≤ c.toNat ∧ c.toNat ≤ 122 ∧ c ≠ '\\'

theorem bare_of_isAlphanum {c : Char} (h : c.isAlphanum = true) : Bare c := by
  have hne : c ≠ '\\' := by
    rintro rfl
    exact absurd h (by decide)
  have hrange : 48 ≤ c.toNat ∧ c.toNat ≤ 122 := by
    -- the ranges of the three classes
    have h : (decide (c.val ≥ 'A'.val ∧ c.val ≤ 'Z'.val) || (c.val ≥ 'a'.val && c.val ≤ 'z'.val) ||
        (c.val ≥ '0'.val && c.val ≤ '9'.val)) = true := h
    simp only [Bool.or_eq_true, Bool.and_eq_true, decide_eq_true_eq, ge_iff_le,
      UInt32.le_iff_toNat_le] at h
    have hval : c.val.toNat = c.toNat := rfl
    rcases h with (⟨h₁, h₂⟩ | ⟨h₁, h₂⟩) | ⟨h₁, h₂⟩ <;> simp at h₁ h₂ <;> omega
  exact ⟨by omega, hrange.2, hne⟩

theorem bare_of_plainId {id : String} (h : PlainId id) : ∀ c ∈ id.toList, Bare c := by
  intro c hc
  rcases h.chars c hc with halnum | hother
  · exact bare_of_isAlphanum halnum
  · simp only [List.mem_cons, List.not_mem_nil, or_false] at hother
    rcases hother with rfl | rfl | rfl <;> exact ⟨by decide, by decide, by decide⟩

theorem bare_of_digit {n : Nat} : ∀ c ∈ (toString n).toList, Bare c := by
  intro c hc
  have hdigit : c.isDigit = true := by
    have hrepr : (toString n).toList = Nat.toDigits 10 n := Nat.toList_repr
    rw [hrepr] at hc
    exact Nat.isDigit_of_mem_toDigits (by decide) (by decide) hc
  exact bare_of_isAlphanum (by simp [Char.isAlphanum, hdigit])

theorem bare_of_mode (mode : MonitorMode) : ∀ c ∈ mode.text.toList, Bare c := by
  cases mode <;> · intro c hc; exact bare_of_isAlphanum (List.all_eq_true.mp (by decide) c hc)

theorem Bare.isPlain {c : Char} (h : Bare c) : Shlex.IsPlain c := by
  obtain ⟨hlow, -, hback⟩ := h
  have hne (d : Char) (hd : d.toNat < 45) : c ≠ d := fun heq => by
    rw [heq] at hlow
    omega
  refine ⟨?_, ?_, hback⟩
  · simp [Shlex.isBlank, hne ' ' (by decide), hne '\t' (by decide), hne '\r' (by decide),
      hne '\n' (by decide)]
  · simp [Shlex.isMark, hne '\'' (by decide), hne '"' (by decide)]

theorem Bare.not_lineBreak {c : Char} (h : Bare c) : c.toNat ∉ lineBreaks := by
  obtain ⟨hlow, hhigh, -⟩ := h
  simp only [lineBreaks, List.mem_cons, List.not_mem_nil, or_false]
  omega

theorem Bare.not_space {c : Char} (h : Bare c) : py.isSpace c = false := by
  obtain ⟨hlow, hhigh, -⟩ := h
  have hne : c ≠ ' ' := fun heq => by
    rw [heq] at hlow
    exact absurd hlow (by decide)
  rw [py.isSpace_ascii c (by omega)]
  have h₁ : ¬ c.toNat ≤ 13 := by omega
  have h₂ : ¬ c.toNat ≤ 31 := by omega
  simp [hne, h₁, h₂]

/-! ## Lines -/

section
variable {gpuCount index : Nat} {mode : MonitorMode} {taskId : String}

/-- The words of a line of a plan. -/
def planWords (gpuCount : Nat) (mode : MonitorMode) (index : Nat) (taskId : String) :
    List (List Char) :=
  [taskId.toList, (toString (index % gpuCount)).toList, (toString (index / gpuCount)).toList,
    "auto".toList, mode.text.toList]

theorem planLine_eq : planLine gpuCount mode index taskId
    = ['\t'].intercalate (planWords gpuCount mode index taskId) := by
  simp [planLine, planWords, List.intercalate_cons_cons]

theorem bare_of_planWords (h : PlainId taskId) :
    ∀ word ∈ planWords gpuCount mode index taskId, ∀ c ∈ word, Bare c := by
  have hauto : ∀ c ∈ "auto".toList, Bare c := fun c hc =>
    bare_of_isAlphanum (List.all_eq_true.mp (by decide) c hc)
  intro word hword
  simp only [planWords, List.mem_cons, List.not_mem_nil, or_false] at hword
  rcases hword with rfl | rfl | rfl | rfl | rfl
  · exact bare_of_plainId h
  · exact bare_of_digit
  · exact bare_of_digit
  · exact hauto
  · exact bare_of_mode mode

theorem ne_nil_of_planWords (h : PlainId taskId) :
    ∀ word ∈ planWords gpuCount mode index taskId, word ≠ [] := by
  have hdigits (n : Nat) : (toString n).toList ≠ [] := by
    have hrepr : (toString n).toList = Nat.toDigits 10 n := Nat.toList_repr
    rw [hrepr]
    exact Nat.toDigits_ne_nil
  intro word hword
  simp only [planWords, List.mem_cons, List.not_mem_nil, or_false] at hword
  rcases hword with rfl | rfl | rfl | rfl | rfl
  · exact fun hnil => h.ne (String.toList_eq_nil_iff.mp hnil)
  · exact hdigits _
  · exact hdigits _
  · exact List.cons_ne_nil _ _
  · cases mode <;> exact List.cons_ne_nil _ _

theorem strip_of_ends {text : List Char} (hfirst : ∀ c ∈ text.head?, py.isSpace c = false)
    (hlast : ∀ c ∈ text.getLast?, py.isSpace c = false) : py.strip text = text := by
  have hself (l : List Char) (h : ∀ c ∈ l.head?, py.isSpace c = false) : l.dropWhile py.isSpace = l := by
    cases l with
    | nil => rfl
    | cons c l =>
      rw [List.dropWhile_cons, if_neg (by rw [h c rfl]; exact Bool.false_ne_true)]
  rw [Python.strip, hself text hfirst, hself text.reverse (by rw [List.head?_reverse]; exact hlast),
    List.reverse_reverse]

/-- A line of a plan starts with the id and ends with the mode. -/
theorem strip_planLine (h : PlainId taskId) :
    py.strip (planLine gpuCount mode index taskId) = planLine gpuCount mode index taskId ∧
      ∃ c rest, planLine gpuCount mode index taskId = c :: rest ∧ Bare c := by
  cases hid : taskId.toList with
  | nil => exact absurd (String.toList_eq_nil_iff.mp hid) h.ne
  | cons c id =>
    have hbare : Bare c := bare_of_plainId h c (by rw [hid]; exact List.mem_cons_self)
    refine ⟨strip_of_ends (fun d hd => ?_) (fun d hd => ?_), c, _, by
      simp only [planLine, hid, List.cons_append]; rfl, hbare⟩
    · simp only [planLine, hid, List.cons_append, List.head?_cons, Option.mem_def, Option.some.injEq] at hd
      rw [← hd]
      exact hbare.not_space
    · have hmode : mode.text.toList ≠ [] := by cases mode <;> exact List.cons_ne_nil _ _
      rw [planLine, List.getLast?_append_of_ne_nil _ (List.cons_ne_nil _ _),
        List.getLast?_cons_of_ne_nil hmode] at hd
      exact (bare_of_mode mode d (List.mem_of_getLast? hd)).not_space

/-- The id is not read as the name of a column. -/
theorem isHeader_planWords (h : PlainId taskId) :
    isHeader py (planWords gpuCount mode index taskId) = false := by
  have hascii : ∀ c ∈ taskId.toList, c.toNat < 128 := fun c hc => by
    have := (bare_of_plainId h c hc).2.1
    omega
  have hlower := py.lower_ascii taskId hascii
  have hne (name : String) (hname : taskId.toList.map Char.toLower ≠ name.toList) :
      py.lower taskId ≠ name := fun heq => hname (by rw [← hlower, heq])
  simp [isHeader, planWords, String.ofList_toList, hne _ h.notTask, hne _ h.notTaskId]

theorem batchRow_planWords (hint : ∀ n : Nat, py.intOfStr (toString n) = some (n : Int))
    (path : String) :
    batchRow py path (index + 3) (planWords gpuCount mode index taskId)
      = .ok (plannedRow gpuCount mode index taskId) := by
  have hmode : mode.text ∈ ["shadow", "active"] := by cases mode <;> decide
  have hintOf (n : Nat) : intOf py (toString n).toList = .ok (n : Int) := by
    rw [intOf, String.ofList_toList, hint]
  simp only [batchRow, planWords, List.getElem?_cons_succ, List.getElem?_cons_zero, Option.map_some,
    String.ofList_toList, Option.all_some, hmode, decide_true, if_true, hintOf, Option.getD_some]
  rfl

/-- The line of a task is read as it was written. -/
theorem parse_planLine (hint : ∀ n : Nat, py.intOfStr (toString n) = some (n : Int)) (h : PlainId taskId)
    (path : String) :
    parseBatchLine py path (index + 3) (planLine gpuCount mode index taskId)
      = .ok (some (plannedRow gpuCount mode index taskId)) := by
  obtain ⟨hstrip, c, rest, hline, hbare⟩ :=
    @strip_planLine py gpuCount index mode taskId h
  have hbody : ¬ (planLine gpuCount mode index taskId = [] ∨
      (planLine gpuCount mode index taskId).head? = some '#') := by
    rw [hline]
    rintro (hnil | hhash)
    · cases hnil
    · rw [Option.some.inj hhash] at hbare
      exact absurd hbare.1 (by decide)
  have hsplit : Shlex.split (planLine gpuCount mode index taskId)
      = .ok (planWords gpuCount mode index taskId) := by
    rw [planLine_eq]
    exact Shlex.split_tabs (List.cons_ne_nil _ _) (ne_nil_of_planWords h)
      fun word hword c hc => (bare_of_planWords h word hword c hc).isPlain
  unfold parseBatchLine
  dsimp only
  rw [hstrip, if_neg hbody, hsplit]
  dsimp only
  rw [isHeader_planWords h, if_neg Bool.false_ne_true, batchRow_planWords hint]
  rfl

/-- The lines of the tasks from an index on. -/
theorem parse_planLines (hint : ∀ n : Nat, py.intOfStr (toString n) = some (n : Int)) {ids : List String}
    (hids : ∀ id ∈ ids, PlainId id) (path : String) (index : Nat) :
    parseBatchLines py path (index + 3)
        (ids.mapIdx fun i id => planLine gpuCount mode (index + i) id)
      = .ok (ids.mapIdx fun i id => plannedRow gpuCount mode (index + i) id) := by
  induction ids generalizing index with
  | nil => rfl
  | cons id ids ih =>
    have hshift {β : Type} (f : Nat → String → β) :
        (fun i id => f (index + (i + 1)) id) = fun i id => f (index + 1 + i) id := by
      funext i id
      rw [Nat.add_assoc, Nat.add_comm 1 i]
    rw [List.mapIdx_cons, List.mapIdx_cons, hshift, hshift, parseBatchLines, Nat.add_zero index,
      parse_planLine hint (hids id List.mem_cons_self)]
    have hrest := ih (fun id hid => hids id (List.mem_cons_of_mem _ hid)) (index + 1)
    rw [Nat.add_right_comm] at hrest
    show (parseBatchLines py path (index + 3 + 1) _ >>= _) = _
    rw [hrest]
    rfl

/-- A comment has no row. -/
theorem parse_comment (path : String) (lineno : Nat) (rest : List Char) :
    parseBatchLine py path lineno ('#' :: rest) = .ok none := by
  have hspace : py.isSpace '#' = false := by
    rw [py.isSpace_ascii _ (by decide)]
    decide
  have hhead : (py.strip ('#' :: rest)).head? = some '#' := by
    rw [Python.strip, List.dropWhile_cons, if_neg (by rw [hspace]; exact Bool.false_ne_true),
      List.reverse_cons, List.dropWhile_append, List.head?_reverse]
    split
    · rw [List.dropWhile_cons, if_neg (by rw [hspace]; exact Bool.false_ne_true)]
      rfl
    · rw [List.getLast?_append_of_ne_nil _ (List.cons_ne_nil _ _)]
      rfl
  unfold parseBatchLine
  dsimp only
  rw [if_pos (Or.inr hhead)]

/-- The rows of a plan are those of its tasks. -/
theorem parse_planComments (path : String) (lines : List (List Char)) :
    parseBatchLines py path 1 (planComments ++ lines) = parseBatchLines py path 3 lines := by
  have hcomments : ∃ first second, planComments = ['#' :: first, '#' :: second] := by
    refine ⟨" task_id gpu slot gpu_uuid monitor_mode".toList,
      " gpu_uuid=auto resolves the current UUID from nvidia-smi at launch time.".toList, ?_⟩
    decide
  obtain ⟨first, second, hcomments⟩ := hcomments
  have hpass (lineno : Nat) (rest : List Char) (lines : List (List Char)) :
      parseBatchLines py path lineno (('#' :: rest) :: lines)
        = parseBatchLines py path (lineno + 1) lines := by
    rw [parseBatchLines, parse_comment]
    show (parseBatchLines py path (lineno + 1) lines >>= _) = _
    cases parseBatchLines py path (lineno + 1) lines <;> rfl
  rw [hcomments, List.cons_append, List.cons_append, List.nil_append, hpass, hpass]

/-! ## The text -/

theorem splitLines_intercalate {lines : List (List Char)} (hne : lines ≠ [])
    (h : ∀ line ∈ lines, ∀ c ∈ line, c.toNat ∉ lineBreaks) :
    splitLines (['\n'].intercalate lines ++ ['\n']) [] = lines := by
  induction lines with
  | nil => exact absurd rfl hne
  | cons line lines ih =>
    have hline := h line List.mem_cons_self
    cases lines with
    | nil =>
      rw [List.intercalate_singleton, splitLines_line hline]
      rfl
    | cons next lines =>
      rw [List.intercalate_cons_cons, List.append_assoc, List.append_assoc, List.singleton_append,
        splitLines_line hline,
        ih (List.cons_ne_nil _ _) fun line hmem => h line (List.mem_cons_of_mem _ hmem)]
      rfl

/-- The lines of a plan. -/
theorem foldl_groups (groups : List Group) (s : PlanState) :
    groups.foldl (fun s group => group.tasks.foldl (addTask gpuCount mode) s) s
      = (s.1 ++ (groups.flatMap Group.tasks).mapIdx fun i id => planLine gpuCount mode (s.2 + i) id,
        s.2 + (groups.flatMap Group.tasks).length) := by
  have htasks : ∀ (ids : List String) (s : PlanState), ids.foldl (addTask gpuCount mode) s
      = (s.1 ++ ids.mapIdx fun i id => planLine gpuCount mode (s.2 + i) id, s.2 + ids.length) := by
    intro ids
    induction ids with
    | nil => intro s; simp
    | cons id ids ih =>
      intro s
      rw [List.foldl_cons, ih, List.mapIdx_cons, addTask]
      simp [List.append_assoc, Nat.add_assoc, Nat.add_comm 1]
  rw [List.flatMap_def, ← htasks, List.foldl_flatten, List.foldl_map]

theorem buildStartPlanText_eq (file : TasksFile) :
    buildStartPlanText file gpuCount mode = ['\n'].intercalate
      (planComments ++ file.ids.mapIdx fun i id => planLine gpuCount mode (0 + i) id) ++ ['\n'] := by
  unfold buildStartPlanText
  rw [foldl_groups]
  rfl

theorem not_lineBreak_planLine (h : PlainId taskId) :
    ∀ c ∈ planLine gpuCount mode index taskId, c.toNat ∉ lineBreaks := by
  intro c hc
  have hwords := @bare_of_planWords gpuCount index mode taskId h
  simp only [planLine, List.mem_append, List.mem_cons] at hc
  simp only [planWords, List.forall_mem_cons] at hwords
  obtain ⟨hid, hgpu, hslot, hauto, hmode, -⟩ := hwords
  rcases hc with (((hc | rfl | hc) | rfl | hc) | rfl | hc) | rfl | hc
  · exact (hid c hc).not_lineBreak
  · decide
  · exact (hgpu c hc).not_lineBreak
  · decide
  · exact (hslot c hc).not_lineBreak
  · decide
  · exact (hauto c hc).not_lineBreak
  · decide
  · exact (hmode c hc).not_lineBreak

/-! ## The spread -/

/-- What of the rows depends on the index only. -/
theorem map_plannedRow {β : Type} {ids : List String} (f : BatchRow → β) (g : Nat → β)
    (h : ∀ i id, f (plannedRow gpuCount mode i id) = g i) :
    (ids.mapIdx (plannedRow gpuCount mode)).map f = (List.range ids.length).map g := by
  refine List.ext_getElem? fun i => ?_
  rw [List.getElem?_map, List.getElem?_map, List.getElem?_mapIdx]
  by_cases hi : i < ids.length
  · rw [List.getElem?_eq_getElem hi, List.getElem?_range hi]
    exact congrArg some (h i _)
  · rw [List.getElem?_eq_none (Nat.not_lt.mp hi),
      List.getElem?_eq_none (by rw [List.length_range]; exact Nat.not_lt.mp hi)]
    rfl

/-- The indices that have a remainder. -/
theorem countP_mod {n c g : Nat} (hg : g < c) :
    (List.range n).countP (fun i => i % c = g) = (n + (c - 1 - g)) / c := by
  induction n with
  | zero => exact (Nat.div_eq_of_lt (by omega)).symm
  | succ n ih =>
    have hstep : c ∣ n + (c - 1 - g) + 1 ↔ n % c = g := by
      have hn : n + (c - 1 - g) + 1 = c * (n / c) + (n % c + (c - g)) := by
        have := Nat.div_add_mod n c
        omega
      have hlt := Nat.mod_lt n (Nat.zero_lt_of_lt hg)
      rw [hn, Nat.dvd_add_right (Nat.dvd_mul_right c _)]
      constructor
      · rintro ⟨t, ht⟩
        -- the sum is positive and below twice the count
        have hone : t = 1 := by
          rcases Nat.lt_trichotomy t 1 with h | h | h
          · rw [Nat.lt_one_iff.mp h] at ht
            omega
          · exact h
          · have := Nat.mul_le_mul_left c h
            omega
        rw [hone] at ht
        omega
      · intro heq
        exact ⟨1, by omega⟩
    rw [List.range_succ, List.countP_append, ih, List.countP_singleton, Nat.add_right_comm n 1,
      Nat.succ_div]
    simp only [hstep, decide_eq_true_eq]

theorem load_plannedRow (ids : List String) {g : Nat} (hg : g < gpuCount) :
    load (ids.mapIdx (plannedRow gpuCount mode)) g
      = (ids.length + (gpuCount - 1 - g)) / gpuCount := by
  have hmap : (ids.mapIdx (plannedRow gpuCount mode)).map BatchRow.gpu
      = (List.range ids.length).map fun i => ((i % gpuCount : Nat) : Int) :=
    map_plannedRow _ _ fun _ _ => rfl
  have hload : load (ids.mapIdx (plannedRow gpuCount mode)) g
      = ((ids.mapIdx (plannedRow gpuCount mode)).map BatchRow.gpu).countP (· = (g : Int)) := by
    rw [List.countP_map]
    rfl
  rw [hload, hmap, List.countP_map, ← countP_mod hg]
  refine List.countP_congr fun i _ => ?_
  simp only [Function.comp_apply, decide_eq_true_eq]
  exact Int.natCast_inj

end

end StartPlanLemmas

open StartPlanLemmas in
/-- The script reads what the installer has planned: the tasks in order, at places of their own, and no
GPU has two tasks more than another. -/
theorem start_plan_round_trip (hint : ∀ n : Nat, py.intOfStr (toString n) = some (n : Int))
    (path : String) (file : TasksFile) (gpuCount : Nat) (mode : MonitorMode) (hgpus : 1 ≤ gpuCount)
    (hne : file.ids ≠ []) (hids : ∀ id ∈ file.ids, PlainId id) :
    parseStartBatchConfig py path (buildStartPlanText file gpuCount mode)
        = .ok (file.ids.mapIdx (plannedRow gpuCount mode)) ∧
      ((file.ids.mapIdx (plannedRow gpuCount mode)).map fun row => (row.gpu, row.slot)).Nodup ∧
      ∀ g < gpuCount, ∀ g' < gpuCount, load (file.ids.mapIdx (plannedRow gpuCount mode)) g
        ≤ load (file.ids.mapIdx (plannedRow gpuCount mode)) g' + 1 := by
  refine ⟨?_, ?_, fun g hg g' hg' => ?_⟩
  · have hbreaks : ∀ line ∈ planComments ++ file.ids.mapIdx fun i id =>
        planLine gpuCount mode (0 + i) id, ∀ c ∈ line, c.toNat ∉ lineBreaks := by
      have hcomments : planComments.all (fun line => line.all fun c => !lineBreaks.contains c.toNat)
          = true := by decide +kernel
      intro line hline c hc
      rcases List.mem_append.mp hline with hline | hline
      · simpa using List.all_eq_true.mp (List.all_eq_true.mp hcomments line hline) c hc
      · obtain ⟨i, hi, rfl⟩ := List.mem_mapIdx.mp hline
        exact not_lineBreak_planLine (hids _ (List.getElem_mem hi)) c hc
    have hrows := @parse_planLines py gpuCount mode hint file.ids hids path 0
    rw [Nat.zero_add 3] at hrows
    have hlines : parseBatchLines py path 1 (splitLines (buildStartPlanText file gpuCount mode) [])
        = .ok (file.ids.mapIdx (plannedRow gpuCount mode)) := by
      rw [buildStartPlanText_eq, splitLines_intercalate (by simp [planComments]) hbreaks,
        parse_planComments, hrows]
      simp only [Nat.zero_add]
    have hsome : (file.ids.mapIdx (plannedRow gpuCount mode)).isEmpty = false := by
      rw [List.isEmpty_eq_false_iff]
      exact fun hnil => hne (List.mapIdx_eq_nil_iff.mp hnil)
    rw [parseStartBatchConfig, hlines]
    show (if (file.ids.mapIdx (plannedRow gpuCount mode)).isEmpty then _ else _) = _
    rw [hsome]
    rfl
  · rw [map_plannedRow _ (fun i => (((i % gpuCount : Nat) : Int), ((i / gpuCount : Nat) : Int)))
      fun _ _ => rfl]
    refine List.Nodup.map (fun i j hij => ?_) List.nodup_range
    -- the place of a task determines its index
    obtain ⟨hmod, hdiv⟩ := Prod.mk.inj hij
    rw [← Nat.div_add_mod i gpuCount, ← Nat.div_add_mod j gpuCount, Int.natCast_inj.mp hmod,
      Int.natCast_inj.mp hdiv]
  · rw [load_plannedRow _ hg, load_plannedRow _ hg', ← Nat.add_div_right _ hgpus]
    exact Nat.div_le_div_right (by omega)

/-- Three tasks in two groups, on two GPUs. -/
def threeTasks : TasksFile := ⟨[⟨["L1-011", "FI_002"]⟩, ⟨["quant.3"]⟩]⟩

theorem intOfStr_ascii (n : Nat) : asciiPython.intOfStr (toString n) = some (n : Int) := by
  have hrepr : (toString n).toList = Nat.toDigits 10 n := Nat.toList_repr
  have hdigits : (toString n).toList.all Char.isDigit = true := by
    rw [hrepr]
    exact List.all_eq_true.mpr fun c hc => Nat.isDigit_of_mem_toDigits (by decide) (by decide) hc
  have hvalue : PyJson.digitsValue (toString n).toList = n := by
    have hten := Nat.ofDigitChars_ten_toDigits (n := n)
    rw [Nat.ofDigitChars_eq_foldl] at hten
    rw [hrepr, PyJson.digitsValue]
    simpa [Nat.mul_comm] using hten
  show (if toString n ≠ "" && (toString n).toList.all Char.isDigit then
    some ((PyJson.digitsValue (toString n).toList : Nat) : Int) else none) = _
  rw [hdigits, hvalue, if_pos (by simp)]

theorem start_plan_round_trip_three :
    parseStartBatchConfig asciiPython "plan.tsv" (buildStartPlanText threeTasks 2 .active)
        = .ok (threeTasks.ids.mapIdx (plannedRow 2 .active)) ∧
      ((threeTasks.ids.mapIdx (plannedRow 2 .active)).map fun row => (row.gpu, row.slot)).Nodup ∧
      ∀ g < 2, ∀ g' < 2, load (threeTasks.ids.mapIdx (plannedRow 2 .active)) g
        ≤ load (threeTasks.ids.mapIdx (plannedRow 2 .active)) g' + 1 := by
  refine start_plan_round_trip asciiPython intOfStr_ascii "plan.tsv" threeTasks 2 .active (by decide)
    (List.cons_ne_nil _ _) fun id hid => ?_
  have hplain (id : String) (h : (id.toList.all fun c => c.isAlphanum || ['.', '_', '-'].contains c) &&
      id ≠ "" && id.toList.map Char.toLower ≠ "task".toList &&
      id.toList.map Char.toLower ≠ "task_id".toList) : PlainId id := by
    simp only [Bool.and_eq_true, List.all_eq_true, Bool.or_eq_true, List.contains_iff_mem,
      decide_eq_true_eq] at h
    obtain ⟨⟨⟨hchars, hne⟩, htask⟩, htaskId⟩ := h
    exact ⟨hne, hchars, htask, htaskId⟩
  have hid : id ∈ ["L1-011", "FI_002", "quant.3"] := hid
  simp only [List.mem_cons, List.not_mem_nil, or_false] at hid
  rcases hid with rfl | rfl | rfl <;> exact hplain _ (by decide)

end Scripts
