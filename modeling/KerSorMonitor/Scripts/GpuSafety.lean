import KerSorMonitor.Lib.Keyed
import KerSorMonitor.Lib.Worklist
import KerSorMonitor.Scripts.Metrics

/-!
# GPU safety of a worker (`descendant_pids`, `detect_gpu_safety` in `scripts/monitor_state.py`)

The processes of a worker are those below the process of its pane. The report says whether one of
them runs on a GPU that is not the worker's, whether the lock is too old, and whether a tool that
needs the lock runs without it.

Results:
1. `descendantPids_iff`: the search ends with the processes below the root.
2. `safety_iff`: an `ok` can be relied on when each tool that runs without the lock is recognised. A
   profiler that is called by its path is not.
-/

namespace Scripts

open Flotilla Keyed

variable (py : Python)

/-! ## Processes -/

/-- A row of the process table. -/
structure Process where
  pid : Int
  ppid : Int
  command : String
  deriving DecidableEq, Repr

/-- `children.setdefault(ppid, []).append(pid)` -/
def addChild (children : Dict Int (List Int)) (process : Process) : Dict Int (List Int) :=
  Dict.set children process.ppid ((Dict.get? children process.ppid).getD [] ++ [process.pid])

def childrenOf (processes : List Process) : Dict Int (List Int) :=
  processes.foldl addChild Table.empty

/-- `descendant_pids`, if `fuel` iterations are enough. -/
def descendantPids (rootPid : Option Int) (processes : List Process) (fuel : Nat) :
    Option (Finset Int) :=
  match rootPid with
  | none => some ∅
  | some root =>
    Worklist.search (fun pid => (Dict.get? (childrenOf processes) pid).getD []) root fuel

/-- A child edge. -/
def Child (processes : List Process) (ppid pid : Int) : Prop :=
  ∃ process ∈ processes, process.ppid = ppid ∧ process.pid = pid

/-- Zero or more child edges. -/
def Below (processes : List Process) (root pid : Int) : Prop :=
  Relation.ReflTransGen (Child processes) root pid

/-! ## The report -/

/-- A process on a GPU. -/
structure GpuApp where
  gpuUuid : String
  pid : Option Int
  processName : String
  usedMemoryMb : Option Int
  deriving DecidableEq, Repr

/-- What is known of the lock; `existing` is its key `exists`. -/
structure LockStatus where
  existing : Bool
  ageSeconds : Option Int
  pids : List Int
  deriving DecidableEq, Repr

structure GpuSafety where
  assignedGpuUuid : String
  workerGpuProcesses : List GpuApp
  unexpectedGpuProcesses : List GpuApp
  lockHeldByWorker : Bool
  lockAbnormallyOld : Bool
  directGpuToolWithoutLockEvidence : List (Int × String)
  ok : Bool

/-- The test of a command for tools that need the lock. -/
def isDirectTool (command : String) : Bool :=
  isIn "sol-execbench".toList (py.lower command).toList ||
    isIn " ncu".toList (' ' :: (py.lower command).toList)

/-- `pid in descendant_pid_set` -/
def inSet (descendants : Finset Int) : Option Int → Bool
  | some pid => pid ∈ descendants
  | none => false

/-- The lock is older than the limit. -/
def LockStatus.overAge (lock : LockStatus) (abnormalLockSeconds : Int) : Bool :=
  lock.existing && lock.ageSeconds.any (abnormalLockSeconds < ·)

/-- `detect_gpu_safety`. -/
def detectGpuSafety (assignedGpuUuid : Option String) (descendants : Finset Int)
    (gpuApps : List GpuApp) (processes : List Process) (lock : LockStatus)
    (abnormalLockSeconds : Int) : GpuSafety :=
  let workerGpuProcesses := gpuApps.filter fun app => inSet descendants app.pid
  let unexpected := workerGpuProcesses.filter fun app =>
    (assignedGpuUuid.filter (· ≠ "")).any (app.gpuUuid ≠ ·)
  let lockHeldByWorker := lock.pids.any (· ∈ descendants)
  let abnormalLock := lock.overAge abnormalLockSeconds
  let directGpuTools := (processes.filter fun process => process.pid ∈ descendants &&
    (isDirectTool py process.command && !lockHeldByWorker)).map fun process =>
      (process.pid, process.command)
  { assignedGpuUuid := assignedGpuUuid.getD ""
    workerGpuProcesses := workerGpuProcesses
    unexpectedGpuProcesses := unexpected
    lockHeldByWorker := lockHeldByWorker
    lockAbnormallyOld := abnormalLock
    directGpuToolWithoutLockEvidence := directGpuTools
    ok := unexpected.isEmpty && !abnormalLock && directGpuTools.isEmpty }

/-! ## What an `ok` should mean -/

/-- The name of the program that a command line starts, without its directory. -/
def programName (command : List Char) : List Char :=
  let word := (command.dropWhile py.isSpace).takeWhile fun c => !py.isSpace c
  (word.reverse.takeWhile (· ≠ '/')).reverse

/-- The command is one of `sol-execbench` or of `ncu`, in any letter case. -/
def RunsTool (command : String) : Prop :=
  isIn "sol-execbench".toList (py.lower command).toList = true ∨
    programName py (py.lower command).toList = "ncu".toList

section
variable (root : Int) (processes : List Process) (gpuApps : List GpuApp) (lock : LockStatus)
variable (assignedGpuUuid : Option String) (abnormalLockSeconds : Int)

/-- A process below the root holds the lock. -/
def LockHeld : Prop := ∃ pid ∈ lock.pids, Below processes root pid

/-- A process below the root runs on a GPU that is not the assigned one. -/
def OnOtherGpu : Prop :=
  ∃ app ∈ gpuApps, ∃ pid, app.pid = some pid ∧ Below processes root pid ∧
    ∃ uuid, assignedGpuUuid = some uuid ∧ uuid ≠ "" ∧ app.gpuUuid ≠ uuid

/-- What the claim says of a report that is `ok`. -/
structure Safe : Prop where
  ownGpu : ¬ OnOtherGpu root processes gpuApps assignedGpuUuid
  lockAge : lock.overAge abnormalLockSeconds = false
  locked : ∀ process ∈ processes, Below processes root process.pid →
    RunsTool py process.command → LockHeld root processes lock

/-- A tool runs without the lock only next to something that the report does see. -/
def NoToolOverlooked : Prop :=
  ∀ process ∈ processes, Below processes root process.pid → RunsTool py process.command →
    LockHeld root processes lock ∨ OnOtherGpu root processes gpuApps assignedGpuUuid ∨
    lock.overAge abnormalLockSeconds = true ∨
    ∃ process' ∈ processes, Below processes root process'.pid ∧ isDirectTool py process'.command = true

end

namespace GpuSafetyLemmas

variable {py}

theorem getD_childrenOf (processes : List Process) (pid : Int) :
    (Dict.get? (childrenOf processes) pid).getD []
      = Worklist.successors (processes.map fun process => (process.ppid, process.pid)) pid := by
  unfold childrenOf Worklist.successors
  have hfold : ∀ children : Dict Int (List Int),
      (Dict.get? (processes.foldl addChild children) pid).getD []
        = (Dict.get? children pid).getD [] ++ ((processes.map fun process =>
          (process.ppid, process.pid)).filter fun e => e.1 = pid).map Prod.snd := by
    induction processes with
    | nil => simp
    | cons process processes ih =>
      intro children
      rw [List.foldl_cons, ih, addChild, Dict.get?_set, List.map_cons, List.filter_cons]
      by_cases hpid : pid = process.ppid
      · rw [if_pos hpid, if_pos (decide_eq_true hpid.symm), hpid]
        simp
      · rw [if_neg hpid, if_neg (by simpa using Ne.symm hpid)]
  simpa using hfold Table.empty

/-- With enough fuel the search ends with the processes below the root. -/
theorem descendantPids_iff (root : Int) (processes : List Process) {fuel : Nat}
    (hfuel : processes.length + 1 < fuel) :
    ∃ seen, descendantPids (some root) processes fuel = some seen ∧
      ∀ pid, pid ∈ seen ↔ Below processes root pid := by
  have hlength : (processes.map fun process => (process.ppid, process.pid)).length + 1 < fuel := by
    rw [List.length_map]
    exact hfuel
  obtain ⟨seen, hsearch, hseen⟩ := @Worklist.search_iff _
    (fun pid => (Dict.get? (childrenOf processes) pid).getD []) root _ _ (getD_childrenOf processes)
    fuel hlength
  refine ⟨seen, hsearch, fun pid => (hseen pid).trans ?_⟩
  have hedge : (fun ppid pid => pid ∈ (Dict.get? (childrenOf processes) ppid).getD [])
      = Child processes := by
    funext ppid pid
    rw [getD_childrenOf, Worklist.mem_successors, List.mem_map]
    simp only [Prod.mk.injEq]
    rfl
  rw [hedge]
  rfl

section
variable {root : Int} {processes : List Process} {gpuApps : List GpuApp} {lock : LockStatus}
variable {assignedGpuUuid : Option String} {abnormalLockSeconds : Int} {seen : Finset Int}

theorem unexpected_iff (hseen : ∀ pid, pid ∈ seen ↔ Below processes root pid) :
    (detectGpuSafety py assignedGpuUuid seen gpuApps processes lock
        abnormalLockSeconds).unexpectedGpuProcesses = [] ↔
      ¬ OnOtherGpu root processes gpuApps assignedGpuUuid := by
  unfold detectGpuSafety OnOtherGpu
  dsimp only
  rw [List.eq_nil_iff_forall_not_mem, not_exists]
  refine forall_congr' fun app => not_congr ?_
  rw [List.mem_filter, List.mem_filter, and_assoc]
  refine and_congr_right fun _ => ?_
  cases hpid : app.pid with
  | none => simp [inSet]
  | some pid =>
    cases assignedGpuUuid with
    | none => simp
    | some uuid =>
      by_cases hempty : uuid = ""
      · simp [hempty]
      · simp [inSet, hseen, hempty, Option.filter]

theorem lockHeld_iff (hseen : ∀ pid, pid ∈ seen ↔ Below processes root pid) :
    lock.pids.any (· ∈ seen) = true ↔ LockHeld root processes lock := by
  simp [LockHeld, hseen]

theorem directTools_iff (hseen : ∀ pid, pid ∈ seen ↔ Below processes root pid) :
    (detectGpuSafety py assignedGpuUuid seen gpuApps processes lock
        abnormalLockSeconds).directGpuToolWithoutLockEvidence = [] ↔
      ∀ process ∈ processes, Below processes root process.pid →
        isDirectTool py process.command = true → LockHeld root processes lock := by
  unfold detectGpuSafety
  dsimp only
  rw [List.map_eq_nil_iff, List.filter_eq_nil_iff]
  refine forall₂_congr fun process _ => ?_
  rw [← lockHeld_iff hseen, ← hseen]
  cases isDirectTool py process.command <;> cases lock.pids.any (· ∈ seen) <;> simp

/-- What the report says when it is `ok`. -/
theorem ok_iff (hseen : ∀ pid, pid ∈ seen ↔ Below processes root pid) :
    (detectGpuSafety py assignedGpuUuid seen gpuApps processes lock abnormalLockSeconds).ok = true ↔
      ¬ OnOtherGpu root processes gpuApps assignedGpuUuid ∧
      lock.overAge abnormalLockSeconds = false ∧
      ∀ process ∈ processes, Below processes root process.pid →
        isDirectTool py process.command = true → LockHeld root processes lock := by
  have hok : (detectGpuSafety py assignedGpuUuid seen gpuApps processes lock
      abnormalLockSeconds).ok
      = ((detectGpuSafety py assignedGpuUuid seen gpuApps processes lock
          abnormalLockSeconds).unexpectedGpuProcesses.isEmpty &&
        !lock.overAge abnormalLockSeconds &&
        (detectGpuSafety py assignedGpuUuid seen gpuApps processes lock
          abnormalLockSeconds).directGpuToolWithoutLockEvidence.isEmpty) := rfl
  rw [hok, Bool.and_eq_true, Bool.and_eq_true, List.isEmpty_iff, List.isEmpty_iff,
    unexpected_iff hseen, directTools_iff hseen, Bool.not_eq_true', and_assoc]

end

end GpuSafetyLemmas

open GpuSafetyLemmas in
/-- The search always ends with the processes below the root. Its report can be relied on exactly if no
tool is overlooked that runs without the lock. -/
theorem safety_iff (root : Int) (processes : List Process) (gpuApps : List GpuApp)
    (lock : LockStatus) (assignedGpuUuid : Option String) (abnormalLockSeconds : Int) (fuel : Nat)
    (hfuel : processes.length + 1 < fuel) :
    (∃ seen, descendantPids (some root) processes fuel = some seen ∧
      (∀ pid, pid ∈ seen ↔ Below processes root pid) ∧
      ((detectGpuSafety py assignedGpuUuid seen gpuApps processes lock abnormalLockSeconds).ok = true →
        Safe py root processes gpuApps lock assignedGpuUuid abnormalLockSeconds)) ↔
      NoToolOverlooked py root processes gpuApps lock assignedGpuUuid abnormalLockSeconds := by
  obtain ⟨seen, hsearch, hseen⟩ := descendantPids_iff root processes hfuel
  constructor
  · rintro ⟨seen', hsearch', -, hsafe⟩ process hprocess hbelow hruns
    cases hsearch.symm.trans hsearch'
    by_contra hnone
    obtain ⟨hheld, hgpu, hage, htool⟩ : _ ∧ _ ∧ _ ∧ _ := by
      simpa only [not_or] using hnone
    -- the report sees nothing, and says that it is `ok`
    have hok : (detectGpuSafety py assignedGpuUuid seen gpuApps processes lock
        abnormalLockSeconds).ok = true :=
      (ok_iff hseen).mpr ⟨hgpu, Bool.eq_false_of_not_eq_true hage,
        fun process' hprocess' hbelow' hdirect =>
          absurd ⟨process', hprocess', hbelow', hdirect⟩ htool⟩
    exact hheld ((hsafe hok).locked process hprocess hbelow hruns)
  · refine fun hseenTools => ⟨seen, hsearch, hseen, fun hok => ?_⟩
    obtain ⟨hgpu, hage, hdirect⟩ := (ok_iff hseen).mp hok
    refine ⟨hgpu, hage, fun process hprocess hbelow hruns => ?_⟩
    rcases hseenTools process hprocess hbelow hruns with hheld | hother | hold | ⟨process', hp, hb, hd⟩
    · exact hheld
    · exact absurd hother hgpu
    · exact absurd hold (by rw [hage]; exact Bool.false_ne_true)
    · exact hdirect process' hp hb hd

/-- A pane with a shell that runs a benchmark; the shell is its own parent. -/
def benchmarkRun : List Process :=
  [⟨1, 1, "-bash"⟩, ⟨2, 1, "sol-execbench --all"⟩, ⟨2, 1, "sol-execbench --all"⟩, ⟨9, 8, "top"⟩]

def freeLock : LockStatus := ⟨false, none, []⟩

theorem safety_iff_benchmark :
    (∃ seen, descendantPids (some 1) benchmarkRun 9 = some seen ∧
      (∀ pid, pid ∈ seen ↔ Below benchmarkRun 1 pid) ∧
      ((detectGpuSafety asciiPython (some "GPU-1") seen [] benchmarkRun freeLock 7200).ok = true →
        Safe asciiPython 1 benchmarkRun [] freeLock (some "GPU-1") 7200)) ↔
      NoToolOverlooked asciiPython 1 benchmarkRun [] freeLock (some "GPU-1") 7200 :=
  safety_iff asciiPython 1 benchmarkRun [] freeLock (some "GPU-1") 7200 9 (by decide)

/-- A profiler that is called by its path. -/
def profilerRun : List Process := [⟨2, 1, "/usr/local/cuda/bin/ncu --set full ./bench"⟩]

open GpuSafetyLemmas in
/-- The profiler below the pane runs without the lock, and the report is `ok`. -/
theorem overlooked_profiler :
    ∃ seen, descendantPids (some 1) profilerRun 9 = some seen ∧
      (∀ pid, pid ∈ seen ↔ Below profilerRun 1 pid) ∧
      (detectGpuSafety asciiPython (some "GPU-1") seen [] profilerRun freeLock 7200).ok = true ∧
      ¬ Safe asciiPython 1 profilerRun [] freeLock (some "GPU-1") 7200 := by
  obtain ⟨seen, hsearch, hseen⟩ := @descendantPids_iff 1 profilerRun 9 (by decide)
  have hbelow : Below profilerRun 1 2 :=
    .single ⟨⟨2, 1, "/usr/local/cuda/bin/ncu --set full ./bench"⟩, by decide, rfl, rfl⟩
  have hunseen : isDirectTool asciiPython "/usr/local/cuda/bin/ncu --set full ./bench" = false := by
    decide +kernel
  have hruns : RunsTool asciiPython "/usr/local/cuda/bin/ncu --set full ./bench" :=
    Or.inr (by decide +kernel)
  refine ⟨seen, hsearch, hseen, (ok_iff hseen).mpr ⟨?_, rfl, ?_⟩, fun hsafe => ?_⟩
  · rintro ⟨app, happ, -⟩
    cases happ
  · intro process hprocess _ hdirect
    rw [List.mem_singleton.mp hprocess, hunseen] at hdirect
    cases hdirect
  · obtain ⟨pid, hpid, -⟩ := hsafe.locked _ (List.mem_singleton_self _) hbelow hruns
    cases hpid

end Scripts
