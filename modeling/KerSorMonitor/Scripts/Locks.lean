import Mathlib.Data.List.DropRight
import Mathlib.Tactic.IntervalCases

/-!
# GPU lock files (`scripts/gpu-run.sh`, `monitor_state.py`, `akctl`)

Three programs derive the path of the lock file of a GPU: the wrapper `gpu-run.sh`, the monitor
(`default_gpu_lock_file`) and `akctl start-task`. Lock directories and templates are the
default ones.

Result: `lock_paths_agree`, for which GPUs the paths agree and differ as they should.
-/

namespace Scripts

/-! ## Paths (`pathlib.PurePosixPath`) -/

/-- The components between the slashes. -/
def splitSlash : List Char → List (List Char)
  | [] => [[]]
  | c :: cs =>
    if c = '/' then [] :: splitSlash cs
    else
      match splitSlash cs with
      | [] => [[c]]
      | p :: ps => (c :: p) :: ps

/-- The components that a path keeps. -/
def isPart (p : List Char) : Bool := p ≠ [] && p ≠ ['.']

def pathParts (s : List Char) : List (List Char) := (splitSlash s).filter isPart

/-- `"/".join(parts)`. -/
def joinSlash : List (List Char) → List Char
  | [] => []
  | [p] => p
  | p :: ps => p ++ '/' :: joinSlash ps

/-- `str(Path("/tmp") / name)`, for a name that is not absolute. -/
def inTmp (name : String) : String :=
  String.ofList (joinSlash ([] :: "tmp".toList :: pathParts name.toList))

/-! ## The programs -/

/-- `[A-Za-z0-9_.-]`. -/
def isLockChar (c : Char) : Bool := c.isAlphanum || c = '_' || c = '.' || c = '-'

/-- `tr -c 'A-Za-z0-9_.-' '_'`, which works on bytes. -/
def trLockId (s : String) : String :=
  String.ofList (s.toList.flatMap fun c =>
    if isLockChar c then [c] else List.replicate c.utf8Size '_')

/-- A text that is set and not empty. -/
def given? : Option String → Option String
  | some s => if s = "" then none else some s
  | none => none

/-- `[:space:]`. -/
def isSpaceChar (c : Char) : Bool := c = ' ' || (9 ≤ c.toNat && c.toNat ≤ 13)

/-- `head -1 | tr -d '[:space:]'`. -/
def firstLineNoSpace (output : String) : String :=
  String.ofList ((output.toList.takeWhile (· ≠ '\n')).filter fun c => !isSpaceChar c)

/-- `GPU_UUID` in `gpu-run.sh`: the environment, or what `nvidia-smi` prints. -/
def gpuRunUuid (env : Option String) (nvidiaSmi : String) : String :=
  (given? env).getD (firstLineNoSpace nvidiaSmi)

/-- `LOCK_FILE` in `gpu-run.sh`. -/
def gpuRunLockFile (gpuId gpuUuid : String) : String :=
  let lockId := (given? (some gpuUuid)).getD ("index-" ++ gpuId)
  "/tmp/autokaggle-gpu-" ++ trLockId lockId ++ ".lock"

/-- `str.isalnum` of one character: its table outside ASCII is the interpreter's. -/
structure PyChars where
  isalnum : Char → Bool
  ascii : ∀ c : Char, c.toNat < 128 → isalnum c = c.isAlphanum

/-- `sanitize_lock_name`. -/
def sanitizeLockName (py : PyChars) (value : String) : String :=
  let safe := value.toList.map fun c =>
    if py.isalnum c || c = '-' || c = '_' || c = '.' then c else '_'
  let stripped := (safe.dropWhile (· = '_')).rdropWhile (· = '_')
  if stripped = [] then "unknown" else String.ofList stripped

/-- `default_gpu_lock_file`. -/
def defaultGpuLockFile (py : PyChars) (gpuUuid gpuIndex : Option String) : String :=
  let identity := (given? gpuUuid).getD
    (match given? gpuIndex with
      | some i => "index-" ++ i
      | none => "unassigned")
  inTmp ("autokaggle-gpu-" ++ sanitizeLockName py identity ++ ".lock")

/-- `gpu_lock_file` of `akctl`. -/
def gpuLockFile (gpuUuid : String) : String := inTmp ("autokaggle-gpu-" ++ gpuUuid ++ ".lock")

/-- The UUID that `start_task` uses. -/
def startTaskUuid (gpuUuid : Option String) (gpu : Int) : String :=
  (given? gpuUuid).getD ("GPU-index-" ++ toString gpu)

/-! ## One GPU, seen by the programs -/

/-- A GPU: its index, and its UUID where `nvidia-smi` is available. -/
structure Gpu where
  index : Int
  uuid : Option String

/-- Who derives a lock file; `gpu-run.sh` may be given the UUID or ask for it. -/
inductive Deriver
  | gpuRun
  | gpuRunGiven
  | monitor
  | control

/-- The lock file of a GPU. -/
def lockFile (py : PyChars) (g : Gpu) : Deriver → String
  | .gpuRun =>
    gpuRunLockFile (toString g.index) (gpuRunUuid none ((g.uuid.map (· ++ "\n")).getD ""))
  | .gpuRunGiven => gpuRunLockFile (toString g.index) (gpuRunUuid g.uuid "")
  | .monitor => defaultGpuLockFile py g.uuid (some (toString g.index))
  | .control => gpuLockFile (startTaskUuid g.uuid g.index)

/-- A UUID of which nothing is replaced or stripped. -/
def IsLockName (u : String) : Prop :=
  u.toList ≠ [] ∧ (∀ c ∈ u.toList, isLockChar c = true) ∧ u.toList.head? ≠ some '_' ∧
    u.toList.getLast? ≠ some '_'

/-- Two GPUs. -/
def Gpu.Differ (g g' : Gpu) : Prop :=
  g.index ≠ g'.index ∧ ∀ u, g.uuid = some u → g'.uuid ≠ some u

namespace LockLemmas

/-! ## Paths -/

theorem splitSlash_of_not_mem {s : List Char} (h : '/' ∉ s) : splitSlash s = [s] := by
  induction s with
  | nil => rfl
  | cons c cs ih =>
    rw [List.mem_cons, not_or] at h
    unfold splitSlash
    rw [if_neg (Ne.symm h.1), ih h.2]

/-- The first component ends at the first slash. -/
theorem splitSlash_append {s : List Char} (h : '/' ∉ s) (t : List Char) :
    splitSlash (s ++ '/' :: t) = s :: splitSlash t := by
  induction s with
  | nil => simp [splitSlash]
  | cons c cs ih =>
    rw [List.mem_cons, not_or] at h
    simp only [List.cons_append, splitSlash, if_neg (Ne.symm h.1), ih h.2]

/-- The last component ends as the path does. -/
theorem splitSlash_last (s : List Char) {e : List Char} (h : '/' ∉ e) :
    ∃ ps p, splitSlash (s ++ e) = ps ++ [p ++ e] := by
  induction s with
  | nil => exact ⟨[], [], by rw [List.nil_append, splitSlash_of_not_mem h]; rfl⟩
  | cons c cs ih =>
    obtain ⟨ps, p, heq⟩ := ih
    rw [List.cons_append]
    unfold splitSlash
    split
    · exact ⟨[] :: ps, p, by rw [heq]; rfl⟩
    · rw [heq]
      cases ps with
      | nil => exact ⟨[], c :: p, rfl⟩
      | cons q qs => exact ⟨(c :: q) :: qs, p, rfl⟩

theorem joinSlash_cons {p : List Char} {ps : List (List Char)} (h : ps ≠ []) :
    joinSlash (p :: ps) = p ++ '/' :: joinSlash ps := by
  cases ps with
  | nil => exact absurd rfl h
  | cons q qs => rfl

theorem mem_joinSlash {p : List Char} {ps : List (List Char)} (h : ps ≠ []) :
    '/' ∈ joinSlash (p :: ps) := by
  rw [joinSlash_cons h]
  exact List.mem_append_right _ List.mem_cons_self

/-! ## Lock files in `/tmp` -/

/-- A component that starts as a lock file does, or ends as one does, is kept. -/
theorem isPart_start (s : List Char) : isPart ("autokaggle-gpu-".toList ++ s) = true := by
  simp [isPart]

theorem isPart_end (s : List Char) : isPart (s ++ ".lock".toList) = true := by
  cases s <;> simp [isPart]

theorem inTmp_of_not_mem {v : String} (h : '/' ∉ v.toList) :
    inTmp ("autokaggle-gpu-" ++ v ++ ".lock") = "/tmp/autokaggle-gpu-" ++ v ++ ".lock" := by
  have hparts : pathParts ("autokaggle-gpu-" ++ v ++ ".lock").toList
      = ["autokaggle-gpu-".toList ++ (v.toList ++ ".lock".toList)] := by
    rw [pathParts, String.toList_append, String.toList_append, List.append_assoc,
      splitSlash_of_not_mem (by simpa using h), List.filter_cons_of_pos (isPart_start _),
      List.filter_nil]
  rw [inTmp, hparts]
  apply String.toList_injective
  simp [joinSlash]

/-- A slash in the identity makes a directory. -/
theorem inTmp_of_mem {v : String} (h : '/' ∈ v.toList) :
    ∃ s, '/' ∈ s ∧ inTmp ("autokaggle-gpu-" ++ v ++ ".lock") = String.ofList ("/tmp/".toList ++ s) := by
  obtain ⟨a, b, hab, ha⟩ := List.eq_append_cons_of_mem h
  obtain ⟨ps, q, hq⟩ := splitSlash_last b (e := ".lock".toList) (by decide)
  have hparts : pathParts ("autokaggle-gpu-" ++ v ++ ".lock").toList
      = ("autokaggle-gpu-".toList ++ a) :: (ps.filter isPart ++ [q ++ ".lock".toList]) := by
    have hlist : ("autokaggle-gpu-" ++ v ++ ".lock").toList
        = ("autokaggle-gpu-".toList ++ a) ++ '/' :: (b ++ ".lock".toList) := by simp [hab]
    rw [pathParts, hlist, splitSlash_append (by simpa using ha), hq,
      List.filter_cons_of_pos (isPart_start a), List.filter_append,
      List.filter_cons_of_pos (isPart_end q), List.filter_nil]
  have hne : ps.filter isPart ++ [q ++ ".lock".toList] ≠ [] := by simp
  refine ⟨_, mem_joinSlash (p := "autokaggle-gpu-".toList ++ a) hne, ?_⟩
  rw [inTmp, hparts]
  rfl

/-- A path of `pathlib` is the one that the shell writes exactly if the identities agree. -/
theorem inTmp_eq_iff {v w : String} (h : '/' ∉ w.toList) :
    inTmp ("autokaggle-gpu-" ++ v ++ ".lock") = "/tmp/autokaggle-gpu-" ++ w ++ ".lock" ↔ v = w := by
  constructor
  · intro heq
    by_cases hv : '/' ∈ v.toList
    · obtain ⟨s, hs, hpath⟩ := inTmp_of_mem hv
      have hlist := congrArg String.toList (hpath.symm.trans heq)
      have htail : s = "autokaggle-gpu-".toList ++ (w.toList ++ ".lock".toList) := by
        simpa using hlist
      rw [htail] at hs
      exact absurd (by simpa using hs) h
    · rw [inTmp_of_not_mem hv] at heq
      apply String.toList_injective
      simpa using congrArg String.toList heq
  · rintro rfl
    exact inTmp_of_not_mem h

/-! ## What the programs make of an identity -/

theorem lockChar_ascii {c : Char} (h : isLockChar c = true) : c.toNat < 128 := by
  change (((decide (c.val ≥ 'A'.val ∧ c.val ≤ 'Z'.val) || (c.val ≥ 'a'.val && c.val ≤ 'z'.val))
    || (c.val ≥ '0'.val && c.val ≤ '9'.val)) || c = '_' || c = '.' || c = '-') = true at h
  simp only [Bool.or_eq_true, Bool.and_eq_true, decide_eq_true_eq] at h
  rcases h with (((((⟨_, h⟩ | ⟨_, h⟩) | ⟨_, h⟩) | rfl) | rfl) | rfl)
  all_goals first
    | decide
    | exact lt_of_le_of_lt h (by decide)

theorem slash_not_lockChar {s : List Char} (h : ∀ c ∈ s, isLockChar c = true) : '/' ∉ s :=
  fun hmem => absurd (h _ hmem) (by decide)

theorem trLockId_lockChars (s : String) : ∀ c ∈ (trLockId s).toList, isLockChar c = true := by
  intro c hc
  rw [trLockId, String.toList_ofList, List.mem_flatMap] at hc
  obtain ⟨x, -, hc⟩ := hc
  split at hc
  · next hx => rwa [List.mem_singleton.mp hc]
  · rw [List.eq_of_mem_replicate hc]
    decide

theorem trLockId_of_lockChars {s : String} (h : ∀ c ∈ s.toList, isLockChar c = true) :
    trLockId s = s := by
  have hflat : ∀ cs : List Char, (∀ c ∈ cs, isLockChar c = true) →
      (cs.flatMap fun c => if isLockChar c then [c] else List.replicate c.utf8Size '_') = cs := by
    intro cs hcs
    induction cs with
    | nil => rfl
    | cons c cs ih =>
      rw [List.flatMap_cons, if_pos (hcs c List.mem_cons_self),
        ih fun x hx => hcs x (List.mem_cons_of_mem _ hx)]
      rfl
  rw [trLockId, hflat _ h, String.ofList_toList]

/-- `strip("_")` changes nothing exactly if neither end is an underscore. -/
theorem strip_eq_self {l : List Char} :
    (l.dropWhile (· = '_')).rdropWhile (· = '_') = l ↔ l.head? ≠ some '_' ∧ l.getLast? ≠ some '_' := by
  have hhead : l.dropWhile (· = '_') = l ↔ l.head? ≠ some '_' := by
    cases l with
    | nil => simp
    | cons c cs => simp [List.dropWhile_eq_self_iff]
  have hlast : l.rdropWhile (· = '_') = l ↔ l.getLast? ≠ some '_' := by
    rw [List.rdropWhile_eq_self_iff]
    rcases List.eq_nil_or_concat l with rfl | ⟨l', c, rfl⟩
    · simp
    · simp
  constructor
  · intro heq
    have hlen : l.length ≤ (l.dropWhile (· = '_')).length := by
      rw [← congrArg List.length heq]
      exact (List.rdropWhile_prefix _ _).length_le
    have hdrop := (List.dropWhile_suffix (l := l) _).eq_of_length_le hlen
    rw [hdrop] at heq
    exact ⟨hhead.mp hdrop, hlast.mp heq⟩
  · rintro ⟨h, h'⟩
    rw [hhead.mpr h, hlast.mpr h']

theorem sanitizeLockName_of_lockChars (py : PyChars) {u : String}
    (h : ∀ c ∈ u.toList, isLockChar c = true) (hne : u.toList ≠ []) :
    sanitizeLockName py u = u ↔ u.toList.head? ≠ some '_' ∧ u.toList.getLast? ≠ some '_' := by
  have hmap : (u.toList.map fun c =>
      if py.isalnum c || c = '-' || c = '_' || c = '.' then c else '_') = u.toList := by
    refine (List.map_congr_left fun c hc => ?_).trans (List.map_id _)
    have hchar := h c hc
    rw [py.ascii c (lockChar_ascii hchar), if_pos]
    · rfl
    · revert hchar
      simp only [isLockChar, Bool.or_eq_true, decide_eq_true_eq]
      tauto
  rw [← strip_eq_self]
  simp only [sanitizeLockName, hmap]
  constructor
  · intro heq
    split at heq
    · next hnil =>
      -- only underscores are left out, and "unknown" has none
      rw [← heq] at hnil
      exact absurd hnil (by decide)
    · conv_rhs => rw [← heq]
      rw [String.toList_ofList]
  · intro heq
    rw [heq, if_neg hne, String.ofList_toList]

theorem given?_some {s : String} (h : s ≠ "") : given? (some s) = some s := if_neg h

theorem given?_eq_some {o : Option String} {s : String} (h : given? o = some s) :
    o = some s ∧ s ≠ "" := by
  cases o with
  | none => exact absurd h (by simp [given?])
  | some x =>
    by_cases hx : x = ""
    · exact absurd h (by simp [given?, hx])
    · rw [given?_some hx] at h
      cases h
      exact ⟨rfl, hx⟩

theorem ne_empty_of_toList {s : String} (h : s.toList ≠ []) : s ≠ "" := by
  rintro rfl
  exact h rfl

/-! ## The paths of one GPU -/

/-- The shell and `akctl` agree exactly if the UUID is what `tr` makes of the identity. -/
theorem gpuRun_eq_control {i u v : String} :
    gpuRunLockFile i u = gpuLockFile v ↔
      v = trLockId ((given? (some u)).getD ("index-" ++ i)) := by
  rw [eq_comm]
  exact inTmp_eq_iff (slash_not_lockChar (trLockId_lockChars _))

/-- Without a UUID the shell's name starts with `index-`, that of `akctl` with `GPU-index-`. -/
theorem index_ne_gpuIndex (i : String) : "GPU-index-" ++ i ≠ trLockId ("index-" ++ i) := by
  intro heq
  have hhead := congrArg (fun s => s.toList.head?) heq
  simp [trLockId, isLockChar] at hhead

/-- Whitespace is what `firstLineNoSpace` leaves out. -/
theorem firstLineNoSpace_of_lockChars {u : String} (h : ∀ c ∈ u.toList, isLockChar c = true)
    (rest : String) (hrest : rest.toList.takeWhile (· ≠ '\n') = []) :
    firstLineNoSpace (u ++ rest) = u := by
  have hline : ∀ c ∈ u.toList, (c ≠ '\n' : Bool) = true := by
    intro c hc
    refine decide_eq_true fun hnl => ?_
    exact absurd (hnl ▸ h c hc) (by decide)
  have hspace : ∀ c ∈ u.toList, (!isSpaceChar c) = true := by
    intro c hc
    by_contra hsp
    have hchar := h c hc
    simp only [isSpaceChar, Bool.not_eq_true', Bool.not_eq_false, Bool.or_eq_true,
      Bool.and_eq_true, decide_eq_true_eq] at hsp
    rcases hsp with rfl | ⟨hlo, hhi⟩
    · exact absurd hchar (by decide)
    · -- the control characters from tab to carriage return
      have hc' : c = Char.ofNat c.toNat := (Char.ofNat_toNat c).symm
      generalize c.toNat = n at hlo hhi hc'
      subst hc'
      interval_cases n <;> exact absurd hchar (by decide)
  rw [firstLineNoSpace, String.toList_append, List.takeWhile_append_of_pos hline, hrest,
    List.append_nil, List.filter_eq_self.mpr hspace, String.ofList_toList]

/-- All programs file a GPU with such a UUID under it. -/
theorem lockFile_of_isLockName (py : PyChars) {g : Gpu} {u : String} (hg : g.uuid = some u)
    (h : IsLockName u) (d : Deriver) :
    lockFile py g d = "/tmp/autokaggle-gpu-" ++ u ++ ".lock" := by
  obtain ⟨hne, hchars, hends⟩ := h
  have hu : given? (some u) = some u := given?_some (ne_empty_of_toList hne)
  have hctl : gpuLockFile u = "/tmp/autokaggle-gpu-" ++ u ++ ".lock" :=
    inTmp_of_not_mem (slash_not_lockChar hchars)
  have hrun : ∀ i, gpuRunLockFile i u = gpuLockFile u := by
    intro i
    rw [gpuRun_eq_control, hu, Option.getD_some, trLockId_of_lockChars hchars]
  cases d with
  | gpuRun =>
    simp only [lockFile, hg, gpuRunUuid, given?, Option.map_some, Option.getD_some,
      Option.getD_none, firstLineNoSpace_of_lockChars hchars "\n" rfl, hrun, hctl]
  | gpuRunGiven =>
    simp only [lockFile, hg, gpuRunUuid, hu, Option.getD_some, hrun, hctl]
  | monitor =>
    simp only [lockFile, hg, defaultGpuLockFile, hu, Option.getD_some,
      (sanitizeLockName_of_lockChars py hchars hne).mpr hends]
    exact hctl
  | control =>
    simp only [lockFile, hg, startTaskUuid, hu, Option.getD_some, hctl]

/-- Nothing else makes the three programs agree. -/
theorem isLockName_of_agree (py : PyChars) {g : Gpu}
    (h : ∀ d d', lockFile py g d = lockFile py g d') : ∃ u, g.uuid = some u ∧ IsLockName u := by
  have hrun := gpuRun_eq_control.mp (h .gpuRunGiven .control)
  cases hg : given? g.uuid with
  | none =>
    -- both fall back to the index
    have hempty : firstLineNoSpace "" = "" := rfl
    rw [startTaskUuid, gpuRunUuid, hg, Option.getD_none, Option.getD_none, hempty] at hrun
    exact absurd hrun (index_ne_gpuIndex _)
  | some u =>
    obtain ⟨huuid, hne⟩ := given?_eq_some hg
    rw [startTaskUuid, gpuRunUuid, hg, Option.getD_some, Option.getD_some, given?_some hne,
      Option.getD_some] at hrun
    have hchars : ∀ c ∈ u.toList, isLockChar c = true := by
      rw [hrun]
      exact trLockId_lockChars u
    have hlist : u.toList ≠ [] := fun hnil => hne (String.toList_injective hnil)
    refine ⟨u, huuid, hlist, hchars, ?_⟩
    have hmon := h .monitor .control
    simp only [lockFile, defaultGpuLockFile, startTaskUuid, hg, Option.getD_some] at hmon
    rw [gpuLockFile, inTmp_of_not_mem (slash_not_lockChar hchars),
      inTmp_eq_iff (slash_not_lockChar hchars)] at hmon
    exact (sanitizeLockName_of_lockChars py hchars hlist).mp hmon

end LockLemmas

open LockLemmas

/-! ## When the lock paths agree -/

/-- The lock files of two GPUs are the same for every program, and differ between the GPUs,
exactly if both have a UUID of which nothing is replaced or stripped. -/
theorem lock_paths_agree (py : PyChars) (g g' : Gpu) (h : g.Differ g') :
    ((∀ d d', lockFile py g d = lockFile py g d') ∧
        (∀ d d', lockFile py g' d = lockFile py g' d') ∧
        ∀ d d', lockFile py g d ≠ lockFile py g' d') ↔
      (∃ u, g.uuid = some u ∧ IsLockName u) ∧ ∃ u, g'.uuid = some u ∧ IsLockName u := by
  constructor
  · rintro ⟨hagree, hagree', -⟩
    exact ⟨isLockName_of_agree py hagree, isLockName_of_agree py hagree'⟩
  · rintro ⟨⟨u, hg, hu⟩, u', hg', hu'⟩
    refine ⟨fun d d' => ?_, fun d d' => ?_, fun d d' => ?_⟩
    · rw [lockFile_of_isLockName py hg hu d, lockFile_of_isLockName py hg hu d']
    · rw [lockFile_of_isLockName py hg' hu' d, lockFile_of_isLockName py hg' hu' d']
    · rw [lockFile_of_isLockName py hg hu d, lockFile_of_isLockName py hg' hu' d']
      intro heq
      have hsame : u = u' := by
        apply String.toList_injective
        simpa using congrArg String.toList heq
      exact h.2 u hg (hsame ▸ hg')

/-- The table of the interpreter in the examples: ASCII only. -/
def asciiOnly : PyChars := ⟨Char.isAlphanum, fun _ _ => rfl⟩

theorem lock_paths_agree_two :
    (⟨0, some "GPU-a1"⟩ : Gpu).Differ ⟨1, some "GPU-b2"⟩ ∧
      ∀ d d', lockFile asciiOnly ⟨0, some "GPU-a1"⟩ d
        ≠ lockFile asciiOnly ⟨1, some "GPU-b2"⟩ d' := by
  have hdiffer : (⟨0, some "GPU-a1"⟩ : Gpu).Differ ⟨1, some "GPU-b2"⟩ := by
    refine ⟨by decide, ?_⟩
    rintro u ⟨⟩
    decide
  refine ⟨hdiffer, ?_⟩
  have hnames := (lock_paths_agree asciiOnly _ _ hdiffer).mpr
    ⟨⟨_, rfl, by decide, List.all_eq_true.mp (by decide), by decide, by decide⟩,
      ⟨_, rfl, by decide, List.all_eq_true.mp (by decide), by decide, by decide⟩⟩
  exact hnames.2.2

/-- Without `nvidia-smi` the wrapper locks another file than the one `akctl` exports. -/
theorem lock_paths_differ_without_uuid :
    lockFile asciiOnly ⟨0, none⟩ .gpuRun = "/tmp/autokaggle-gpu-index-0.lock" ∧
      lockFile asciiOnly ⟨0, none⟩ .monitor = "/tmp/autokaggle-gpu-index-0.lock" ∧
      lockFile asciiOnly ⟨0, none⟩ .control = "/tmp/autokaggle-gpu-GPU-index-0.lock" ∧
      ¬ ∀ d d', lockFile asciiOnly ⟨0, none⟩ d = lockFile asciiOnly ⟨0, none⟩ d' := by
  have hrun : lockFile asciiOnly ⟨0, none⟩ .gpuRun = "/tmp/autokaggle-gpu-index-0.lock" := by decide
  have hctl : lockFile asciiOnly ⟨0, none⟩ .control = "/tmp/autokaggle-gpu-GPU-index-0.lock" := by
    decide
  refine ⟨hrun, by decide, hctl, fun h => ?_⟩
  have heq := h .gpuRun .control
  rw [hrun, hctl] at heq
  exact absurd heq (by decide)

end Scripts
