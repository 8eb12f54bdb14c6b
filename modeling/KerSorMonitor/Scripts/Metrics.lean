import KerSorMonitor.Flotilla.PyJson
import KerSorMonitor.Scripts.Csv
import Mathlib.Data.List.Infix

/-!
# The row of a task (`normalize_task_row` in `scripts/monitor_state.py`)

What the monitor shows of a task: the state and the metadata of `status.json`, and metrics that
are looked for at many places of it and in `benchmark.csv`. Tables of the interpreter (its
Unicode classes, its float conversions) are the fields of `Python`.
-/

namespace Scripts

open Flotilla

/-- What the interpreter brings: character classes, case, and the conversions of numbers. -/
structure Python where
  isSpace : Char → Bool
  isDecimal : Char → Bool
  isDigit : Char → Bool
  lower : String → String
  upper : String → String
  /-- The floats. -/
  F : Type
  ofDecimal : PyFloat → F
  /-- `float(n)`: an `OverflowError` for integers that are too large. -/
  ofInt : Int → Except PyErr F
  /-- `float(text)`: `none` is a `ValueError`. -/
  ofStr : String → Option F
  isFinite : F → Bool
  /-- `int(x)`: `ValueError` for a NaN, `OverflowError` for an infinity. -/
  truncate : PyFloat → Except PyErr Int
  /-- `int(text)`: `none` is a `ValueError`. -/
  intOfStr : String → Option Int
  isSpace_ascii : ∀ c : Char, c.toNat < 128 → isSpace c =
    (c = ' ' || (9 ≤ c.toNat && c.toNat ≤ 13) || (28 ≤ c.toNat && c.toNat ≤ 31))
  isDecimal_ascii : ∀ c : Char, c.toNat < 128 → isDecimal c = c.isDigit
  isDigit_ascii : ∀ c : Char, c.toNat < 128 → isDigit c = c.isDigit
  lower_ascii : ∀ s : String, (∀ c ∈ s.toList, c.toNat < 128) →
    (lower s).toList = s.toList.map Char.toLower
  upper_ascii : ∀ s : String, (∀ c ∈ s.toList, c.toNat < 128) →
    (upper s).toList = s.toList.map Char.toUpper

/-- A power of ten. -/
def tenPow : Nat → Int
  | 0 => 1
  | n + 1 => 10 * tenPow n

/-- An interpreter for texts in ASCII, in which only plain digits are numbers. -/
def asciiPython : Python where
  isSpace c := c = ' ' || (9 ≤ c.toNat && c.toNat ≤ 13) || (28 ≤ c.toNat && c.toNat ≤ 31)
  isDecimal := Char.isDigit
  isDigit := Char.isDigit
  lower s := String.ofList (s.toList.map Char.toLower)
  upper s := String.ofList (s.toList.map Char.toUpper)
  F := PyFloat
  ofDecimal f := f
  ofInt n := .ok (.dec n 0)
  ofStr _ := none
  isFinite
    | .dec _ _ => true
    | _ => false
  truncate
    | .dec m e => .ok (if 0 ≤ e then m * tenPow e.toNat else m.tdiv (tenPow (-e).toNat))
    | .inf _ => .error ⟨.exception, "cannot convert float infinity to integer"⟩
    | .nan => .error ⟨.valueError, "cannot convert float NaN to integer"⟩
  intOfStr s :=
    if s ≠ "" && s.toList.all Char.isDigit then some (PyJson.digitsValue s.toList) else none
  isSpace_ascii _ _ := rfl
  isDecimal_ascii _ _ := rfl
  isDigit_ascii _ _ := rfl
  lower_ascii _ _ := String.toList_ofList
  upper_ascii _ _ := String.toList_ofList

/-- `type(exc).__name__`. -/
def excName : ExcClass → String
  | .jsonDecodeError => "JSONDecodeError"
  | .unicodeDecodeError => "UnicodeDecodeError"
  | .recursionError => "RecursionError"
  | .valueError => "ValueError"
  | .typeError => "TypeError"
  | .keyError => "KeyError"
  | .runtimeError => "RuntimeError"
  | .osError => "OSError"
  | _ => "Exception"

variable (py : Python)

/-! ## Texts -/

/-- `s.strip()`. -/
def Python.strip (s : List Char) : List Char :=
  ((s.dropWhile py.isSpace).reverse.dropWhile py.isSpace).reverse

/-- The two parts of `s.split(sep, 1)`, where the separator occurs. -/
def splitOnce (sep : List Char) : List Char → Option (List Char × List Char)
  | [] => none
  | c :: cs =>
    if sep.isPrefixOf (c :: cs) then some ([], (c :: cs).drop sep.length)
    else (splitOnce sep cs).map fun p => (c :: p.1, p.2)

/-- `needle in hay`. -/
def isIn (needle : List Char) (hay : List Char) : Bool := hay.tails.any needle.isPrefixOf

theorem isIn_iff {needle hay : List Char} : isIn needle hay = true ↔ needle <:+: hay := by
  rw [isIn, List.any_eq_true, List.infix_iff_prefix_suffix]
  constructor
  · rintro ⟨t, ht, hpre⟩
    exact ⟨t, List.isPrefixOf_iff_prefix.mp hpre, (List.mem_tails _ _).mp ht⟩
  · rintro ⟨t, hpre, hsuf⟩
    exact ⟨t, (List.mem_tails _ _).mpr hsuf, List.isPrefixOf_iff_prefix.mpr hpre⟩

/-! ## Numbers -/

/-- A dash and a decimal, with space around the dash. -/
def dashDecimal (cs : List Char) : Bool :=
  match cs.dropWhile py.isSpace with
  | '-' :: rest =>
    match rest.dropWhile py.isSpace with
    | d :: _ => py.isDecimal d
    | [] => false
  | _ => false

/-- `re.search(r"\d+(?:\.\d+)?\s*-\s*\d+(?:\.\d+)?", value)`: a decimal is enough on each side. -/
def hasRange : List Char → Bool
  | [] => false
  | c :: cs => (py.isDecimal c && dashDecimal py cs) || hasRange cs

/-- `\s|$|\(`. -/
def numberEnds : List Char → Bool
  | [] => true
  | c :: _ => py.isSpace c || c = '('

/-- `(?:\s*[xX%])?(?:\s|$|\()`. -/
def unitEnds (cs : List Char) : Bool :=
  numberEnds py cs ||
    match cs.dropWhile py.isSpace with
    | c :: rest => (c = 'x' || c = 'X' || c = '%') && numberEnds py rest
    | [] => false

/-- `\d+(?:\.\d*)?|\.\d+`, and what follows. -/
def unsigned? (cs : List Char) : Option (List Char × List Char) :=
  match cs.takeWhile py.isDecimal, cs.dropWhile py.isDecimal with
  | [], '.' :: rest =>
    match rest.takeWhile py.isDecimal with
    | [] => none
    | frac => some ('.' :: frac, rest.dropWhile py.isDecimal)
  | [], _ => none
  | whole, '.' :: rest =>
    some (whole ++ '.' :: rest.takeWhile py.isDecimal, rest.dropWhile py.isDecimal)
  | whole, rest => some (whole, rest)

/-- Group 1 of `re.match(r"^\s*([+-]?(?:\d+(?:\.\d*)?|\.\d+))(?:\s*[xX%])?(?:\s|$|\()", value)`. -/
def leadingNumber? (cs : List Char) : Option (List Char) :=
  let (sign, cs) := match cs.dropWhile py.isSpace with
    | '+' :: cs => (['+'], cs)
    | '-' :: cs => (['-'], cs)
    | cs => ([], cs)
  match unsigned? py cs with
  | some (number, rest) => if unitEnds py rest then some (sign ++ number) else none
  | none => none

/-- `parsed if math.isfinite(parsed) else None`. -/
def finite? (x : py.F) : Option py.F := if py.isFinite x then some x else none

/-- The texts that say that there is no number. -/
def notNumbers : List String :=
  ["n/a", "na", "nan", "none", "baseline", "ref_timeout", "mixed", "various", "inf", "infinity",
    "-inf", "-infinity"]

/-- The end of `parse_numeric_metric` for a text: `float`, then a leading number. -/
def floatMetric (cs : List Char) : Option py.F :=
  match py.ofStr (String.ofList cs) with
  | some x => finite? py x
  | none =>
    match leadingNumber? py cs with
    | some number => (py.ofStr (String.ofList number)).bind (finite? py)
    | none => none

/-- `parse_numeric_metric` of a text. -/
def parseNumericText (s : String) : Option py.F :=
  let value := py.strip s.toList
  let value := if value.head? = some '~' then py.strip value.tail else value
  if value = [] then none
  else if py.lower (String.ofList value) ∈ notNumbers then none
  else if hasRange py value then none
  else if value.getLast? ∈ [some 'x', some 'X', some '%'] then floatMetric py (py.strip value.dropLast)
  else floatMetric py value

/-- `parse_numeric_metric`. -/
def parseNumericMetric : Json → Except PyErr (Option py.F)
  | .null => .ok none
  | .str s => .ok (parseNumericText py s)
  | .bool b => (py.ofInt (if b then 1 else 0)).map (finite? py)
  | .int n => (py.ofInt n).map (finite? py)
  | .float f => .ok (finite? py (py.ofDecimal f))
  | .arr _ => .ok none
  | .obj _ => .ok none

/-- `parse_int`. -/
def parseInt : Json → Except PyErr (Option Int)
  | .null => .ok none
  | .str s => .ok (if s = "" then none else py.intOfStr s)
  | .bool b => .ok (some (if b then 1 else 0))
  | .int n => .ok (some n)
  | .float f =>
    match py.truncate f with
    | .ok n => .ok (some n)
    | .error e => if e.cls = .valueError then .ok none else .error e
  | .arr _ => .ok none
  | .obj _ => .ok none

/-! ## Where metrics are looked for -/

/-- `nested_metric_value`, along the parts of a path. -/
def nestedMetricValue : Json → List String → Json
  | current, [] => current
  | .obj kvs, part :: parts => nestedMetricValue ((JsonObj.get? kvs part).getD .null) parts
  | _, _ :: _ => .null

/-- `first_numeric_metric`. -/
def firstNumericMetric (data : Json) (paths : List (List String)) :
    Except PyErr (Option py.F) :=
  paths.findSomeM? fun path => parseNumericMetric py (nestedMetricValue data path)

/-- `first_nested_numeric`, with `depth` calls left. -/
def firstNestedNumeric (keys : List String) : Nat → Json → Except PyErr (Option py.F)
  | 0, .obj _ => .error ⟨.recursionError, "maximum recursion depth exceeded"⟩
  | 0, .arr _ => .error ⟨.recursionError, "maximum recursion depth exceeded"⟩
  | depth + 1, .obj kvs => do
    match ← keys.findSomeM? fun key => parseNumericMetric py ((JsonObj.get? kvs key).getD .null) with
    | some x => pure (some x)
    | none => (kvs.map Prod.snd).findSomeM? (firstNestedNumeric keys depth)
  | depth + 1, .arr xs => xs.findSomeM? (firstNestedNumeric keys depth)
  | _, _ => .ok none

/-- The four keys of a phase. -/
def vsKeys : List String :=
  ["speedup_vs_baseline", "speedup_vs_reference", "speedup_vs_original", "speedup_vs_v1"]

/-- `BASELINE_SPEEDUP_PATHS`. -/
def baselineSpeedupPaths : List (List String) :=
  [["speedup"], ["speedup_x"], ["best_speedup"], ["best_speedup_x"], ["best_speedup_geomean"],
    ["gmean_speedup"], ["geomean_speedup"], ["final_result", "gmean_speedup"],
    ["final_result", "geomean_speedup"]]
  ++ vsKeys.map (["final_result", ·]) ++ vsKeys.map (["phase3", ·]) ++ vsKeys.map (["phase2", ·])
  ++ vsKeys.map (["phase1", ·]) ++ vsKeys.map ([·])

/-- `BASELINE_SPEEDUP_KEYS`. -/
def baselineSpeedupKeys : List String :=
  ["best_speedup", "best_speedup_x", "best_speedup_geomean", "gmean_speedup", "geomean_speedup"]
  ++ vsKeys

/-! ## The benchmark -/

/-- What `read_benchmark_file` returns, without its error text, which nothing reads. -/
structure Benchmark where
  rows : List Csv.Row
  rowCount : Nat
  deriving DecidableEq, Repr

/-- What `benchmark_metrics` returns. -/
structure BenchmarkMetrics (F : Type) where
  candidates : Nat
  latency : Option F
  speedup : Option F
  latestCandidate : String

/-- A cell: `row.get(name) or ""`. -/
def cell (row : Csv.Row) (name : String) : String := (row.get? name).getD ""

/-- The loop of `benchmark_metrics`, over the last rows first. -/
def benchmarkLoop : List Csv.Row → BenchmarkMetrics py.F → BenchmarkMetrics py.F
  | [], m => m
  | row :: rows, m =>
    let m := if m.latestCandidate = "" then { m with latestCandidate := cell row "candidate" } else m
    let m := if m.latency.isNone then
      { m with latency := parseNumericText py (cell row "latency_ms") } else m
    let m := if m.speedup.isNone then
      { m with speedup := parseNumericText py (cell row "speedup") } else m
    if m.latency.isSome && m.speedup.isSome && m.latestCandidate ≠ "" then m
    else benchmarkLoop rows m

/-- `benchmark_metrics`. -/
def benchmarkMetrics (benchmark : Option Benchmark) : BenchmarkMetrics py.F :=
  match benchmark with
  | none => ⟨0, none, none, ""⟩
  | some b =>
    benchmarkLoop py b.rows.reverse
      ⟨if b.rowCount = 0 then b.rows.length else b.rowCount, none, none, ""⟩

/-! ## The row -/

/-- `task_name_from_workspace`. -/
def taskNameFromWorkspace (workspace : Option String) : String :=
  match workspace.bind fun w => splitOnce ['_', '_'] w.toList with
  | none => ""
  | some (_, suffix) =>
    match splitOnce ['_'] suffix with
    | some (first, rest) =>
      if first ≠ [] && first.all py.isDigit then String.ofList rest else String.ofList suffix
    | none => String.ofList suffix

/-- The row of a task. -/
structure TaskRow (F : Type) where
  id : String
  group : Json
  name : Json
  bottleneck : Json
  status : Json
  rounds : Json
  candidates : Int
  speedup : Option F
  latency : Option F
  mfu : Json
  updated : Json
  workspace : Option String
  statusError : Option String
  engine : Json
  protocol : Json
  experimentId : Json
  gpu : Json
  family : Json
  baselineClass : Json
  paperIncludeFlag : Json
  paperCaveat : Json
  arm : Json
  armFlags : Json
  runSeed : Json
  maxDispatches : Json
  exploreEpsilon : Json
  passedWorkloads : Json
  totalWorkloads : Json
  bestScore : Json
  harvestReady : Bool

/-- `d.get(key, default)`. -/
def getD (d : JsonObj) (key : String) (dflt : Json) : Json := (JsonObj.get? d key).getD dflt

/-- `a or b`. -/
def pyOr (a b : Json) : Json := if a.truthy then a else b

/-- `status or {}` as far as it is a `dict`. -/
def statusData (status : Json) : Except PyErr JsonObj :=
  if status.truthy then
    match status with
    | .obj kvs => .ok kvs
    | _ => .error ⟨.exception, "object has no attribute 'get'"⟩
  else .ok []

/-- `BASELINE_SPEEDUP_PATHS`, else any of the keys. -/
def statusSpeedup (depth : Nat) (data : JsonObj) : Except PyErr (Option py.F) := do
  match ← firstNumericMetric py (.obj data) baselineSpeedupPaths with
  | some x => pure (some x)
  | none => firstNestedNumeric py baselineSpeedupKeys depth (.obj data)

/-- The model FLOPs utilisation, under one of its names. -/
def statusMfu (data : JsonObj) : Json :=
  match getD data "mfu" .null with
  | .null =>
    match getD data "mfu_pct" .null with
    | .null => getD data "model_flops_utilization" .null
    | v => v
  | v => v

/-- `state in ("promoted", "complete", "abandoned")`. -/
def isHarvestReady : Json → Bool
  | .str s => s ∈ ["promoted", "complete", "abandoned"]
  | _ => false

/-- The value of `status` in the row. -/
def rowState (data : JsonObj) (workspace statusError : Option String) : Json :=
  match workspace with
  | none => .str "no_workspace"
  | some _ =>
    if statusError.getD "" ≠ "" then .str "unknown" else getD data "state" (.str "pending")

/-- `normalize_task_row`; `depth` is how deep `first_nested_numeric` may recurse. -/
def normalizeTaskRow (depth : Nat) (taskId : String) (task : JsonObj) (status : Json)
    (candidates : Nat) (workspace : Option String) (statusError : Option String)
    (benchmark : Option Benchmark) : Except PyErr (TaskRow py.F) := do
  let data ← statusData status
  let state := rowState data workspace statusError
  let metrics := benchmarkMetrics py benchmark
  let latency ←
    firstNestedNumeric py ["best_latency_ms", "latency_ms", "latency"] depth (.obj data)
  let speedup ← statusSpeedup py depth data
  let committed ← parseInt py (getD data "solutions_committed" .null)
  pure
    { id := taskId
      group := getD task "group" (.str "")
      name := pyOr (getD task "name" .null) (.str (taskNameFromWorkspace py workspace))
      bottleneck := getD task "bottleneck" (.str "")
      status := state
      rounds := getD data "rounds" (.int 0)
      candidates := max (max (candidates : Int) metrics.candidates) (committed.getD 0)
      speedup := speedup.or metrics.speedup
      latency := latency.or metrics.latency
      mfu := statusMfu data
      updated := getD data "timestamp" (.str "")
      workspace := workspace
      statusError := statusError
      engine := getD data "engine" .null
      protocol := pyOr (getD data "protocol" .null) (getD task "protocol" .null)
      experimentId := getD data "experiment_id" .null
      gpu := pyOr (getD data "gpu" .null) (getD task "gpu" .null)
      family := getD task "family" (.str "")
      baselineClass := getD task "baseline_class" (.str "")
      paperIncludeFlag := getD data "paper_include_flag" (.str "")
      paperCaveat := getD data "paper_caveat" (.str "")
      arm := getD data "arm" (.str "")
      armFlags := getD data "arm_flags" (.str "")
      runSeed := getD data "run_seed" .null
      maxDispatches := getD data "max_dispatches" .null
      exploreEpsilon := getD data "explore_epsilon" .null
      passedWorkloads := getD data "passed_workloads" .null
      totalWorkloads := getD data "total_workloads" .null
      bestScore := getD data "best_score" .null
      harvestReady := isHarvestReady state }

end Scripts
