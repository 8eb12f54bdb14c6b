import KerSorMonitor.Flotilla.State

/-!
# Rows and records (`flotilla/models.py`, `flotilla/runtime/base.py`, `flotilla/resource/base.py`)

The records that the control plane stores and passes around. Dictionaries that come from
JSON (`resource_req`, `metadata`, event payloads) are `JsonObj`.

A worker id is `w_<task id>_<uuid4 hex>`. It is modelled by the task id and a serial number
that is never used twice, so worker ids are fresh by construction.
-/

namespace Flotilla

/-! ## JSON values -/

/-- A Python `float`: the finite ones by the decimal value `mantissa * 10 ^ exponent` that
denotes them, and the three special values that `json.loads` can produce. -/
inductive PyFloat
  | dec (mantissa exponent : Int)
  | inf (negative : Bool)
  | nan
  deriving DecidableEq, Repr

/-- A value produced by `json.loads`. -/
inductive Json
  | null
  | bool (b : Bool)
  | int (n : Int)
  | float (f : PyFloat)
  | str (s : String)
  | arr (xs : List Json)
  | obj (kvs : List (String × Json))

/-- A `dict` with string keys. -/
abbrev JsonObj := List (String × Json)

namespace JsonObj

/-- `d.get(key)`. -/
def get? (d : JsonObj) (k : String) : Option Json := (d.find? fun kv => kv.1 = k).map Prod.snd

/-- `d[key] = value`: in place when the key is present, else at the end. -/
def set (d : JsonObj) (k : String) (v : Json) : JsonObj :=
  if d.any fun kv => kv.1 = k then d.map fun kv => if kv.1 = k then (k, v) else kv
  else d ++ [(k, v)]

/-- `d.update(other)`. -/
def update (d other : JsonObj) : JsonObj := other.foldl (fun d kv => d.set kv.1 kv.2) d

theorem get?_cons (kv : String × Json) (d : JsonObj) (k : String) :
    get? (kv :: d) k = if kv.1 = k then some kv.2 else get? d k := by
  unfold get?
  rw [List.find?_cons]
  by_cases h : kv.1 = k <;> simp [h]

theorem get?_replace (d : JsonObj) (k : String) (v : Json) {k' : String} (h : k' ≠ k) :
    get? (d.map fun kv => if kv.1 = k then (k, v) else kv) k' = get? d k' := by
  induction d with
  | nil => rfl
  | cons kv d ih =>
    rw [List.map_cons, get?_cons, get?_cons, ih]
    by_cases hkv : kv.1 = k
    · simp [hkv, Ne.symm h]
    · simp [hkv]

theorem get?_set_self (d : JsonObj) (k : String) (v : Json) : (d.set k v).get? k = some v := by
  unfold set
  split <;> rename_i h
  · induction d with
    | nil => cases h
    | cons kv d ih =>
      rw [List.map_cons, get?_cons]
      by_cases hkv : kv.1 = k
      · simp [hkv]
      · rw [List.any_cons, decide_eq_false hkv, Bool.false_or] at h
        simp [hkv, ih h]
  · induction d with
    | nil => simp [get?_cons]
    | cons kv d ih =>
      rw [List.any_cons, Bool.or_eq_true, not_or, decide_eq_true_eq] at h
      rw [List.cons_append, get?_cons, if_neg h.1, ih h.2]

theorem get?_set_of_ne (d : JsonObj) (k : String) (v : Json) {k' : String} (h : k' ≠ k) :
    (d.set k v).get? k' = d.get? k' := by
  unfold set
  split
  · exact get?_replace d k v h
  · unfold get?
    rw [List.find?_append]
    simp [Ne.symm h]

theorem get?_set (d : JsonObj) (k : String) (v : Json) (k' : String) :
    (d.set k v).get? k' = if k' = k then some v else d.get? k' := by
  split <;> rename_i h
  · rw [h, get?_set_self]
  · exact get?_set_of_ne d k v h

theorem get?_update_of_ne (d other : JsonObj) {k : String} (h : ∀ kv ∈ other, kv.1 ≠ k) :
    (d.update other).get? k = d.get? k := by
  unfold update
  induction other generalizing d with
  | nil => rfl
  | cons kv other ih =>
    rw [List.foldl_cons, ih _ fun x hx => h x (.tail _ hx), get?_set_of_ne]
    exact (h kv (.head _)).symm

end JsonObj

namespace Json

/-- `bool(value)`. -/
def truthy : Json → Bool
  | null => false
  | bool b => b
  | int n => n != 0
  | float (.dec m _) => m != 0
  | float _ => true
  | str s => s != ""
  | arr xs => !xs.isEmpty
  | obj kvs => !kvs.isEmpty

/-- `value` when it is a `str`. -/
def str? : Json → Option String
  | str s => some s
  | _ => none

/-- `repr` of a float. The digits are those of the decimal value, not CPython's shortest ones. -/
def pyReprFloat : PyFloat → String
  | .dec m e => toString m ++ "e" ++ toString e
  | .inf negative => if negative then "-inf" else "inf"
  | .nan => "nan"

mutual

/-- `repr(value)`. -/
def pyRepr : Json → String
  | null => "None"
  | bool b => if b then "True" else "False"
  | int n => toString n
  | float f => pyReprFloat f
  | str s => Flotilla.pyRepr s
  | arr xs => "[" ++ pyReprItems xs ++ "]"
  | obj kvs => "\x7b" ++ pyReprMembers kvs ++ "\x7d"

def pyReprItems : List Json → String
  | [] => ""
  | [x] => x.pyRepr
  | x :: xs => x.pyRepr ++ ", " ++ pyReprItems xs

def pyReprMembers : List (String × Json) → String
  | [] => ""
  | [(k, v)] => Flotilla.pyRepr k ++ ": " ++ v.pyRepr
  | (k, v) :: kvs => Flotilla.pyRepr k ++ ": " ++ v.pyRepr ++ ", " ++ pyReprMembers kvs

end

/-- `str(value)`. -/
def pyStr : Json → String
  | str s => s
  | v => v.pyRepr

/-- `None` or a text. -/
def ofOption : Option String → Json
  | none => null
  | some s => str s

end Json

/-! ## Rows -/

abbrev TaskId := String

/-- `f"w_{task.id}_{uuid.uuid4().hex[:12]}"`, with a serial number for the random part. -/
structure WorkerId where
  task : TaskId
  serial : Nat
  deriving DecidableEq, Repr

/-- The text of a worker id. -/
def WorkerId.text (wid : WorkerId) : String := "w_" ++ wid.task ++ "_" ++ toString wid.serial

/-- A row of `project`. -/
structure Project where
  id : String
  name : String
  feishuBase : Option String := none
  feishuTable : Option String := none
  createdAt : String := ""

/-- A row of `task`. -/
structure Task where
  id : TaskId
  projectId : String := ""
  name : String
  spec : String
  state : TaskState := .planned
  workspacePath : Option String := none
  runtime : String := "claude_tmux"
  targetHost : Option String := none
  resourceReq : JsonObj := []
  evaluator : Option String := none
  owner : Option String := none
  metadata : JsonObj := []
  createdAt : String := ""
  updatedAt : String := ""

/-- A row of `worker`. -/
structure Worker where
  id : WorkerId
  taskId : TaskId
  status : String := "running"
  sessionHandle : Option String := none
  sessionUuid : Option String := none
  paneId : Option String := none
  pid : Option Int := none
  resourceLockId : Option String := none
  startedAt : String := ""
  endedAt : Option String := none
  deriving DecidableEq

/-- `ended_at IS NULL`. -/
def Worker.isActive (w : Worker) : Bool := w.endedAt.isNone

/-- The fields of a task that a client may write (`models.TaskCreate`). -/
structure TaskCreate where
  id : TaskId
  name : String
  spec : String
  runtime : String := "claude_tmux"
  targetHost : Option String := none
  resourceReq : JsonObj := []
  evaluator : Option String := none
  owner : Option String := none
  metadata : JsonObj := []

/-- A heartbeat (`models.WorkerPing`). -/
structure WorkerPing where
  taskId : TaskId
  state : String := "running"
  speedup : Option PyFloat := none
  rounds : Int := 0
  candidates : Int := 0
  bestCandidate : Option String := none
  timestamp : String := ""
  paneTail : String := ""
  sessionUuid : Option String := none
  lastActivity : String := ""
  lastTool : Option String := none
  tokens : Int := 0

/-- An event before it is stored (`models.Event` with `id=None`). -/
structure Event where
  taskId : TaskId
  type : String
  payload : JsonObj := []
  ts : String := ""

/-- A row of `event`. -/
structure EventRow extends Event where
  id : Nat

/-- A row of `host`. -/
structure Host where
  id : String
  sshAlias : String
  remoteRoot : String

/-! ## Handles, leases and observations -/

/-- `WorkerHandle.handle`: the `Popen` of the shell runtime or the `dict` of the tmux runtime. -/
inductive NativeHandle
  | popen (pid : Int)
  | tmux (host : Option String) (session window pane : String) (sessionUuid : Option String)
      (cwd : String)
  deriving DecidableEq, Repr

/-- `WorkerHandle`. `proc` identifies the external process or pane that `rt.start` created:
the worker id of the dispatch that started it. -/
structure WorkerHandle where
  taskId : TaskId
  workspace : String
  backend : String
  handle : NativeHandle
  proc : WorkerId
  deriving DecidableEq, Repr

/-- `Lock`, as returned by `Resource.acquire`. -/
structure Lock where
  resourceId : String
  workerId : WorkerId
  deriving DecidableEq, Repr

/-- `Observation`. `state` is whatever the worker wrote, so it need not be a text. -/
structure Observation where
  state : Json := .str "running"
  exited : Bool := false
  paneTail : String := ""
  speedup : Json := .null
  rounds : Json := .int 0
  bestCandidate : Json := .null
  extra : JsonObj := []

/-- `EvalResult`. -/
structure EvalResult where
  passed : Bool
  score : Json
  detail : String
  artifacts : List String

end Flotilla
