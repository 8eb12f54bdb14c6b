import KerSorMonitor.Scripts.Nudge

/-!
# Verdicts and their schema (`scripts/generic_control.py`)

A verdict is normalised by `validate_generic_verdict`. The prompt shows the runner the schema of
verdicts, which is a second description of the same fields.

Results:
1. `validate_toJson`: a normalised verdict is normalised again to itself.
2. `verdicts_fine_iff`: for which values, and for which output of a runner, a verdict that is
   returned satisfies the schema, and everything else is a `ValueError`. The schema has no negative
   `next_check_seconds`; the normaliser lets them pass.
-/

namespace Scripts

open Flotilla

variable (py : Python)

/-! ## The schema -/

/-- The schema of a property. -/
inductive PropertySchema
  | string
  | stringIn (enum : List String)
  | boolean
  | integer (minimum : Int)

/-- The schema of an object, with `"additionalProperties": False`. -/
structure ObjectSchema where
  properties : List (String × PropertySchema)
  required : List String

/-- `GENERIC_VERDICT_JSON_SCHEMA`. -/
def genericVerdictJsonSchema : ObjectSchema where
  properties :=
    [("activity", .stringIn ["running", "idle", "stalled", "waiting", "needs_human", "complete",
        "unknown"]),
      ("phase", .string), ("progress", .string), ("blocked_on", .string),
      ("required_next_step", .string), ("needs_human", .boolean), ("nudge", .string),
      ("confidence", .stringIn ["low", "medium", "high"]), ("reason", .string),
      ("next_check_seconds", .integer 0)]
  required :=
    ["activity", "phase", "progress", "blocked_on", "required_next_step", "needs_human", "nudge",
      "confidence", "reason", "next_check_seconds"]

def PropertySchema.satisfiedBy : PropertySchema → Json → Bool
  | .string, .str _ => true
  | .stringIn enum, .str s => enum.contains s
  | .boolean, .bool _ => true
  | .integer minimum, .int n => minimum ≤ n
  | _, _ => false

/-- All required keys are there, no others, and each value satisfies its schema. -/
def ObjectSchema.satisfiedBy (schema : ObjectSchema) : Json → Bool
  | .obj d =>
    (schema.required.all fun key => (JsonObj.get? d key).isSome) &&
      d.all fun item =>
        (schema.properties.find? fun property => property.1 = item.1).any fun property =>
          property.2.satisfiedBy item.2
  | _ => false

/-- The object that `validate_generic_verdict` returns. -/
def Verdict.fields (v : Verdict) : JsonObj :=
  [("activity", .str v.activity), ("phase", .str v.phase), ("progress", .str v.progress),
    ("blocked_on", .str v.blockedOn), ("required_next_step", .str v.requiredNextStep),
    ("needs_human", .bool v.needsHuman), ("nudge", .str v.nudge), ("confidence", .str v.confidence),
    ("reason", .str v.reason), ("next_check_seconds", .int v.nextCheckSeconds)]

def Verdict.toJson (v : Verdict) : Json := .obj v.fields

/-! ## The output of a runner -/

/-- `ValueError("verdict runner output did not contain a verdict object")` -/
def noVerdict : PyErr := ⟨.valueError, "verdict runner output did not contain a verdict object"⟩

/-- What is made of a payload: it is a verdict, or an envelope with the text of one. -/
def parsePayload (limits : PyJson.Limits) : Json → Except PyErr Verdict
  | .obj d =>
    if (JsonObj.get? d "activity").isSome then validateGenericVerdict py (.obj d)
    else
      match (JsonObj.get? d "result").bind Json.str? with
      | some result => PyJson.loads limits result.toList >>= validateGenericVerdict py
      | none =>
        match (JsonObj.get? d "content").bind Json.str? with
        | some content => PyJson.loads limits content.toList >>= validateGenericVerdict py
        | none => .error noVerdict
  | _ => .error noVerdict

/-- `parse_verdict_runner_output`. -/
def parseVerdictRunnerOutput (limits : PyJson.Limits) (stdout : List Char) : Except PyErr Verdict :=
  PyJson.loads limits stdout >>= parsePayload py limits

/-! ## What should come out -/

/-- A `ValueError`, or a verdict that satisfies the schema and is validated to itself. -/
def Fine : Except PyErr Verdict → Prop
  | .error e => e.cls.isValueError = true
  | .ok v => genericVerdictJsonSchema.satisfiedBy v.toJson = true ∧
      validateGenericVerdict py v.toJson = .ok v

/-- A `next_check_seconds` that is not there, or is empty, or that `int` makes a number from 0 on or
refuses with a `ValueError`. -/
def FineSeconds : Json → Prop
  | .int n => 0 ≤ n
  | .float f => Json.truthy (.float f) = true →
      (∀ n, py.truncate f = .ok n → 0 ≤ n) ∧ ∀ e, py.truncate f = .error e → e.cls.isValueError = true
  | .str s => s ≠ "" → ∀ n, py.intOfStr s = some n → 0 ≤ n
  | .arr xs => xs = []
  | .obj kvs => kvs = []
  | _ => True

def FineVerdict : Json → Prop
  | .obj d => FineSeconds py (getD d "next_check_seconds" .null)
  | _ => True

/-- The text is no JSON, which is a `ValueError` unless it is nested too deeply, or it is that of a
verdict. -/
def FineText (limits : PyJson.Limits) (text : List Char) : Prop :=
  (∀ e, PyJson.loads limits text = .error e → e.cls.isValueError = true) ∧
    ∀ verdict, PyJson.loads limits text = .ok verdict → FineVerdict py verdict

/-- The text of the verdict in an envelope: that of `result`, else that of `content`. -/
def envelopeText (d : JsonObj) : Option String :=
  ((JsonObj.get? d "result").bind Json.str?).or ((JsonObj.get? d "content").bind Json.str?)

/-- A payload whose verdict is fine, if it has one. -/
def FinePayload (limits : PyJson.Limits) : Json → Prop
  | .obj d =>
    if (JsonObj.get? d "activity").isSome then FineVerdict py (.obj d)
    else ∀ text ∈ envelopeText d, FineText py limits text.toList
  | _ => True

def FineOutput (limits : PyJson.Limits) (stdout : List Char) : Prop :=
  (∀ e, PyJson.loads limits stdout = .error e → e.cls.isValueError = true) ∧
    ∀ payload, PyJson.loads limits stdout = .ok payload → FinePayload py limits payload

namespace GenericVerdictLemmas

variable {py}

/-! ## Normalised verdicts -/

/-- The values that the schema lists. -/
structure Normal (v : Verdict) : Prop where
  activity : v.activity ∈ allowedActivities
  confidence : v.confidence ∈ ["low", "medium", "high"]

/-- The text of a field is kept: an empty one is the default, where that is empty. -/
theorem pyStr_pyOr {s dflt : String} (h : s = "" → dflt = "") :
    (pyOr (.str s) (.str dflt)).pyStr = s := by
  unfold pyOr
  by_cases hempty : s = ""
  · rw [hempty, h hempty]
    rfl
  · rw [if_pos (by simpa [Json.truthy] using hempty)]
    rfl

/-- What `validate_generic_verdict` makes of an object, once its number has been read. -/
def normalized (d : JsonObj) (nextCheck : Int) : Verdict where
  activity :=
    if textField d "activity" "unknown" ∈ allowedActivities then textField d "activity" "unknown"
    else "unknown"
  phase := textField d "phase" ""
  progress := textField d "progress" ""
  blockedOn := textField d "blocked_on" ""
  requiredNextStep := textField d "required_next_step" ""
  needsHuman := (getD d "needs_human" (.bool false)).truthy
  nudge := textField d "nudge" ""
  confidence :=
    if textField d "confidence" "low" ∈ ["low", "medium", "high"] then textField d "confidence" "low"
    else "low"
  reason := textField d "reason" ""
  nextCheckSeconds := nextCheck

theorem validate_obj (d : JsonObj) : validateGenericVerdict py (.obj d)
    = (pyInt py (pyOr (getD d "next_check_seconds" .null) (.int 0))).map (normalized d) := by
  show (pyInt py _ >>= _) = _
  cases pyInt py (pyOr (getD d "next_check_seconds" .null) (.int 0)) <;> rfl

theorem normal_normalized (d : JsonObj) (nextCheck : Int) : Normal (normalized d nextCheck) where
  activity := by
    unfold normalized
    dsimp only
    split
    · assumption
    · decide
  confidence := by
    unfold normalized
    dsimp only
    split
    · assumption
    · decide

theorem textField_fields {v : Verdict} {key s dflt : String} (hget : getD v.fields key .null = .str s)
    (hdflt : s = "" → dflt = "") : textField v.fields key dflt = s := by
  rw [textField, hget, pyStr_pyOr hdflt]

/-- A normalised verdict is normalised to itself. -/
theorem validate_toJson {v : Verdict} (h : Normal v) : validateGenericVerdict py v.toJson = .ok v := by
  have hactivity : textField v.fields "activity" "unknown" = v.activity :=
    textField_fields rfl fun hempty => by
      have hmem := h.activity
      rw [hempty] at hmem
      exact absurd hmem (by decide)
  have hconfidence : textField v.fields "confidence" "low" = v.confidence :=
    textField_fields rfl fun hempty => by
      have hmem := h.confidence
      rw [hempty] at hmem
      exact absurd hmem (by decide)
  have hseconds : pyInt py (pyOr (getD v.fields "next_check_seconds" .null) (.int 0))
      = .ok v.nextCheckSeconds := by
    show pyInt py (pyOr (.int v.nextCheckSeconds) (.int 0)) = _
    unfold pyOr
    split
    · rfl
    · next hzero =>
      have hn : v.nextCheckSeconds = 0 := by simpa [Json.truthy] using hzero
      rw [hn]
      rfl
  have htext (key s : String) (hget : getD v.fields key .null = .str s) : textField v.fields key "" = s :=
    textField_fields hget fun _ => rfl
  have hself : normalized v.fields v.nextCheckSeconds = v := by
    unfold normalized
    rw [hactivity, hconfidence, if_pos h.activity, if_pos h.confidence,
      htext "phase" _ rfl, htext "progress" _ rfl, htext "blocked_on" _ rfl,
      htext "required_next_step" _ rfl, htext "nudge" _ rfl, htext "reason" _ rfl]
    rfl
  rw [Verdict.toJson, validate_obj, hseconds]
  exact congrArg Except.ok hself

/-- The schema asks of a normalised verdict that its number is not negative. -/
theorem satisfiedBy_toJson {v : Verdict} (h : Normal v) :
    genericVerdictJsonSchema.satisfiedBy v.toJson = true ↔ 0 ≤ v.nextCheckSeconds := by
  have hrequired : (genericVerdictJsonSchema.required.all fun key =>
      (JsonObj.get? v.fields key).isSome) = true := rfl
  have hactivity : allowedActivities.contains v.activity = true := List.contains_iff_mem.mpr h.activity
  have hconfidence : ["low", "medium", "high"].contains v.confidence = true :=
    List.contains_iff_mem.mpr h.confidence
  have hitems : (v.fields.all fun item =>
      (genericVerdictJsonSchema.properties.find? fun property => property.1 = item.1).any
        fun property => property.2.satisfiedBy item.2)
      = (allowedActivities.contains v.activity && (["low", "medium", "high"].contains v.confidence
        && decide (0 ≤ v.nextCheckSeconds))) := by
    simp [Verdict.fields, genericVerdictJsonSchema, PropertySchema.satisfiedBy, allowedActivities]
  rw [Verdict.toJson, ObjectSchema.satisfiedBy, hrequired, hitems, hactivity, hconfidence]
  simp

theorem fine_normalized_iff (d : JsonObj) (n : Int) : Fine py (.ok (normalized d n)) ↔ 0 ≤ n :=
  (and_iff_left (validate_toJson (normal_normalized d n))).trans
    (satisfiedBy_toJson (normal_normalized d n))

/-! ## When all is well -/

/-- The conversion of the number. -/
theorem fineSeconds_iff (x : Json) :
    FineSeconds py x ↔ (∀ n, pyInt py (pyOr x (.int 0)) = .ok n → 0 ≤ n) ∧
      ∀ e, pyInt py (pyOr x (.int 0)) = .error e → e.cls.isValueError = true := by
  have hok (n : Int) : ((∀ m, (Except.ok n : Except PyErr Int) = .ok m → 0 ≤ m) ∧
      ∀ e, (Except.ok n : Except PyErr Int) = .error e → e.cls.isValueError = true) ↔ 0 ≤ n :=
    ⟨fun h => h.1 n rfl, fun h => ⟨fun m hm => (Except.ok.inj hm) ▸ h, fun e he => (by cases he)⟩⟩
  have hfalsy (h : x.truthy = false) : pyInt py (pyOr x (.int 0)) = .ok 0 := by
    rw [pyOr, if_neg (by rw [h]; exact Bool.false_ne_true)]
    rfl
  have htruthy (h : x.truthy = true) : pyInt py (pyOr x (.int 0)) = pyInt py x := by
    rw [pyOr, if_pos h]
  cases hx : x.truthy with
  | false =>
    rw [hfalsy hx, hok]
    refine iff_of_true ?_ (Int.le_refl 0)
    cases x with
    | null => trivial
    | bool b => trivial
    | int n =>
      have hn : n = 0 := by simpa [Json.truthy] using hx
      exact Int.le_of_eq hn.symm
    | float f => exact fun h => absurd (hx.symm.trans h) Bool.false_ne_true
    | str s => exact fun hne => absurd (by simpa [Json.truthy] using hx) hne
    | arr xs => exact show xs = [] by simpa [Json.truthy] using hx
    | obj kvs => exact show kvs = [] by simpa [Json.truthy] using hx
  | true =>
    rw [htruthy hx]
    cases x with
    | null => cases hx
    | bool b =>
      rw [pyInt, hok]
      refine iff_of_true trivial ?_
      cases b <;> decide
    | int n => exact (hok n).symm
    | float f =>
      show (Json.truthy (.float f) = true → _) ↔ _
      rw [hx]
      exact forall_prop_of_true rfl
    | str s =>
      have hne : s ≠ "" := by simpa [Json.truthy] using hx
      show (s ≠ "" → _) ↔ _
      rw [forall_prop_of_true hne, pyInt]
      cases hint : py.intOfStr s with
      | none =>
        refine iff_of_true (fun n hn => by cases hn) ⟨fun n hn => (by cases hn), fun e he => ?_⟩
        cases he
        rfl
      | some n =>
        rw [hok]
        exact ⟨fun h => h n rfl, fun h m hm => Option.some.inj hm ▸ h⟩
    | arr xs =>
      have hne : xs ≠ [] := by simpa [Json.truthy] using hx
      refine iff_of_false hne fun h => ?_
      exact absurd (h.2 _ rfl) (by decide)
    | obj kvs =>
      have hne : kvs ≠ [] := by simpa [Json.truthy] using hx
      refine iff_of_false hne fun h => ?_
      exact absurd (h.2 _ rfl) (by decide)

theorem fine_validate_iff (verdict : Json) :
    Fine py (validateGenericVerdict py verdict) ↔ FineVerdict py verdict := by
  cases verdict with
  | obj d =>
    rw [validate_obj, FineVerdict, fineSeconds_iff]
    cases pyInt py (pyOr (getD d "next_check_seconds" .null) (.int 0)) with
    | error e =>
      refine ⟨fun h => ⟨fun n hn => (by cases hn), fun e' he => ?_⟩, fun h => h.2 e rfl⟩
      cases he
      exact h
    | ok n =>
      refine (fine_normalized_iff d n).trans ⟨fun h => ⟨fun m hm => ?_, fun e he => (by cases he)⟩,
        fun h => h.1 n rfl⟩
      cases hm
      exact h
  | null => exact iff_of_true rfl trivial
  | bool b => exact iff_of_true rfl trivial
  | int n => exact iff_of_true rfl trivial
  | float f => exact iff_of_true rfl trivial
  | str s => exact iff_of_true rfl trivial
  | arr xs => exact iff_of_true rfl trivial

/-- A text that is loaded and read on. -/
theorem fine_loads_iff (limits : PyJson.Limits) (text : List Char) {read : Json → Except PyErr Verdict}
    {P : Json → Prop} (h : ∀ x, Fine py (read x) ↔ P x) :
    Fine py (PyJson.loads limits text >>= read) ↔
      (∀ e, PyJson.loads limits text = .error e → e.cls.isValueError = true) ∧
        ∀ x, PyJson.loads limits text = .ok x → P x := by
  cases PyJson.loads limits text with
  | error e =>
    refine ⟨fun h => ⟨fun e' he => ?_, fun v hv => (by cases hv)⟩, fun h => h.1 e rfl⟩
    cases he
    exact h
  | ok x =>
    refine (h x).trans ⟨fun h => ⟨fun e he => (by cases he), fun v hv => ?_⟩, fun h => h.2 x rfl⟩
    cases hv
    exact h

theorem fine_parsePayload_iff (limits : PyJson.Limits) (payload : Json) :
    Fine py (parsePayload py limits payload) ↔ FinePayload py limits payload := by
  cases payload with
  | obj d =>
    unfold parsePayload FinePayload
    dsimp only
    split
    · exact fine_validate_iff (.obj d)
    · unfold envelopeText
      cases (JsonObj.get? d "result").bind Json.str? with
      | some result =>
        refine (fine_loads_iff limits _ fine_validate_iff).trans ?_
        simp [FineText]
      | none =>
        cases (JsonObj.get? d "content").bind Json.str? with
        | some content =>
          refine (fine_loads_iff limits _ fine_validate_iff).trans ?_
          simp [FineText]
        | none => exact iff_of_true rfl (by simp)
  | null => exact iff_of_true rfl trivial
  | bool b => exact iff_of_true rfl trivial
  | int n => exact iff_of_true rfl trivial
  | float f => exact iff_of_true rfl trivial
  | str s => exact iff_of_true rfl trivial
  | arr xs => exact iff_of_true rfl trivial

end GenericVerdictLemmas

open GenericVerdictLemmas in
/-- Which values are validated, and which outputs are parsed, as the schema asks. -/
theorem verdicts_fine_iff :
    (∀ verdict, Fine py (validateGenericVerdict py verdict) ↔ FineVerdict py verdict) ∧
      ∀ limits stdout, Fine py (parseVerdictRunnerOutput py limits stdout) ↔
        FineOutput py limits stdout :=
  ⟨fine_validate_iff, fun limits stdout => fine_loads_iff limits stdout (fine_parsePayload_iff limits)⟩

open GenericVerdictLemmas in
/-- A negative number is kept, and a list raises a `TypeError`. -/
theorem negative_seconds :
    ¬ Fine asciiPython (validateGenericVerdict asciiPython
        (.obj [("activity", .str "idle"), ("next_check_seconds", .int (-5))])) ∧
      ¬ Fine asciiPython (parseVerdictRunnerOutput asciiPython ⟨4300, 100⟩
        "\x7b\"activity\": \"idle\", \"next_check_seconds\": [60]\x7d".toList) := by
  constructor
  · intro h
    have hseconds : (0 : Int) ≤ -5 := (fine_validate_iff _).mp h
    exact absurd hseconds (by decide)
  · intro h
    have hload : PyJson.loads ⟨4300, 100⟩
        "\x7b\"activity\": \"idle\", \"next_check_seconds\": [60]\x7d".toList
        = .ok (.obj [("activity", .str "idle"), ("next_check_seconds", .arr [.int 60])]) := rfl
    rw [parseVerdictRunnerOutput, hload] at h
    have hvalidate : Fine asciiPython (validateGenericVerdict asciiPython
        (.obj [("activity", .str "idle"), ("next_check_seconds", .arr [.int 60])])) := h
    have hseconds : ([.int 60] : List Json) = [] := (fine_validate_iff _).mp hvalidate
    cases hseconds

end Scripts
