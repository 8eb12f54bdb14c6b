import KerSorMonitor.Flotilla.PyDumps
import KerSorMonitor.Flotilla.Routes
import KerSorMonitor.Scripts.Csv
import KerSorMonitor.Scripts.OtelReceiver

/-!
# The telemetry index (`scripts/otel_receiver.py`, `scripts/otel-plugin.py`)

The receiver appends a line of JSON to `index.ndjson` for each request; the plugin splits the file
into lines, decodes each of them and counts the requests by their path. `json.dumps` is called with
`ensure_ascii=False`, so three characters at which `splitlines` splits stand in a line as they are.

Results:
1. `unbroken_dumps`: `json.dumps` writes no other line break.
2. `readIndex_lines`: the lines are read back.
3. `index_read_back`: what the plugin reads after any run of the receiver.
-/

namespace Otel

open Keyed Threads
open Flotilla (Json JsonObj PyErr)
open Flotilla.PyJson
open Scripts (Csv.splitLines Csv.lineBreaks)

/-! ## What the receiver writes -/

/-- `record`, as it is dumped; `dir` writes a file name under the output directory. -/
def Record.dict (dir : String → String) (r : Record) : JsonObj :=
  [("sequence", .int r.sequence), ("timestamp", .str r.timestamp), ("method", .str r.method),
    ("path", .str r.path), ("query", .str r.query), ("status", .int r.status),
    ("content_type", .str r.contentType), ("content_encoding", .ofOption r.contentEncoding),
    ("raw_bytes", .int r.rawBytes), ("sha256", .str r.sha256),
    ("raw_body_file", .str (dir r.rawBodyFile)),
    ("text_preview_file", .ofOption (r.textPreviewFile.map dir)),
    ("meta_file", .str (dir r.metaFile)), ("decode_error", .ofOption r.decodeError),
    ("headers", .obj (r.headers.map fun h => (h.1, .str h.2)))]

/-- `json.dumps(record, ensure_ascii=False) + "\n"`. -/
def Record.line (dir : String → String) (r : Record) : List Char :=
  dumps false (.obj (r.dict dir)) ++ ['\n']

/-- The state of the receiver, and the text of `index.ndjson`. -/
structure Directory where
  receiver : Receiver
  index : List Char

/-- What an action appends to the file. -/
def Act.appended (dir : String → String) : {α : Type} → Act α → List Char
  | _, .appendIndex r => r.line dir
  | _, _ => []

/-- An append that raises leaves the file as it was. -/
def Directory.exec (py : Python) (dir : String → String) (t : ThreadId) (env : Env) {α : Type}
    (a : Act α) (d : Directory) : Except String α × Directory :=
  let result := d.receiver.exec py t env a
  (result.1, ⟨result.2, if result.1.isOk then d.index ++ a.appended dir else d.index⟩)

/-- The receiver with its file. -/
def writer (py : Python) (dir : String → String) : System Act String Directory Env Request where
  exec t {_} a env d := d.exec py dir t env a
  program := (receiver py).program
  finish t d := { d with receiver := (receiver py).finish t d.receiver }
  restart d := { d with receiver := (receiver py).restart d.receiver }

/-- The directory before the first request. -/
def Directory.initial : Directory := ⟨.initial, []⟩

/-! ## What the plugin reads -/

/-- `not line.strip()`. -/
def isBlankLine (line : List Char) : Bool := Flotilla.isBlank (String.ofList line)

/-- `read_index`: a line that is no JSON is skipped. -/
def readIndex (limits : Limits) (text : List Char) : Except PyErr (List Json) :=
  let rows (rows : List Json) (line : List Char) : Except PyErr (List Json) :=
    if isBlankLine line then .ok rows
    else
      match loads limits line with
      | .ok row => .ok (rows ++ [row])
      | .error e => if e.cls = .jsonDecodeError then .ok rows else .error e
  (Csv.splitLines text []).foldlM rows []

/-- `str(row.get("path") or "")`. -/
def rowPath : Json → Except PyErr String
  | .obj kvs => .ok (((JsonObj.get? kvs "path").filter Json.truthy).elim "" Json.pyStr)
  | _ => .error ⟨.exception, "object has no attribute 'get'"⟩

/-- `by_path`. -/
def byPath (rows : List Json) : Except PyErr (Dict String Nat) :=
  rows.foldlM (fun counts row => do
    let path ← rowPath row
    return Dict.set counts path ((Dict.get? counts path).getD 0 + 1)) Table.empty

/-- `summary["files"]["requests"]` and `summary["files"]["by_path"]`. -/
def summarizeIndex (limits : Limits) (text : List Char) : Except PyErr (Nat × Dict String Nat) := do
  let rows ← readIndex limits text
  let counts ← byPath rows
  return (rows.length, counts)

/-! ## Line breaks -/

/-- The line breaks that `json.dumps(…, ensure_ascii=False)` leaves in a string. -/
abbrev rawBreaks : List Nat := [0x85, 0x2028, 0x2029]

def unbrokenText (s : String) : Bool := s.toList.all fun c => c.toNat ∉ rawBreaks

mutual

/-- No text has one of these, and there are no floats. -/
def unbroken : Json → Bool
  | .str s => unbrokenText s
  | .float _ => false
  | .arr xs => itemsUnbroken xs
  | .obj kvs => membersUnbroken kvs
  | _ => true

def itemsUnbroken : List Json → Bool
  | [] => true
  | x :: xs => unbroken x && itemsUnbroken xs

def membersUnbroken : JsonObj → Bool
  | [] => true
  | kv :: kvs => unbrokenText kv.1 && unbroken kv.2 && membersUnbroken kvs

end

/-- The record is one whose line is read back. -/
structure Record.Readable (limits : Limits) (dir : String → String) (r : Record) : Prop where
  writable : writable limits limits.maxDepth (.obj (r.dict dir)) = true
  unbroken : unbroken (.obj (r.dict dir)) = true

instance (limits : Limits) (dir : String → String) (r : Record) :
    Decidable (r.Readable limits dir) :=
  decidable_of_iff (_ ∧ _) ⟨fun h => ⟨h.1, h.2⟩, fun h => ⟨h.1, h.2⟩⟩

/-- The text has no line break. -/
def OneLine (cs : List Char) : Prop := ∀ c ∈ cs, c.toNat ∉ Csv.lineBreaks

theorem OneLine.append {cs ds : List Char} (h : OneLine cs) (h' : OneLine ds) : OneLine (cs ++ ds) :=
  fun c hc => (List.mem_append.mp hc).elim (h c) (h' c)

theorem OneLine.cons {c : Char} {cs : List Char} (hc : c.toNat ∉ Csv.lineBreaks) (h : OneLine cs) :
    OneLine (c :: cs) := fun d hd => (List.mem_cons.mp hd).elim (fun heq => heq ▸ hc) (h d)

theorem oneLine_nil : OneLine [] := fun _ h => absurd h List.not_mem_nil

theorem oneLine_of_all {cs : List Char} (h : cs.all (fun c => c.toNat ∉ Csv.lineBreaks) = true) :
    OneLine cs := fun c hc => of_decide_eq_true (List.all_eq_true.mp h c hc)

theorem oneLine_toDigits (n : Nat) : OneLine (Nat.toDigits 10 n) := by
  intro c hc
  have hdigit := isDigit_of_mem_toDigits hc
  unfold isDigit at hdigit
  have hrange : 48 ≤ c.toNat ∧ c.toNat ≤ 57 := by
    simpa [Char.le_def, UInt32.le_iff_toNat_le] using hdigit
  simp only [Csv.lineBreaks, List.mem_cons, List.not_mem_nil, or_false]
  omega

theorem oneLine_unicodeText (n : Nat) : OneLine (unicodeText n) := by
  have hdigit : ∀ k < 16, (hexDigit k).toNat ∉ Csv.lineBreaks := by decide
  have hmod (k : Nat) : k % 16 < 16 := Nat.mod_lt k (by decide)
  exact .cons (by decide) (.cons (by decide) (.cons (hdigit _ (hmod _)) (.cons (hdigit _ (hmod _))
    (.cons (hdigit _ (hmod _)) (.cons (hdigit _ (hmod _)) oneLine_nil)))))

/-- Of the characters at which `splitlines` splits, the control characters are escaped. -/
theorem oneLine_escapeChar {c : Char} (h : c.toNat ∉ rawBreaks) : OneLine (escapeChar false c) := by
  unfold escapeChar
  cases hshort : shortEscapes.lookup c with
  | some d =>
    have hletters : ∀ p ∈ shortEscapes, p.2.toNat ∉ Csv.lineBreaks := by
      simp only [shortEscapes, List.forall_mem_cons]
      decide
    have hmem : ∃ p ∈ shortEscapes, p.2 = d := by
      obtain ⟨l₁, l₂, heq, -⟩ := List.lookup_eq_some_iff.mp hshort
      exact ⟨(c, d), heq ▸ List.mem_append_right _ List.mem_cons_self, rfl⟩
    obtain ⟨p, hp, rfl⟩ := hmem
    exact .cons (by decide) (.cons (hletters p hp) oneLine_nil)
  | none =>
    by_cases hcontrol : c.toNat < 32
    · simp only [hcontrol, ↓reduceIte]
      exact oneLine_unicodeText _
    · simp only [hcontrol, ↓reduceIte, Bool.not_false, Bool.true_or]
      refine .cons ?_ oneLine_nil
      simp only [rawBreaks, Csv.lineBreaks, List.mem_cons, List.not_mem_nil, or_false] at h ⊢
      omega

theorem oneLine_stringText {s : String} (h : unbrokenText s = true) : OneLine (stringText false s) := by
  refine .cons (by decide) (.append (fun d hd => ?_) (.cons (by decide) oneLine_nil))
  obtain ⟨c, hc, hd⟩ := List.mem_flatMap.mp hd
  exact oneLine_escapeChar (of_decide_eq_true (List.all_eq_true.mp h c hc)) d hd

theorem oneLine_intText (n : Int) : OneLine (intText n) := by
  cases n with
  | ofNat n => exact oneLine_toDigits n
  | negSucc n => exact .cons (by decide) (oneLine_toDigits _)

mutual

/-- `json.dumps` writes no line break but those of the texts. -/
theorem unbroken_dumps : ∀ {v : Json}, unbroken v = true → OneLine (dumps false v)
  | .null, _ => oneLine_of_all (by decide)
  | .bool b, _ => oneLine_of_all (by cases b <;> decide)
  | .int n, _ => oneLine_intText n
  | .str _, h => oneLine_stringText h
  | .arr xs, h => .cons (by decide) (.append (unbroken_dumpsItems h) (.cons (by decide) oneLine_nil))
  | .obj kvs, h =>
    .cons (by decide) (.append (unbroken_dumpsMembers h) (.cons (by decide) oneLine_nil))

theorem unbroken_dumpsItems : ∀ {xs : List Json}, itemsUnbroken xs = true →
    OneLine (dumpsItems false xs)
  | [], _ => oneLine_nil
  | [x], h => unbroken_dumps (Bool.and_eq_true_iff.mp h).1
  | x :: y :: ys, h => .append (unbroken_dumps (Bool.and_eq_true_iff.mp h).1)
    (.cons (by decide) (.cons (by decide) (unbroken_dumpsItems (Bool.and_eq_true_iff.mp h).2)))

theorem unbroken_dumpsMembers : ∀ {kvs : JsonObj}, membersUnbroken kvs = true →
    OneLine (dumpsMembers false kvs)
  | [], _ => oneLine_nil
  | [kv], h => by
    simp only [membersUnbroken, Bool.and_eq_true] at h
    exact (oneLine_stringText h.1.1).append (.cons (by decide) (.cons (by decide)
      (unbroken_dumps h.1.2)))
  | kv :: kv' :: kvs, h => by
    have hrest := (Bool.and_eq_true_iff.mp h).2
    have hhead := Bool.and_eq_true_iff.mp (Bool.and_eq_true_iff.mp h).1
    exact (oneLine_stringText hhead.1).append (.cons (by decide) (.cons (by decide)
      ((unbroken_dumps hhead.2).append (.cons (by decide) (.cons (by decide)
        (unbroken_dumpsMembers hrest))))))

end

/-! ## Reading back -/

section Reading

variable {limits : Limits} {dir : String → String}

theorem Record.Readable.oneLine {r : Record} (h : r.Readable limits dir) :
    OneLine (dumps false (.obj (r.dict dir))) := unbroken_dumps h.unbroken

theorem splitLines_lines {records : List Record} (h : ∀ r ∈ records, r.Readable limits dir) :
    Csv.splitLines (records.flatMap (Record.line dir)) [] =
      records.map fun r => dumps false (.obj (r.dict dir)) := by
  induction records with
  | nil => rfl
  | cons r records ih =>
    have hline := (h r List.mem_cons_self).oneLine
    rw [List.flatMap_cons, Record.line, List.append_assoc, List.singleton_append,
      Scripts.Csv.splitLines_line hline, List.reverse_nil, List.nil_append,
      ih fun r' hr' => h r' (List.mem_cons_of_mem _ hr'), List.map_cons]

theorem not_blank_object (kvs : JsonObj) : isBlankLine (dumps false (.obj kvs)) = false := by
  simp [isBlankLine, Flotilla.isBlank, dumps]

/-- The lines of readable records are read back. -/
theorem readIndex_lines {records : List Record} (h : ∀ r ∈ records, r.Readable limits dir) :
    readIndex limits (records.flatMap (Record.line dir)) =
      .ok (records.map fun r => .obj (r.dict dir)) := by
  unfold readIndex
  rw [splitLines_lines h]
  have hall (rows : List Json) : (records.map fun r => dumps false (.obj (r.dict dir))).foldlM
      (fun (rows : List Json) (line : List Char) =>
        if isBlankLine line then (.ok rows : Except PyErr (List Json))
        else
          match loads limits line with
          | .ok row => .ok (rows ++ [row])
          | .error e => if e.cls = .jsonDecodeError then .ok rows else .error e) rows =
      .ok (rows ++ records.map fun r => .obj (r.dict dir)) := by
    induction records generalizing rows with
    | nil => rw [List.map_nil, List.map_nil, List.append_nil]; rfl
    | cons r records ih =>
      have hload := loads_dumps false limits _ (h r List.mem_cons_self).writable
      rw [List.map_cons, List.foldlM_cons, not_blank_object, hload]
      refine (ih (fun r' hr' => h r' (List.mem_cons_of_mem _ hr')) _).trans ?_
      rw [List.map_cons, List.append_assoc, List.singleton_append]
  exact hall []

/-! ## Counting -/

theorem rowPath_dict (r : Record) : rowPath (.obj (r.dict dir)) = .ok r.path := by
  have hget : JsonObj.get? (r.dict dir) "path" = some (.str r.path) := rfl
  dsimp only [rowPath]
  rw [hget]
  by_cases hempty : r.path = ""
  · rw [hempty]
    rfl
  · have htruthy : (Json.str r.path).truthy = true := bne_iff_ne.mpr hempty
    rw [Option.filter_some, if_pos htruthy]
    rfl

/-- How often a path occurs, as `by_path` has it. -/
def countOf (records : List Record) (path : String) : Option Nat :=
  if records.countP (fun r => r.path = path) = 0 then none
  else some (records.countP fun r => r.path = path)

theorem countOf_getD (records : List Record) (path : String) :
    (countOf records path).getD 0 = records.countP fun r => r.path = path := by
  unfold countOf
  split
  · next h => exact h.symm
  · rfl

theorem byPath_records (dir : String → String) (records : List Record) :
    ∃ counts, byPath (records.map fun r => .obj (r.dict dir)) = .ok counts ∧
      ∀ path, Dict.get? counts path = countOf records path := by
  have hall (before records : List Record) (counts : Dict String Nat)
      (hcounts : ∀ path, Dict.get? counts path = countOf before path) :
      ∃ counts', (records.map fun r => Json.obj (r.dict dir)).foldlM (fun counts row => do
          let path ← rowPath row
          return Dict.set counts path ((Dict.get? counts path).getD 0 + 1)) counts = .ok counts' ∧
        ∀ path, Dict.get? counts' path = countOf (before ++ records) path := by
    induction records generalizing before counts with
    | nil => exact ⟨counts, rfl, fun path => (List.append_nil before).symm ▸ hcounts path⟩
    | cons r records ih =>
      have hset (path : String) :
          Dict.get? (Dict.set counts r.path ((Dict.get? counts r.path).getD 0 + 1)) path =
            countOf (before ++ [r]) path := by
        rw [Dict.get?_set, hcounts, countOf_getD]
        by_cases hpath : path = r.path
        · rw [if_pos hpath, hpath]
          simp [countOf, List.countP_append]
        · rw [if_neg hpath, hcounts]
          simp [countOf, List.countP_append, Ne.symm hpath]
      obtain ⟨counts', hfold, hget⟩ := ih (before ++ [r]) _ hset
      refine ⟨counts', ?_, fun path => (hget path).trans ?_⟩
      · rw [List.map_cons, List.foldlM_cons, rowPath_dict]
        exact hfold
      · rw [List.append_assoc, List.singleton_append]
  exact hall [] records Table.empty fun _ => rfl

end Reading

/-! ## Runs -/

section Runs

variable {py : Python} {dir : String → String}

/-- The file has a line for each record. -/
theorem index_lines (events : List (Event Env Request)) :
    (Config.run (writer py dir) events (Config.initial .initial)).shared.index =
      (Config.run (writer py dir) events (Config.initial .initial)).shared.receiver.index.flatMap
        (Record.line dir) := by
  have hallowed : Config.Along (writer py dir) (Config.Allows fun _ _ => True) events
      (Config.initial .initial) :=
    Config.along_of_forall (fun c ev => by
      cases ev with
      | spawn op => trivial
      | step t env => exact fun _ _ _ _ => trivial
      | restart => trivial) events _
  refine Config.run_shared_invariant (P := fun d : Directory => d.index = d.receiver.index.flatMap (Record.line dir))
    ?_ (fun _ _ h => h) (fun _ h => h) hallowed rfl
  · intro β a t env d _ h
    cases a with
    | nextSequence path => simpa [writer, Directory.exec, Receiver.exec, Act.appended] using h
    | utcNow => simpa [writer, Directory.exec, Receiver.exec, Act.appended] using h
    | writeFile name content =>
      cases hraises : env.raises <;>
        simpa [writer, Directory.exec, Receiver.exec, Act.appended, hraises] using h
    | appendIndex r =>
      cases hraises : env.raises with
      | some exc => simpa [writer, Directory.exec, Receiver.exec, Act.appended, hraises, Except.isOk,
          Except.toBool] using h
      | none => simp [writer, Directory.exec, Receiver.exec, Act.appended, hraises, h, Except.isOk,
          Except.toBool]

/-- The file has no part in what the receiver does. -/
theorem run_receiver (events : List (Event Env Request)) :
    (Config.run (writer py dir) events (Config.initial .initial)).shared.receiver =
      (Config.run (receiver py) events (Config.initial .initial)).shared := by
  have hexec (t : ThreadId) {β : Type} (a : Act β) (env : Env) (d : Directory) :
      (receiver py).exec t a env d.receiver =
        (((writer py dir).exec t a env d).1, ((writer py dir).exec t a env d).2.receiver) := rfl
  exact congrArg Config.shared (Config.run_map (f := Directory.receiver) hexec rfl
    (fun _ _ => rfl) (fun _ => rfl) events (Config.initial .initial))

end Runs

section Examples

/-- The limits of CPython. -/
def cpythonLimits : Limits := ⟨4300, 1000⟩

/-- File names under the output directory. -/
def underRun (name : String) : String := "telemetry/run/" ++ name

/-- With a line separator in a text the line is cut, and neither half is JSON. -/
example : ((readIndex cpythonLimits (dumps false (.obj [("query", .str "a\u2028b")]) ++ ['\n'])
    ).toOption.map List.length) = some 0 := by decide +kernel

end Examples

end Otel
