import Mathlib.Data.List.Sort
import KerSorMonitor.Lib.Sequential
import KerSorMonitor.Flotilla.Actuator

/-!
# Templates (`flotilla/routes.py`, `flotilla/store.py`)

The built-in templates are written at each startup, before the first request. A request looks a
template up in one transaction and writes it in another, so other requests happen in between.

Results:
1. `checkTemplate_ok_iff`: the templates that a client may store.
2. `Sound.createTemplate`, `Sound.deleteTemplate`: what one statement does.
3. `served_templates`: what every listing shows, over all restarts and interleavings.
-/

namespace Flotilla

open Keyed Threads
open Prog (call)

/-! ## Data -/

/-- `models.TemplateCreate`. -/
structure TemplateCreate where
  id : String
  name : String
  spec : String
  runtime : String := "claude_tmux"
  effort : String := ""
  evaluator : Option String := none
  deriving DecidableEq, Repr

/-- `models.Template`. -/
structure Template extends TemplateCreate where
  builtin : Bool := false
  createdAt : String
  deriving DecidableEq, Repr

/-- The primary key. -/
def Template.key (t : Template) : String := t.id

/-- The table `template`. -/
abbrev TemplateTable := Table Template.key

/-- The templates of `_seed_builtin_templates`. -/
def builtinTemplates : List TemplateCreate := [
  { id := "blank", name := "任意任务", spec := "" },
  { id := "write-tests", name := "写测试",
    spec := "Read the code in this workspace and write comprehensive pytest tests.\n" ++
      "Place test files alongside the source. Run pytest to verify all pass.\n" ++
      "Write status.json with your progress." },
  { id := "code-review", name := "Code Review",
    spec := "Review all code files in this workspace.\n" ++
      "Identify bugs, security issues, and performance problems.\n" ++
      "Write findings to review.md with severity ratings." },
  { id := "fix-bug", name := "修 Bug",
    spec := "Investigate and fix the issue described below.\n" ++
      "Write tests to reproduce the bug, then fix it.\n" ++
      "Verify all existing tests still pass.\n\n" ++
      "Issue: [describe the bug here]" },
  { id := "general-script", name := "通用任务",
    spec := "Execute the following task in this workspace:\n\n[describe what to do]",
    runtime := "claude_tmux" }]

/-! ## Statements -/

namespace Store

/-- `create_template`: an upsert that keeps `created_at`. -/
def createTemplate (t : Template) (s : TemplateTable) : TemplateTable :=
  if h : s.Has t.key then
    s.update t.key (fun r => { t with id := r.id, createdAt := r.createdAt }) fun _ _ => rfl
  else s.insert t h

/-- `get_template`. -/
def getTemplate (tid : String) (s : TemplateTable) : Option Template := s.get? tid

/-- `delete_template`. -/
def deleteTemplate (tid : String) (s : TemplateTable) : TemplateTable :=
  s.deleteWhere fun t => t.key = tid && !t.builtin

/-- `ORDER BY builtin DESC, id`. -/
def listedBefore (t t' : Template) : Prop :=
  (t.builtin = true ∧ t'.builtin = false) ∨ (t.builtin = t'.builtin ∧ t.key ≤ t'.key)

instance : DecidableRel listedBefore := fun t t' =>
  inferInstanceAs (Decidable ((t.builtin = true ∧ t'.builtin = false) ∨
    (t.builtin = t'.builtin ∧ t.key ≤ t'.key)))

/-- `list_templates`. -/
def listTemplates (s : TemplateTable) : List Template := s.rows.insertionSort listedBefore

end Store

/-! ## Requests -/

/-- What a request does outside its own memory. -/
inductive TemplateAct : Type → Type 1
  | now : TemplateAct String
  | getTemplate (tid : String) : TemplateAct (Option Template)
  | createTemplate (t : Template) : TemplateAct Unit
  | deleteTemplate (tid : String) : TemplateAct Unit
  | listTemplates : TemplateAct (List Template)

/-- The clock, and what the transaction raises. -/
structure TemplateEnv where
  now : String := ""
  raises : Option String := none

namespace TemplateAct

/-- One transaction. -/
def transact {α : Type} (env : TemplateEnv) (r : α × TemplateTable) (s : TemplateTable) :
    Except PyErr α × TemplateTable :=
  match env.raises with
  | some text => (.error ⟨.operationalError, text⟩, s)
  | none => (.ok r.1, r.2)

def exec (env : TemplateEnv) :
    {α : Type} → TemplateAct α → TemplateTable → Except PyErr α × TemplateTable
  | _, .now, s => (.ok env.now, s)
  | _, .getTemplate tid, s => transact env (Store.getTemplate tid s, s) s
  | _, .createTemplate t, s => transact env ((), Store.createTemplate t s) s
  | _, .deleteTemplate tid, s => transact env ((), Store.deleteTemplate tid s) s
  | _, .listTemplates, s => transact env (Store.listTemplates s, s) s

end TemplateAct

abbrev TemplateProgram := Prog TemplateAct PyErr

/-- `HTTPException(400, detail)`. -/
def badRequest {α : Type} (detail : String) : Except PyErr α :=
  .error ⟨.httpException 400, detail⟩

/-- `except KeyError as exc: raise HTTPException(400, str(exc))`. -/
def keyErrorsRefused {α : Type} : Except PyErr α → Except PyErr Unit
  | .ok _ => .ok ()
  | .error e => if e.cls = .keyError then badRequest e.msg else .error e

/-- The values of `effort` that are accepted. -/
def efforts : List String := ["", "low", "medium", "high", "xhigh", "max"]

/-- `if t.evaluator: evaluator.get(t.evaluator)`. -/
def checkTemplateEvaluator (t : TemplateCreate) : Except PyErr Unit :=
  match nonEmpty? t.evaluator with
  | none => .ok ()
  | some name => keyErrorsRefused (Evaluator.get name)

/-- The checks of `create_template` that read no table. -/
def checkTemplate (t : TemplateCreate) : Except PyErr Unit :=
  if !Resource.isSafeId t.id then
    badRequest "invalid template id: must be 1-128 characters from [A-Za-z0-9._-]"
  else do
    keyErrorsRefused (Runtime.get t.runtime)
    if t.runtime = "shell" then
      badRequest "shell templates cannot safely store executable commands"
    else do
      checkTemplateEvaluator t
      if efforts.contains t.effort then .ok ()
      else badRequest ("unsupported effort value: " ++ pyRepr t.effort)

/-- `create_template` of the routes. -/
def createTemplate (t : TemplateCreate) : TemplateProgram String := do
  Prog.ofExcept (checkTemplate t)
  let existing ← call (.getTemplate t.id)
  if existing.any Template.builtin then
    .throw ⟨.httpException 409, "builtin templates cannot be overwritten"⟩
  else do
    let now ← call .now
    call (.createTemplate { t with builtin := false, createdAt := now })
    return t.id

/-- `delete_template` of the routes. -/
def deleteTemplate (tid : String) : TemplateProgram String := do
  match ← call (.getTemplate tid) with
  | none => .throw ⟨.httpException 404, "template not found"⟩
  | some existing =>
    if existing.builtin then
      .throw ⟨.httpException 409, "builtin templates cannot be deleted"⟩
    else do
      call (.deleteTemplate tid)
      return tid

/-- `list_templates` of the routes. -/
def listTemplates : TemplateProgram (List Template) := call .listTemplates

/-- The rows that `_seed_builtin_templates` builds. -/
def stampTemplates : List TemplateCreate → TemplateProgram (List Template)
  | [] => pure []
  | t :: ts => do
    let now ← call .now
    let rest ← stampTemplates ts
    return { t with builtin := true, createdAt := now } :: rest

/-- `for t in builtins: s.create_template(t)`. -/
def writeTemplates : List Template → TemplateProgram Unit
  | [] => pure ()
  | t :: ts => do
    call (.createTemplate t)
    writeTemplates ts

/-- `_seed_builtin_templates`. -/
def seedBuiltinTemplates : TemplateProgram Unit := do
  let builtins ← stampTemplates builtinTemplates
  writeTemplates builtins

/-- The requests that concern templates. -/
inductive TemplateOp
  | list
  | create (t : TemplateCreate)
  | delete (tid : String)

/-- The request without its answer. -/
def forget {α : Type} (p : TemplateProgram α) : TemplateProgram Unit := do
  let _ ← p
  return ()

def TemplateOp.program : TemplateOp → TemplateProgram Unit
  | .list => forget listTemplates
  | .create t => forget (createTemplate t)
  | .delete tid => forget (deleteTemplate tid)

/-- The process after its startup. -/
def templateProcess : System TemplateAct PyErr TemplateTable TemplateEnv TemplateOp where
  exec _ {_} a env s := a.exec env s
  program := TemplateOp.program
  finish _ s := s
  restart s := s

/-- One process: the answers to its startup, and the requests that it serves. -/
structure Serving where
  answers : List TemplateEnv
  events : List (Threads.Event TemplateEnv TemplateOp)

/-- The table after the startup, and whether the startup succeeded. -/
def startup (answers : List TemplateEnv) (s : TemplateTable) : Option (Except PyErr Unit × TemplateTable) :=
  seedBuiltinTemplates.perform templateProcess 0 answers s

/-- The table after some requests, in any order of their steps. -/
def served (events : List (Threads.Event TemplateEnv TemplateOp)) (s : TemplateTable) : TemplateTable :=
  (Config.run templateProcess events (Config.initial s)).shared

/-- The table after a process. One whose startup fails serves no request. -/
def Serving.run (process : Serving) (s : TemplateTable) : TemplateTable :=
  match startup process.answers s with
  | none => s
  | some (.error _, s') => s'
  | some (.ok _, s') => served process.events s'

/-! ## What a client may store -/

/-- A template that `create_template` accepts. -/
structure Accepted (t : TemplateCreate) : Prop where
  id : Resource.isSafeId t.id = true
  runtime : ∃ rt ∈ Runtime.registry, rt.name = t.runtime
  notShell : t.runtime ≠ "shell"
  evaluator : ∀ name, nonEmpty? t.evaluator = some name → name ∈ Evaluator.registry
  effort : t.effort ∈ efforts

namespace TemplateLemmas

theorem keyErrorsRefused_eq_ok {α : Type} {r : Except PyErr α} :
    keyErrorsRefused r = .ok () ↔ ∃ a, r = .ok a := by
  cases r with
  | ok a => exact ⟨fun _ => ⟨a, rfl⟩, fun _ => rfl⟩
  | error e =>
    constructor
    · intro h
      by_cases hcls : e.cls = .keyError
      · rw [keyErrorsRefused, if_pos hcls] at h
        cases h
      · rw [keyErrorsRefused, if_neg hcls] at h
        cases h
    · rintro ⟨a, h⟩
      cases h

theorem runtime_get_eq_ok {name : String} :
    (∃ rt, Runtime.get name = .ok rt) ↔ ∃ rt ∈ Runtime.registry, rt.name = name := by
  unfold Runtime.get
  cases hfind : Runtime.registry.find? fun rt => rt.name = name with
  | some rt =>
    have hname : rt.name = name := by simpa using List.find?_some hfind
    exact ⟨fun _ => ⟨rt, List.mem_of_find?_eq_some hfind, hname⟩, fun _ => ⟨rt, rfl⟩⟩
  | none =>
    constructor
    · rintro ⟨rt, h⟩
      cases h
    · rintro ⟨rt, hmem, hname⟩
      exact absurd (decide_eq_true hname) (List.find?_eq_none.mp hfind rt hmem)

theorem evaluator_get_eq_ok {name : String} :
    (∃ a, Evaluator.get name = .ok a) ↔ name ∈ Evaluator.registry := by
  unfold Evaluator.get
  by_cases h : Evaluator.registry.contains name = true
  · rw [if_pos h]
    exact ⟨fun _ => List.contains_iff_mem.mp h, fun _ => ⟨name, rfl⟩⟩
  · rw [if_neg h]
    refine ⟨?_, fun hmem => absurd (List.contains_iff_mem.mpr hmem) h⟩
    rintro ⟨a, heq⟩
    cases heq

theorem checkTemplateEvaluator_eq_ok {t : TemplateCreate} :
    checkTemplateEvaluator t = .ok () ↔
      ∀ name, nonEmpty? t.evaluator = some name → name ∈ Evaluator.registry := by
  unfold checkTemplateEvaluator
  cases nonEmpty? t.evaluator with
  | none => exact ⟨fun _ _ h => (by cases h), fun _ => rfl⟩
  | some name =>
    refine (keyErrorsRefused_eq_ok.trans evaluator_get_eq_ok).trans ⟨?_, fun h => h name rfl⟩
    rintro h _ heq
    cases heq
    exact h

theorem seq_eq_ok {r : Except PyErr Unit} {f : Unit → Except PyErr Unit} :
    (r >>= f) = .ok () ↔ r = .ok () ∧ f () = .ok () := by
  cases r with
  | ok _ => exact ⟨fun h => ⟨rfl, h⟩, fun h => h.2⟩
  | error e => exact ⟨fun h => (by cases h), fun h => (by cases h.1)⟩

/-- The checks accept exactly these templates. -/
theorem checkTemplate_ok_iff {t : TemplateCreate} : checkTemplate t = .ok () ↔ Accepted t := by
  have hif {c : Prop} [Decidable c] {text : String} {r : Except PyErr Unit} :
      (if c then badRequest text else r) = .ok () ↔ ¬ c ∧ r = .ok () := by
    by_cases h : c
    · rw [if_pos h]
      exact ⟨fun heq => (by cases heq), fun heq => absurd h heq.1⟩
    · rw [if_neg h]
      exact ⟨fun heq => ⟨h, heq⟩, fun heq => heq.2⟩
  have heffort {text : String} :
      (if efforts.contains t.effort then Except.ok () else badRequest text) = .ok () ↔
        t.effort ∈ efforts := by
    by_cases h : efforts.contains t.effort = true
    · rw [if_pos h]
      exact ⟨fun _ => List.contains_iff_mem.mp h, fun _ => rfl⟩
    · rw [if_neg h]
      exact ⟨fun heq => (by cases heq), fun heq => absurd (List.contains_iff_mem.mpr heq) h⟩
  unfold checkTemplate
  rw [hif, seq_eq_ok, hif, seq_eq_ok, heffort, keyErrorsRefused_eq_ok, runtime_get_eq_ok,
    checkTemplateEvaluator_eq_ok]
  constructor
  · rintro ⟨hid, hruntime, hshell, hevaluator, heffort⟩
    exact ⟨by simpa using hid, hruntime, hshell, hevaluator, heffort⟩
  · rintro ⟨hid, hruntime, hshell, hevaluator, heffort⟩
    exact ⟨by simpa using hid, hruntime, hshell, hevaluator, heffort⟩

/-- The built-in templates pass the checks for those of clients. -/
theorem builtin_accepted : ∀ b ∈ builtinTemplates, Accepted b := by
  have hall : builtinTemplates.all (fun b => decide (checkTemplate b = .ok ())) = true := by decide
  intro b hb
  exact checkTemplate_ok_iff.mp (of_decide_eq_true (List.all_eq_true.mp hall b hb))

theorem builtin_ids_nodup : (builtinTemplates.map TemplateCreate.id).Nodup := by decide

/-! ## Statements -/

variable {s s' s₀ : TemplateTable} {t : Template} {tid : String}

theorem get?_createTemplate (t : Template) (s : TemplateTable) (k : String) :
    (Store.createTemplate t s).get? k =
      if k = t.key then some { t with createdAt := ((s.get? k).map Template.createdAt).getD t.createdAt }
      else s.get? k := by
  unfold Store.createTemplate
  by_cases hhas : s.Has t.key
  · rw [dif_pos hhas]
    refine (Table.get?_update s t.key k _ _).trans ?_
    by_cases hk : k = t.key
    · rw [if_pos hk, if_pos hk, hk]
      cases hget : s.get? t.key with
      | none => exact absurd hhas (Table.get?_eq_none_iff.mp hget)
      | some r =>
        have hkey : r.key = t.key := Table.key_of_get? hget
        have hid : r.id = t.id := hkey
        simp only [Option.map_some, Option.getD_some, hid]
    · rw [if_neg hk, if_neg hk]
  · rw [dif_neg hhas, Table.get?_insert]
    by_cases hk : k = t.key
    · rw [if_pos hk.symm, if_pos hk, hk, Table.get?_eq_none_iff.mpr hhas]
      rfl
    · rw [if_neg (Ne.symm hk), if_neg hk]

theorem get?_of_mem (h : t ∈ s.rows) : s.get? t.key = some t :=
  Table.get?_eq_some_iff.mpr ⟨h, rfl⟩

theorem mem_of_get? (h : s.get? tid = some t) : t ∈ s.rows := (Table.get?_eq_some_iff.mp h).1

theorem mem_createTemplate {r : Template} (h : r ∈ (Store.createTemplate t s).rows) :
    (r ∈ s.rows ∧ r.key ≠ t.key) ∨
      (r.toTemplateCreate = t.toTemplateCreate ∧ r.builtin = t.builtin) := by
  have hget := get?_of_mem h
  rw [get?_createTemplate] at hget
  by_cases hk : r.key = t.key
  · rw [if_pos hk, Option.some.injEq] at hget
    rw [← hget]
    exact .inr ⟨rfl, rfl⟩
  · rw [if_neg hk] at hget
    exact .inl ⟨mem_of_get? hget, hk⟩

/-- What holds of the table at all times. -/
structure Sound (s : TemplateTable) : Prop where
  builtin : ∀ t ∈ s.rows, t.builtin = true → t.toTemplateCreate ∈ builtinTemplates
  user : ∀ t ∈ s.rows, t.builtin = false →
    Accepted t.toTemplateCreate ∧ ∀ b ∈ builtinTemplates, b.id ≠ t.id

theorem sound_empty : Sound Table.empty where
  builtin _ h := absurd h List.not_mem_nil
  user _ h := absurd h List.not_mem_nil

theorem Sound.createTemplate (h : Sound s)
    (hbuiltin : t.builtin = true → t.toTemplateCreate ∈ builtinTemplates)
    (huser : t.builtin = false → Accepted t.toTemplateCreate ∧ ∀ b ∈ builtinTemplates, b.id ≠ t.id) :
    Sound (Store.createTemplate t s) where
  builtin r hr hb := by
    rcases mem_createTemplate hr with ⟨hmem, -⟩ | ⟨hfields, hsame⟩
    · exact h.builtin r hmem hb
    · rw [hfields]
      exact hbuiltin (hsame.symm.trans hb)
  user r hr hb := by
    rcases mem_createTemplate hr with ⟨hmem, -⟩ | ⟨hfields, hsame⟩
    · exact h.user r hmem hb
    · rw [hfields]
      exact huser (hsame.symm.trans hb)

theorem Sound.deleteTemplate (h : Sound s) (tid : String) : Sound (Store.deleteTemplate tid s) where
  builtin r hr := h.builtin r (Table.mem_rows_deleteWhere.mp hr).1
  user r hr := h.user r (Table.mem_rows_deleteWhere.mp hr).1

/-- A deletion takes no built-in template. -/
theorem get?_deleteTemplate_builtin (h : s.get? tid = some t) (hb : t.builtin = true) (tid' : String) :
    (Store.deleteTemplate tid' s).get? tid = some t := by
  unfold Store.deleteTemplate
  rw [Table.get?_deleteWhere, h, Option.filter, if_pos (by simp [hb])]

/-! ## Requests -/

/-- The built-in templates are there. -/
def Seeded (s : TemplateTable) : Prop :=
  ∀ b ∈ builtinTemplates, ∃ t, s.get? b.id = some t ∧ t.builtin = true

/-- What the requests keep after the startup has left `s₀`. -/
structure Kept (s₀ s : TemplateTable) : Prop where
  sound : Sound s
  builtin : ∀ b ∈ builtinTemplates, s.get? b.id = s₀.get? b.id

theorem Kept.createTemplate (h : Kept s₀ s) (hb : t.builtin = false)
    (haccepted : Accepted t.toTemplateCreate) (hid : ∀ b ∈ builtinTemplates, b.id ≠ t.id) :
    Kept s₀ (Store.createTemplate t s) where
  sound := h.sound.createTemplate (fun hb' => absurd (hb.symm.trans hb') Bool.false_ne_true)
    fun _ => ⟨haccepted, hid⟩
  builtin b hmem := by
    have hne : b.id ≠ t.key := hid b hmem
    rw [get?_createTemplate, if_neg hne]
    exact h.builtin b hmem

theorem Kept.deleteTemplate (hseeded : Seeded s₀) (h : Kept s₀ s) (tid : String) :
    Kept s₀ (Store.deleteTemplate tid s) where
  sound := h.sound.deleteTemplate tid
  builtin b hmem := by
    obtain ⟨t, hget, hb⟩ := hseeded b hmem
    rw [get?_deleteTemplate_builtin ((h.builtin b hmem).trans hget) hb, hget]

/-- What a request has found out when the template is not a built-in one. -/
theorem Kept.not_builtin (hseeded : Seeded s₀) (h : Kept s₀ s)
    (hget : (s.get? tid).any Template.builtin = false) : ∀ b ∈ builtinTemplates, b.id ≠ tid := by
  rintro b hmem rfl
  obtain ⟨t, ht, hb⟩ := hseeded b hmem
  rw [h.builtin b hmem, ht, Option.any_some, hb] at hget
  cases hget

/-- The requests keep the built-in templates; nothing is asked of their order. -/
def keeping (s₀ : TemplateTable) : Contract templateProcess where
  inv := Kept s₀
  rely _ _ _ := True
  guar _ s s' := Kept s₀ s → Kept s₀ s'
  clean _ _ := True
  assume _ {_} _ _ _ := True
  check _ {_} _ _ := True
  rely_refl _ _ := trivial
  rely_trans _ _ := trivial
  clean_rely _ _ := trivial
  inv_guar h hguar := hguar h
  rely_guar _ _ _ := trivial

section Requests

variable {t : ThreadId}

/-- A transaction either fails and changes nothing, or runs. -/
theorem transact_cases {α : Type} {env : TemplateEnv} {r : α × TemplateTable} {s s' : TemplateTable}
    {result : Except PyErr α} (h : TemplateAct.transact env r s = (result, s')) :
    ((∃ e, result = .error e) ∧ s' = s) ∨ (result = .ok r.1 ∧ s' = r.2) := by
  unfold TemplateAct.transact at h
  cases hraises : env.raises with
  | some text =>
    rw [hraises] at h
    cases h
    exact .inl ⟨⟨_, rfl⟩, rfl⟩
  | none =>
    rw [hraises] at h
    cases h
    exact .inr ⟨rfl, rfl⟩

theorem createTemplate_safe (hseeded : Seeded s₀) (template : TemplateCreate) :
    Safe (keeping s₀) t (createTemplate template) (fun _ _ => True) s := by
  unfold createTemplate
  cases hcheck : checkTemplate template with
  | error e => trivial
  | ok _ =>
    have haccepted := checkTemplate_ok_iff.mp hcheck
    refine Safe.seq (Q := fun r _ => ∀ existing : Option Template, r = .ok existing →
        existing.any Template.builtin = false → ∀ b ∈ builtinTemplates, b.id ≠ template.id)
      (Safe.call fun s₁ _ hinv => ⟨trivial, fun env r s₂ _ hexec => ⟨?_, ?_⟩⟩)
      (fun existing s hfound => ?_) fun _ _ _ => trivial
    · rcases transact_cases hexec with ⟨-, rfl⟩ | ⟨-, rfl⟩ <;> exact id
    · rintro existing rfl hnone
      rcases transact_cases hexec with ⟨⟨e, he⟩, -⟩ | ⟨hr, -⟩
      · cases he
      · cases hr
        exact hinv.not_builtin hseeded hnone
    · cases hany : existing.any Template.builtin with
      | true => trivial
      | false =>
        refine Safe.seq (Q := fun _ _ => True)
          (Safe.call fun s₁ _ _ => ⟨trivial, fun env r s₂ _ hexec => ⟨?_, trivial⟩⟩)
          (fun now s _ => ?_) fun _ _ _ => trivial
        · cases hexec
          exact id
        refine Safe.seq (Q := fun _ _ => True)
          (Safe.call fun s₁ _ _ => ⟨trivial, fun env r s₂ _ hexec => ⟨fun hkept => ?_, trivial⟩⟩)
          (fun _ _ _ => trivial) fun _ _ _ => trivial
        rcases transact_cases hexec with ⟨-, rfl⟩ | ⟨-, rfl⟩
        · exact hkept
        · exact hkept.createTemplate rfl haccepted (hfound existing rfl hany)

theorem deleteTemplate_safe (hseeded : Seeded s₀) (tid : String) :
    Safe (keeping s₀) t (deleteTemplate tid) (fun _ _ => True) s := by
  unfold deleteTemplate
  refine Safe.seq (Q := fun _ _ => True)
    (Safe.call fun s₁ _ _ => ⟨trivial, fun env r s₂ _ hexec => ⟨?_, trivial⟩⟩)
    (fun existing s _ => ?_) fun _ _ _ => trivial
  · rcases transact_cases hexec with ⟨-, rfl⟩ | ⟨-, rfl⟩ <;> exact id
  cases existing with
  | none => trivial
  | some existing =>
    cases hb : existing.builtin with
    | true => simp only [hb, ↓reduceIte]; trivial
    | false =>
      simp only [hb, Bool.false_eq_true, ↓reduceIte]
      refine Safe.seq (Q := fun _ _ => True)
        (Safe.call fun s₁ _ _ => ⟨trivial, fun env r s₂ _ hexec => ⟨fun hkept => ?_, trivial⟩⟩)
        (fun _ _ _ => trivial) fun _ _ _ => trivial
      rcases transact_cases hexec with ⟨-, rfl⟩ | ⟨-, rfl⟩
      · exact hkept
      · exact hkept.deleteTemplate hseeded tid

theorem listTemplates_safe : Safe (keeping s₀) t listTemplates (fun _ _ => True) s := by
  refine Safe.call fun s₁ _ _ => ⟨trivial, fun env r s₂ _ hexec => ⟨?_, trivial⟩⟩
  rcases transact_cases hexec with ⟨-, rfl⟩ | ⟨-, rfl⟩ <;> exact id

theorem forget_safe {α : Type} {p : TemplateProgram α}
    (h : Safe (keeping s₀) t p (fun _ _ => True) s) :
    Safe (keeping s₀) t (forget p) (fun _ => (keeping s₀).Finishes t) s := by
  have hfinishes (s : TemplateTable) : (keeping s₀).Finishes t s :=
    fun hinv => ⟨hinv, trivial, fun _ _ => trivial⟩
  exact (Safe.seq h (fun _ _ _ => trivial) fun _ _ _ => trivial :
    Safe (keeping s₀) t (forget p) (fun _ _ => True) s).mono fun _ s _ => hfinishes s

theorem keeping_sound (hseeded : Seeded s₀) : (keeping s₀).Sound (fun _ => True) True where
  safe op _ t s _ _ := by
    cases op with
    | list => exact forget_safe listTemplates_safe
    | create template => exact forget_safe (createTemplate_safe hseeded template)
    | delete tid => exact forget_safe (deleteTemplate_safe hseeded tid)
  restart _ _ h := ⟨h, fun _ => trivial⟩

/-- Every run of requests keeps the built-in templates. -/
theorem kept_served (hsound : Sound s₀) (hseeded : Seeded s₀)
    (events : List (Threads.Event TemplateEnv TemplateOp)) : Kept s₀ (served events s₀) := by
  have hpermits : Config.Along templateProcess ((keeping s₀).Permits (fun _ => True) True) events
      (Config.initial s₀) :=
    Config.along_of_forall (fun c ev => by
      cases ev with
      | spawn op => trivial
      | step t env => exact fun _ _ _ _ => trivial
      | restart => trivial) events _
  exact ((keeping_sound hseeded).holds_run hpermits
    (Contract.holds_initial ⟨hsound, fun _ _ => rfl⟩ fun _ => trivial)).inv

end Requests

/-! ## Startup -/

/-- What a startup changes: no template of a client, and of no row the time of its creation. -/
structure Grown (s s' : TemplateTable) : Prop where
  createdAt : ∀ k t, s.get? k = some t → ∃ t', s'.get? k = some t' ∧ t'.createdAt = t.createdAt ∧
    (t.builtin = true → t'.builtin = true)
  user : ∀ k t, s.get? k = some t → t.builtin = false → s'.get? k = some t

theorem Grown.refl (s : TemplateTable) : Grown s s where
  createdAt _ t h := ⟨t, h, rfl, id⟩
  user _ _ h _ := h

theorem Grown.trans {s'' : TemplateTable} (h : Grown s s') (h' : Grown s' s'') : Grown s s'' where
  createdAt k t hget := by
    obtain ⟨t', hget', htime, hb⟩ := h.createdAt k t hget
    obtain ⟨t'', hget'', htime', hb'⟩ := h'.createdAt k t' hget'
    exact ⟨t'', hget'', htime'.trans htime, fun hbuiltin => hb' (hb hbuiltin)⟩
  user k t hget hb := h'.user k t (h.user k t hget hb) hb

/-- A row that the startup writes. -/
def IsSeed (t : Template) : Prop := t.builtin = true ∧ t.toTemplateCreate ∈ builtinTemplates

theorem IsSeed.sound (h : IsSeed t) (hs : Sound s) : Sound (Store.createTemplate t s) :=
  hs.createTemplate (fun _ => h.2) fun hb => absurd (h.1.symm.trans hb) (by decide)

theorem IsSeed.grown (h : IsSeed t) (hs : Sound s) : Grown s (Store.createTemplate t s) where
  createdAt k r hget := by
    rw [get?_createTemplate]
    by_cases hk : k = t.key
    · rw [if_pos hk, hget]
      exact ⟨_, rfl, rfl, fun _ => h.1⟩
    · rw [if_neg hk]
      exact ⟨r, hget, rfl, id⟩
  user k r hget hb := by
    have hne : k ≠ t.key := by
      have hkey : r.key = k := Table.key_of_get? hget
      rintro rfl
      exact (hs.user r (mem_of_get? hget) hb).2 _ h.2 hkey.symm
    rw [get?_createTemplate, if_neg hne]
    exact hget

section Startup

variable {allow : {β : Type} → TemplateAct β → TemplateEnv → TemplateTable → Prop}

/-- The transactions of the startup, whether all of them succeed or not. -/
theorem writeTemplates_alone {ts : List Template} (hseeds : ∀ t ∈ ts, IsSeed t) (hs : Sound s) :
    Safe (.alone templateProcess 0 allow) 0 (writeTemplates ts) (fun r s' => Sound s' ∧ Grown s s' ∧
      (r = .ok () → ∀ t ∈ ts, ∃ t', s'.get? t.key = some t' ∧ t'.builtin = true)) s := by
  induction ts generalizing s with
  | nil => exact ⟨hs, .refl s, fun _ _ h => absurd h List.not_mem_nil⟩
  | cons t ts ih =>
    have hseed := hseeds t List.mem_cons_self
    have hrest : ∀ t ∈ ts, IsSeed t := fun t h => hseeds t (List.mem_cons_of_mem _ h)
    refine Safe.seq (Q := fun r s' => (∀ e, r = .error e → s' = s) ∧
        (r = .ok () → s' = Store.createTemplate t s)) (Alone.call fun env r s' _ hexec => ?_)
      (fun _ s₁ hs₁ => ?_) fun e s₁ hs₁ => ?_
    · rcases transact_cases hexec with ⟨⟨e, rfl⟩, rfl⟩ | ⟨rfl, rfl⟩
      · exact ⟨fun _ _ => rfl, fun h => (by cases h)⟩
      · exact ⟨fun _ h => (by cases h), fun _ => rfl⟩
    · obtain rfl := hs₁.2 rfl
      refine (ih hrest (hseed.sound hs)).mono fun r s' ⟨hsound, hgrown, hthere⟩ =>
        ⟨hsound, (hseed.grown hs).trans hgrown, fun hr t' ht' => ?_⟩
      rcases List.mem_cons.mp ht' with rfl | ht'
      · obtain ⟨t'', hget, -, hb⟩ := hgrown.createdAt t'.key _
          ((get?_createTemplate t' s t'.key).trans (if_pos rfl))
        exact ⟨t'', hget, hb hseed.1⟩
      · exact hthere hr t' ht'
    · obtain rfl := hs₁.1 e rfl
      exact ⟨hs, .refl _, fun h => (by cases h)⟩

theorem stampTemplates_alone (ts : List TemplateCreate) :
    Safe (.alone templateProcess 0 allow) 0 (stampTemplates ts) (fun r s' => s' = s ∧
      ∀ rows, r = .ok rows → rows.map Template.toTemplateCreate = ts ∧
        ∀ t ∈ rows, t.builtin = true) s := by
  induction ts with
  | nil =>
    refine ⟨rfl, fun rows h => ?_⟩
    cases h
    exact ⟨rfl, fun _ h => absurd h List.not_mem_nil⟩
  | cons t ts ih =>
    refine Safe.seq (Q := fun _ s' => s' = s) (Alone.call fun env r s' _ hexec => ?_)
      (fun now s₁ hs₁ => ?_) fun e s₁ hs₁ => ⟨hs₁, fun _ h => (by cases h)⟩
    · cases hexec
      rfl
    · subst hs₁
      refine Safe.seq ih (fun rest s₂ hs₂ => ⟨hs₂.1, fun rows hrows => ?_⟩)
        fun e s₂ hs₂ => ⟨hs₂.1, fun _ h => (by cases h)⟩
      obtain ⟨hmap, hb⟩ := hs₂.2 rest rfl
      cases hrows
      refine ⟨congrArg (t :: ·) hmap, fun r hr => ?_⟩
      rcases List.mem_cons.mp hr with rfl | hr
      · rfl
      · exact hb r hr

end Startup

/-- What a startup leaves. -/
theorem startup_spec {answers : List TemplateEnv} {r : Except PyErr Unit} (hs : Sound s)
    (h : startup answers s = some (r, s')) : Sound s' ∧ Grown s s' ∧ (r = .ok () → Seeded s') := by
  have hpermitted : seedBuiltinTemplates.Permitted templateProcess 0 (fun _ _ _ => True) answers s :=
    Prog.permitted_of_forall _ _ _ fun _ _ _ => trivial
  refine Alone.of_perform (Q := fun r s' => Sound s' ∧ Grown s s' ∧ (r = .ok () → Seeded s')) ?_
    hpermitted h
  refine Safe.seq (stampTemplates_alone builtinTemplates) (fun rows s₁ hs₁ => ?_)
    fun e s₁ hs₁ => ?_
  · obtain ⟨rfl, hrows⟩ := hs₁
    obtain ⟨hmap, hb⟩ := hrows rows rfl
    have hseeds : ∀ t ∈ rows, IsSeed t := fun t ht =>
      ⟨hb t ht, hmap ▸ List.mem_map_of_mem ht⟩
    refine (writeTemplates_alone hseeds hs).mono fun r s' ⟨hsound, hgrown, hthere⟩ =>
      ⟨hsound, hgrown, fun hr b hmem => ?_⟩
    obtain ⟨t, ht, rfl⟩ := List.mem_map.mp (hmap ▸ hmem)
    exact hthere hr t ht
  · obtain ⟨rfl, -⟩ := hs₁
    exact ⟨hs, .refl _, fun h => (by cases h)⟩

/-- Every process leaves a sound table. -/
theorem sound_serving (hs : Sound s) (process : Serving) : Sound (process.run s) := by
  unfold Serving.run
  cases hstart : startup process.answers s with
  | none => exact hs
  | some result =>
    obtain ⟨r, s'⟩ := result
    obtain ⟨hsound, -, hseeded⟩ := startup_spec hs hstart
    cases r with
    | error e => exact hsound
    | ok _ => exact (kept_served hsound (hseeded rfl) process.events).sound

theorem sound_servings (processes : List Serving) :
    Sound (processes.foldl (fun s process => process.run s) Table.empty) := by
  have hall (s : TemplateTable) (hs : Sound s) :
      Sound (processes.foldl (fun s process => process.run s) s) := by
    induction processes generalizing s with
    | nil => exact hs
    | cons process processes ih => exact ih _ (sound_serving hs process)
  exact hall _ sound_empty

/-! ## Listings -/

/-- What comes first in the order is what satisfies `p`. -/
theorem filter_append_filter_not {α : Type} {p : α → Bool} {l : List α}
    (h : l.Pairwise fun a b => p b = true → p a = true) :
    l.filter p ++ l.filter (fun a => !p a) = l := by
  induction l with
  | nil => rfl
  | cons a l ih =>
    obtain ⟨hhead, htail⟩ := List.pairwise_cons.mp h
    cases ha : p a with
    | true => simp [ha, ih htail]
    | false =>
      have hnone : l.filter p = [] := List.filter_eq_nil_iff.mpr fun b hb hpb =>
        absurd (hhead b hb hpb) (by simp [ha])
      have hall : l.filter (fun b => !p b) = l := List.filter_eq_self.mpr fun b hb => by
        cases hpb : p b with
        | true => exact absurd (hhead b hb hpb) (by simp [ha])
        | false => rfl
      simp [ha, hnone, hall]

instance : Std.Total Store.listedBefore where
  total t t' := by
    unfold Store.listedBefore
    cases t.builtin <;> cases t'.builtin <;> simp [String.le_total t.key t'.key]

instance : IsTrans Template Store.listedBefore where
  trans t t' t'' h h' := by
    unfold Store.listedBefore at *
    rcases h with ⟨hb, hb'⟩ | ⟨hb, hle⟩
    · rcases h' with ⟨hc, -⟩ | ⟨hc, -⟩
      · exact absurd (hb'.symm.trans hc) Bool.false_ne_true
      · exact .inl ⟨hb, hc.symm.trans hb'⟩
    · rcases h' with ⟨hc, hc'⟩ | ⟨hc, hle'⟩
      · exact .inl ⟨hb.trans hc, hc'⟩
      · exact .inr ⟨hb.trans hc, String.le_trans hle hle'⟩

theorem mem_listTemplates : t ∈ Store.listTemplates s ↔ t ∈ s.rows :=
  (List.perm_insertionSort _ _).mem_iff

theorem nodup_listTemplates (s : TemplateTable) :
    ((Store.listTemplates s).map Template.key).Nodup :=
  ((List.perm_insertionSort Store.listedBefore s.rows).map Template.key).nodup_iff.mpr s.nodup

theorem pairwise_listTemplates (s : TemplateTable) :
    (Store.listTemplates s).Pairwise Store.listedBefore := List.pairwise_insertionSort _ _

/-- The templates of one kind are listed in the order of their ids. -/
theorem pairwise_key (s : TemplateTable) {p : Template → Bool} {b : Bool}
    (hp : ∀ t, p t = true → t.builtin = b) :
    (((Store.listTemplates s).filter p).map Template.key).Pairwise (· < ·) := by
  have hne := List.pairwise_map.mp
    ((nodup_listTemplates s).sublist ((List.filter_sublist (p := p)).map Template.key))
  have hle := (pairwise_listTemplates s).sublist (List.filter_sublist (p := p))
  refine List.pairwise_map.mpr ((hne.and hle).imp_of_mem fun {t t'} ht ht' hboth => ?_)
  have hkinds := (hp t (List.mem_filter.mp ht).2).trans (hp t' (List.mem_filter.mp ht').2).symm
  have hlisted : t.key ≤ t'.key := by
    rcases hboth.2 with ⟨hb, hb'⟩ | ⟨-, hle⟩
    · exact absurd (hb.symm.trans (hkinds.trans hb')) (by decide)
    · exact hle
  exact Std.lt_of_le_of_ne hlisted hboth.1

end TemplateLemmas

/-- The built-in templates in the order in which they are listed. -/
def builtinsInOrder : List TemplateCreate :=
  builtinTemplates.insertionSort fun b b' => b.id ≤ b'.id

namespace TemplateLemmas

theorem builtinsInOrder_pairwise :
    builtinsInOrder.Pairwise fun b b' => b.id ≤ b'.id := by decide

/-- The built-in templates are listed, each once, with the fields of the source. -/
theorem builtins_listed (hs : Sound s) (hseeded : Seeded s) :
    ((Store.listTemplates s).filter Template.builtin).map Template.toTemplateCreate =
      builtinsInOrder := by
  have hkeys := pairwise_key s (p := Template.builtin) (b := true) fun _ h => h
  have hinj : ∀ b ∈ builtinTemplates, ∀ b' ∈ builtinTemplates, b.id = b'.id → b = b' :=
    fun b hb b' hb' heq => List.inj_on_of_nodup_map builtin_ids_nodup hb hb' heq
  have hmem (b : TemplateCreate) :
      b ∈ ((Store.listTemplates s).filter Template.builtin).map Template.toTemplateCreate ↔
        b ∈ builtinTemplates := by
    constructor
    · intro h
      obtain ⟨t, ht, rfl⟩ := List.mem_map.mp h
      obtain ⟨hlisted, hb⟩ := List.mem_filter.mp ht
      exact hs.builtin t (mem_listTemplates.mp hlisted) hb
    · intro h
      obtain ⟨t, hget, hb⟩ := hseeded b h
      have hkey : t.key = b.id := Table.key_of_get? hget
      have hfields := hinj _ (hs.builtin t (mem_of_get? hget) hb) b h hkey
      exact List.mem_map.mpr
        ⟨t, List.mem_filter.mpr ⟨mem_listTemplates.mpr (mem_of_get? hget), hb⟩, hfields⟩
  have hids : (((Store.listTemplates s).filter Template.builtin).map
      Template.toTemplateCreate).Pairwise fun b b' => b.id < b'.id :=
    List.pairwise_map.mpr (List.pairwise_map.mp hkeys)
  have hperm : (((Store.listTemplates s).filter Template.builtin).map
      Template.toTemplateCreate).Perm builtinsInOrder := by
    refine ((List.perm_ext_iff_of_nodup ?_ ?_).mpr hmem).trans
      (List.perm_insertionSort _ _).symm
    · refine hids.imp fun {b b'} hlt heq => ?_
      rw [heq] at hlt
      exact String.lt_irrefl _ hlt
    · exact List.Nodup.of_map _ builtin_ids_nodup
  refine hperm.eq_of_pairwise (fun b b' hb hb' hle hle' => ?_)
    (hids.imp fun h => Std.le_of_lt h) builtinsInOrder_pairwise
  exact hinj b ((hmem b).mp hb) b' ((List.perm_insertionSort _ _).mem_iff.mp hb')
    (String.le_antisymm hle hle')

end TemplateLemmas

/-! ## What every listing shows -/

open TemplateLemmas in
/-- Whatever processes there were before, and whatever requests a process serves in whatever order
of their steps: every listing shows the built-in templates as the source has them, then those of
clients, which pass the checks; and a startup changes no template of a client and no time of
creation. -/
theorem served_templates (processes : List Serving) (answers : List TemplateEnv)
    (events : List (Threads.Event TemplateEnv TemplateOp)) {s₀ : TemplateTable}
    (hstart : startup answers (processes.foldl (fun s process => process.run s) Table.empty) =
      some (.ok (), s₀)) :
    (∃ builtins users, Store.listTemplates (served events s₀) = builtins ++ users ∧
      builtins.map Template.toTemplateCreate = builtinsInOrder ∧
      (users.map Template.key).Pairwise (· < ·) ∧
      (∀ t ∈ users, t.builtin = false ∧ Accepted t.toTemplateCreate) ∧
      ∀ t ∈ (processes.foldl (fun s process => process.run s) Table.empty).rows, t.builtin = true →
        ∃ t' ∈ builtins, t'.key = t.key ∧ t'.createdAt = t.createdAt) ∧
    ∀ t ∈ (processes.foldl (fun s process => process.run s) Table.empty).rows,
      t.builtin = false → t ∈ s₀.rows := by
  have hbefore := sound_servings processes
  obtain ⟨hsound, hgrown, hseeded⟩ := startup_spec hbefore hstart
  have hkept := kept_served hsound (hseeded rfl) events
  have hserved : Seeded (served events s₀) := fun b hb => by
    rw [hkept.builtin b hb]
    exact hseeded rfl b hb
  refine ⟨⟨_, _, (filter_append_filter_not ?_).symm, builtins_listed hkept.sound hserved,
    pairwise_key _ (b := false) fun t ht => by simpa using ht, fun t ht => ?_,
    fun t ht hb => ?_⟩, fun t ht hb => ?_⟩
  · refine (pairwise_listTemplates _).imp fun {t t'} hlisted hb => ?_
    rcases hlisted with ⟨hb', -⟩ | ⟨heq, -⟩
    · exact hb'
    · exact heq.trans hb
  · obtain ⟨hlisted, hb⟩ := List.mem_filter.mp ht
    have hfalse : t.builtin = false := by simpa using hb
    exact ⟨hfalse, (hkept.sound.user t (mem_listTemplates.mp hlisted) hfalse).1⟩
  · have hfields := hbefore.builtin t ht hb
    obtain ⟨t', hget, htime, hb'⟩ := hgrown.createdAt t.key t (get?_of_mem ht)
    have hget' := (hkept.builtin _ hfields).trans hget
    have hlisted := mem_listTemplates.mpr (mem_of_get? hget')
    exact ⟨t', List.mem_filter.mpr ⟨hlisted, hb' hb⟩, Table.key_of_get? hget', htime⟩
  · exact mem_of_get? (hgrown.user t.key t (get?_of_mem ht) hb)

/-- Every transaction of a startup succeeds. -/
def templateAnswers (now : String) : List TemplateEnv := List.replicate 10 ⟨now, none⟩

/-- Two clients store one template, and a third deletes it between their steps; a built-in one is
neither overwritten nor deleted. -/
def templateRequests : List (Threads.Event TemplateEnv TemplateOp) :=
  [.spawn (.create { id := "mine", name := "Mine", spec := "a" }),
    .spawn (.create { id := "mine", name := "Mine", spec := "b" }),
    .spawn (.delete "mine"), .spawn (.delete "blank"),
    .spawn (.create { id := "blank", name := "Mine", spec := "c" }),
    .step 0 {}, .step 1 {}, .step 0 {}, .step 0 {}, .step 2 {}, .step 2 {}, .step 1 {}, .step 1 {},
    .step 3 {}, .step 4 {}]

/-- A process that serves these requests. -/
def firstServing : Serving := ⟨templateAnswers "2025-01-01T00:00:00Z", templateRequests⟩

/-- The table after the next startup. -/
def secondTable : TemplateTable :=
  ((startup (templateAnswers "2025-01-02T00:00:00Z") (firstServing.run Table.empty)).map
    Prod.snd).getD Table.empty

set_option maxRecDepth 10000 in
theorem served_templates_second :
    (∃ builtins users, Store.listTemplates (served templateRequests secondTable) = builtins ++ users ∧
      builtins.map Template.toTemplateCreate = builtinsInOrder ∧
      (users.map Template.key).Pairwise (· < ·) ∧
      (∀ t ∈ users, t.builtin = false ∧ Accepted t.toTemplateCreate) ∧
      ∀ t ∈ (firstServing.run Table.empty).rows, t.builtin = true →
        ∃ t' ∈ builtins, t'.key = t.key ∧ t'.createdAt = t.createdAt) ∧
    ∀ t ∈ (firstServing.run Table.empty).rows, t.builtin = false → t ∈ secondTable.rows :=
  served_templates [firstServing] (templateAnswers "2025-01-02T00:00:00Z") templateRequests
    (by decide)

set_option maxRecDepth 10000 in
example : (Store.listTemplates (served templateRequests secondTable)).map Template.key =
    ["blank", "code-review", "fix-bug", "general-script", "write-tests", "mine"] := by decide

end Flotilla
