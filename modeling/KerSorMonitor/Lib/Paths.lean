import Mathlib.Data.List.Flatten
import Mathlib.Data.List.Infix

/-!
# Paths

Paths of a POSIX file system as text: a path that is absolute or not, and its parts. `resolve` says
where a path leads when no directory on the way is a link.

Results:
1. `resolve_join`: a relative path is walked from where the first path leads.
2. `resolve_join_component`: an ordinary component leads one level down.
-/

namespace Paths

structure Path where
  absolute : Bool
  parts : List String
  deriving DecidableEq, Repr

/-- The parts of a text, without the empty ones and the dots. -/
def parse (text : String) : Path where
  absolute := text.toList.head? = some '/'
  parts := ((text.toList.splitOn '/').map String.ofList).filter fun part => part ≠ "" && part ≠ "."

namespace Path

/-- The text of a path that is not the empty relative one. -/
def render (p : Path) : String := (if p.absolute then "/" else "") ++ "/".intercalate p.parts

/-- An absolute second path replaces the first. -/
def join (p : Path) (text : String) : Path :=
  if (parse text).absolute then parse text else { p with parts := p.parts ++ (parse text).parts }

def parent (p : Path) : Path := { p with parts := p.parts.dropLast }

/-- The last part. -/
def name? (p : Path) : Option String := p.parts.getLast?

/-- The same path with a suffix to its last part; there is none to a path without parts. -/
def withSuffix (p : Path) (suffix : String) : Option Path :=
  p.name?.map fun name => { p with parts := p.parts.dropLast ++ [name ++ suffix] }

/-- The path and the paths above it, from the first part on. -/
def above (p : Path) : List Path := p.parts.inits.map fun parts => { p with parts }

end Path

/-! ## Where paths lead -/

/-- The components from the root directory on. -/
abbrev Location := List String

/-- One part further. -/
def walk (loc : Location) (part : String) : Location :=
  if part = ".." then loc.dropLast else loc ++ [part]

def Path.resolve (cwd : Location) (p : Path) : Location :=
  p.parts.foldl walk (if p.absolute then [] else cwd)

/-- Strictly below a directory. -/
def Below (dir loc : Location) : Prop := dir <+: loc ∧ dir ≠ loc

instance (dir loc : Location) : Decidable (Below dir loc) := inferInstanceAs (Decidable (_ ∧ _))

/-- `os.path.relpath` of two locations. -/
def relative : Location → Location → Location
  | a :: start, b :: target =>
    if a = b then relative start target else List.replicate (start.length + 1) ".." ++ b :: target
  | start, target => List.replicate start.length ".." ++ target

/-- `os.path.relpath(target, start=start)`. -/
def relpath (cwd : Location) (target start : Path) : String :=
  match relative (start.resolve cwd) (target.resolve cwd) with
  | [] => "."
  | parts => "/".intercalate parts

/-! ## Components -/

/-- A name of one level. -/
structure Component (text : String) : Prop where
  parts : (parse text).parts = [text]
  relative : (parse text).absolute = false
  ordinary : text ≠ ".."

/-- A text without a slash is one part, unless it is empty or a dot. -/
theorem parse_of_no_slash {text : String} (h : '/' ∉ text.toList) :
    parse text = ⟨false, [text].filter fun part => part ≠ "" && part ≠ "."⟩ := by
  unfold parse
  congr 1
  · refine decide_eq_false fun hhead => ?_
    obtain ⟨rest, hrest⟩ := List.head?_eq_some_iff.mp hhead
    exact h (by rw [hrest]; exact List.mem_cons_self)
  · rw [List.splitOn_eq_singleton h, List.map_singleton, String.ofList_toList]

/-- A slash between two texts puts their parts together. -/
theorem parse_slash {a : String} (h : a ≠ "") (b : String) :
    parse (a ++ "/" ++ b) = { parse a with parts := (parse a).parts ++ (parse b).parts } := by
  have htext : (a ++ "/" ++ b).toList = a.toList ++ '/' :: b.toList := by
    rw [String.toList_append, String.toList_append, List.append_assoc]
    rfl
  have hhead : (a.toList ++ '/' :: b.toList).head? = a.toList.head? :=
    List.head?_append_of_ne_nil _ (by simpa using h)
  unfold parse
  dsimp only
  rw [htext, hhead, List.splitOn_append_cons_self, List.map_append, List.filter_append]

theorem flatten_splitOn_sublist (cs : List Char) : (cs.splitOn '/').flatten.Sublist cs := by
  induction cs with
  | nil => exact List.Sublist.refl _
  | cons c cs ih =>
    obtain ⟨first, rest, hsplit⟩ := List.exists_cons_of_ne_nil (List.splitOn_ne_nil '/' cs)
    rw [List.splitOn_cons_eq_if_modifyHead]
    split
    · exact ih.cons c
    · rw [hsplit] at ih ⊢
      exact ih.cons_cons c

/-- The characters of the parts stand in the text, in their order. -/
theorem parts_sublist (text : String) :
    ((parse text).parts.map String.toList).flatten.Sublist text.toList := by
  have hparts : ((parse text).parts.map String.toList).Sublist (text.toList.splitOn '/') := by
    have hsub : ((parse text).parts.map String.toList).Sublist
        (((text.toList.splitOn '/').map String.ofList).map String.toList) :=
      List.filter_sublist.map String.toList
    have hid : String.toList ∘ String.ofList = id := funext fun _ => String.toList_ofList
    rwa [List.map_map, hid, List.map_id] at hsub
  exact hparts.flatten.trans (flatten_splitOn_sublist text.toList)

/-! ## Walks -/

/-- Without a part that leads up each part leads down. -/
theorem foldl_walk_of_no_up {loc : Location} {parts : List String} (h : ".." ∉ parts) :
    parts.foldl walk loc = loc ++ parts := by
  induction parts generalizing loc with
  | nil => exact (List.append_nil loc).symm
  | cons part parts ih =>
    have hwalk : walk loc part = loc ++ [part] :=
      if_neg fun (hup : part = "..") => h (hup ▸ List.mem_cons_self)
    rw [List.foldl_cons, ih fun hmem => h (List.mem_cons_of_mem _ hmem), hwalk, List.append_assoc]
    rfl

/-- A walk goes back on the way to its start, then on through parts of its own. -/
theorem foldl_walk_eq (loc : Location) (parts : List String) :
    ∃ back on, parts.foldl walk loc = back ++ on ∧ back <+: loc ∧ ∀ name ∈ on, name ∈ parts := by
  induction parts using List.reverseRecOn with
  | nil => exact ⟨loc, [], (List.append_nil loc).symm, List.prefix_refl loc, fun _ h => (by cases h)⟩
  | append_singleton parts part ih =>
    obtain ⟨back, on, heq, hback, hon⟩ := ih
    have hmem : ∀ name ∈ on, name ∈ parts ++ [part] := fun name h => List.mem_append_left _ (hon name h)
    rw [List.foldl_append, heq, List.foldl_cons, List.foldl_nil, walk]
    split
    · rcases List.eq_nil_or_concat on with rfl | ⟨init, last, rfl⟩
      · rw [List.append_nil]
        exact ⟨back.dropLast, [], (List.append_nil _).symm, (List.dropLast_prefix _).trans hback, hmem⟩
      · rw [List.concat_eq_append, ← List.append_assoc, List.dropLast_concat]
        refine ⟨back, init, rfl, hback, fun name h => hmem name ?_⟩
        rw [List.concat_eq_append]
        exact List.mem_append_left _ h
    · rw [List.append_assoc]
      refine ⟨back, on ++ [part], rfl, hback, fun name h => ?_⟩
      rcases List.mem_append.mp h with h | h
      · exact hmem name h
      · exact List.mem_append_right _ h

/-- From the root directory only parts of the way are entered. -/
theorem mem_of_mem_foldl_walk {parts : List String} {name : String}
    (h : name ∈ parts.foldl walk []) : name ∈ parts := by
  obtain ⟨back, on, heq, hback, hon⟩ := foldl_walk_eq [] parts
  rw [heq, List.prefix_nil.mp hback, List.nil_append] at h
  exact hon name h

theorem component_of_no_slash {text : String} (h : '/' ∉ text.toList) (hempty : text ≠ "")
    (hdot : text ≠ ".") (hup : text ≠ "..") : Component text where
  parts := by
    rw [parse_of_no_slash h]
    simp [hempty, hdot]
  relative := by rw [parse_of_no_slash h]
  ordinary := hup

/-- A name that is a component of a path. -/
def plainName (text : String) : Bool :=
  text.toList.all (· ≠ '/') && text ≠ "" && text ≠ "." && text ≠ ".."

theorem components_of_plainNames {names : List String} (h : names.all plainName = true) :
    ∀ name ∈ names, Component name := by
  intro name hname
  have hplain := List.all_eq_true.mp h name hname
  simp only [plainName, Bool.and_eq_true, List.all_eq_true, decide_eq_true_eq] at hplain
  obtain ⟨⟨⟨hslash, hempty⟩, hdot⟩, hup⟩ := hplain
  exact component_of_no_slash (fun hmem => hslash _ hmem rfl) hempty hdot hup

theorem resolve_join {cwd : Location} {p : Path} {text : String} (h : (parse text).absolute = false) :
    (p.join text).resolve cwd = (parse text).parts.foldl walk (p.resolve cwd) := by
  unfold Path.join
  rw [if_neg (by rw [h]; exact Bool.false_ne_true)]
  exact List.foldl_append

theorem resolve_slash {cwd : Location} {a : String} (h : a ≠ "") (b : String) :
    (parse (a ++ "/" ++ b)).resolve cwd = (parse b).parts.foldl walk ((parse a).resolve cwd) := by
  rw [parse_slash h, Path.resolve, List.foldl_append]
  rfl

@[simp] theorem resolve_join_component {cwd : Location} {p : Path} {text : String}
    (h : Component text) : (p.join text).resolve cwd = p.resolve cwd ++ [text] := by
  rw [resolve_join h.relative, h.parts]
  exact if_neg h.ordinary

theorem join_component {p : Path} {text : String} (h : Component text) :
    p.join text = { p with parts := p.parts ++ [text] } := by
  unfold Path.join
  rw [if_neg (by rw [h.relative]; exact Bool.false_ne_true), h.parts]

theorem parent_join_component {p : Path} {text : String} (h : Component text) :
    (p.join text).parent = p := by
  rw [join_component h, Path.parent]
  dsimp only
  rw [List.dropLast_concat]

theorem below_append {dir loc : Location} (h : loc ≠ []) : Below dir (dir ++ loc) :=
  ⟨List.prefix_append dir loc, fun heq => h (List.append_right_eq_self.mp heq.symm)⟩

/-- The path itself comes last. -/
theorem mem_above_join_component {p q : Path} {text : String} (h : Component text) :
    q ∈ (p.join text).above ↔ q ∈ p.above ∨ q = p.join text := by
  unfold Path.above
  rw [join_component h]
  dsimp only
  rw [List.mem_map, List.mem_map]
  simp only [List.mem_inits, List.prefix_concat_iff]
  constructor
  · rintro ⟨parts, rfl | hprefix, rfl⟩
    · exact Or.inr rfl
    · exact Or.inl ⟨parts, hprefix, rfl⟩
  · rintro (⟨parts, hprefix, rfl⟩ | rfl)
    · exact ⟨parts, Or.inr hprefix, rfl⟩
    · exact ⟨_, Or.inl rfl, rfl⟩

theorem withSuffix_join_component {p : Path} {text : String} (h : Component text) (suffix : String) :
    (p.join text).withSuffix suffix = some { p with parts := p.parts ++ [text ++ suffix] } := by
  rw [join_component h, Path.withSuffix, Path.name?]
  dsimp only
  rw [List.getLast?_concat, List.dropLast_concat]
  rfl

theorem resolve_concat {cwd : Location} {p : Path} {part : String} (h : part ≠ "..") :
    ({ p with parts := p.parts ++ [part] } : Path).resolve cwd = p.resolve cwd ++ [part] := by
  unfold Path.resolve
  dsimp only
  rw [List.foldl_append]
  exact if_neg h

end Paths
