/-!
# Reading a benchmark table (`csv.DictReader` over `text.splitlines()`)

The reader of the `csv` module in its default dialect: commas, double quotes doubled inside a
quoted field, not strict. It is a machine over characters, with one more input at the end of
each line.
-/

namespace Scripts

namespace Csv

/-- The states of the reader that lines without line ends can reach. -/
inductive State
  | startRecord
  | startField
  | inField
  | inQuotedField
  | quoteInQuotedField
  deriving DecidableEq, Repr

/-- The reader within a record: the fields so far and the field being read, both reversed. -/
structure Reader where
  state : State := .startRecord
  fields : List String := []
  field : List Char := []

/-- `csv.field_size_limit()`. -/
def fieldLimit : Nat := 131072

/-- `parse_save_field`. -/
def Reader.saveField (r : Reader) (next : State) : Reader :=
  ⟨next, String.ofList r.field.reverse :: r.fields, []⟩

/-- `parse_add_char`: `none` is `csv.Error`. -/
def Reader.addChar (r : Reader) (c : Char) (next : State) : Option Reader :=
  if fieldLimit ≤ r.field.length then none else some { r with state := next, field := c :: r.field }

/-- `START_FIELD`, which also handles the first character of a record. -/
def Reader.startField (r : Reader) (c : Char) : Option Reader :=
  if c = '"' then some { r with state := .inQuotedField }
  else if c = ',' then some (r.saveField .startField)
  else r.addChar c .inField

/-- `parse_process_char`. -/
def Reader.char (r : Reader) (c : Char) : Option Reader :=
  match r.state with
  | .startRecord | .startField => r.startField c
  | .inField => if c = ',' then some (r.saveField .startField) else r.addChar c .inField
  | .inQuotedField =>
    if c = '"' then some { r with state := .quoteInQuotedField } else r.addChar c .inQuotedField
  | .quoteInQuotedField =>
    if c = '"' then r.addChar c .inQuotedField
    else if c = ',' then some (r.saveField .startField)
    else r.addChar c .inField

/-- `parse_process_char` at the end of a line. -/
def Reader.endLine (r : Reader) : Reader :=
  match r.state with
  | .startRecord | .inQuotedField => r
  | .startField | .inField | .quoteInQuotedField => r.saveField .startRecord

/-- The characters of one line, and its end. -/
def Reader.line (r : Reader) (cs : List Char) : Option Reader :=
  (cs.foldlM Reader.char r).map Reader.endLine

/-- All records; `none` is `csv.Error`. An open quoted field runs on into the next line, and is
closed by the end of the text. -/
def records : Reader → List (List Char) → Option (List (List String))
  | r, [] =>
    if r.field ≠ [] ∨ r.state = .inQuotedField then
      some [(r.saveField .startRecord).fields.reverse]
    else some []
  | r, l :: ls =>
    match r.line l with
    | none => none
    | some r' =>
      if r'.state = .startRecord then (records {} ls).map (r'.fields.reverse :: ·)
      else records r' ls

/-- `str.splitlines()`. -/
def splitLines : List Char → List Char → List (List Char)
  | [], [] => []
  | [], acc => [acc.reverse]
  | '\r' :: '\n' :: cs, acc => acc.reverse :: splitLines cs []
  | c :: cs, acc =>
    if c.toNat ∈ [0x0A, 0x0B, 0x0C, 0x0D, 0x1C, 0x1D, 0x1E, 0x85, 0x2028, 0x2029] then
      acc.reverse :: splitLines cs []
    else splitLines cs (c :: acc)

/-- The code points at which `splitlines` splits. -/
abbrev lineBreaks : List Nat := [0x0A, 0x0B, 0x0C, 0x0D, 0x1C, 0x1D, 0x1E, 0x85, 0x2028, 0x2029]

theorem splitLines_cons {c : Char} {cs acc : List Char} (h : c = '\r' → cs.head? ≠ some '\n') :
    splitLines (c :: cs) acc =
      if c.toNat ∈ lineBreaks then acc.reverse :: splitLines cs []
      else splitLines cs (c :: acc) := by
  rw [splitLines]
  intro cs' hc hcs
  rw [hcs] at h
  exact h hc rfl

/-- What stands behind a newline is split on its own. -/
theorem splitLines_newline (text rest acc : List Char) :
    splitLines (text ++ '\n' :: rest) acc
      = splitLines (text ++ ['\n']) acc ++ splitLines rest [] := by
  have hhead (cs rest : List Char) : (cs ++ '\n' :: rest).head? = some (cs.head?.getD '\n') := by
    cases cs <;> rfl
  induction text, acc using splitLines.induct with
  | case1 => rfl
  | case2 acc _ => rfl
  | case3 cs acc ih =>
    show acc.reverse :: splitLines (cs ++ '\n' :: rest) [] = _
    rw [ih]
    rfl
  | case4 c cs acc hcr hbreak ih =>
    by_cases hlast : c = '\r' ∧ cs = []
    · -- the newline belongs to the carriage return
      obtain ⟨rfl, rfl⟩ := hlast
      rfl
    · have hnot (rest : List Char) : c = '\r' → (cs ++ '\n' :: rest).head? ≠ some '\n' := by
        intro hc
        cases cs with
        | nil => exact absurd ⟨hc, rfl⟩ hlast
        | cons d cs => exact fun h => hcr cs hc (by rw [Option.some.inj h])
      rw [List.cons_append, splitLines_cons (hnot rest), if_pos hbreak, ih, List.cons_append,
        splitLines_cons (hnot []), if_pos hbreak, List.cons_append]
  | case5 c cs acc hcr hbreak ih =>
    have hne (rest : List Char) : c = '\r' → (cs ++ '\n' :: rest).head? ≠ some '\n' := by
      rintro rfl
      exact absurd (by decide) hbreak
    rw [List.cons_append, splitLines_cons (hne rest), if_neg hbreak, ih, List.cons_append,
      splitLines_cons (hne []), if_neg hbreak]

theorem splitLines_ne_nil {cs acc : List Char} (h : cs ≠ [] ∨ acc ≠ []) : splitLines cs acc ≠ [] := by
  induction cs, acc using splitLines.induct with
  | case1 => simp at h
  | case2 acc hacc => rw [splitLines]; exact List.cons_ne_nil _ _; exact hacc
  | case3 cs acc ih => exact List.cons_ne_nil _ _
  | case4 c cs acc hcr hbreak ih =>
    rw [splitLines, if_pos hbreak]
    · exact List.cons_ne_nil _ _
    · exact hcr
  | case5 c cs acc hcr hbreak ih =>
    rw [splitLines, if_neg hbreak]
    · exact ih (Or.inr (List.cons_ne_nil _ _))
    · exact hcr

/-- A line without line breaks. -/
theorem splitLines_line {line rest : List Char} (h : ∀ c ∈ line, c.toNat ∉ lineBreaks)
    (acc : List Char) :
    splitLines (line ++ '\n' :: rest) acc = (acc.reverse ++ line) :: splitLines rest [] := by
  induction line generalizing acc with
  | nil => rw [List.append_nil]; rfl
  | cons c line ih =>
    have hc := h c List.mem_cons_self
    have hcr : c = '\r' → (line ++ '\n' :: rest).head? ≠ some '\n' := by
      rintro rfl
      exact absurd (by decide) hc
    rw [List.cons_append, splitLines_cons hcr, if_neg hc,
      ih (fun d hd => h d (List.mem_cons_of_mem _ hd)), List.reverse_cons, List.append_assoc]
    rfl

/-- A row of `DictReader`: a value for each field name, `None` where the record is too short,
and what a too long record has left. -/
structure Row where
  fields : List (String × Option String)
  rest : List String
  deriving DecidableEq, Repr

/-- `dict(zip(fieldnames, row))`, filled up with `restval`; a repeated name keeps the last value. -/
def dictRow (names row : List String) : Row :=
  ⟨names.zip (row.map some ++ List.replicate (names.length - row.length) none),
    row.drop names.length⟩

/-- `row.get(name)`. -/
def Row.get? (r : Row) (name : String) : Option String :=
  ((r.fields.reverse.find? fun kv => kv.1 = name).map Prod.snd).join

/-- `list(csv.DictReader(lines))`: empty records are skipped, after the first. -/
def dictReader (lines : List (List Char)) : Option (List Row) :=
  (records {} lines).map fun
    | [] => []
    | names :: rows => (rows.filter (· ≠ [])).map (dictRow names)

end Csv

end Scripts
