/-!
# Values and rows of SQLite

What a condition, an order, an insert and an update make of the values in columns. The columns of a
table are a type, so a row has a value in each of them.
-/

namespace Sql

inductive Value
  | null
  | integer (n : Int)
  | text (s : String)
  deriving DecidableEq, Repr

namespace Value

/-- `a = b` in a condition; it is not true of NULL. -/
def eq (a b : Value) : Bool := a ≠ null && a = b

/-- `a < b` in a condition; it is not true of NULL. -/
def lt : Value → Value → Bool
  | integer m, integer n => m < n
  | integer _, text _ => true
  | text s, text t => s < t
  | _, _ => false

/-- `a` comes no later than `b` in `ORDER BY`, where NULL comes first. -/
def le : Value → Value → Bool
  | null, _ => true
  | integer m, integer n => m ≤ n
  | integer _, text _ => true
  | text s, text t => s ≤ t
  | _, _ => false

/-- `IS NULL`. -/
def isNull (a : Value) : Bool := a = null

/-- `None` is stored as NULL. -/
def ofText : Option String → Value
  | none => null
  | some s => text s

def ofInt : Option Int → Value
  | none => null
  | some n => integer n

@[simp] theorem text_eq (s t : String) : (text s).eq (text t) = decide (s = t) := by
  simp [eq]

@[simp] theorem integer_le (m n : Int) : (integer m).le (integer n) = decide (m ≤ n) := rfl

@[simp] theorem text_le (s t : String) : (text s).le (text t) = decide (s ≤ t) := rfl

@[simp] theorem text_lt (s t : String) : (text s).lt (text t) = decide (s < t) := rfl

theorem le_refl (a : Value) : a.le a = true := by
  cases a with
  | null => rfl
  | integer n => exact decide_eq_true (Int.le_refl n)
  | text s => exact decide_eq_true (String.le_refl s)

@[simp] theorem isNull_ofText (s : Option String) : (ofText s).isNull = s.isNone := by
  cases s <;> rfl

end Value

/-- A row of a table with the columns `C`. -/
abbrev Row (C : Type) := C → Value

variable {C : Type} [DecidableEq C]

/-- `INSERT INTO ...(columns) VALUES(values)`: the other columns are NULL. -/
def insert (columns : List C) (values : List Value) : Row C :=
  fun c => ((columns.zip values).lookup c).getD .null

/-- `UPDATE ... SET column=value, ...`. -/
def update (assignments : List (C × Value)) (r : Row C) : Row C :=
  fun c => (assignments.lookup c).getD (r c)

/-- An update of the rows that meet a condition: `rowcount`, and the rows after it. -/
def updateWhere (rows : List (Row C)) (p : Row C → Bool) (assignments : List (C × Value)) :
    Nat × List (Row C) :=
  (rows.countP p, rows.map fun r => if p r then update assignments r else r)

/-- `ORDER BY` these columns: `r` comes no later than `r'`. -/
def orderBy : List C → Row C → Row C → Bool
  | [], _, _ => true
  | c :: cs, r, r' => if r c = r' c then orderBy cs r r' else (r c).le (r' c)

/-- `ORDER BY` a column `DESC`. -/
def orderByDesc (c : C) (r r' : Row C) : Bool := (r' c).le (r c)

theorem orderBy_singleton (c : C) (r r' : Row C) : orderBy [c] r r' = (r c).le (r' c) := by
  unfold orderBy
  split
  · next heq => rw [heq, Value.le_refl, orderBy]
  · rfl

end Sql
