import Mathlib.Data.List.Forall2
import Mathlib.Data.List.Sort

/-!
# Lists of representations

`List.Forall₂ R rows values`: the rows represent the values one by one, in their order. What a query
or a statement does to the rows it does to the values, if the conditions and the orders agree on the
representation.

Results:
1. `find?`, `filter`, `countP`, `any`, `insertionSort`, `getElem?`: queries.
2. `rewrite`, `concat`: statements.
3. `mapM`: reading the rows.
-/

namespace Related

open List

variable {ρ α β ε : Type*} {R : ρ → α → Prop} {rows : List ρ} {values : List α}

section Conditions

variable {p : ρ → Bool} {q : α → Bool} (hpq : ∀ r a, R r a → p r = q a)
include hpq

theorem filter (h : Forall₂ R rows values) : Forall₂ R (rows.filter p) (values.filter q) :=
  rel_filter (fun r a hr => iff_of_eq (congrArg (· = true) (hpq r a hr))) h

theorem find? (h : Forall₂ R rows values) :
    (rows.find? p = none ∧ values.find? q = none) ∨
      ∃ r a, rows.find? p = some r ∧ values.find? q = some a ∧ R r a := by
  induction h with
  | nil => exact Or.inl ⟨rfl, rfl⟩
  | @cons r a rows values hr _ ih =>
    rw [List.find?_cons, List.find?_cons, hpq r a hr]
    cases q a with
    | true => exact Or.inr ⟨r, a, rfl, rfl, hr⟩
    | false => exact ih

theorem countP (h : Forall₂ R rows values) : rows.countP p = values.countP q := by
  rw [countP_eq_length_filter, countP_eq_length_filter, (filter hpq h).length_eq]

theorem any (h : Forall₂ R rows values) : rows.any p = values.any q := by
  induction h with
  | nil => rfl
  | @cons r a rows values hr _ ih => rw [any_cons, any_cons, hpq r a hr, ih]

/-- An update of the rows that meet a condition. -/
theorem rewrite {f : ρ → ρ} {g : α → α} (hfg : ∀ r a, R r a → q a = true → R (f r) (g a))
    (h : Forall₂ R rows values) :
    Forall₂ R (rows.map fun r => if p r then f r else r)
      (values.map fun a => if q a then g a else a) := by
  refine rel_map (fun r a hr => ?_) h
  rw [hpq r a hr]
  split
  · exact hfg r a hr ‹_›
  · exact hr

end Conditions

theorem concat {r : ρ} {a : α} (h : Forall₂ R rows values) (hr : R r a) :
    Forall₂ R (rows ++ [r]) (values ++ [a]) :=
  rel_append h (.cons hr .nil)

theorem getElem? (h : Forall₂ R rows values) (n : Nat) :
    (rows[n]? = none ∧ values[n]? = none) ∨
      ∃ r a, rows[n]? = some r ∧ values[n]? = some a ∧ R r a := by
  induction h generalizing n with
  | nil => exact Or.inl ⟨rfl, rfl⟩
  | @cons r a rows values hr _ ih =>
    cases n with
    | zero => exact Or.inr ⟨r, a, rfl, rfl, hr⟩
    | succ n => exact ih n

section Orders

variable {le : ρ → ρ → Prop} {le' : α → α → Prop} [DecidableRel le] [DecidableRel le']
  (hle : ∀ r a r' a', R r a → R r' a' → (le r r' ↔ le' a a'))
include hle

theorem orderedInsert {r : ρ} {a : α} (hr : R r a) (h : Forall₂ R rows values) :
    Forall₂ R (rows.orderedInsert le r) (values.orderedInsert le' a) := by
  induction h with
  | nil => exact .cons hr .nil
  | @cons r' a' rows values hr' hrest ih =>
    by_cases hlt : le' a a'
    · rw [orderedInsert_cons_of_le le _ ((hle r a r' a' hr hr').mpr hlt),
        orderedInsert_cons_of_le le' _ hlt]
      exact .cons hr (.cons hr' hrest)
    · rw [orderedInsert_of_not_le le _ ((hle r a r' a' hr hr').not.mpr hlt),
        orderedInsert_of_not_le le' _ hlt]
      exact .cons hr' ih

/-- The sort is stable, so the orders decide the outcome. -/
theorem insertionSort (h : Forall₂ R rows values) :
    Forall₂ R (rows.insertionSort le) (values.insertionSort le') := by
  induction h with
  | nil => exact .nil
  | cons hr _ ih => exact orderedInsert hle hr ih

end Orders

/-- What is read from the rows. -/
theorem mapM {f : ρ → Except ε β} {g : α → β} (hfg : ∀ r a, R r a → f r = .ok (g a))
    (h : Forall₂ R rows values) : rows.mapM f = .ok (values.map g) := by
  induction h with
  | nil => rfl
  | @cons r a rows values hr _ ih =>
    rw [mapM_cons, hfg r a hr, ih]
    rfl

/-- The same, of a part of each row. -/
theorem map {f : ρ → β} {g : α → β} (hfg : ∀ r a, R r a → f r = g a) (h : Forall₂ R rows values) :
    rows.map f = values.map g := by
  induction h with
  | nil => rfl
  | @cons r a rows values hr _ ih => rw [map_cons, map_cons, hfg r a hr, ih]

end Related
