import Mathlib.Data.List.Nodup
import Mathlib.Logic.Function.Basic

/-!
# Tables that are filled by upserts

A table with the order in which its keys came first. An upsert of a key makes a new row from the
row that is there, if there is one; it does not move the key.

Results:
1. `row_foldl`: the row of a key after a run is that of the upserts of this key alone.
2. `order_foldl`: the keys after a run, in the order in which they came first.
-/

namespace Upserts

variable {κ : Type*} {ρ : Type*}

/-- Rows by key, and the keys in their order. -/
structure Table (κ ρ : Type*) where
  order : List κ
  row : κ → Option ρ

/-- A key, and what becomes of its row. -/
abbrev Upsert (κ ρ : Type*) := κ × (Option ρ → ρ)

namespace Table

def empty : Table κ ρ := ⟨[], fun _ => none⟩

variable [DecidableEq κ]

/-- The table after an upsert. -/
def put (t : Table κ ρ) (u : Upsert κ ρ) : Table κ ρ where
  order := if (t.row u.1).isSome then t.order else t.order ++ [u.1]
  row := Function.update t.row u.1 (some (u.2 (t.row u.1)))

/-- The order has every key that has a row, once. -/
structure Ordered (t : Table κ ρ) : Prop where
  nodup : t.order.Nodup
  mem_iff : ∀ k, k ∈ t.order ↔ (t.row k).isSome

omit [DecidableEq κ] in
theorem ordered_empty : (empty : Table κ ρ).Ordered where
  nodup := List.nodup_nil
  mem_iff k := by simp [empty]

theorem row_put_self (t : Table κ ρ) (u : Upsert κ ρ) :
    (t.put u).row u.1 = some (u.2 (t.row u.1)) := Function.update_self _ _ _

theorem row_put_of_ne (t : Table κ ρ) {u : Upsert κ ρ} {k : κ} (h : k ≠ u.1) :
    (t.put u).row k = t.row k := Function.update_of_ne h _ _

theorem Ordered.put {t : Table κ ρ} (h : t.Ordered) (u : Upsert κ ρ) : (t.put u).Ordered := by
  by_cases hsome : (t.row u.1).isSome = true
  · have horder : (t.put u).order = t.order := if_pos hsome
    refine ⟨horder ▸ h.nodup, fun k => ?_⟩
    rw [horder, h.mem_iff]
    by_cases hk : k = u.1
    · rw [hk, row_put_self]
      exact iff_of_true hsome rfl
    · rw [row_put_of_ne t hk]
  · have horder : (t.put u).order = t.order ++ [u.1] := if_neg hsome
    have hfresh : u.1 ∉ t.order := fun hmem => hsome ((h.mem_iff _).mp hmem)
    refine ⟨?_, fun k => ?_⟩
    · rw [horder, ← List.concat_eq_append]
      exact h.nodup.concat hfresh
    · rw [horder, List.mem_append, List.mem_singleton, h.mem_iff]
      by_cases hk : k = u.1
      · rw [hk, row_put_self]
        exact iff_of_true (.inr rfl) rfl
      · rw [row_put_of_ne t hk]
        exact or_iff_left hk

theorem Ordered.foldl {t : Table κ ρ} (h : t.Ordered) (us : List (Upsert κ ρ)) :
    (us.foldl Table.put t).Ordered := by
  induction us generalizing t with
  | nil => exact h
  | cons u us ih => exact ih (h.put u)

/-- The row of a key after a run is made by the upserts of this key, in their order. -/
theorem row_foldl (t : Table κ ρ) (us : List (Upsert κ ρ)) (k : κ) :
    (us.foldl Table.put t).row k
      = (us.filter fun u => u.1 = k).foldl (fun o u => some (u.2 o)) (t.row k) := by
  induction us generalizing t with
  | nil => rfl
  | cons u us ih =>
    rw [List.foldl_cons, ih]
    by_cases hk : u.1 = k
    · subst hk
      rw [List.filter_cons_of_pos (by simp), List.foldl_cons, row_put_self]
    · rw [List.filter_cons_of_neg (by simpa using hk), row_put_of_ne t (Ne.symm hk)]

theorem eraseDups_of_nodup {l : List κ} (h : l.Nodup) : l.eraseDups = l := by
  induction l with
  | nil => rfl
  | cons a l ih =>
    obtain ⟨ha, hl⟩ := List.nodup_cons.mp h
    have hfilter : (l.filter fun b => !b == a) = l :=
      List.filter_eq_self.mpr fun b hb => by simpa using ne_of_mem_of_not_mem hb ha
    rw [List.eraseDups_cons, hfilter, ih hl]

/-- A key that is there already is not appended again. -/
theorem eraseDups_append_cons_of_mem {l : List κ} {k : κ} (h : k ∈ l) (ks : List κ) :
    (l ++ k :: ks).eraseDups = (l ++ ks).eraseDups := by
  have hremove : (k :: ks).removeAll l = ks.removeAll l := by
    rw [List.removeAll, List.removeAll, List.filter_cons_of_neg (by simpa using h)]
  rw [List.eraseDups_append, List.eraseDups_append, hremove]

/-- Keys that are all there are not appended. -/
theorem eraseDups_append_of_subset {l : List κ} (hl : l.Nodup) {ks : List κ}
    (h : ∀ k ∈ ks, k ∈ l) : (l ++ ks).eraseDups = l := by
  induction ks with
  | nil => rw [List.append_nil, eraseDups_of_nodup hl]
  | cons k ks ih =>
    obtain ⟨hk, hrest⟩ := List.forall_mem_cons.mp h
    rw [eraseDups_append_cons_of_mem hk, ih hrest]

/-- The keys after a run: those that were there, then the new ones as they came first. -/
theorem order_foldl {t : Table κ ρ} (h : t.Ordered) (us : List (Upsert κ ρ)) :
    (us.foldl Table.put t).order = (t.order ++ us.map Prod.fst).eraseDups := by
  induction us generalizing t with
  | nil =>
    rw [List.map_nil, List.append_nil, eraseDups_of_nodup h.nodup]
    rfl
  | cons u us ih =>
    rw [List.foldl_cons, ih (h.put u), List.map_cons]
    by_cases hsome : (t.row u.1).isSome = true
    · rw [show (t.put u).order = t.order from if_pos hsome,
        eraseDups_append_cons_of_mem ((h.mem_iff _).mpr hsome)]
    · rw [show (t.put u).order = t.order ++ [u.1] from if_neg hsome, List.append_assoc,
        List.singleton_append]

end Table

end Upserts
