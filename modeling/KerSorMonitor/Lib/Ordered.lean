import KerSorMonitor.Lib.Keyed
import Mathlib.Data.List.Sort

/-!
# Searching lists in order

Results:
1. `find?_eq_some_iff_first`: the first match in an ordered list is the least match.
2. `Keyed.Dict.get?_foldl_set`: a dictionary filled from a list holds the last match of a key.
-/

namespace Ordered

variable {α : Type*} {r : α → α → Prop} {l : List α}

/-- In an ordered list the first element that satisfies `p` is the least one. -/
theorem find?_eq_some_iff_first {p : α → Bool} {x : α} (hord : l.Pairwise r)
    (hrefl : ∀ a, r a a) (hanti : ∀ a ∈ l, ∀ b ∈ l, r a b → r b a → a = b) :
    l.find? p = some x ↔ x ∈ l ∧ p x = true ∧ ∀ y ∈ l, p y = true → r x y := by
  have hfirst : ∀ {z : α}, l.find? p = some z → ∀ y ∈ l, p y = true → r z y := by
    intro z hz y hy hp
    obtain ⟨-, as, bs, rfl, has⟩ := List.find?_eq_some_iff_append.mp hz
    rcases List.mem_append.mp hy with hy | hy
    · exact absurd hp (by simpa using has y hy)
    · rcases List.mem_cons.mp hy with rfl | hy
      · exact hrefl y
      · exact List.rel_of_pairwise_cons (List.pairwise_append.mp hord).2.1 hy
  constructor
  · intro h
    exact ⟨List.mem_of_find?_eq_some h, List.find?_some h, hfirst h⟩
  · rintro ⟨hx, hp, hleast⟩
    cases hf : l.find? p with
    | none => exact absurd hp (List.find?_eq_none.mp hf x hx)
    | some z =>
      have hz := List.mem_of_find?_eq_some hf
      have hzx := hfirst hf x hx hp
      rw [hanti x hx z hz (hleast z hz (List.find?_some hf)) hzx]

end Ordered

namespace Keyed.Dict

variable {α : Type*} {κ : Type*} {ν : Type*} [DecidableEq κ]

/-- Later items replace earlier ones of the same key. -/
theorem get?_foldl_set (key : α → κ) (value : α → ν) (l : List α) (d : Dict κ ν) (k : κ) :
    get? (l.foldl (fun d x => set d (key x) (value x)) d) k =
      ((l.reverse.find? fun x => key x = k).map value).or (get? d k) := by
  induction l generalizing d with
  | nil => rfl
  | cons x l ih =>
    rw [List.foldl_cons, ih, get?_set, List.reverse_cons, List.find?_append]
    cases l.reverse.find? fun y => key y = k with
    | some y => rfl
    | none =>
      by_cases hk : key x = k
      · simp [hk]
      · simp [hk, Ne.symm hk]

end Keyed.Dict
