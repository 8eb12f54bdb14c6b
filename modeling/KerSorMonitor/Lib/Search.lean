import Mathlib.Data.List.Forall2

/-!
# Searches that can raise

`findSomeM?` over a list where each step can raise: what it raises after its result is never
seen, so a search ends well exactly if nothing raises before something is found.

Results:
1. `findSomeM?_isOk_iff`: when a search ends well.
2. `findSomeM?_append`, `findSomeM?_flatMap`: a search in parts is one search.
3. `bind_isOk_iff`, `mapM_eq_ok_iff`: when a sequence ends well, and a map, item by item.
-/

namespace Search

variable {α γ β ε : Type} {f : α → Except ε (Option β)}

/-- The computation raises. -/
def Raises {β : Type} (x : Except ε β) : Prop := ∃ e, x = .error e

/-- Before everything at which `f` raises there is something that it finds. -/
def Settles (f : α → Except ε (Option β)) (l : List α) : Prop :=
  ∀ pre a post, l = pre ++ a :: post → Raises (f a) → ∃ b ∈ pre, ∃ r, f b = .ok (some r)

theorem settles_nil : Settles f [] := by
  intro pre a post h
  cases pre <;> cases h

theorem settles_cons {a : α} {l : List α} :
    Settles f (a :: l) ↔ ¬ Raises (f a) ∧ ((∃ r, f a = .ok (some r)) ∨ Settles f l) := by
  constructor
  · intro h
    have hfirst : ¬ Raises (f a) := by
      intro hraise
      obtain ⟨b, hb, -⟩ := h [] a l rfl hraise
      cases hb
    refine ⟨hfirst, or_iff_not_imp_left.mpr fun hnone pre b post hl hraise => ?_⟩
    obtain ⟨c, hc, hfound⟩ := h (a :: pre) b post (by rw [hl]; rfl) hraise
    rcases List.mem_cons.mp hc with rfl | hc
    · exact absurd hfound hnone
    · exact ⟨c, hc, hfound⟩
  · rintro ⟨hfirst, h⟩ pre b post hl hraise
    cases pre with
    | nil =>
      obtain ⟨rfl, -⟩ := List.cons.inj hl
      exact absurd hraise hfirst
    | cons c pre =>
      obtain ⟨rfl, htail⟩ := List.cons.inj hl
      rcases h with hfound | h
      · exact ⟨a, List.mem_cons_self, hfound⟩
      · obtain ⟨d, hd, hfound⟩ := h pre b post htail hraise
        exact ⟨d, List.mem_cons_of_mem _ hd, hfound⟩

/-- A search ends well exactly if nothing raises before something is found. -/
theorem findSomeM?_isOk_iff {l : List α} : (∃ r, l.findSomeM? f = .ok r) ↔ Settles f l := by
  induction l with
  | nil => exact iff_of_true ⟨none, rfl⟩ settles_nil
  | cons a l ih =>
    rw [settles_cons, List.findSomeM?_cons]
    cases hfa : f a with
    | error e =>
      refine iff_of_false ?_ fun h => h.1 ⟨e, rfl⟩
      rintro ⟨r, hr⟩
      cases hr
    | ok found =>
      have hok : ¬ Raises (Except.ok found : Except ε (Option β)) := by
        rintro ⟨e, he⟩
        cases he
      cases found with
      | some r => exact iff_of_true ⟨some r, rfl⟩ ⟨hok, .inl ⟨r, rfl⟩⟩
      | none =>
        refine ih.trans ⟨fun h => ⟨hok, .inr h⟩, ?_⟩
        rintro ⟨-, ⟨r, hr⟩ | h⟩
        · cases hr
        · exact h

theorem findSomeM?_append {l₁ l₂ : List α} :
    (l₁ ++ l₂).findSomeM? f = (do
      match ← l₁.findSomeM? f with
      | some r => pure (some r)
      | none => l₂.findSomeM? f) := by
  induction l₁ with
  | nil => rfl
  | cons a l₁ ih =>
    rw [List.cons_append, List.findSomeM?_cons, List.findSomeM?_cons]
    cases f a with
    | error e => rfl
    | ok found =>
      cases found with
      | some r => rfl
      | none => exact ih

theorem findSomeM?_flatMap {l : List γ} {g : γ → List α} :
    (l.flatMap g).findSomeM? f = l.findSomeM? fun c => (g c).findSomeM? f := by
  induction l with
  | nil => rfl
  | cons c l ih =>
    rw [List.flatMap_cons, findSomeM?_append, List.findSomeM?_cons, ih]
    rfl

theorem findSomeM?_map {l : List γ} {g : γ → α} :
    (l.map g).findSomeM? f = l.findSomeM? fun c => f (g c) := by
  induction l with
  | nil => rfl
  | cons c l ih => rw [List.map_cons, List.findSomeM?_cons, List.findSomeM?_cons, ih]

theorem bind_eq_ok_iff {x : Except ε α} {g : α → Except ε β} {r : β} :
    (x >>= g) = .ok r ↔ ∃ a, x = .ok a ∧ g a = .ok r := by
  cases x with
  | error e =>
    constructor
    · intro h
      cases h
    · rintro ⟨a, ha, -⟩
      cases ha
  | ok a =>
    constructor
    · intro h
      exact ⟨a, rfl, h⟩
    · rintro ⟨a', ha, h⟩
      cases ha
      exact h

theorem bind_isOk_iff {x : Except ε α} {g : α → Except ε β} :
    (∃ r, (x >>= g) = .ok r) ↔ ∃ a, x = .ok a ∧ ∃ r, g a = .ok r := by
  simp only [bind_eq_ok_iff]
  constructor
  · rintro ⟨r, a, ha, hr⟩
    exact ⟨a, ha, r, hr⟩
  · rintro ⟨a, ha, r, hr⟩
    exact ⟨r, a, ha, hr⟩

/-- A map that can raise gives one result for each item, or raises at one. -/
theorem mapM_eq_ok_iff {g : γ → Except ε α} {l : List γ} {r : List α} :
    l.mapM g = .ok r ↔ List.Forall₂ (fun c a => g c = .ok a) l r := by
  induction l generalizing r with
  | nil =>
    rw [List.mapM_nil, List.forall₂_nil_left_iff]
    exact ⟨fun h => (Except.ok.inj h).symm, fun h => h ▸ rfl⟩
  | cons c l ih =>
    rw [List.mapM_cons, List.forall₂_cons_left_iff]
    cases hc : g c with
    | error e =>
      refine iff_of_false (fun h => by cases h) ?_
      rintro ⟨a, r', ha, -, -⟩
      cases ha
    | ok a =>
      cases hl : l.mapM g with
      | error e =>
        refine iff_of_false (fun h => by cases h) ?_
        rintro ⟨a', r', -, hr', -⟩
        cases hl.symm.trans (ih.mpr hr')
      | ok r' =>
        have hrest : List.Forall₂ (fun c a => g c = .ok a) l r' := ih.mp hl
        constructor
        · intro h
          cases h
          exact ⟨a, r', rfl, hrest, rfl⟩
        · rintro ⟨a', r'', ha, hr'', rfl⟩
          cases ha
          cases hl.symm.trans (ih.mpr hr'')
          rfl

/-- The results of a map that did not raise are those of its items. -/
theorem mapM_eq_map {g : γ → Except ε (Option α)} {l : List γ} {r : List (Option α)}
    (h : l.mapM g = .ok r) : r = l.map fun c => (g c).toOption.join := by
  induction mapM_eq_ok_iff.mp h with
  | nil => rfl
  | cons hc _ ih =>
    rw [List.map_cons, hc, ← ih (mapM_eq_ok_iff.mpr ‹_›)]
    rfl

theorem mapM_isOk_iff {g : γ → Except ε α} {l : List γ} :
    (∃ r, l.mapM g = .ok r) ↔ ∀ c ∈ l, ∃ a, g c = .ok a := by
  induction l with
  | nil => exact iff_of_true ⟨[], rfl⟩ fun c hc => by cases hc
  | cons c l ih =>
    simp only [List.mapM_cons, bind_isOk_iff, List.forall_mem_cons]
    constructor
    · rintro ⟨a, ha, r, hr, -⟩
      exact ⟨⟨a, ha⟩, ih.mp ⟨r, hr⟩⟩
    · rintro ⟨⟨a, ha⟩, hl⟩
      obtain ⟨r, hr⟩ := ih.mpr hl
      exact ⟨a, ha, r, hr, _, rfl⟩

end Search
