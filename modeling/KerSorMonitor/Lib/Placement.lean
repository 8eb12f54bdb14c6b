import Mathlib.Data.List.Nodup
import Mathlib.Data.List.Perm.Subperm
import Mathlib.Order.Lattice

/-!
# Placing on the least loaded bin

Bins have a load and numbered places. An item goes to the bin with the least load, and among those to
the one with the least key, at the first place in it that is not taken. A bin is full when its load
has reached the number of places, however many of them are taken.

Results:
1. `exists_free`: a bin that has fewer items than places has a free place.
2. `place_eq_none_iff`, `place_spec`: which bin and place are chosen, if any.
-/

namespace Placement

variable {β κ : Type}

/-- The first free place of a bin that is not full. -/
def firstFree (key : β → κ) (load : κ → Nat) (taken : κ → Nat → Bool) (n : Nat) (b : β) :
    Option (β × Nat) :=
  if n ≤ load (key b) then none
  else ((List.range n).find? fun s => !taken (key b) s).map fun s => (b, s)

section Order

variable [LinearOrder κ]

/-- The order in which bins are tried. -/
def before (key : β → κ) (load : κ → Nat) (a b : β) : Bool :=
  load (key a) < load (key b) || (load (key a) = load (key b) && decide (key a ≤ key b))

def place (key : β → κ) (load : κ → Nat) (taken : κ → Nat → Bool) (n : Nat) (bins : List β) :
    Option (β × Nat) :=
  (bins.mergeSort (before key load)).findSome? (firstFree key load taken n)

variable {key : β → κ} {load : κ → Nat}

theorem before_iff {a b : β} : before key load a b = true ↔
    load (key a) < load (key b) ∨ (load (key a) = load (key b) ∧ key a ≤ key b) := by
  simp [before]

theorem before_trans (a b c : β) (hab : before key load a b = true)
    (hbc : before key load b c = true) : before key load a c = true := by
  rw [before_iff] at *
  rcases hab with hab | ⟨hab, hab'⟩ <;> rcases hbc with hbc | ⟨hbc, hbc'⟩
  · exact .inl (Nat.lt_trans hab hbc)
  · exact .inl (hbc ▸ hab)
  · exact .inl (hab ▸ hbc)
  · exact .inr ⟨hab.trans hbc, le_trans hab' hbc'⟩

theorem before_total (a b : β) : (before key load a b || before key load b a) = true := by
  rw [Bool.or_eq_true, before_iff, before_iff]
  rcases Nat.lt_trichotomy (load (key a)) (load (key b)) with h | h | h
  · exact .inl (.inl h)
  · rcases le_total (key a) (key b) with hle | hle
    · exact .inl (.inr ⟨h, hle⟩)
    · exact .inr (.inr ⟨h.symm, hle⟩)
  · exact .inr (.inl h)

theorem load_le_of_before {a b : β} (h : before key load a b = true) :
    load (key a) ≤ load (key b) := by
  rcases before_iff.mp h with h | ⟨h, -⟩
  · exact Nat.le_of_lt h
  · exact Nat.le_of_eq h

theorem pairwise_before (bins : List β) :
    (bins.mergeSort (before key load)).Pairwise fun a b => before key load a b = true :=
  List.pairwise_mergeSort before_trans before_total bins

end Order

/-! ## Free places -/

/-- A bin with fewer items than places has a free one: an item takes a place of its own bin only. -/
theorem exists_free {α : Type} [DecidableEq κ] {items : List α} {bin? : α → Option κ}
    {place? : α → Option (κ × Int)} (hplace : ∀ a p, place? a = some p → bin? a = some p.1)
    {k : κ} {n : Nat} (h : items.countP (fun a => bin? a = some k) < n) :
    ∃ s < n, (k, (s : Int)) ∉ items.filterMap place? := by
  by_contra hall
  have hsub : (List.range n).map (fun s : Nat => some (k, (s : Int))) ⊆
      (items.filter fun a => bin? a = some k).map place? := by
    intro e he
    obtain ⟨s, hs, rfl⟩ := List.mem_map.mp he
    by_contra hfree
    refine hall ⟨s, List.mem_range.mp hs, fun htaken => hfree ?_⟩
    obtain ⟨a, ha, hat⟩ := List.mem_filterMap.mp htaken
    exact List.mem_map.mpr ⟨a, List.mem_filter.mpr ⟨ha, decide_eq_true (hplace a _ hat)⟩, hat⟩
  have hnodup : ((List.range n).map fun s : Nat => some (k, (s : Int))).Nodup :=
    List.Nodup.map (fun a b hab => Int.ofNat_inj.mp (Prod.mk.inj (Option.some.inj hab)).2)
      List.nodup_range
  have hle := (hnodup.subperm hsub).length_le
  rw [List.length_map, List.length_range, List.length_map, ← List.countP_eq_length_filter] at hle
  omega

section Choice

variable {key : β → κ} {load : κ → Nat} {taken : κ → Nat → Bool} {n : Nat}

theorem firstFree_eq_none_iff (hroom : ∀ k, load k < n → ∃ s < n, taken k s = false) {b : β} :
    firstFree key load taken n b = none ↔ n ≤ load (key b) := by
  unfold firstFree
  constructor
  · intro h
    by_contra hlt
    rw [if_neg hlt, Option.map_eq_none_iff, List.find?_eq_none] at h
    obtain ⟨s, hs, hfree⟩ := hroom (key b) (Nat.lt_of_not_le hlt)
    exact h s (List.mem_range.mpr hs) (by rw [hfree]; rfl)
  · exact fun h => if_pos h

theorem firstFree_eq_some {b b' : β} {s : Nat} (h : firstFree key load taken n b = some (b', s)) :
    b' = b ∧ load (key b) < n ∧ s < n ∧ taken (key b) s = false ∧
      ∀ s' < s, taken (key b) s' = true := by
  unfold firstFree at h
  split at h
  · cases h
  · next hroom =>
    obtain ⟨s', hfind, heq⟩ := Option.map_eq_some_iff.mp h
    cases heq
    obtain ⟨hfree, hlt, hbefore⟩ := List.find?_range_eq_some.mp hfind
    refine ⟨rfl, Nat.lt_of_not_le hroom, List.mem_range.mp hlt, by simpa using hfree, ?_⟩
    intro s' hs'
    simpa using hbefore s' hs'

/-! ## The chosen place -/

variable [LinearOrder κ] {bins : List β} (hroom : ∀ k, load k < n → ∃ s < n, taken k s = false)
include hroom

/-- All depends on the bin that is tried first: when it is full, the others are too. -/
theorem place_eq_head : place key load taken n bins =
    (bins.mergeSort (before key load)).head?.bind (firstFree key load taken n) := by
  unfold place
  have hsorted := @pairwise_before _ _ _ key load bins
  cases hbins : bins.mergeSort (before key load) with
  | nil => rfl
  | cons b rest =>
    rw [hbins] at hsorted
    rw [List.findSome?_cons, List.head?_cons, Option.bind_some]
    cases hfirst : firstFree key load taken n b with
    | some r => rfl
    | none =>
      have hfull : n ≤ load (key b) := (firstFree_eq_none_iff hroom).mp hfirst
      refine List.findSome?_eq_none_iff.mpr fun b' hb' => (firstFree_eq_none_iff hroom).mpr ?_
      exact Nat.le_trans hfull (load_le_of_before (List.rel_of_pairwise_cons hsorted hb'))

theorem place_spec {b : β} {s : Nat} (h : place key load taken n bins = some (b, s)) :
    b ∈ bins ∧ (∀ b' ∈ bins, before key load b b' = true) ∧ load (key b) < n ∧ s < n ∧
      taken (key b) s = false ∧ ∀ s' < s, taken (key b) s' = true := by
  rw [place_eq_head hroom] at h
  have hsorted := @pairwise_before _ _ _ key load bins
  cases hbins : bins.mergeSort (before key load) with
  | nil =>
    rw [hbins] at h
    cases h
  | cons first rest =>
    rw [hbins] at h hsorted
    obtain ⟨rfl, hrest⟩ := firstFree_eq_some h
    have hmem : ∀ {b'}, b' ∈ b :: rest ↔ b' ∈ bins := by
      intro b'
      rw [← hbins, List.mem_mergeSort]
    refine ⟨hmem.mp List.mem_cons_self, fun b' hb' => ?_, hrest⟩
    rcases List.mem_cons.mp (hmem.mpr hb') with rfl | hb'
    · simpa using before_total b' b'
    · exact List.rel_of_pairwise_cons hsorted hb'

theorem place_eq_none_iff :
    place key load taken n bins = none ↔ ∀ b ∈ bins, n ≤ load (key b) := by
  unfold place
  simp only [List.findSome?_eq_none_iff, List.mem_mergeSort, firstFree_eq_none_iff hroom]

end Choice

end Placement
