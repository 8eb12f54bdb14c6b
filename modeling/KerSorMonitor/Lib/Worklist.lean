import KerSorMonitor.Lib.Loops
import Mathlib.Data.Finset.Basic
import Mathlib.Logic.Relation

/-!
# Worklists

A search of a graph from a node. The nodes that are still to be visited are on a stack, on which a
node can stand more than once; a node that has been visited is passed over.

Results: `inv_visit`, what a visit keeps; `search_iff`: the search of a finite graph ends with the
nodes that can be reached.
-/

namespace Worklist

open Loops Relation

variable {α : Type}

/-- The nodes that have been visited, and the stack, its top first. -/
structure Search (α : Type) where
  seen : Finset α
  stack : List α

variable {succ : α → List α} {root : α} {s s' : Search α}

/-- What a search keeps. -/
structure Inv (succ : α → List α) (root : α) (s : Search α) : Prop where
  start : root ∈ s.seen ∨ root ∈ s.stack
  reached : ∀ node, node ∈ s.seen ∨ node ∈ s.stack → ReflTransGen (fun a b => b ∈ succ a) root node
  closed : ∀ node ∈ s.seen, ∀ b ∈ succ node, b ∈ s.seen ∨ b ∈ s.stack

theorem inv_start : Inv succ root ⟨∅, [root]⟩ where
  start := Or.inr (List.mem_singleton_self root)
  reached node h := by
    rcases h with h | h
    · exact absurd h (Finset.notMem_empty node)
    · rw [List.mem_singleton.mp h]
  closed node h := absurd h (Finset.notMem_empty node)

/-- At the end the nodes that have been visited are those that can be reached. -/
theorem seen_of_inv (h : Inv succ root s) (hstack : s.stack = []) {node : α} :
    node ∈ s.seen ↔ ReflTransGen (fun a b => b ∈ succ a) root node := by
  have hnone : ∀ {b}, b ∈ s.seen ∨ b ∈ s.stack → b ∈ s.seen := fun hb => by
    rw [hstack] at hb
    exact hb.resolve_right List.not_mem_nil
  refine ⟨fun hnode => h.reached node (Or.inl hnode), fun hreach => ?_⟩
  induction hreach with
  | refl => exact hnone h.start
  | tail _ hedge ih => exact hnone (h.closed _ ih _ hedge)

variable [DecidableEq α]

/-- An iteration visits the top of the stack. -/
def visit (succ : α → List α) (_ : Nat) (s : Search α) : Step (Search α) (Finset α) :=
  match s.stack with
  | [] => .done s.seen
  | node :: stack =>
    if node ∈ s.seen then .next ⟨s.seen, stack⟩
    else .next ⟨insert node s.seen, (succ node).reverse ++ stack⟩

/-- The nodes that a search from `root` has visited, if `fuel` iterations are enough. -/
def search (succ : α → List α) (root : α) (fuel : Nat) : Option (Finset α) :=
  loop (visit succ) fuel 0 ⟨∅, [root]⟩

/-- The successors in a list of edges. -/
def successors (edges : List (α × α)) (node : α) : List α :=
  (edges.filter fun e => e.1 = node).map Prod.snd

theorem mem_successors {edges : List (α × α)} {a b : α} : b ∈ successors edges a ↔ (a, b) ∈ edges := by
  unfold successors
  constructor
  · intro h
    obtain ⟨⟨x, y⟩, hmem, rfl⟩ := List.mem_map.mp h
    obtain ⟨hmem, heq⟩ := List.mem_filter.mp hmem
    rw [← of_decide_eq_true heq]
    exact hmem
  · exact fun h => List.mem_map.mpr ⟨(a, b), List.mem_filter.mpr ⟨h, decide_eq_true rfl⟩, rfl⟩

theorem inv_visit {i : Nat} (h : Inv succ root s) (hstep : visit succ i s = .next s') :
    Inv succ root s' := by
  obtain ⟨seen, stack⟩ := s
  cases stack with
  | nil => cases hstep
  | cons top stack =>
    simp only [visit] at hstep
    split at hstep
    case isTrue hseen =>
      cases hstep
      -- what is passed over has been visited
      have hpop : ∀ node, node ∈ seen ∨ node ∈ top :: stack → node ∈ seen ∨ node ∈ stack := by
        rintro node (hnode | hnode)
        · exact Or.inl hnode
        · rcases List.mem_cons.mp hnode with rfl | hnode
          · exact Or.inl hseen
          · exact Or.inr hnode
      refine ⟨hpop _ h.start, fun node hnode => h.reached node ?_,
        fun node hnode b hb => hpop b (h.closed node hnode b hb)⟩
      exact hnode.imp_right (List.mem_cons_of_mem top)
    case isFalse hnew =>
      cases hstep
      have hkeep : ∀ node, node ∈ seen ∨ node ∈ top :: stack →
          node ∈ insert top seen ∨ node ∈ (succ top).reverse ++ stack := by
        rintro node (hnode | hnode)
        · exact Or.inl (Finset.mem_insert_of_mem hnode)
        · rcases List.mem_cons.mp hnode with rfl | hnode
          · exact Or.inl (Finset.mem_insert_self node seen)
          · exact Or.inr (List.mem_append_right _ hnode)
      have htop : ReflTransGen (fun a b => b ∈ succ a) root top :=
        h.reached top (Or.inr List.mem_cons_self)
      refine ⟨hkeep _ h.start, fun node hnode => ?_, fun node hnode b hb => ?_⟩
      · rcases hnode with hnode | hnode
        · rcases Finset.mem_insert.mp hnode with rfl | hnode
          · exact htop
          · exact h.reached node (Or.inl hnode)
        · rcases List.mem_append.mp hnode with hnode | hnode
          · exact htop.tail (List.mem_reverse.mp hnode)
          · exact h.reached node (Or.inr (List.mem_cons_of_mem _ hnode))
      · rcases Finset.mem_insert.mp hnode with rfl | hnode
        · exact Or.inr (List.mem_append_left _ (List.mem_reverse.mpr hb))
        · exact hkeep b (h.closed node hnode b hb)

/-- The entries of the stack, and the edges that have not been followed. -/
def pending (edges : List (α × α)) (s : Search α) : Nat :=
  s.stack.length + (edges.filter fun e => e.1 ∉ s.seen).length

/-- The edges of a new node have not been followed. -/
theorem length_unfollowed (edges : List (α × α)) {seen : Finset α} {node : α} (h : node ∉ seen) :
    (edges.filter fun e => e.1 ∉ seen).length
      = (successors edges node).length + (edges.filter fun e => e.1 ∉ insert node seen).length := by
  unfold successors
  rw [List.length_map]
  induction edges with
  | nil => rfl
  | cons e edges ih =>
    simp only [List.filter_cons, decide_eq_true_eq]
    by_cases hnode : e.1 = node
    · have hnot : e.1 ∉ seen := by
        rw [hnode]
        exact h
      have hmem : ¬ e.1 ∉ insert node seen := fun hout => hout (by simp [hnode])
      rw [if_pos hnot, if_pos hnode, if_neg hmem, List.length_cons, List.length_cons, ih]
      omega
    · have hsame : e.1 ∉ insert node seen ↔ e.1 ∉ seen := by simp [hnode]
      rw [if_neg hnode]
      by_cases hout : e.1 ∉ seen
      · rw [if_pos hout, if_pos (hsame.mpr hout), List.length_cons, List.length_cons, ih]
        omega
      · rw [if_neg hout, if_neg fun hmem => hout (hsame.mp hmem), ih]

/-- A visit follows the edges of a new node once. -/
theorem pending_visit {edges : List (α × α)} (hsucc : ∀ node, succ node = successors edges node)
    {i : Nat} (hstep : visit succ i s = .next s') : pending edges s' < pending edges s := by
  obtain ⟨seen, stack⟩ := s
  cases stack with
  | nil => cases hstep
  | cons top stack =>
    simp only [visit] at hstep
    split at hstep
    case isTrue hseen =>
      cases hstep
      exact Nat.add_lt_add_right (Nat.lt_succ_self _) _
    case isFalse hnew =>
      cases hstep
      unfold pending
      simp only [length_unfollowed edges hnew, hsucc, List.length_append, List.length_reverse, List.length_cons]
      omega

/-- The search of a finite graph ends, with the nodes that can be reached. -/
theorem search_iff {edges : List (α × α)} (hsucc : ∀ node, succ node = successors edges node)
    {fuel : Nat} (hfuel : edges.length + 1 < fuel) :
    ∃ seen, search succ root fuel = some seen ∧
      ∀ node, node ∈ seen ↔ ReflTransGen (fun a b => b ∈ succ a) root node := by
  have hstart : pending edges (⟨∅, [root]⟩ : Search α) < fuel := by
    have hall := List.length_filter_le (fun e : α × α => e.1 ∉ (∅ : Finset α)) edges
    simp only [pending, List.length_singleton]
    omega
  obtain ⟨seen, hseen⟩ := loop_ends (fun _ s => Inv succ root s) (pending edges)
    (fun i s s' h hstep => ⟨inv_visit h hstep, pending_visit hsucc hstep⟩) inv_start hstart (i := 0)
  refine ⟨seen, hseen, fun node => ?_⟩
  obtain ⟨j, s, hreaches, hdone⟩ := done_of_loop hseen .start
  have hinv : Inv succ root s :=
    inv_of_reaches (fun _ s => Inv succ root s) inv_start (fun i s s' => inv_visit) hreaches
  obtain ⟨seen', stack⟩ := s
  cases stack with
  | nil =>
    cases hdone
    exact seen_of_inv hinv rfl
  | cons top stack =>
    simp only [visit] at hdone
    split at hdone <;> cases hdone

end Worklist
