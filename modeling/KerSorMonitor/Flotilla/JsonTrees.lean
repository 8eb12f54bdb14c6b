import KerSorMonitor.Flotilla.Models

/-!
# Nested values

What a JSON value is like at every depth: what stands under some of its keys, and whether all its
numbers are finite. Values are trees, so each definition comes with its companions for the items of
a list and for the members of a dictionary.

Results:
1. `rewriteAt_eq_self_iff`: a rewriting of what stands under some keys that changes every value
   leaves a value alone iff the value has none of the keys.
2. `rewriteAt_rewriteAt`: two rewritings after one another.
-/

namespace Flotilla

namespace Json

/-! ## Values under some keys -/

mutual

/-- The value with `f` applied to what stands under the keys of `p`, at every depth. -/
def rewriteAt (p : String → Bool) (f : Json → Json) : Json → Json
  | arr xs => arr (rewriteItemsAt p f xs)
  | obj kvs => obj (rewriteMembersAt p f kvs)
  | v => v

def rewriteItemsAt (p : String → Bool) (f : Json → Json) : List Json → List Json
  | [] => []
  | x :: xs => x.rewriteAt p f :: rewriteItemsAt p f xs

def rewriteMembersAt (p : String → Bool) (f : Json → Json) : JsonObj → JsonObj
  | [] => []
  | (k, v) :: kvs => (k, if p k then f v else v.rewriteAt p f) :: rewriteMembersAt p f kvs

end

mutual

/-- No key of `p` occurs in the value, at any depth. -/
def lacks (p : String → Bool) : Json → Bool
  | arr xs => itemsLack p xs
  | obj kvs => membersLack p kvs
  | _ => true

def itemsLack (p : String → Bool) : List Json → Bool
  | [] => true
  | x :: xs => x.lacks p && itemsLack p xs

def membersLack (p : String → Bool) : JsonObj → Bool
  | [] => true
  | (k, v) :: kvs => !p k && v.lacks p && membersLack p kvs

end

section Rewriting

variable {p : String → Bool} {f g : Json → Json}

mutual

theorem rewriteAt_rewriteAt :
    ∀ v : Json, (v.rewriteAt p f).rewriteAt p g = v.rewriteAt p (g ∘ f)
  | null => rfl
  | bool _ => rfl
  | int _ => rfl
  | float _ => rfl
  | str _ => rfl
  | arr xs => congrArg arr (rewriteItemsAt_rewriteItemsAt xs)
  | obj kvs => congrArg obj (rewriteMembersAt_rewriteMembersAt kvs)

theorem rewriteItemsAt_rewriteItemsAt :
    ∀ xs : List Json, rewriteItemsAt p g (rewriteItemsAt p f xs) = rewriteItemsAt p (g ∘ f) xs
  | [] => rfl
  | x :: xs => by
    simp only [rewriteItemsAt, rewriteAt_rewriteAt x, rewriteItemsAt_rewriteItemsAt xs]

theorem rewriteMembersAt_rewriteMembersAt :
    ∀ kvs : JsonObj,
      rewriteMembersAt p g (rewriteMembersAt p f kvs) = rewriteMembersAt p (g ∘ f) kvs
  | [] => rfl
  | (k, v) :: kvs => by
    simp only [rewriteMembersAt, rewriteMembersAt_rewriteMembersAt kvs]
    by_cases hk : p k = true
    · simp [hk]
    · simp [hk, rewriteAt_rewriteAt v]

end

mutual

theorem rewriteAt_of_lacks : ∀ v : Json, v.lacks p = true → v.rewriteAt p f = v
  | null, _ => rfl
  | bool _, _ => rfl
  | int _, _ => rfl
  | float _, _ => rfl
  | str _, _ => rfl
  | arr xs, h => congrArg arr (rewriteItemsAt_of_lack xs h)
  | obj kvs, h => congrArg obj (rewriteMembersAt_of_lack kvs h)

theorem rewriteItemsAt_of_lack :
    ∀ xs : List Json, itemsLack p xs = true → rewriteItemsAt p f xs = xs
  | [], _ => rfl
  | x :: xs, h => by
    simp only [itemsLack, Bool.and_eq_true] at h
    rw [rewriteItemsAt, rewriteAt_of_lacks x h.1, rewriteItemsAt_of_lack xs h.2]

theorem rewriteMembersAt_of_lack :
    ∀ kvs : JsonObj, membersLack p kvs = true → rewriteMembersAt p f kvs = kvs
  | [], _ => rfl
  | (k, v) :: kvs, h => by
    simp only [membersLack, Bool.and_eq_true, Bool.not_eq_true'] at h
    simp [rewriteMembersAt, h.1.1, rewriteAt_of_lacks v h.1.2, rewriteMembersAt_of_lack kvs h.2]

end

mutual

theorem lacks_of_rewriteAt (hf : ∀ v, f v ≠ v) : ∀ v : Json, v.rewriteAt p f = v → v.lacks p = true
  | null, _ => rfl
  | bool _, _ => rfl
  | int _, _ => rfl
  | float _, _ => rfl
  | str _, _ => rfl
  | arr xs, h => itemsLack_of_rewriteItemsAt hf xs (arr.inj h)
  | obj kvs, h => membersLack_of_rewriteMembersAt hf kvs (obj.inj h)

theorem itemsLack_of_rewriteItemsAt (hf : ∀ v, f v ≠ v) :
    ∀ xs : List Json, rewriteItemsAt p f xs = xs → itemsLack p xs = true
  | [], _ => rfl
  | x :: xs, h => by
    obtain ⟨hx, hxs⟩ := List.cons.inj h
    exact Bool.and_eq_true_iff.mpr
      ⟨lacks_of_rewriteAt hf x hx, itemsLack_of_rewriteItemsAt hf xs hxs⟩

theorem membersLack_of_rewriteMembersAt (hf : ∀ v, f v ≠ v) :
    ∀ kvs : JsonObj, rewriteMembersAt p f kvs = kvs → membersLack p kvs = true
  | [], _ => rfl
  | (k, v) :: kvs, h => by
    obtain ⟨hkv, hkvs⟩ := List.cons.inj h
    have hv := (Prod.mk.inj hkv).2
    by_cases hk : p k = true
    · rw [if_pos hk] at hv
      exact absurd hv (hf v)
    · rw [if_neg hk] at hv
      simp [membersLack, hk, lacks_of_rewriteAt hf v hv,
        membersLack_of_rewriteMembersAt hf kvs hkvs]

end

theorem rewriteAt_eq_self_iff (hf : ∀ v, f v ≠ v) (v : Json) :
    v.rewriteAt p f = v ↔ v.lacks p = true :=
  ⟨lacks_of_rewriteAt hf v, rewriteAt_of_lacks v⟩

mutual

theorem lacks_rewriteAt : ∀ v : Json, (v.rewriteAt p f).lacks p = v.lacks p
  | null => rfl
  | bool _ => rfl
  | int _ => rfl
  | float _ => rfl
  | str _ => rfl
  | arr xs => itemsLack_rewriteItemsAt xs
  | obj kvs => membersLack_rewriteMembersAt kvs

theorem itemsLack_rewriteItemsAt :
    ∀ xs : List Json, itemsLack p (rewriteItemsAt p f xs) = itemsLack p xs
  | [] => rfl
  | x :: xs => by
    simp only [rewriteItemsAt, itemsLack, lacks_rewriteAt x, itemsLack_rewriteItemsAt xs]

theorem membersLack_rewriteMembersAt :
    ∀ kvs : JsonObj, membersLack p (rewriteMembersAt p f kvs) = membersLack p kvs
  | [] => rfl
  | (k, v) :: kvs => by
    simp only [rewriteMembersAt, membersLack, membersLack_rewriteMembersAt kvs]
    by_cases hk : p k = true
    · simp [hk]
    · simp [hk, lacks_rewriteAt v]

end

/-- A rewriting goes through the members of a dictionary. -/
theorem rewriteMembersAt_eq_map (kvs : JsonObj) :
    rewriteMembersAt p f kvs =
      kvs.map fun kv => (kv.1, if p kv.1 then f kv.2 else kv.2.rewriteAt p f) := by
  induction kvs with
  | nil => rfl
  | cons kv kvs ih => simp [rewriteMembersAt, ih]

end Rewriting

/-- The value with what stands under the keys of `p` blotted out. -/
def mask (p : String → Bool) (v : Json) : Json := v.rewriteAt p fun _ => null

/-- A value that has none of the keys is determined by what is left after the blotting. -/
theorem eq_of_mask_eq {p : String → Bool} {v v' : Json} (hv : v.lacks p = true)
    (h : v.mask p = v'.mask p) : v = v' := by
  have hv' : v'.lacks p = true := by
    calc v'.lacks p = (v'.mask p).lacks p := (lacks_rewriteAt v').symm
      _ = (v.mask p).lacks p := by rw [h]
      _ = v.lacks p := lacks_rewriteAt v
      _ = true := hv
  calc v = v.mask p := (rewriteAt_of_lacks v hv).symm
    _ = v'.mask p := h
    _ = v' := rewriteAt_of_lacks v' hv'

/-! ## Standard JSON -/

mutual

/-- All numbers of the value are finite, so that it is standard JSON. -/
def isStandard : Json → Bool
  | float (.inf _) => false
  | float .nan => false
  | arr xs => itemsStandard xs
  | obj kvs => membersStandard kvs
  | _ => true

def itemsStandard : List Json → Bool
  | [] => true
  | x :: xs => x.isStandard && itemsStandard xs

def membersStandard : JsonObj → Bool
  | [] => true
  | (_, v) :: kvs => v.isStandard && membersStandard kvs

end

theorem membersStandard_append (kvs kvs' : JsonObj) :
    membersStandard (kvs ++ kvs') = (membersStandard kvs && membersStandard kvs') := by
  induction kvs with
  | nil => rfl
  | cons kv kvs ih => simp [membersStandard, ih, Bool.and_assoc]

theorem membersStandard_iff {kvs : JsonObj} :
    membersStandard kvs = true ↔ ∀ kv ∈ kvs, kv.2.isStandard = true := by
  induction kvs with
  | nil => simp [membersStandard]
  | cons kv kvs ih => simp [membersStandard, ih]

end Json

end Flotilla
