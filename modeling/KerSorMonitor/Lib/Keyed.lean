import Mathlib.Data.List.Nodup
import Mathlib.Data.List.Perm.Subperm

/-!
# Keyed tables

A finite table of rows with a primary key. The uniqueness of the key is a field,
so a table with two rows of one key cannot be built; the operations are the row
operations of a relational store (`insert`, `updateWhere`, `deleteWhere`) and the
item operations of an insertion-ordered dictionary (`Dict.set`, `Dict.pop`).

Results:
1. `get?_eq_some_iff`: lookup is membership under the key.
2. `get?_insert`, `get?_updateWhere`, `get?_deleteWhere`: what each operation does
   to a lookup.
3. `count_le_add`, `count_lt`: how the number of rows that satisfy a predicate changes,
   by the lookups before and after.
4. `Dict.get?_set`, `Dict.get?_pop`: dictionaries.
-/

namespace Keyed

universe u v

/-- Rows of type `ρ`, at most one for each value of `key`, in insertion order. -/
structure Table {ρ : Type u} {κ : Type v} (key : ρ → κ) where
  rows : List ρ
  nodup : (rows.map key).Nodup

namespace Table

variable {ρ : Type u} {κ : Type v} {key : ρ → κ}

@[ext] theorem ext' {t u : Table key} (h : t.rows = u.rows) : t = u := by
  cases t
  cases u
  cases h
  rfl

def empty : Table key := ⟨[], List.nodup_nil⟩

/-- The row with key `k`. -/
def get? [DecidableEq κ] (t : Table key) (k : κ) : Option ρ :=
  t.rows.find? fun r => key r = k

/-- Some row has key `k`. -/
def Has (t : Table key) (k : κ) : Prop := ∃ r ∈ t.rows, key r = k

instance [DecidableEq ρ] : DecidableEq (Table key) := fun t u =>
  decidable_of_iff (t.rows = u.rows) ⟨ext', congrArg rows⟩

instance [DecidableEq κ] (t : Table key) (k : κ) : Decidable (t.Has k) :=
  inferInstanceAs (Decidable (∃ r ∈ t.rows, key r = k))

/-- Append a row with a new key. -/
def insert (t : Table key) (r : ρ) (h : ¬ t.Has (key r)) : Table key where
  rows := t.rows ++ [r]
  nodup := by
    rw [List.map_append, List.nodup_append]
    refine ⟨t.nodup, by simp, ?_⟩
    intro a ha b hb hab
    simp only [List.map_cons, List.map_nil, List.mem_singleton] at hb
    obtain ⟨r', hr', rfl⟩ := List.mem_map.mp ha
    exact h ⟨r', hr', hab.trans hb⟩

/-- Rewrite the rows that satisfy `p`, without touching their keys. -/
def updateWhere (t : Table key) (p : ρ → Bool) (f : ρ → ρ)
    (hf : ∀ r, p r = true → key (f r) = key r) : Table key where
  rows := t.rows.map fun r => if p r then f r else r
  nodup := by
    have hk : (t.rows.map fun r => if p r then f r else r).map key = t.rows.map key := by
      rw [List.map_map]
      refine List.map_congr_left fun r _ => ?_
      simp only [Function.comp_apply]
      split
      · next h => exact hf r h
      · rfl
    rw [hk]
    exact t.nodup

/-- Remove the rows that satisfy `p`. -/
def deleteWhere (t : Table key) (p : ρ → Bool) : Table key where
  rows := t.rows.filter fun r => !p r
  nodup := t.nodup.sublist (List.filter_sublist.map key)

/-- Rewrite the row with key `k`. -/
def update [DecidableEq κ] (t : Table key) (k : κ) (f : ρ → ρ)
    (hf : ∀ r, key r = k → key (f r) = key r) : Table key :=
  t.updateWhere (fun r => key r = k) f fun r h => hf r (of_decide_eq_true h)

/-- The number of rows that satisfy `p`. -/
def count (t : Table key) (p : ρ → Bool) : Nat := t.rows.countP p

/-! ## Lookups -/

theorem mem_unique {t : Table key} {r r' : ρ} (h : r ∈ t.rows) (h' : r' ∈ t.rows)
    (hk : key r = key r') : r = r' :=
  List.inj_on_of_nodup_map t.nodup h h' hk

section Lookup

variable [DecidableEq κ]

theorem get?_eq_some_iff {t : Table key} {k : κ} {r : ρ} :
    t.get? k = some r ↔ r ∈ t.rows ∧ key r = k := by
  constructor
  · intro h
    exact ⟨List.mem_of_find?_eq_some h, by simpa using List.find?_some h⟩
  · rintro ⟨hr, rfl⟩
    cases hf : t.get? (key r) with
    | none =>
      have := List.find?_eq_none.mp hf r hr
      simp at this
    | some r' =>
      have hk : key r' = key r := by simpa using List.find?_some hf
      rw [mem_unique (List.mem_of_find?_eq_some hf) hr hk]

theorem get?_eq_none_iff {t : Table key} {k : κ} : t.get? k = none ↔ ¬ t.Has k := by
  constructor
  · rintro h ⟨r, hr, hk⟩
    rw [get?_eq_some_iff.mpr ⟨hr, hk⟩] at h
    cases h
  · intro h
    cases hf : t.get? k with
    | none => rfl
    | some r => exact absurd ⟨r, get?_eq_some_iff.mp hf⟩ h

theorem has_iff_isSome {t : Table key} {k : κ} : t.Has k ↔ (t.get? k).isSome := by
  cases h : t.get? k with
  | none => simpa using get?_eq_none_iff.mp h
  | some r => simpa using ⟨r, get?_eq_some_iff.mp h⟩

theorem key_of_get? {t : Table key} {k : κ} {r : ρ} (h : t.get? k = some r) : key r = k :=
  (get?_eq_some_iff.mp h).2

theorem get?_insert (t : Table key) (r : ρ) (h : ¬ t.Has (key r)) (k : κ) :
    (t.insert r h).get? k = if key r = k then some r else t.get? k := by
  split
  · next hk => exact get?_eq_some_iff.mpr ⟨List.mem_append_right _ List.mem_cons_self, hk⟩
  · next hk => simp [get?, insert, List.find?_append, hk]

theorem get?_updateWhere (t : Table key) (p : ρ → Bool) (f : ρ → ρ)
    (hf : ∀ r, p r = true → key (f r) = key r) (k : κ) :
    (t.updateWhere p f hf).get? k = (t.get? k).map fun r => if p r then f r else r := by
  have hk : ((fun r => decide (key r = k)) ∘ fun r => if p r then f r else r) =
      fun r => decide (key r = k) := by
    funext r
    simp only [Function.comp_apply]
    split
    · next h => rw [hf r h]
    · rfl
  simp only [get?, updateWhere, List.find?_map, hk]

theorem get?_update (t : Table key) (k k' : κ) (f : ρ → ρ)
    (hf : ∀ r, key r = k → key (f r) = key r) :
    (t.update k f hf).get? k' = if k' = k then (t.get? k).map f else t.get? k' := by
  rw [update, get?_updateWhere]
  split
  · next h =>
    subst h
    cases hg : t.get? k' with
    | none => rfl
    | some r => simp [key_of_get? hg]
  · next h =>
    cases hg : t.get? k' with
    | none => rfl
    | some r => simp [key_of_get? hg, h]

theorem get?_deleteWhere (t : Table key) (p : ρ → Bool) (k : κ) :
    (t.deleteWhere p).get? k = (t.get? k).filter fun r => !p r := by
  cases hg : t.get? k with
  | none =>
    refine get?_eq_none_iff.mpr ?_
    rintro ⟨r, hr, hk⟩
    exact get?_eq_none_iff.mp hg ⟨r, (List.mem_filter.mp hr).1, hk⟩
  | some r =>
    obtain ⟨hr, hk⟩ := get?_eq_some_iff.mp hg
    cases hp : p r with
    | false =>
      simp only [Option.filter, hp, Bool.not_false, ↓reduceIte]
      exact get?_eq_some_iff.mpr ⟨List.mem_filter.mpr ⟨hr, by simp [hp]⟩, hk⟩
    | true =>
      simp only [Option.filter, hp, Bool.not_true, Bool.false_eq_true, ↓reduceIte]
      refine get?_eq_none_iff.mpr ?_
      rintro ⟨r', hr', hk'⟩
      have hm := List.mem_filter.mp hr'
      rw [mem_unique hm.1 hr (hk'.trans hk.symm), hp] at hm
      exact absurd hm.2 (by simp)

end Lookup

@[simp] theorem mem_rows_insert {t : Table key} {r r' : ρ} {h : ¬ t.Has (key r)} :
    r' ∈ (t.insert r h).rows ↔ r' ∈ t.rows ∨ r' = r := by
  simp [insert]

@[simp] theorem mem_rows_updateWhere {t : Table key} {p : ρ → Bool} {f : ρ → ρ}
    {hf : ∀ r, p r = true → key (f r) = key r} {r' : ρ} :
    r' ∈ (t.updateWhere p f hf).rows ↔ ∃ r ∈ t.rows, (if p r then f r else r) = r' := by
  simp [updateWhere]

@[simp] theorem mem_rows_deleteWhere {t : Table key} {p : ρ → Bool} {r : ρ} :
    r ∈ (t.deleteWhere p).rows ↔ r ∈ t.rows ∧ p r = false := by
  simp [deleteWhere]

theorem has_updateWhere {t : Table key} {p : ρ → Bool} {f : ρ → ρ}
    {hf : ∀ r, p r = true → key (f r) = key r} {k : κ} :
    (t.updateWhere p f hf).Has k ↔ t.Has k := by
  constructor
  · rintro ⟨_, hr', rfl⟩
    obtain ⟨r, hr, rfl⟩ := mem_rows_updateWhere.mp hr'
    refine ⟨r, hr, ?_⟩
    split
    · next h => exact (hf r h).symm
    · rfl
  · rintro ⟨r, hr, rfl⟩
    refine ⟨_, mem_rows_updateWhere.mpr ⟨r, hr, rfl⟩, ?_⟩
    split
    · next h => exact hf r h
    · rfl

/-! ## Counting -/

/-- The keys of the rows that satisfy `q`. -/
def keysWhere (t : Table key) (q : ρ → Bool) : List κ := (t.rows.filter q).map key

theorem length_keysWhere (t : Table key) (q : ρ → Bool) :
    (t.keysWhere q).length = t.count q := by
  rw [keysWhere, List.length_map, count, List.countP_eq_length_filter]

theorem nodup_keysWhere (t : Table key) (q : ρ → Bool) : (t.keysWhere q).Nodup :=
  t.nodup.sublist (List.filter_sublist.map key)

theorem mem_keysWhere [DecidableEq κ] {t : Table key} {q : ρ → Bool} {k : κ} :
    k ∈ t.keysWhere q ↔ ∃ r, t.get? k = some r ∧ q r = true := by
  simp only [keysWhere, List.mem_map, List.mem_filter, get?_eq_some_iff]
  constructor
  · rintro ⟨r, ⟨hr, hq⟩, hk⟩
    exact ⟨r, ⟨hr, hk⟩, hq⟩
  · rintro ⟨r, ⟨hr, hk⟩, hq⟩
    exact ⟨r, ⟨hr, hq⟩, hk⟩

/-- The count of `q'` exceeds that of `q` by at most the number of keys that satisfy only `q'`. -/
theorem count_le_add [DecidableEq κ] {t t' : Table key} {q q' : ρ → Bool} (ks : List κ)
    (h : ∀ k r, t'.get? k = some r → q' r = true →
      k ∈ ks ∨ ∃ r', t.get? k = some r' ∧ q r' = true) :
    t'.count q' ≤ t.count q + ks.length := by
  have hsub : t'.keysWhere q' ⊆ t.keysWhere q ++ ks := by
    intro k hk
    obtain ⟨r, hr, hq⟩ := mem_keysWhere.mp hk
    rcases h k r hr hq with hks | ht
    · exact List.mem_append_right _ hks
    · exact List.mem_append_left _ (mem_keysWhere.mpr ht)
  have hle := ((nodup_keysWhere t' q').subperm hsub).length_le
  rwa [List.length_append, length_keysWhere, length_keysWhere] at hle

/-- No key starts to satisfy `q`. -/
theorem count_le [DecidableEq κ] {t t' : Table key} {q : ρ → Bool}
    (h : ∀ k r, t'.get? k = some r → q r = true → ∃ r', t.get? k = some r' ∧ q r' = true) :
    t'.count q ≤ t.count q :=
  count_le_add [] fun k r hr hq => Or.inr (h k r hr hq)

/-- No key starts to satisfy `q`, and the key `k₀` stops. -/
theorem count_lt [DecidableEq κ] {t t' : Table key} {q : ρ → Bool} (k₀ : κ)
    (h : ∀ k r, t'.get? k = some r → q r = true →
      k ≠ k₀ ∧ ∃ r', t.get? k = some r' ∧ q r' = true)
    (h₀ : ∃ r, t.get? k₀ = some r ∧ q r = true) :
    t'.count q + 1 ≤ t.count q := by
  have hnd : (k₀ :: t'.keysWhere q).Nodup := by
    refine List.nodup_cons.mpr ⟨fun hk => ?_, nodup_keysWhere t' q⟩
    obtain ⟨r, hr, hq⟩ := mem_keysWhere.mp hk
    exact (h k₀ r hr hq).1 rfl
  have hsub : k₀ :: t'.keysWhere q ⊆ t.keysWhere q := by
    intro k hk
    rcases List.mem_cons.mp hk with rfl | hk
    · exact mem_keysWhere.mpr h₀
    · obtain ⟨r, hr, hq⟩ := mem_keysWhere.mp hk
      exact mem_keysWhere.mpr (h k r hr hq).2
  have hle := (hnd.subperm hsub).length_le
  rwa [List.length_cons, length_keysWhere, length_keysWhere] at hle

end Table

/-! ## Dictionaries -/

/-- An insertion-ordered dictionary: a table of items keyed by their first component. -/
abbrev Dict (κ : Type v) (ν : Type u) := Table (Prod.fst : κ × ν → κ)

namespace Dict

variable {κ : Type v} {ν : Type u} [DecidableEq κ]

/-- The value stored under `k`. -/
def get? (d : Dict κ ν) (k : κ) : Option ν := (Table.get? d k).map Prod.snd

/-- Store `v` under `k`: in place when `k` is present, else at the end. -/
def set (d : Dict κ ν) (k : κ) (v : ν) : Dict κ ν :=
  if h : Table.Has d k then Table.update d k (fun _ => (k, v)) (fun _ h => h.symm)
  else Table.insert d (k, v) h

/-- Drop `k`. -/
def pop (d : Dict κ ν) (k : κ) : Dict κ ν := Table.deleteWhere d fun e => e.1 = k

@[simp] theorem get?_empty (k : κ) : get? (Table.empty : Dict κ ν) k = none := rfl

theorem get?_set (d : Dict κ ν) (k k' : κ) (v : ν) :
    get? (set d k v) k' = if k' = k then some v else get? d k' := by
  unfold get? set
  split
  · next h =>
    rw [Table.get?_update]
    split
    · obtain ⟨e, he⟩ := Option.isSome_iff_exists.mp (Table.has_iff_isSome.mp h)
      rw [he]
      rfl
    · rfl
  · next h =>
    rw [Table.get?_insert]
    by_cases hk : k' = k
    · subst hk; simp
    · simp [hk, Ne.symm hk]

theorem get?_pop (d : Dict κ ν) (k k' : κ) :
    get? (pop d k) k' = if k' = k then none else get? d k' := by
  unfold get? pop
  rw [Table.get?_deleteWhere]
  cases h : Table.get? d k' with
  | none => simp
  | some e =>
    have he := Table.key_of_get? h
    by_cases hk : k' = k
    · simp [Option.filter, he, hk]
    · simp [Option.filter, he, hk]

/-- Dropping an absent key changes nothing. -/
theorem pop_of_get?_eq_none {d : Dict κ ν} {k : κ} (h : get? d k = none) : pop d k = d := by
  have hnone : Table.get? d k = none := Option.map_eq_none_iff.mp h
  refine Table.ext' (List.filter_eq_self.mpr fun e he => ?_)
  have hne : e.1 ≠ k := fun heq => Table.get?_eq_none_iff.mp hnone ⟨e, he, heq⟩
  simp [hne]

/-- The count of `q'` exceeds that of `q` by at most the number of keys that satisfy only `q'`. -/
theorem count_le_add {d d' : Dict κ ν} {q q' : κ × ν → Bool} (ks : List κ)
    (h : ∀ k v, get? d' k = some v → q' (k, v) = true →
      k ∈ ks ∨ ∃ v', get? d k = some v' ∧ q (k, v') = true) :
    Table.count d' q' ≤ Table.count d q + ks.length := by
  refine Table.count_le_add ks fun k e he hq => ?_
  obtain rfl : e.1 = k := Table.key_of_get? he
  refine (h e.1 e.2 (by rw [get?, he]; rfl) hq).imp_right fun ⟨v', hv', hq'⟩ => ?_
  obtain ⟨e', he', rfl⟩ := Option.map_eq_some_iff.mp hv'
  have hkey : e'.1 = e.1 := Table.key_of_get? he'
  exact ⟨e', he', by rw [← hkey] at hq'; exact hq'⟩

/-- A new key comes last. -/
theorem rows_set {d : Dict κ ν} {k : κ} (h : get? d k = none) (v : ν) :
    (set d k v).rows = d.rows ++ [(k, v)] := by
  have hnew : ¬ Table.Has d k := Table.get?_eq_none_iff.mp (Option.map_eq_none_iff.mp h)
  rw [set, dif_neg hnew]
  rfl

theorem mem_rows_iff {d : Dict κ ν} {k : κ} {v : ν} : (k, v) ∈ d.rows ↔ get? d k = some v := by
  unfold get?
  rw [Option.map_eq_some_iff]
  constructor
  · intro h
    exact ⟨(k, v), Table.get?_eq_some_iff.mpr ⟨h, rfl⟩, rfl⟩
  · rintro ⟨⟨k', v'⟩, h, rfl⟩
    obtain ⟨hm, rfl⟩ := Table.get?_eq_some_iff.mp h
    exact hm

/-- The rows before and after that of `k` have other keys. -/
theorem rows_of_get? {d : Dict κ ν} {k : κ} {v : ν} (h : get? d k = some v) :
    ∃ before after, d.rows = before ++ (k, v) :: after ∧ (∀ e ∈ before, e.1 ≠ k) ∧
      ∀ e ∈ after, e.1 ≠ k := by
  obtain ⟨before, after, hrows⟩ := List.append_of_mem (mem_rows_iff.mpr h)
  have hnodup := d.nodup
  rw [hrows, List.map_append, List.map_cons, List.nodup_middle, List.nodup_cons,
    List.mem_append, not_or] at hnodup
  refine ⟨before, after, hrows, ?_, ?_⟩
  · exact fun e he heq => hnodup.1.1 (List.mem_map.mpr ⟨e, he, heq⟩)
  · exact fun e he heq => hnodup.1.2 (List.mem_map.mpr ⟨e, he, heq⟩)

end Dict

end Keyed
