import KerSorMonitor.Scripts.LegacyMerge

/-!
# What a merge keeps, and what a second one changes (`scripts/monitor_state.py`)

The merge of legacy rows keeps a row of each key and the values of live rows. A second merge of the
same legacy rows puts them where the first did: the ids that the first one has made decide as the
primary ids did.

Result: `merge_keeps_live_rows`. A second merge is not without effect: a legacy row that was
replaced by a live one had its metrics dropped, and now fills them in.
-/

namespace Scripts

open Flotilla Keyed

variable (py : Python)

/-! ## Where legacy rows go -/

/-- The key to which a legacy row is mapped: `""` if it has none. -/
def legacyKey (primaryTaskIds : Dict String String) (legacyRow : JsonObj) : String :=
  match canonicalLegacyFeishuTaskId py (legacyId py legacyRow) primaryTaskIds with
  | .ok taskId => py.upper taskId
  | .error _ => ""

/-- The legacy rows that are mapped to a key. -/
def mappedTo (primaryRows legacyRows : List JsonObj) (key : String) : List JsonObj :=
  legacyRows.filter fun row => legacyKey py (primaryByUpper py primaryRows) row = key

/-- `int` reads the legacy ids that are numerals and not ids of primary rows. -/
def NumeralsRead (primaryRows legacyRows : List JsonObj) : Prop :=
  ∀ row ∈ legacyRows, isDigits py (legacyId py row) = true →
    py.upper (legacyId py row) ∉ primaryRows.map (rowKey py) →
      (py.intOfStr (legacyId py row)).isSome

/-- A text is not made a numeral by `upper`. -/
def DigitsUncased : Prop :=
  ∀ s t, isDigits py s = true → py.upper t = py.upper s → t = s

/-- What a merge makes of its rows. -/
structure Merged (h : Heap) (primary legacy : List Ref) (h₁ : Heap) (rows : List Ref) : Prop where
  /-- One row for each key: those of the primary rows, then those of the legacy rows. -/
  keys : (rowsAt h₁ rows).map (rowKey py) =
    (((rowsAt h primary).map (rowKey py)).filter (· ≠ "") ++
      ((rowsAt h legacy).map (legacyKey py (primaryByUpper py (rowsAt h primary)))).filter
        (· ≠ "")).eraseDups
  nodup : ((rowsAt h₁ rows).map (rowKey py)).Nodup
  /-- A live primary row keeps its fields, and its empty metrics are filled. -/
  live : ∀ p ∈ rowsAt h primary, rowKey py p ≠ "" → IsLive p →
    ∃ q ∈ rowsAt h₁ rows, rowKey py q = rowKey py p ∧
      Filled (mappedTo py (rowsAt h primary) (rowsAt h legacy) (rowKey py p)) p q
  /-- The dictionaries that were there are as they were. -/
  inputs : ∀ r < h.length, h₁[r]? = h[r]?

/-- What a second merge of the same legacy rows makes of the rows of the first. -/
structure MergedAgain (h : Heap) (primary legacy : List Ref) (h₁ : Heap) (rows : List Ref)
    (h₂ : Heap) (rows₂ : List Ref) : Prop where
  /-- The same keys in the same order, and the same fields, but for empty metrics of live rows. -/
  pairs : List.Forall₂ (fun q q' => rowKey py q' = rowKey py q ∧
      (IsLive q → Filled (mappedTo py (rowsAt h primary) (rowsAt h legacy) (rowKey py q)) q q') ∧
      (¬ IsLive q → SameFields q q'))
    (rowsAt h₁ rows) (rowsAt h₂ rows₂)
  /-- Nothing changes exactly if no empty metric of a live row has a value in a legacy row. -/
  unchanged_iff : List.Forall₂ SameFields (rowsAt h₁ rows) (rowsAt h₂ rows₂) ↔
    ∀ q ∈ rowsAt h₁ rows, IsLive q → ∀ field ∈ metricFields, isBlank (getD q field .null) = true →
      firstValue (mappedTo py (rowsAt h primary) (rowsAt h legacy) (rowKey py q)) field = none
  inputs : ∀ r < h₁.length, h₂[r]? = h₁[r]?

namespace LegacyLawLemmas

open LegacyMergeLemmas

variable {py}

/-! ## Ids -/

theorem strip_strip (cs : List Char) : py.strip (py.strip cs) = py.strip cs := by
  have hdef (l : List Char) : py.strip l = (l.dropWhile py.isSpace).rdropWhile py.isSpace := rfl
  rw [hdef cs]
  generalize hl : cs.dropWhile py.isSpace = l
  have hself : l.dropWhile py.isSpace = l := by rw [← hl, List.dropWhile_idempotent]
  have hstart : (l.rdropWhile py.isSpace).dropWhile py.isSpace = l.rdropWhile py.isSpace := by
    obtain ⟨rest, hrest⟩ := List.rdropWhile_prefix py.isSpace l
    generalize l.rdropWhile py.isSpace = m at hrest
    cases m with
    | nil => rfl
    | cons c m =>
      rw [← hrest, List.cons_append, List.dropWhile_cons] at hself
      split at hself
      case isTrue h =>
        have hlength := congrArg List.length hself
        have hshort := (List.dropWhile_suffix py.isSpace (l := m ++ rest)).length_le
        rw [hlength, List.length_cons] at hshort
        exact absurd hshort (Nat.not_succ_le_self _)
      case isFalse h => rw [List.dropWhile_cons, if_neg h]
  rw [hdef, hstart, List.rdropWhile_idempotent]

theorem stripText_legacyId (row : JsonObj) : stripText py (legacyId py row) = legacyId py row := by
  rw [legacyId, stripText, stripText, String.toList_ofList, strip_strip]

/-- What the ids of primary rows of different keys are. -/
theorem get?_primaryByUpper {rows : List JsonObj} (hkeys : (rows.map (rowKey py)).Nodup)
    {k id : String} :
    Dict.get? (primaryByUpper py rows) k = some id ↔
      ∃ row ∈ rows, rowKey py row = k ∧ taskIdText row = id := by
  rw [primaryByUpper, Dict.get?_foldl_set (rowKey py) taskIdText, Dict.get?_empty, Option.or_none,
    Option.map_eq_some_iff]
  constructor
  · rintro ⟨row, hfind, hid⟩
    exact ⟨row, List.mem_reverse.mp (List.mem_of_find?_eq_some hfind),
      by simpa using List.find?_some hfind, hid⟩
  · rintro ⟨row, hrow, hk, hid⟩
    have hsome : (rows.reverse.find? fun row => rowKey py row = k).isSome :=
      List.find?_isSome.mpr ⟨row, List.mem_reverse.mpr hrow, decide_eq_true hk⟩
    obtain ⟨row', hfind⟩ := Option.isSome_iff_exists.mp hsome
    have hkey' : rowKey py row' = k := by simpa using List.find?_some hfind
    have heq : row' = row := List.inj_on_of_nodup_map hkeys
      (List.mem_reverse.mp (List.mem_of_find?_eq_some hfind)) hrow (hkey'.trans hk.symm)
    exact ⟨row', hfind, heq ▸ hid⟩

section Canonical

variable {ids : Dict String String} {id : String} (hstrip : stripText py id = id)

include hstrip

theorem canonical_of_empty (h : id = "") : canonicalLegacyFeishuTaskId py id ids = .ok "" := by
  rw [canonicalLegacyFeishuTaskId, hstrip]
  exact (if_pos h).trans (congrArg _ h)

theorem canonical_of_primary (h : id ≠ "") {primaryId : String}
    (hid : Dict.get? ids (py.upper id) = some primaryId) :
    canonicalLegacyFeishuTaskId py id ids = .ok primaryId := by
  simp only [canonicalLegacyFeishuTaskId, hstrip, if_neg h, hid]

theorem canonical_of_numeral (h : id ≠ "") (hid : Dict.get? ids (py.upper id) = none)
    (hdigits : isDigits py id = true) {n : Int} (hn : py.intOfStr id = some n) :
    canonicalLegacyFeishuTaskId py id ids
      = .ok ((Dict.get? ids (py.upper ("FI-" ++ threeDigits n))).getD id) := by
  simp only [canonicalLegacyFeishuTaskId, hstrip, if_neg h, hid, if_pos hdigits, hn]

theorem canonical_of_text (h : id ≠ "") (hid : Dict.get? ids (py.upper id) = none)
    (hdigits : ¬ isDigits py id = true) :
    canonicalLegacyFeishuTaskId py id ids = .ok id := by
  simp only [canonicalLegacyFeishuTaskId, hstrip, if_neg h, hid, if_neg hdigits]

/-- Which key a legacy row gets: that of its own id, or that of the primary row with its
numeral. -/
theorem canonical_key {taskId : String}
    (hids : ∀ k v, Dict.get? ids k = some v → py.upper v = k)
    (h : canonicalLegacyFeishuTaskId py id ids = .ok taskId) :
    py.upper taskId = py.upper id ∨
      (id ≠ "" ∧ Dict.get? ids (py.upper id) = none ∧ isDigits py id = true ∧
        ∃ n, py.intOfStr id = some n ∧
          Dict.get? ids (py.upper ("FI-" ++ threeDigits n)) = some taskId) := by
  by_cases hempty : id = ""
  · rw [canonical_of_empty hstrip hempty] at h
    cases h
    exact .inl (congrArg _ hempty.symm)
  · cases hget : Dict.get? ids (py.upper id) with
    | some primaryId =>
      rw [canonical_of_primary hstrip hempty hget] at h
      cases h
      exact .inl (hids _ _ hget)
    | none =>
      by_cases hdigits : isDigits py id = true
      · cases hn : py.intOfStr id with
        | none =>
          simp only [canonicalLegacyFeishuTaskId, hstrip, if_neg hempty, hget, if_pos hdigits,
            hn] at h
          cases h
        | some n =>
          rw [canonical_of_numeral hstrip hempty hget hdigits hn] at h
          cases hfi : Dict.get? ids (py.upper ("FI-" ++ threeDigits n)) with
          | none =>
            rw [hfi] at h
            cases h
            exact .inl rfl
          | some primaryId =>
            rw [hfi] at h
            cases h
            exact .inr ⟨hempty, rfl, hdigits, n, rfl, hfi⟩
      · rw [canonical_of_text hstrip hempty hget hdigits] at h
        cases h
        exact .inl rfl

end Canonical

theorem isAscii_threeDigits (n : Int) : ∀ c ∈ (threeDigits n).toList, c.toNat < 128 := by
  have hdigit : ∀ c ∈ Nat.toDigits 10 n.natAbs, c.toNat < 128 := by
    intro c hc
    have hc := Nat.isDigit_of_mem_toDigits (by decide) (by decide) hc
    have hle : c.val ≤ 57 := by simpa using (Bool.and_eq_true_iff.mp hc).2
    exact Nat.lt_of_le_of_lt (UInt32.le_iff_toNat_le.mp hle) (by decide)
  intro c hc
  rw [threeDigits] at hc
  split at hc
  · rw [String.toList_ofList] at hc
    rcases List.mem_cons.mp hc with rfl | hc
    · decide
    · rcases List.mem_append.mp hc with hc | hc
      · rw [List.eq_of_mem_replicate hc]
        decide
      · exact hdigit c hc
  · rw [String.toList_ofList] at hc
    rcases List.mem_append.mp hc with hc | hc
    · rw [List.eq_of_mem_replicate hc]
      decide
    · exact hdigit c hc

/-- The id of a numeral has a key. -/
theorem upper_numeral_ne_empty (n : Int) : py.upper ("FI-" ++ threeDigits n) ≠ "" := by
  intro h
  have hprefix : ∀ c ∈ "FI-".toList, c.toNat < 128 := by
    intro c hc
    have hmem : c ∈ ['F', 'I', '-'] := hc
    rcases List.mem_cons.mp hmem with rfl | hmem
    · decide
    · rcases List.mem_pair.mp hmem with rfl | rfl <;> decide
  have hchars := py.upper_ascii ("FI-" ++ threeDigits n) fun c hc => by
    rw [String.toList_append] at hc
    rcases List.mem_append.mp hc with hc | hc
    · exact hprefix c hc
    · exact isAscii_threeDigits n c hc
  rw [h, String.toList_append, List.map_append] at hchars
  cases hchars

theorem exists_of_mem_right {α β : Type} {R : α → β → Prop} {l : List α} {l' : List β}
    (h : List.Forall₂ R l l') {b : β} (hb : b ∈ l') : ∃ a ∈ l, R a b := by
  induction h with
  | nil => cases hb
  | cons hab _ ih =>
    rcases List.mem_cons.mp hb with rfl | hb
    · exact ⟨_, List.mem_cons_self, hab⟩
    · obtain ⟨a, ha, hab⟩ := ih hb
      exact ⟨a, List.mem_cons_of_mem _ ha, hab⟩

/-! ## The ids in a second merge -/

section Again

variable {rows legacyRows : List JsonObj} {es : List LegacyEntry}
  (hkeys : (rows.map (rowKey py)).Nodup)
  (hes : List.Forall₂ (IsEntry py (primaryByUpper py rows)) legacyRows es)
  (hkeyed : WellKeyed py (mergedTable py rows es))

include hkeyed in
theorem get?_again {k id : String} :
    Dict.get? (primaryByUpper py (rowsOf (mergedTable py rows es))) k = some id ↔
      ∃ row, (mergedTable py rows es).row k = some row ∧ taskIdText row = id := by
  have hord : (mergedTable py rows es).Ordered := ordered_mergedTable rows es
  have hnodup : ((rowsOf (mergedTable py rows es)).map (rowKey py)).Nodup := by
    rw [map_rowKey_rowsOf hord hkeyed]
    exact hord.nodup
  rw [get?_primaryByUpper hnodup]
  constructor
  · rintro ⟨row, hrow, rfl, hid⟩
    exact ⟨row, (mem_rowsOf hord hkeyed).mp hrow, hid⟩
  · rintro ⟨row, hrow, hid⟩
    obtain ⟨rfl, -⟩ := hkeyed k row hrow
    exact ⟨row, (mem_rowsOf hord hkeyed).mpr hrow, rfl, hid⟩

/-- The keys that have a row. -/
theorem isSome_mergedTable_row {k : String} :
    ((mergedTable py rows es).row k).isSome ↔
      k ≠ "" ∧ (k ∈ rows.map (rowKey py) ∨ ∃ e ∈ es, py.upper e.taskId = k) := by
  rw [← (ordered_mergedTable rows es).mem_iff, order_mergedTable, List.mem_eraseDups,
    List.mem_append, List.mem_filter, List.mem_filter, decide_eq_true_iff, List.mem_map (l := es)]
  constructor
  · rintro (⟨h, hne⟩ | ⟨h, hne⟩)
    · exact ⟨hne, .inl h⟩
    · exact ⟨hne, .inr h⟩
  · rintro ⟨hne, h | h⟩
    · exact .inl ⟨h, hne⟩
    · exact .inr ⟨h, hne⟩

include hkeys in
theorem upper_of_get? (k v : String) (h : Dict.get? (primaryByUpper py rows) k = some v) :
    py.upper v = k := by
  obtain ⟨row, -, hk, hv⟩ := (get?_primaryByUpper hkeys).mp h
  rw [← hv, ← hk]
  rfl

include hkeys hes in
/-- If the id of a legacy row has a row of its own after the merge, the legacy row has been put
there. -/
theorem upper_eq_of_isSome (hdigits : DigitsUncased py) {legacyRow : JsonObj} {e : LegacyEntry}
    (he : IsEntry py (primaryByUpper py rows) legacyRow e)
    (hsome : ((mergedTable py rows es).row (py.upper (legacyId py legacyRow))).isSome) :
    py.upper e.taskId = py.upper (legacyId py legacyRow) := by
  have hids := upper_of_get? hkeys
  rcases canonical_key (stripText_legacyId _) hids he.1 with h | ⟨-, hnone, hdigit, -⟩
  · exact h
  · obtain ⟨-, hmem | ⟨e', he', hkey⟩⟩ := isSome_mergedTable_row.mp hsome
    · obtain ⟨row, hrow, hk⟩ := List.mem_map.mp hmem
      rw [(get?_primaryByUpper hkeys).mpr ⟨row, hrow, hk, rfl⟩] at hnone
      cases hnone
    · obtain ⟨legacyRow', -, hentry⟩ := exists_of_mem_right hes he'
      rcases canonical_key (stripText_legacyId _) hids hentry.1 with h | ⟨-, -, -, n, -, hfi⟩
      · -- the other row has the same numeral, so it has the same id
        have hsame : legacyId py legacyRow' = legacyId py legacyRow :=
          hdigits _ _ hdigit (h.symm.trans hkey)
        have hcanonical := hentry.1
        rw [hsame] at hcanonical
        rw [Except.ok.inj (he.1.symm.trans hcanonical)]
        exact hkey
      · rw [← hkey, hids _ _ hfi, hfi] at hnone
        cases hnone

include hkeys hes hkeyed in
/-- In a second merge a legacy row is put where it was put in the first. -/
theorem canonical_again (hdigits : DigitsUncased py) {legacyRow : JsonObj} {e : LegacyEntry}
    (he : IsEntry py (primaryByUpper py rows) legacyRow e) (hmem : e ∈ es) :
    ∃ taskId, canonicalLegacyFeishuTaskId py (legacyId py legacyRow)
          (primaryByUpper py (rowsOf (mergedTable py rows es))) = .ok taskId ∧
        py.upper taskId = py.upper e.taskId ∧
        ∀ row, (mergedTable py rows es).row (py.upper e.taskId) = some row →
          taskId = taskIdText row := by
  have hids := upper_of_get? hkeys
  have hstrip : stripText py (legacyId py legacyRow) = legacyId py legacyRow :=
    stripText_legacyId legacyRow
  -- the row of `e` is in the table, if it has a key
  have hplaced (hne : py.upper e.taskId ≠ "") :
      ∃ row, (mergedTable py rows es).row (py.upper e.taskId) = some row :=
    Option.isSome_iff_exists.mp (isSome_mergedTable_row.mpr ⟨hne, .inr ⟨e, hmem, rfl⟩⟩)
  by_cases hempty : legacyId py legacyRow = ""
  · have hid := he.1.symm.trans (canonical_of_empty hstrip hempty)
    refine ⟨"", canonical_of_empty hstrip hempty, by rw [Except.ok.inj hid], fun row hrow => ?_⟩
    rw [Except.ok.inj hid, upper_empty] at hrow
    exact absurd rfl (hkeyed _ _ hrow).2
  · cases hrow : (mergedTable py rows es).row (py.upper (legacyId py legacyRow)) with
    | some row =>
      have hkey : py.upper e.taskId = py.upper (legacyId py legacyRow) :=
        upper_eq_of_isSome hkeys hes hdigits he (hrow ▸ rfl)
      refine ⟨taskIdText row, canonical_of_primary hstrip hempty
        ((get?_again hkeyed).mpr ⟨row, hrow, rfl⟩), ?_, fun row' hrow' => ?_⟩
      · exact (hkeyed _ _ hrow).1.trans hkey.symm
      · rw [hkey, hrow] at hrow'
        cases hrow'
        rfl
    | none =>
      have hnone : Dict.get? (primaryByUpper py (rowsOf (mergedTable py rows es)))
          (py.upper (legacyId py legacyRow)) = none := by
        cases hget : Dict.get? (primaryByUpper py (rowsOf (mergedTable py rows es)))
            (py.upper (legacyId py legacyRow)) with
        | none => rfl
        | some v =>
          obtain ⟨row, hrow', -⟩ := (get?_again hkeyed).mp hget
          cases hrow.symm.trans hrow'
      rcases canonical_key hstrip hids he.1 with hkey | ⟨-, -, hdigit, n, hn, hfi⟩
      · -- without a row the key is empty, and a numeral has a key
        have hkempty : py.upper e.taskId = "" := by
          by_contra hne
          obtain ⟨row, hrow'⟩ := hplaced hne
          rw [hkey, hrow] at hrow'
          cases hrow'
        have htext : ¬ isDigits py (legacyId py legacyRow) = true := fun hdigit =>
          hempty (hdigits _ _ hdigit (upper_empty.trans (hkempty.symm.trans hkey))).symm
        refine ⟨_, canonical_of_text hstrip hempty hnone htext, hkey.symm, fun row hrow' => ?_⟩
        rw [hkey, hrow] at hrow'
        cases hrow'
      · have hkey := hids _ _ hfi
        obtain ⟨row, hrow'⟩ := hplaced (hkey ▸ upper_numeral_ne_empty n)
        have hget := (get?_again hkeyed).mpr ⟨row, hrow', rfl⟩
        have hcanonical := canonical_of_numeral hstrip hempty hnone hdigit hn
        rw [← hkey, hget] at hcanonical
        refine ⟨taskIdText row, hcanonical, (hkeyed _ _ hrow').1, fun row₂ hrow₂ => ?_⟩
        cases hrow'.symm.trans hrow₂
        rfl

end Again

theorem legacyKeys_eq {ids : Dict String String} {rows : List JsonObj} {es : List LegacyEntry}
    (hes : List.Forall₂ (IsEntry py ids) rows es) :
    (es.map fun e => py.upper e.taskId) = rows.map (legacyKey py ids) := by
  induction hes with
  | nil => rfl
  | cons he _ ih => rw [List.map_cons, List.map_cons, ih, legacyKey, he.1]

theorem legacyRows_eq {ids : Dict String String} {rows : List JsonObj} {es : List LegacyEntry}
    (hes : List.Forall₂ (IsEntry py ids) rows es) (k : String) :
    (es.filter fun e => py.upper e.taskId = k).map LegacyEntry.legacyRow
      = rows.filter fun row => legacyKey py ids row = k := by
  induction hes with
  | nil => rfl
  | @cons row e rows es he _ ih =>
    have hkey : legacyKey py ids row = py.upper e.taskId := by rw [legacyKey, he.1]
    by_cases hk : py.upper e.taskId = k
    · rw [List.filter_cons_of_pos (by simpa using hk), List.map_cons, ih, he.2.2,
        List.filter_cons_of_pos (by simpa [hkey] using hk)]
    · rw [List.filter_cons_of_neg (by simpa using hk), ih,
        List.filter_cons_of_neg (by simpa [hkey] using hk)]

/-! ## Lists item by item -/

theorem exists_forall₂ {α β γ : Type} {R : α → β → Prop} {R' : α → γ → Prop} {Q : β → γ → Prop}
    {l : List α} {m : List β} (h : List.Forall₂ R l m)
    (hstep : ∀ a ∈ l, ∀ b ∈ m, R a b → ∃ c, R' a c ∧ Q b c) :
    ∃ m', List.Forall₂ R' l m' ∧ List.Forall₂ Q m m' := by
  induction h with
  | nil => exact ⟨[], .nil, .nil⟩
  | cons hab _ ih =>
    obtain ⟨c, hac, hbc⟩ := hstep _ List.mem_cons_self _ List.mem_cons_self hab
    obtain ⟨m', hl, hm⟩ := ih fun a ha b hb =>
      hstep a (List.mem_cons_of_mem _ ha) b (List.mem_cons_of_mem _ hb)
    exact ⟨c :: m', .cons hac hl, .cons hbc hm⟩

theorem forall₂_filterMap {α β : Type} {R : β → β → Prop} {f g : α → Option β} {ks : List α}
    (h : ∀ k ∈ ks, ∃ a b, f k = some a ∧ g k = some b ∧ R a b) :
    List.Forall₂ R (ks.filterMap f) (ks.filterMap g) := by
  induction ks with
  | nil => exact .nil
  | cons k ks ih =>
    obtain ⟨⟨a, b, ha, hb, hab⟩, hrest⟩ := List.forall_mem_cons.mp h
    rw [List.filterMap_cons_some ha, List.filterMap_cons_some hb]
    exact .cons hab (ih hrest)

theorem forall₂_iff {α β : Type} {R S : α → β → Prop} {C : α → Prop} {l : List α} {m : List β}
    (h : List.Forall₂ R l m) (hiff : ∀ a b, R a b → (S a b ↔ C a)) :
    List.Forall₂ S l m ↔ ∀ a ∈ l, C a := by
  induction h with
  | nil => exact iff_of_true .nil fun a ha => by cases ha
  | cons hab _ ih => rw [List.forall₂_cons, List.forall_mem_cons, hiff _ _ hab, ih]

/-! ## The first merge -/

/-- Legacy rows that `int` reads have ids. -/
theorem exists_entry {ids : Dict String String} {row : JsonObj}
    (h : isDigits py (legacyId py row) = true →
      Dict.get? ids (py.upper (legacyId py row)) = none →
        (py.intOfStr (legacyId py row)).isSome) :
    ∃ e, IsEntry py ids row e := by
  have hstrip : stripText py (legacyId py row) = legacyId py row := stripText_legacyId row
  have hentry {taskId : String}
      (hid : canonicalLegacyFeishuTaskId py (legacyId py row) ids = .ok taskId) :
      ∃ e, IsEntry py ids row e := ⟨⟨taskId, legacyId py row, row⟩, hid, rfl, rfl⟩
  by_cases hempty : legacyId py row = ""
  · exact hentry (canonical_of_empty hstrip hempty)
  · cases hget : Dict.get? ids (py.upper (legacyId py row)) with
    | some primaryId => exact hentry (canonical_of_primary hstrip hempty hget)
    | none =>
      by_cases hdigits : isDigits py (legacyId py row) = true
      · obtain ⟨n, hn⟩ := Option.isSome_iff_exists.mp (h hdigits hget)
        exact hentry (canonical_of_numeral hstrip hempty hget hdigits hn)
      · exact hentry (canonical_of_text hstrip hempty hget hdigits)

theorem exists_entries {rows legacyRows : List JsonObj} (hkeys : (rows.map (rowKey py)).Nodup)
    (h : NumeralsRead py rows legacyRows) :
    ∃ es, List.Forall₂ (IsEntry py (primaryByUpper py rows)) legacyRows es := by
  have hself : List.Forall₂ (fun _ _ => True) legacyRows legacyRows :=
    List.forall₂_same.mpr fun _ _ => trivial
  obtain ⟨es, hes, -⟩ := exists_forall₂ (Q := fun _ _ => True) hself fun row hrow _ _ _ => by
    have hentry : ∃ e, IsEntry py (primaryByUpper py rows) row e :=
      exists_entry fun hdigits hnone => h row hrow hdigits fun hmem => by
        obtain ⟨p, hp, hk⟩ := List.mem_map.mp hmem
        rw [(get?_primaryByUpper hkeys).mpr ⟨p, hp, hk, rfl⟩] at hnone
        cases hnone
    exact hentry.imp fun e he => ⟨he, trivial⟩
  exact ⟨es, hes⟩

/-! ## The second merge -/

theorem sameFields_iff {legacyRows : List JsonObj} {row row' : JsonObj}
    (h : Filled legacyRows row row') :
    SameFields row row' ↔ ∀ field ∈ metricFields, isBlank (getD row field .null) = true →
      firstValue legacyRows field = none := by
  constructor
  · intro hsame field hfield hblank
    have hfilled := h field
    rw [if_pos ⟨hfield, hblank⟩, hsame field] at hfilled
    cases hvalue : firstValue legacyRows field with
    | none => rfl
    | some v =>
      have hget : row.get? field = some v := by rw [hfilled, hvalue, Option.some_or]
      have hfind : (legacyRows.map fun row => getD row field .null).find? (fun v => !isBlank v)
          = some v := hvalue
      have hv : (!isBlank v) = true := by simpa using List.find?_some hfind
      rw [getD, hget, Option.getD_some] at hblank
      rw [hblank] at hv
      cases hv
  · intro hnone field
    rw [h field]
    split
    case isTrue hfield => rw [hnone field hfield.1 hfield.2, Option.none_or]
    case isFalse => rfl

/-- The entry of the second merge for an entry of the first. -/
def IsAgain (py : Python) (t : Upserts.Table String JsonObj) (e e' : LegacyEntry) : Prop :=
  py.upper e'.taskId = py.upper e.taskId ∧
    (∀ row, t.row (py.upper e.taskId) = some row → e' = LegacyRowLemmas.withTaskId
      (taskIdText row) e)

theorem upper_of_again {t : Upserts.Table String JsonObj} {es es' : List LegacyEntry}
    (h : List.Forall₂ (IsAgain py t) es es') :
    (es'.map fun e => py.upper e.taskId) = es.map fun e => py.upper e.taskId := by
  induction h with
  | nil => rfl
  | cons he _ ih => rw [List.map_cons, List.map_cons, ih, he.1]

theorem filter_of_again {t : Upserts.Table String JsonObj} {es es' : List LegacyEntry}
    (h : List.Forall₂ (IsAgain py t) es es') {k : String} {row : JsonObj}
    (hrow : t.row k = some row) :
    (es'.filter fun e => py.upper e.taskId = k)
      = (es.filter fun e => py.upper e.taskId = k).map
        (LegacyRowLemmas.withTaskId (taskIdText row)) := by
  induction h with
  | nil => rfl
  | @cons e e' es es' he _ ih =>
    by_cases hk : py.upper e.taskId = k
    · rw [List.filter_cons_of_pos (by simpa using he.1.trans hk),
        List.filter_cons_of_pos (by simpa using hk), List.map_cons, ih, ← he.2 row (hk ▸ hrow)]
    · rw [List.filter_cons_of_neg (by simpa [he.1] using hk),
        List.filter_cons_of_neg (by simpa using hk), ih]

section Second

variable {rows legacyRows : List JsonObj} {es es' : List LegacyEntry}
  (hkeyed : WellKeyed py (mergedTable py rows es))
  (hagain : List.Forall₂ (IsAgain py (mergedTable py rows es)) es es')

include hkeyed in
theorem nodup_rowsOf : ((rowsOf (mergedTable py rows es)).map (rowKey py)).Nodup := by
  have hord : (mergedTable py rows es).Ordered := ordered_mergedTable rows es
  rw [map_rowKey_rowsOf hord hkeyed]
  exact hord.nodup

include hkeyed hagain in
/-- A second merge has the keys of the first. -/
theorem order_again : (mergedTable py (rowsOf (mergedTable py rows es)) es').order
    = (mergedTable py rows es).order := by
  have hord : (mergedTable py rows es).Ordered := ordered_mergedTable rows es
  have hne : (mergedTable py rows es).order.filter (· ≠ "") = (mergedTable py rows es).order :=
    List.filter_eq_self.mpr fun k hk => by
      obtain ⟨row, hrow⟩ := Option.isSome_iff_exists.mp ((hord.mem_iff k).mp hk)
      exact decide_eq_true (hkeyed k row hrow).2
  rw [order_mergedTable, map_rowKey_rowsOf hord hkeyed, hne, upper_of_again hagain]
  refine Upserts.Table.eraseDups_append_of_subset hord.nodup fun k hk => ?_
  obtain ⟨hk, hne⟩ := List.mem_filter.mp hk
  rw [hord.mem_iff]
  exact isSome_mergedTable_row.mpr ⟨of_decide_eq_true hne, .inr (List.mem_map.mp hk)⟩

include hkeyed hagain in
/-- What a second merge makes of a row. -/
theorem row_again {k : String} {row : JsonObj}
    (hrow : (mergedTable py rows es).row k = some row) :
    ∃ row', (mergedTable py (rowsOf (mergedTable py rows es)) es').row k = some row' ∧
      (IsLive row → Filled ((es.filter fun e => py.upper e.taskId = k).map
        LegacyEntry.legacyRow) row row') ∧
      (¬ IsLive row → SameFields row row') := by
  obtain ⟨hk, hne⟩ := hkeyed k row hrow
  have hmem : row ∈ rowsOf (mergedTable py rows es) :=
    (mem_rowsOf (ordered_mergedTable rows es) hkeyed).mpr (hk ▸ hrow)
  have hprimary : (primaryTable py (rowsOf (mergedTable py rows es))).row k = some row := by
    subst hk
    exact primaryUpserts_row (nodup_rowsOf hkeyed) hmem hne
  rw [mergedTable_row _ _ hne, hprimary, filter_of_again hagain hrow]
  rw [mergedTable_row _ _ hne] at hrow
  exact mergeInto_again hrow

end Second

/-- The legacy rows have entries in the second merge, at the keys that they had. -/
theorem exists_again (hdigits : DigitsUncased py) {rows legacyRows : List JsonObj}
    {es : List LegacyEntry} (hkeys : (rows.map (rowKey py)).Nodup)
    (hes : List.Forall₂ (IsEntry py (primaryByUpper py rows)) legacyRows es)
    (hkeyed : WellKeyed py (mergedTable py rows es)) :
    ∃ es', List.Forall₂ (IsEntry py (primaryByUpper py (rowsOf (mergedTable py rows es))))
        legacyRows es' ∧
      List.Forall₂ (IsAgain py (mergedTable py rows es)) es es' := by
  refine exists_forall₂ hes fun legacyRow _ e he hentry => ?_
  obtain ⟨taskId, hcanonical, hupper, hid⟩ :=
    canonical_again hkeys hes hkeyed hdigits hentry he
  refine ⟨⟨taskId, e.legacyTaskId, e.legacyRow⟩, ⟨hcanonical, hentry.2⟩, hupper, fun row hrow => ?_⟩
  rw [hid row hrow]
  rfl

/-! ## Texts in ASCII -/

theorem isDigit_iff_toNat {c : Char} : c.isDigit = true ↔ 48 ≤ c.val.toNat ∧ c.val.toNat ≤ 57 := by
  rw [Char.isDigit, Bool.and_eq_true, decide_eq_true_iff, decide_eq_true_iff,
    ge_iff_le, UInt32.le_iff_toNat_le, UInt32.le_iff_toNat_le]
  rfl

/-- No letter becomes a digit. -/
theorem eq_of_toUpper_eq {c d : Char} (hd : d.isDigit = true) (h : c.toUpper = d.toUpper) :
    c = d := by
  obtain ⟨hlow, hhigh⟩ := isDigit_iff_toNat.mp hd
  have hupper {x : Char} (hx : ¬ ('a'.val ≤ x.val ∧ x.val ≤ 'z'.val)) : x.toUpper = x := dif_neg hx
  have hdigit : ¬ ('a'.val ≤ d.val ∧ d.val ≤ 'z'.val) := by
    rintro ⟨ha, -⟩
    exact absurd ((UInt32.le_iff_toNat_le.mp ha).trans hhigh) (by decide)
  rw [hupper hdigit] at h
  by_cases hc : 'a'.val ≤ c.val ∧ c.val ≤ 'z'.val
  · have hletter : c.toUpper = _ := dif_pos hc
    have hval : d.val = c.val + ('A'.val - 'a'.val) := by
      rw [← h, hletter]
    have hn := congrArg UInt32.toNat hval
    rw [UInt32.toNat_add, show ('A'.val - 'a'.val : UInt32).toNat = 2 ^ 32 - 32 from rfl] at hn
    have h97 : 97 ≤ c.val.toNat := UInt32.le_iff_toNat_le.mp hc.1
    have h122 : c.val.toNat ≤ 122 := UInt32.le_iff_toNat_le.mp hc.2
    omega
  · rw [← h, hupper hc]

/-- A numeral is `upper` of itself alone. -/
theorem digitsUncased_ascii : DigitsUncased asciiPython := by
  intro s t hs h
  have hall : ∀ d ∈ s.toList, d.isDigit = true :=
    List.all_eq_true.mp (Bool.and_eq_true_iff.mp hs).2
  have hmap : t.toList.map Char.toUpper = s.toList.map Char.toUpper :=
    String.toList_ofList.symm.trans ((congrArg String.toList h).trans String.toList_ofList)
  refine String.toList_inj.mp ?_
  generalize s.toList = ds at hall hmap
  generalize t.toList = cs at hmap
  induction ds generalizing cs with
  | nil => exact List.map_eq_nil_iff.mp hmap
  | cons d ds ih =>
    cases cs with
    | nil => cases hmap
    | cons c cs =>
      obtain ⟨hcd, hrest⟩ := List.cons.inj hmap
      obtain ⟨hd, hds⟩ := List.forall_mem_cons.mp hall
      rw [eq_of_toUpper_eq hd hcd, ih hds cs hrest]

end LegacyLawLemmas

open LegacyLawLemmas LegacyMergeLemmas

/-- With primary rows of different keys and numerals that `int` reads, a merge without a filter has
one row for each key and keeps live rows, in dictionaries of its own; a second merge of the same
legacy rows changes nothing but empty metrics of live rows, which take the first value of a legacy
row of this key. -/
theorem merge_keeps_live_rows (py : Python) (hdigits : DigitsUncased py) (h : Heap)
    (primary legacy : List Ref) (hprimary : ∀ r ∈ primary, r < h.length)
    (hlegacy : ∀ r ∈ legacy, r < h.length)
    (hkeys : ((rowsAt h primary).map (rowKey py)).Nodup)
    (hnumerals : NumeralsRead py (rowsAt h primary) (rowsAt h legacy)) :
    ∃ h₁ rows, mergeLegacyFeishuRows py h primary legacy none = .ok (h₁, rows) ∧
      Merged py h primary legacy h₁ rows ∧
      ∃ h₂ rows₂, mergeLegacyFeishuRows py h₁ rows legacy none = .ok (h₂, rows₂) ∧
        MergedAgain py h primary legacy h₁ rows h₂ rows₂ := by
  obtain ⟨es, hes⟩ := exists_entries hkeys hnumerals
  obtain ⟨h₁, rows, hmerge, hrows, hkeyed, hgrows, hinputs, hfresh⟩ :=
    merge_eq hprimary hlegacy hkeys hes
  have hord : (mergedTable py (rowsAt h primary) es).Ordered := ordered_mergedTable _ es
  have hkeys₁ : ((rowsAt h₁ rows).map (rowKey py)).Nodup := hrows ▸ nodup_rowsOf hkeyed
  refine ⟨h₁, rows, hmerge, ⟨?_, hkeys₁, fun p hp hne hlive => ?_, hinputs⟩, ?_⟩
  · rw [hrows, map_rowKey_rowsOf hord hkeyed, order_mergedTable, legacyKeys_eq hes]
  · obtain ⟨q, hq, hfilled⟩ := LegacyRowLemmas.mergeInto_live hlive
      (es.filter fun e => py.upper e.taskId = rowKey py p)
    have hrow : (mergedTable py (rowsAt h primary) es).row (rowKey py p) = some q := by
      rw [mergedTable_row _ _ hne, primaryTable, primaryUpserts_row hkeys hp hne, hq]
    rw [legacyRows_eq hes] at hfilled
    have hk := (hkeyed _ _ hrow).1
    exact ⟨q, hrows ▸ (mem_rowsOf hord hkeyed).mpr (hk ▸ hrow), hk, hfilled⟩
  · have hlegacyRows : rowsAt h₁ legacy = rowsAt h legacy :=
      List.map_congr_left fun r hr => by rw [deref, deref, hinputs r (hlegacy r hr)]
    obtain ⟨es', hes', hagain⟩ := exists_again hdigits hkeys hes hkeyed
    rw [← hrows, ← hlegacyRows] at hes'
    obtain ⟨h₂, rows₂, hmerge₂, hrows₂, hkeyed₂, -, hinputs₂, -⟩ :=
      merge_eq hfresh (fun r hr => (hlegacy r hr).trans_le hgrows) hkeys₁ hes'
    have hpairs : List.Forall₂ (fun q q' => rowKey py q' = rowKey py q ∧
        (IsLive q → Filled (mappedTo py (rowsAt h primary) (rowsAt h legacy) (rowKey py q)) q q') ∧
        (¬ IsLive q → SameFields q q')) (rowsAt h₁ rows) (rowsAt h₂ rows₂) := by
      rw [hrows] at hrows₂ hkeyed₂
      have hsecond : rowsAt h₂ rows₂ = (mergedTable py (rowsAt h primary) es).order.filterMap
          (mergedTable py (rowsOf (mergedTable py (rowsAt h primary) es)) es').row :=
        hrows₂.trans (congrArg (List.filterMap _) (order_again hkeyed hagain))
      rw [hsecond, hrows, rowsOf]
      refine forall₂_filterMap fun k hk => ?_
      obtain ⟨q, hq⟩ := Option.isSome_iff_exists.mp ((hord.mem_iff k).mp hk)
      obtain ⟨q', hq', hlive, hwaiting⟩ := row_again hkeyed hagain hq
      rw [legacyRows_eq hes] at hlive
      obtain ⟨rfl, -⟩ := hkeyed k q hq
      exact ⟨q, q', hq, hq', (hkeyed₂ _ q' hq').1, hlive, hwaiting⟩
    refine ⟨h₂, rows₂, hmerge₂, hpairs, forall₂_iff hpairs fun q q' hq => ?_, hinputs₂⟩
    by_cases hlive : IsLive q
    · rw [sameFields_iff (hq.2.1 hlive)]
      exact ⟨fun hnone _ => hnone, fun hnone => hnone hlive⟩
    · exact iff_of_true (hq.2.2 hlive) fun h => absurd h hlive

/-- A live primary row, and two legacy rows that are mapped to it. -/
def liveRow : Heap :=
  [[("Task ID", .str "FI-007"), ("_raw_status", .str "running"), ("Speedup", .null)],
    [("Task ID", .str "7"), ("Speedup", .str "")],
    [("Task ID", .str "fi-007"), ("Speedup", .int 2)]]

theorem merge_keeps_live_rows_one :
    NumeralsRead asciiPython (rowsAt liveRow [0]) (rowsAt liveRow [1, 2]) ∧
      ∃ h₁ rows, mergeLegacyFeishuRows asciiPython liveRow [0] [1, 2] none = .ok (h₁, rows) ∧
        Merged asciiPython liveRow [0] [1, 2] h₁ rows ∧
        ∃ h₂ rows₂, mergeLegacyFeishuRows asciiPython h₁ rows [1, 2] none = .ok (h₂, rows₂) ∧
          MergedAgain asciiPython liveRow [0] [1, 2] h₁ rows h₂ rows₂ := by
  have hnumerals : NumeralsRead asciiPython (rowsAt liveRow [0]) (rowsAt liveRow [1, 2]) := by
    unfold NumeralsRead
    decide
  exact ⟨hnumerals, merge_keeps_live_rows asciiPython digitsUncased_ascii liveRow [0] [1, 2]
    (by decide) (by decide) (by decide) hnumerals⟩

/-- Two legacy rows of one task: a waiting one with a metric, and a live one without. -/
def lostMetric : Heap :=
  [[("Task ID", .str "7"), ("_raw_status", .str "pending"), ("Speedup", .int 2)],
    [("Task ID", .str "7"), ("_raw_status", .str "legacy_running"), ("Speedup", .null)]]

/-- An interpreter that counts a superscript among the digits, though `int` does not read it. -/
def superscriptPython : Python :=
  { asciiPython with
    isDigit := fun c => c.isDigit || c = '²'
    isDigit_ascii := fun c hc => by
      have hne : c ≠ '²' := by
        rintro rfl
        exact absurd hc (by decide)
      rw [decide_eq_false hne, Bool.or_false] }

/-- The metric of the row that is replaced is lost in the first merge and comes back in the
second; and a legacy id that only looks like a numeral makes a merge fail. -/
theorem second_merge_changes_metric :
    (∃ h₁ rows h₂ rows₂,
      mergeLegacyFeishuRows asciiPython lostMetric [] [0, 1] none = .ok (h₁, rows) ∧
      mergeLegacyFeishuRows asciiPython h₁ rows [0, 1] none = .ok (h₂, rows₂) ∧
      ¬ List.Forall₂ SameFields (rowsAt h₁ rows) (rowsAt h₂ rows₂)) ∧
    ∃ e, mergeLegacyFeishuRows superscriptPython [[("Task ID", .str "²")]] [] [0] none
      = .error e := by
  refine ⟨⟨_, _, _, _, rfl, rfl, fun h => ?_⟩, _, rfl⟩
  cases h with
  | cons hsame _ =>
    have hspeedup : some (Json.int 2) = some Json.null := hsame "Speedup"
    cases hspeedup

end Scripts
