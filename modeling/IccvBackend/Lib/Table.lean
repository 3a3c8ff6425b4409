/-
Module: IccvBackend.Lib.Table
Purpose: Tables as lists of rows: the row of a key, the update of the row of a key, and what both
  leave alone.
Trusted boundary: none
Main exports: lookup, updateKey, deleteKey, lookup_eq_some_iff, mem_updateKey, lookup_updateKey,
  find?_updateKey, filter_map_of_fixed
-/
import IccvBackend.Lib.Keyed

namespace IccvBackend.Lib

/-!
`findUnique`, `update` and `delete` of a table by its primary key.  An update never changes the key,
which the lemmas take as `same_key`.
-/

variable {ρ κ : Type*} [DecidableEq κ] {key : ρ → κ} {f : ρ → ρ} {rows : List ρ} {k : κ} {row : ρ}

/-- `findUnique`. -/
def lookup (key : ρ → κ) (k : κ) (rows : List ρ) : Option ρ :=
  rows.find? fun row => key row = k

/-- `update` of the row of a key. -/
def updateKey (key : ρ → κ) (k : κ) (f : ρ → ρ) (rows : List ρ) : List ρ :=
  rows.map fun row => if key row = k then f row else row

/-- `delete` of the row of a key. -/
def deleteKey (key : ρ → κ) (k : κ) (rows : List ρ) : List ρ :=
  rows.filter fun row => key row ≠ k

theorem lookup_mem (found : lookup key k rows = some row) : row ∈ rows :=
  List.mem_of_find?_eq_some found

theorem lookup_key (found : lookup key k rows = some row) : key row = k := by
  simpa using List.find?_some found

theorem lookup_isSome_of_mem (key : ρ → κ) (mem : row ∈ rows) :
    (lookup key (key row) rows).isSome := by
  rw [lookup, List.find?_isSome]
  exact ⟨row, mem, decide_eq_true rfl⟩

/-- In a table without repeated keys, the row of a key is the one that carries it. -/
theorem lookup_eq_some_iff (nodup : (rows.map key).Nodup) :
    lookup key k rows = some row ↔ row ∈ rows ∧ key row = k := by
  constructor
  · exact fun found => ⟨lookup_mem found, lookup_key found⟩
  · rintro ⟨mem, rfl⟩
    obtain ⟨other, found⟩ :=
      Option.isSome_iff_exists.mp (lookup_isSome_of_mem key mem)
    rw [found, List.inj_on_of_nodup_map nodup (lookup_mem found) mem (lookup_key found)]

theorem lookup_eq_none_iff : lookup key k rows = none ↔ ∀ row ∈ rows, key row ≠ k := by
  simp [lookup]

/-- A row after the update is the new version of the row of the key, or another row as it was. -/
theorem mem_updateKey :
    row ∈ updateKey key k f rows ↔
      (∃ old ∈ rows, key old = k ∧ row = f old) ∨ (row ∈ rows ∧ key row ≠ k) := by
  simp only [updateKey, List.mem_map]
  constructor
  · rintro ⟨old, mem, same⟩
    by_cases here : key old = k
    · exact .inl ⟨old, mem, here, by rw [← same, if_pos here]⟩
    · rw [if_neg here] at same
      exact .inr ⟨same ▸ mem, same ▸ here⟩
  · rintro (⟨old, mem, here, same⟩ | ⟨mem, other⟩)
    · exact ⟨old, mem, by rw [if_pos here, same]⟩
    · exact ⟨row, mem, if_neg other⟩

theorem mem_deleteKey : row ∈ deleteKey key k rows ↔ row ∈ rows ∧ key row ≠ k := by
  simp [deleteKey]

theorem map_updateKey {β : Type*} {g : ρ → β}
    (same : ∀ row ∈ rows, key row = k → g (f row) = g row) :
    (updateKey key k f rows).map g = rows.map g := by
  rw [updateKey, List.map_map]
  refine List.map_congr_left fun row mem => ?_
  by_cases here : key row = k
  · simpa [here] using same row mem here
  · simp [here]

/-- A key that the new rows keep stays one. -/
theorem nodup_updateKey {β : Type*} {g : ρ → β} (same : ∀ row, g (f row) = g row)
    (nodup : (rows.map g).Nodup) : ((updateKey key k f rows).map g).Nodup := by
  rwa [map_updateKey fun row _ _ => same row]

theorem lookup_updateKey (same_key : ∀ row, key (f row) = key row) (other : κ) :
    lookup key other (updateKey key k f rows) =
      if other = k then (lookup key k rows).map f else lookup key other rows := by
  induction rows with
  | nil => simp [lookup, updateKey]
  | cons row rows ih =>
      simp only [lookup, updateKey, List.map_cons, List.find?_cons] at ih ⊢
      by_cases here : key row = k
      · by_cases there : other = k
        · simp [here, there, same_key]
        · have apart : k ≠ other := fun same => there same.symm
          simpa [here, there, apart, same_key] using ih
      · by_cases there : other = k
        · simpa [here, there] using ih
        · by_cases mine : key row = other
          · simp [there, mine]
          · simpa [here, there, mine] using ih

/-- A search that an update does not disturb finds the row it found, updated or not. -/
theorem find?_updateKey {p : ρ → Bool} (same : ∀ row, p (f row) = p row) :
    (updateKey key k f rows).find? p =
      (rows.find? p).map fun row => if key row = k then f row else row := by
  have undisturbed : p ∘ (fun row => if key row = k then f row else row) = p := by
    funext row
    simp only [Function.comp]
    split
    · exact same row
    · rfl
  rw [updateKey, List.find?_map, undisturbed]

/-- A rewriting of rows outside a selection leaves the selection as it was. -/
theorem filter_map_of_fixed {p : ρ → Bool} (same : ∀ row, p (f row) = p row)
    (fixed : ∀ row, p row → f row = row) (rows : List ρ) :
    (rows.map f).filter p = rows.filter p := by
  rw [List.filter_map, show p ∘ f = p from funext same]
  refine (List.map_congr_left fun row mem => ?_).trans (List.map_id _)
  exact fixed row (List.mem_filter.mp mem).2

/-- The same of the rows of one table. -/
theorem filter_map_of_fixed_mem {p : ρ → Bool} (same : ∀ row, p (f row) = p row)
    (fixed : ∀ row ∈ rows, p row → f row = row) : (rows.map f).filter p = rows.filter p := by
  rw [List.filter_map, show p ∘ f = p from funext same]
  apply (List.map_congr_left fun row mem => ?_).trans (List.map_id _)
  have picked := List.mem_filter.mp mem
  exact fixed row picked.1 picked.2

/-- The only row of its key. -/
theorem filter_key_eq_singleton (nodup : (rows.map key).Nodup) (mem : row ∈ rows) :
    rows.filter (fun other => key other = key row) = [row] := by
  induction rows with
  | nil => cases mem
  | cons first rest ih =>
      rw [List.map_cons, List.nodup_cons] at nodup
      rcases List.mem_cons.mp mem with rfl | later
      · rw [List.filter_cons_of_pos (by simp), List.filter_eq_nil_iff.mpr]
        intro other there same
        apply nodup.1
        rw [← of_decide_eq_true same]
        exact List.mem_map_of_mem there
      · have apart : key first ≠ key row := by
          intro same
          apply nodup.1
          rw [same]
          exact List.mem_map_of_mem later
        rw [List.filter_cons_of_neg (by simpa using apart), ih nodup.2 later]

end IccvBackend.Lib
