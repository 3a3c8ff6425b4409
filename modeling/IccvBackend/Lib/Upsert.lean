/-
Module: IccvBackend.Lib.Upsert
Purpose: A table written by `upsert` and `deleteMany` is a map: what a lookup gives after each.
Trusted boundary: none
Main exports: upsert, lookup_upsert, nodup_upsert, lookup_foldl_upsert, lookup_filter_key,
  lookup_deleteKey
-/
import IccvBackend.Lib.Table

namespace IccvBackend.Lib

variable {ρ κ : Type*} [DecidableEq κ] {key : ρ → κ} {rows : List ρ} {k other : κ} {row : ρ}

/-- `upsert` of a whole row, under its key. -/
def upsert (key : ρ → κ) (row : ρ) (rows : List ρ) : List ρ :=
  if (lookup key (key row) rows).isSome then updateKey key (key row) (fun _ => row) rows
  else rows ++ [row]

/-- A row that takes the place of the one of its key. -/
theorem lookup_replace (row : ρ) (rows : List ρ) (other : κ) :
    lookup key other (updateKey key (key row) (fun _ => row) rows) =
      if other = key row then (lookup key other rows).map fun _ => row
      else lookup key other rows := by
  induction rows with
  | nil => simp [lookup, updateKey]
  | cons first rows ih =>
      simp only [lookup, updateKey, List.map_cons, List.find?_cons] at ih ⊢
      by_cases here : key first = key row
      · by_cases there : other = key row
        · simp [here, there]
        · have apart : key row ≠ other := fun same => there same.symm
          simpa [here, there, apart] using ih
      · by_cases there : other = key row
        · have apart : key first ≠ other := fun same => here (same.trans there)
          simpa [here, there, apart] using ih
        · by_cases mine : key first = other
          · simp [there, mine]
          · simpa [here, there, mine] using ih

/-- After an `upsert` the key has its row, and the others what they had. -/
theorem lookup_upsert (row : ρ) (rows : List ρ) (other : κ) :
    lookup key other (upsert key row rows) =
      if other = key row then some row else lookup key other rows := by
  unfold upsert
  split
  · rename_i known
    rw [lookup_replace]
    by_cases same : other = key row
    · obtain ⟨old, found⟩ := Option.isSome_iff_exists.mp known
      rw [if_pos same, if_pos same, same, found]
      rfl
    · rw [if_neg same, if_neg same]
  · rename_i unknown
    by_cases same : other = key row
    · subst same
      have absent : lookup key (key row) rows = none := by simpa using unknown
      simp only [lookup] at absent ⊢
      simp [List.find?_append, absent]
    · have apart : ¬ key row = other := fun h => same h.symm
      simp [lookup, List.find?_append, same, apart]

theorem nodup_upsert (row : ρ) (nodup : (rows.map key).Nodup) :
    ((upsert key row rows).map key).Nodup := by
  unfold upsert
  split
  · rwa [map_updateKey fun _ _ same => same.symm]
  · rename_i unknown
    have absent : lookup key (key row) rows = none := by simpa using unknown
    rw [List.map_append, List.nodup_append]
    refine ⟨nodup, by simp, ?_⟩
    rintro _ old _ new rfl
    obtain ⟨other, mem, same⟩ := List.mem_map.mp old
    obtain rfl := by simpa using new
    exact lookup_eq_none_iff.mp absent other mem same

/-- After many, each key has the row that came for it, and the others what they had. -/
theorem lookup_foldl_upsert {news : List ρ} (nodup : (news.map key).Nodup) :
    lookup key k (news.foldl (fun rows row => upsert key row rows) rows) =
      (lookup key k news).or (lookup key k rows) := by
  induction news generalizing rows with
  | nil => rfl
  | cons row news ih =>
      rw [List.map_cons, List.nodup_cons] at nodup
      rw [List.foldl_cons, ih nodup.2, lookup_upsert]
      by_cases here : k = key row
      · have absent : lookup key k news = none := by
          rw [lookup_eq_none_iff]
          intro other mem same
          exact nodup.1 (here ▸ same ▸ List.mem_map_of_mem mem)
        have first : lookup key k (row :: news) = some row := by simp [lookup, here]
        rw [absent, first, if_pos here, Option.none_or, Option.some_or]
      · have apart : key row ≠ k := Ne.symm here
        have rest : lookup key k (row :: news) = lookup key k news := by simp [lookup, apart]
        rw [rest, if_neg here]

theorem nodup_foldl_upsert (news : List ρ) (nodup : (rows.map key).Nodup) :
    ((news.foldl (fun rows row => upsert key row rows) rows).map key).Nodup := by
  induction news generalizing rows with
  | nil => exact nodup
  | cons row news ih => exact ih (nodup_upsert row nodup)

/-- `deleteMany` by a condition on the key. -/
theorem lookup_filter_key (p : κ → Bool) (rows : List ρ) (k : κ) :
    lookup key k (rows.filter fun row => p (key row)) =
      if p k then lookup key k rows else none := by
  induction rows with
  | nil => simp [lookup]
  | cons first rows ih =>
      simp only [lookup] at ih ⊢
      by_cases here : key first = k
      · cases kept : p k <;> simp_all
      · cases stays : p (key first) <;> simp_all

theorem lookup_deleteKey (k other : κ) (rows : List ρ) :
    lookup key other (deleteKey key k rows) =
      if other = k then none else lookup key other rows := by
  have same : lookup key other (rows.filter fun row => decide (key row ≠ k)) = _ :=
    lookup_filter_key (fun key => decide (key ≠ k)) rows other
  by_cases mine : other = k <;> simp_all [deleteKey]

end IccvBackend.Lib
