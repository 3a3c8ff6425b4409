/-
Module: IccvBackend.Lib.Keyed
Purpose: Tables as lists of rows with a primary key below a counter that is never used twice, and
  sums over such rows.
Trusted boundary: none
Main exports: Keyed, Keyed.map, Keyed.append_fresh, Keyed.eq_of_key_eq, sum_map_le_of_map,
  sum_map_filter_add, sum_map_le_of_match, sum_map_eq_of_match
-/
import Mathlib.Data.List.Sort
import Mathlib.Data.List.Flatten
import Mathlib.Data.List.Perm.Subperm
import Mathlib.Algebra.Order.BigOperators.Group.List
import Mathlib.Algebra.Order.Ring.Int
import Mathlib.Algebra.Order.Ring.Nat

namespace IccvBackend.Lib

/-!
A database table with generated primary keys: no two rows share a key, and the generator hands out
keys that no row, present or deleted, ever had.  The generator is a counter here, so "never used
before" is "not below the counter".
-/

variable {ρ ρ' : Type*}

/-- The keys of `rows` are pairwise different and were all handed out before `next`. -/
structure Keyed (key : ρ → Nat) (next : Nat) (rows : List ρ) : Prop where
  nodup : (rows.map key).Nodup
  lt_next : ∀ row ∈ rows, key row < next

namespace Keyed

variable {key : ρ → Nat} {next next' : Nat} {rows rows' : List ρ}

theorem nil : Keyed key next [] := ⟨by simp, by simp⟩

theorem mono (keyed : Keyed key next rows) (le : next ≤ next') : Keyed key next' rows :=
  ⟨keyed.nodup, fun row mem => lt_of_lt_of_le (keyed.lt_next row mem) le⟩

theorem sublist (keyed : Keyed key next rows) (sub : rows'.Sublist rows) :
    Keyed key next rows' :=
  ⟨keyed.nodup.sublist (sub.map key), fun row mem => keyed.lt_next row (sub.subset mem)⟩

theorem filter (keyed : Keyed key next rows) (p : ρ → Bool) : Keyed key next (rows.filter p) :=
  keyed.sublist List.filter_sublist

theorem perm (keyed : Keyed key next rows) (same : rows'.Perm rows) : Keyed key next rows' :=
  ⟨(same.map key).nodup_iff.mpr keyed.nodup, fun row mem => keyed.lt_next row (same.mem_iff.mp mem)⟩

theorem subperm (keyed : Keyed key next rows) (sub : rows'.Subperm rows) :
    Keyed key next rows' := by
  obtain ⟨middle, same, sublist⟩ := sub
  exact (keyed.sublist sublist).perm same.symm

/-- A change of rows that leaves the keys alone, as every `UPDATE` does. -/
theorem map (keyed : Keyed key next rows) {f : ρ → ρ} (same_key : ∀ row, key (f row) = key row) :
    Keyed key next (rows.map f) := by
  have keys : (rows.map f).map key = rows.map key := by
    simp [List.map_map, Function.comp_def, same_key]
  refine ⟨keys ▸ keyed.nodup, ?_⟩
  intro row mem
  obtain ⟨old, old_mem, rfl⟩ := List.mem_map.mp mem
  exact same_key old ▸ keyed.lt_next old old_mem

/-- An `INSERT` under the next key. -/
theorem append_fresh (keyed : Keyed key next rows) {row : ρ} (fresh : key row = next) :
    Keyed key (next + 1) (rows ++ [row]) := by
  constructor
  · rw [List.map_append, List.nodup_append]
    refine ⟨keyed.nodup, by simp, ?_⟩
    intro k mem k' mem'
    obtain ⟨old, old_mem, rfl⟩ := List.mem_map.mp mem
    obtain rfl : k' = next := by simpa [fresh] using mem'
    exact (keyed.lt_next old old_mem).ne
  · intro r mem
    rcases List.mem_append.mp mem with old | new
    · exact Nat.lt_succ_of_lt (keyed.lt_next r old)
    · obtain rfl : r = row := by simpa using new
      simp [fresh]

/-- What one key contributes to a sum over the rows: its value once at most. -/
theorem sum_map_key_le (keyed : Keyed key next rows) (k value : Nat) :
    (rows.map fun row => if key row = k then value else 0).sum ≤ value := by
  have nodup := keyed.nodup
  clear keyed
  induction rows with
  | nil => exact Nat.zero_le _
  | cons row rows ih =>
      simp only [List.map_cons, List.nodup_cons] at nodup
      simp only [List.map_cons, List.sum_cons]
      by_cases here : key row = k
      · have others : (rows.map fun other => if key other = k then value else 0) =
            rows.map fun _ => 0 := by
          refine List.map_congr_left fun other mem => if_neg fun same => nodup.1 ?_
          exact List.mem_map.mpr ⟨other, mem, same.trans here.symm⟩
        simp [here, others]
      · simpa [here] using ih nodup.2

/-- The primary key identifies the row. -/
theorem eq_of_key_eq (keyed : Keyed key next rows) {a b : ρ} (ha : a ∈ rows) (hb : b ∈ rows)
    (same : key a = key b) : a = b :=
  List.inj_on_of_nodup_map keyed.nodup ha hb same

end Keyed

/-- The rows that carry the keys of some of the rows are those rows. -/
theorem filter_key_mem_perm {key : ρ → Nat} {rows part : List ρ} (nodup : (rows.map key).Nodup)
    (sub : part.Subperm rows) : (rows.filter fun row => key row ∈ part.map key).Perm part := by
  have part_nodup : part.Nodup := by
    obtain ⟨middle, same, sublist⟩ := sub
    exact same.nodup_iff.mp (nodup.of_map.sublist sublist)
  refine (List.perm_ext_iff_of_nodup (nodup.of_map.filter _) part_nodup).mpr fun row => ?_
  simp only [List.mem_filter, decide_eq_true_eq, List.mem_map]
  constructor
  · rintro ⟨mem, other, other_mem, same⟩
    exact List.inj_on_of_nodup_map nodup (sub.subset other_mem) mem same ▸ other_mem
  · exact fun mem => ⟨sub.subset mem, row, mem, rfl⟩

/-! ### Sums over rows -/

/-- Rewriting rows one by one so that no contribution grows does not grow the total. -/
theorem sum_map_le_of_map {f : ρ → ρ} {g : ρ → Nat} {rows : List ρ}
    (le : ∀ row ∈ rows, g (f row) ≤ g row) : ((rows.map f).map g).sum ≤ (rows.map g).sum := by
  rw [List.map_map]
  exact List.sum_le_sum le

/-- Deleting rows does not grow the total. -/
theorem sum_map_filter_le {g : ρ → Nat} (rows : List ρ) (p : ρ → Bool) :
    ((rows.filter p).map g).sum ≤ (rows.map g).sum := by
  induction rows with
  | nil => simp
  | cons row rows ih =>
      by_cases keep : p row
      · simpa [keep] using ih
      · simp only [keep, Bool.false_eq_true, not_false_eq_true, List.filter_cons_of_neg,
          List.map_cons, List.sum_cons]
        omega

/-- The kept and the dropped rows add up to all rows. -/
theorem sum_map_filter_add {M : Type*} [AddCommMonoid M] {g : ρ → M} (rows : List ρ)
    (p : ρ → Bool) :
    ((rows.filter p).map g).sum + ((rows.filter fun row => !p row).map g).sum =
      (rows.map g).sum := by
  induction rows with
  | nil => simp
  | cons row rows ih =>
      cases keep : p row with
      | true => simp [keep, ← ih, add_assoc]
      | false => simp [keep, ← ih, add_left_comm]

/-- Rows of one key contribute once. -/
theorem sum_map_le_of_same_key {key : ρ → Nat} {g : ρ → Int} {rows : List ρ} {k : Nat} {bound : Int}
    (nodup : (rows.map key).Nodup) (nonneg : 0 ≤ bound)
    (le : ∀ row ∈ rows, key row = k ∧ g row ≤ bound) : (rows.map g).sum ≤ bound := by
  cases rows with
  | nil => exact nonneg
  | cons row rest =>
      cases rest with
      | nil => simpa using (le row List.mem_cons_self).2
      | cons other rest =>
          have same : key row = key other :=
            (le row (by simp)).1.trans (le other (by simp)).1.symm
          simp [same] at nodup

/-- Rows that match rows of another table, key by key, and are worth no more than their matches are
worth no more altogether. -/
theorem sum_map_le_of_match {key : ρ → Nat} (key' : ρ' → Nat) {g : ρ → Int} {h : ρ' → Int}
    (others : List ρ') (nonneg : ∀ other ∈ others, 0 ≤ h other) :
    ∀ rows : List ρ, (rows.map key).Nodup →
      (∀ row ∈ rows, g row ≤ 0 ∨ ∃ other ∈ others, key row = key' other ∧ g row ≤ h other) →
        (rows.map g).sum ≤ (others.map h).sum := by
  induction others with
  | nil =>
      intro rows _ matched
      refine (List.sum_le_card_nsmul _ 0 fun x mem => ?_).trans_eq (nsmul_zero _)
      obtain ⟨row, row_mem, rfl⟩ := List.mem_map.mp mem
      exact (matched row row_mem).resolve_right fun ⟨_, absent, _⟩ => nomatch absent
  | cons other others ih =>
      intro rows nodup matched
      let here := fun row => decide (key row = key' other ∧ g row ≤ h other)
      have nodup_filter : ∀ p : ρ → Bool, ((rows.filter p).map key).Nodup :=
        fun p => nodup.sublist (List.filter_sublist.map key)
      have now : ((rows.filter here).map g).sum ≤ h other :=
        sum_map_le_of_same_key (nodup_filter here) (nonneg other List.mem_cons_self)
          fun row mem => of_decide_eq_true (List.mem_filter.mp mem).2
      have later : ((rows.filter fun row => !here row).map g).sum ≤ (others.map h).sum := by
        refine ih (fun t mem => nonneg t (List.mem_cons_of_mem _ mem)) _ (nodup_filter _) ?_
        intro row mem
        obtain ⟨row_mem, not_here⟩ := List.mem_filter.mp mem
        refine (matched row row_mem).imp_right ?_
        rintro ⟨t, t_mem, same, le⟩
        rcases List.mem_cons.mp t_mem with rfl | rest
        · simp [here, same, le] at not_here
        · exact ⟨t, rest, same, le⟩
      rw [← sum_map_filter_add rows here, List.map_cons, List.sum_cons]
      exact add_le_add now later

/-- Rows that match rows of another table one to one, key by key, and are worth what their matches
are worth, are worth the same altogether. -/
theorem sum_map_eq_of_match {M : Type*} [AddCommMonoid M] {key : ρ → Nat} {key' : ρ' → Nat}
    {g : ρ → M} {h : ρ' → M} :
    ∀ {rows : List ρ} {others : List ρ'}, (rows.map key).Nodup → (others.map key').Nodup →
      (∀ k, k ∈ rows.map key ↔ k ∈ others.map key') →
      (∀ row ∈ rows, ∀ other ∈ others, key row = key' other → g row = h other) →
        (rows.map g).sum = (others.map h).sum
  | [], [], _, _, _, _ => rfl
  | [], other :: others, _, _, same, _ => absurd ((same (key' other)).mpr (by simp)) (by simp)
  | row :: rows, others, nodup, nodup', same, worth => by
      obtain ⟨other, other_mem, matched⟩ := List.mem_map.mp ((same (key row)).mp (by simp))
      obtain ⟨before, after, rfl⟩ := List.append_of_mem other_mem
      have front : (before ++ other :: after).Perm (other :: (before ++ after)) :=
        List.perm_middle
      have nodup_front := (front.map key').nodup_iff.mp nodup'
      rw [List.map_cons, List.nodup_cons] at nodup nodup_front
      have rest := sum_map_eq_of_match (g := g) (h := h) nodup.2 nodup_front.2 ?_ ?_
      · rw [((front.map h).sum_eq), List.map_cons, List.map_cons, List.sum_cons, List.sum_cons,
          rest, worth row List.mem_cons_self other other_mem matched.symm]
      · intro k
        have both := (same k).trans (front.map key').mem_iff
        simp only [List.map_cons, List.mem_cons, matched] at both
        constructor
        · intro mem
          refine (both.mp (.inr mem)).resolve_left ?_
          rintro rfl
          exact nodup.1 mem
        · intro mem
          refine (both.mpr (.inr mem)).resolve_left ?_
          rintro rfl
          exact nodup_front.1 (matched ▸ mem)
      · intro row' row'_mem other' other'_mem
        exact worth row' (List.mem_cons_of_mem _ row'_mem) other'
          (front.mem_iff.mpr (List.mem_cons_of_mem _ other'_mem))

end IccvBackend.Lib
