/-
Module: IccvBackend.Lib.Trail
Purpose: Trails of changes: lines with a value before and a value after, and when they chain.
Trusted boundary: none
Main exports: Chained, Chained.append, chained_append_iff, nodup_eraseDups, map_eraseDups
-/
import Mathlib.Data.List.Nodup
import Mathlib.Data.List.Perm.Subperm

namespace IccvBackend.Lib

/-!
A trail tells the truth about one key when its first line starts from the value the key began with,
every line starts where the previous one ended, and the last one ends in the value the key has.
-/

variable {ν κ : Type*}

/-- The lines lead from `start` to `last`. -/
def Chained : ν → List (ν × ν) → ν → Prop
  | start, [], last => start = last
  | start, line :: lines, last => line.1 = start ∧ Chained line.2 lines last

@[simp] theorem chained_nil {start last : ν} : Chained start [] last ↔ start = last := Iff.rfl

@[simp] theorem chained_cons {start last : ν} {line : ν × ν} {lines : List (ν × ν)} :
    Chained start (line :: lines) last ↔ line.1 = start ∧ Chained line.2 lines last := Iff.rfl

theorem chained_append_iff {start last : ν} {first second : List (ν × ν)} :
    Chained start (first ++ second) last ↔
      ∃ middle, Chained start first middle ∧ Chained middle second last := by
  induction first generalizing start with
  | nil => simp
  | cons line lines ih => simp [ih, and_assoc]

theorem Chained.append {start middle last : ν} {first second : List (ν × ν)}
    (before : Chained start first middle) (after : Chained middle second last) :
    Chained start (first ++ second) last :=
  chained_append_iff.mpr ⟨middle, before, after⟩

/-! ### Keys without repetition -/

theorem nodup_eraseDups [BEq κ] [LawfulBEq κ] (keys : List κ) : keys.eraseDups.Nodup := by
  induction h : keys.length using Nat.strongRecOn generalizing keys with
  | _ n ih =>
      cases keys with
      | nil => simp
      | cons key keys =>
          rw [List.eraseDups_cons, List.nodup_cons]
          constructor
          · simp [List.mem_eraseDups]
          · apply ih _ _ _ rfl
            have le := List.length_filter_le (fun b => !b == key) keys
            simp only [List.length_cons] at h
            omega

/-- Keys that are told apart after a map are the same ones before it. -/
theorem map_eraseDups {ι : Type*} [DecidableEq ι] [DecidableEq κ] {f : ι → κ}
    (injective : Function.Injective f) (keys : List ι) :
    (keys.map f).eraseDups = keys.eraseDups.map f := by
  induction h : keys.length using Nat.strongRecOn generalizing keys with
  | _ n ih =>
      cases keys with
      | nil => rfl
      | cons key keys =>
          have others : (keys.map f).filter (fun b => !b == f key) =
              (keys.filter fun b => !b == key).map f := by
            rw [List.filter_map]
            congr 1
            apply List.filter_congr
            intro b _
            by_cases same : b = key
            · simp [same]
            · simp [same, injective.ne same]
          have le := List.length_filter_le (fun b => !b == key) keys
          rw [List.map_cons, List.eraseDups_cons, List.eraseDups_cons, List.map_cons, others]
          congr 1
          apply ih _ _ _ rfl
          simp only [List.length_cons] at h
          omega

/-- As many rows as different names, and no name on two rows: each of the names is on a row. -/
theorem exists_of_length_filter {ρ : Type*} [DecidableEq κ] {rows : List ρ} {name : ρ → κ}
    (nodup : (rows.map name).Nodup) {names : List κ}
    (length : (rows.filter fun row => name row ∈ names).length = names.eraseDups.length) {n : κ}
    (mem : n ∈ names) : ∃ row ∈ rows, name row = n := by
  have picked : ((rows.filter fun row => name row ∈ names).map name).Nodup :=
    nodup.sublist (List.filter_sublist.map _)
  have inside : ((rows.filter fun row => name row ∈ names).map name) ⊆ names.eraseDups := by
    intro other there
    obtain ⟨row, mem_row, rfl⟩ := List.mem_map.mp there
    exact List.mem_eraseDups.mpr (of_decide_eq_true (List.mem_filter.mp mem_row).2)
  have all := (List.subperm_of_subset picked inside).perm_of_length_le
    (by rw [List.length_map]; exact Nat.le_of_eq length.symm)
  obtain ⟨row, mem_row, same⟩ := List.mem_map.mp (all.mem_iff.mpr (List.mem_eraseDups.mpr mem))
  exact ⟨row, (List.mem_filter.mp mem_row).1, same⟩

/-- In a list without repetition, the filter that picks one element. -/
theorem filter_eq_singleton [DecidableEq κ] {keys : List κ} (nodup : keys.Nodup) (key : κ)
    {p : κ → Bool} (picks : ∀ k ∈ keys, p k = true ↔ k = key) :
    keys.filter p = if key ∈ keys then [key] else [] := by
  have same : keys.filter p = keys.filter (· = key) := by
    apply List.filter_congr
    intro k mem
    exact Bool.eq_iff_iff.mpr ((picks k mem).trans decide_eq_true_iff.symm)
  rw [same, List.filter_eq]
  by_cases mem : key ∈ keys
  · rw [if_pos mem, List.count_eq_one_of_mem nodup mem]
    rfl
  · rw [if_neg mem, List.count_eq_zero_of_not_mem mem]
    rfl

/-- Filtering the images is filtering what they come from. -/
theorem filterMap_filter_eq {α β : Type*} {f : α → Option β} {p : α → Bool} {q : β → Bool}
    {rows : List α} (agree : ∀ row ∈ rows, ∀ b, f row = some b → p row = q b) :
    (rows.filter p).filterMap f = (rows.filterMap f).filter q := by
  induction rows with
  | nil => rfl
  | cons row rows ih =>
      have ih := ih fun row mem => agree row (List.mem_cons_of_mem _ mem)
      have here := agree row List.mem_cons_self
      cases image : f row with
      | none => cases keep : p row <;> simp [keep, image, ih]
      | some b =>
          have same := here b image
          cases keep : p row <;> simp_all

end IccvBackend.Lib
