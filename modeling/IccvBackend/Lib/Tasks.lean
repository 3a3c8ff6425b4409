/-
Module: IccvBackend.Lib.Tasks
Purpose: Tasks in flight as a list, each with its place for good: one begins at the end, one moves
  by a `set`, and one that is over no longer holds what it held.
Trusted boundary: none
Main exports: getElem?_begun, getElem?_moved, getElem?_moved_self, held_ended_sublist,
  not_held_ended, forall₂_eraseIdx, forall₂_append, exists_beside
-/
import Mathlib.Data.List.Forall2

namespace IccvBackend.Lib

variable {τ β : Type*} {tasks : List τ} {task other : τ} {i j : Nat}

/-- A task after another began: it was there, or it is the one that began. -/
theorem getElem?_begun (found : (tasks ++ [task])[j]? = some other) :
    tasks[j]? = some other ∨ j = tasks.length ∧ other = task := by
  rcases Nat.lt_trichotomy j tasks.length with before | rfl | after
  · rw [List.getElem?_append_left before] at found
    exact .inl found
  · rw [List.getElem?_concat_length] at found
    exact .inr ⟨rfl, (Option.some.inj found).symm⟩
  · rw [List.getElem?_eq_none (by rw [List.length_append]; exact after)] at found
    cases found

/-- A task after one of them moved: the one that moved, or another as it was. -/
theorem getElem?_moved (found : (tasks.set i task)[j]? = some other) :
    (j = i ∧ other = task) ∨ (j ≠ i ∧ tasks[j]? = some other) := by
  by_cases same : j = i
  · subst same
    have inside : j < tasks.length := by
      simpa only [List.length_set] using (List.getElem?_eq_some_iff.mp found).1
    rw [List.getElem?_set_self inside] at found
    exact .inl ⟨rfl, (Option.some.inj found).symm⟩
  · rw [List.getElem?_set_ne (Ne.symm same)] at found
    exact .inr ⟨same, found⟩

theorem getElem?_moved_self (found : tasks[i]? = some other) :
    (tasks.set i task)[i]? = some task :=
  List.getElem?_set_self (List.getElem?_eq_some_iff.mp found).1

/-! ### What tasks hold -/

section Held

variable {holds : τ → Option β}

/-- When a task ends, no more is held than was. -/
theorem held_ended_sublist (ended : holds task = none) (tasks : List τ) (i : Nat) :
    ((tasks.set i task).filterMap holds).Sublist (tasks.filterMap holds) := by
  induction tasks generalizing i with
  | nil => exact List.Sublist.refl _
  | cons first tasks ih =>
      cases i with
      | zero =>
          rw [List.set_cons_zero, List.filterMap_cons_none ended]
          exact (List.sublist_cons_self first tasks).filterMap holds
      | succ i =>
          rw [List.set_cons_succ, List.filterMap_cons, List.filterMap_cons]
          cases holds first with
          | none => exact ih i
          | some value => exact (ih i).cons_cons value

/-- Where no two tasks hold the same, what a task held when it ended nobody holds. -/
theorem not_held_ended {value : β} (ended : holds task = none)
    (nodup : (tasks.filterMap holds).Nodup) (call : tasks[i]? = some other)
    (held : holds other = some value) : value ∉ (tasks.set i task).filterMap holds := by
  induction tasks generalizing i with
  | nil => cases call
  | cons first tasks ih =>
      cases i with
      | zero =>
          obtain rfl := Option.some.inj call
          rw [List.set_cons_zero, List.filterMap_cons_none ended]
          rw [List.filterMap_cons_some held, List.nodup_cons] at nodup
          exact nodup.1
      | succ i =>
          rw [List.getElem?_cons_succ] at call
          have later : value ∈ tasks.filterMap holds :=
            List.mem_filterMap.mpr ⟨other, List.mem_of_getElem? call, held⟩
          rw [List.set_cons_succ, List.filterMap_cons]
          rw [List.filterMap_cons] at nodup
          cases own : holds first with
          | none =>
              rw [own] at nodup
              exact ih nodup call
          | some mine =>
              rw [own, List.nodup_cons] at nodup
              rw [List.mem_cons, not_or]
              exact ⟨fun same => nodup.1 (same ▸ later), ih nodup.2 call⟩

end Held

/-! ### What is kept beside each task -/

section Beside

variable {R : τ → β → Prop} {kept kept' : List β} {tasks' : List τ}

theorem forall₂_eraseIdx (beside : List.Forall₂ R tasks kept) (i : Nat) :
    List.Forall₂ R (tasks.eraseIdx i) (kept.eraseIdx i) := by
  induction beside generalizing i with
  | nil => exact .nil
  | cons first rest ih =>
      cases i with
      | zero => exact rest
      | succ i => exact .cons first (ih i)

theorem forall₂_append (beside : List.Forall₂ R tasks kept) (more : List.Forall₂ R tasks' kept') :
    List.Forall₂ R (tasks ++ tasks') (kept ++ kept') :=
  List.rel_append beside more

/-- What is kept beside a task. -/
theorem exists_beside (beside : List.Forall₂ R tasks kept) {i : Nat}
    (found : tasks[i]? = some task) : ∃ b, kept[i]? = some b ∧ R task b := by
  induction beside generalizing i with
  | nil => cases found
  | cons first rest ih =>
      cases i with
      | zero =>
          obtain rfl := Option.some.inj found
          exact ⟨_, rfl, first⟩
      | succ i => exact ih found

end Beside

end IccvBackend.Lib
