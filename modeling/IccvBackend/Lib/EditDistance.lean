/-
Module: IccvBackend.Lib.EditDistance
Purpose: The Levenshtein distance of two lists, and what it is for them to be at distance zero or
  one.
Trusted boundary: none
Main exports: levenshtein, levenshtein_eq_zero_iff, levenshtein_comm, OneEdit,
  levenshtein_eq_one_iff
-/
import Mathlib.Data.List.Basic

namespace IccvBackend.Lib

variable {α : Type*} [DecidableEq α] {a b : List α} {x y : α}

/-- The distances from `x :: a` to the ends of a list, given those from `a`. -/
def levenshteinRow (x : α) (row : List α → Nat) : List α → Nat
  | [] => row [] + 1
  | y :: b =>
      min (min (row (y :: b) + 1) (levenshteinRow x row b + 1)) (row b + if x = y then 0 else 1)

/-- The least number of elements to insert, delete or replace to make one list of the other. -/
def levenshtein : List α → List α → Nat
  | [], b => b.length
  | x :: a, b => levenshteinRow x (levenshtein a) b

@[simp] theorem levenshtein_nil_left (b : List α) : levenshtein [] b = b.length := rfl

@[simp] theorem levenshtein_nil_right (a : List α) : levenshtein a [] = a.length := by
  induction a with
  | nil => rfl
  | cons x a ih => exact congrArg (· + 1) ih

/-- A first element is deleted, inserted, or put in the place of the other. -/
theorem levenshtein_cons_cons (x y : α) (a b : List α) :
    levenshtein (x :: a) (y :: b) =
      min (min (levenshtein a (y :: b) + 1) (levenshtein (x :: a) b + 1))
        (levenshtein a b + if x = y then 0 else 1) := rfl

@[simp] theorem levenshtein_eq_zero_iff : levenshtein a b = 0 ↔ a = b := by
  induction a generalizing b with
  | nil => simp [eq_comm]
  | cons x a ih =>
      cases b with
      | nil => simp
      | cons y b =>
          rw [levenshtein_cons_cons]
          by_cases same : x = y
          · simp [same, ih]
          · simp [same]

theorem levenshtein_comm (a b : List α) : levenshtein a b = levenshtein b a := by
  induction a generalizing b with
  | nil => simp
  | cons x a outer =>
      induction b with
      | nil => simp
      | cons y b inner =>
          rw [levenshtein_cons_cons, levenshtein_cons_cons, outer, outer, inner]
          rw [Nat.min_comm (levenshtein (y :: b) a + 1)]
          simp only [@eq_comm _ x]

/-! ### One edit -/

/-- One element replaced by another, deleted, or inserted. -/
inductive OneEdit : List α → List α → Prop
  | replace {x y : α} (differ : x ≠ y) (rest : List α) : OneEdit (x :: rest) (y :: rest)
  | delete (x : α) (rest : List α) : OneEdit (x :: rest) rest
  | insert (y : α) (rest : List α) : OneEdit rest (y :: rest)
  | cons (x : α) {a b : List α} (edit : OneEdit a b) : OneEdit (x :: a) (x :: b)

omit [DecidableEq α] in
theorem OneEdit.ne (edit : OneEdit a b) : a ≠ b := by
  induction edit with
  | replace differ rest => simpa using differ
  | delete x rest => simp
  | insert y rest => simp
  | cons x _ ih => simpa using ih

omit [DecidableEq α] in
theorem OneEdit.length_le (edit : OneEdit a b) :
    a.length ≤ b.length + 1 ∧ b.length ≤ a.length + 1 := by
  induction edit with
  | replace _ rest => exact ⟨Nat.le_succ _, Nat.le_succ _⟩
  | delete x rest => exact ⟨Nat.le_refl _, Nat.le_add_right _ 2⟩
  | insert y rest => exact ⟨Nat.le_add_right _ 2, Nat.le_refl _⟩
  | cons x _ ih => simpa using ih

omit [DecidableEq α] in
/-- A first element in common plays no part. -/
@[simp] theorem oneEdit_cons_self : OneEdit (x :: a) (x :: b) ↔ OneEdit a b := by
  constructor
  case mpr => exact .cons x
  case mp =>
      intro edit
      cases edit with
      | replace differ => exact absurd rfl differ
      | delete => exact .delete x b
      | insert => exact .insert x a
      | cons _ edit => exact edit

omit [DecidableEq α] in
theorem oneEdit_cons_of_ne (differ : x ≠ y) :
    OneEdit (x :: a) (y :: b) ↔ a = b ∨ a = y :: b ∨ x :: a = b := by
  constructor
  case mp =>
      intro edit
      cases edit with
      | replace => exact .inl rfl
      | delete => exact .inr (.inl rfl)
      | insert => exact .inr (.inr rfl)
      | cons => exact absurd rfl differ
  case mpr =>
      rintro (rfl | rfl | rfl)
      · exact .replace differ a
      · exact .delete x (y :: b)
      · exact .insert y (x :: a)

theorem OneEdit.levenshtein_le (edit : OneEdit a b) : levenshtein a b ≤ 1 := by
  induction edit with
  | @replace x y differ rest =>
      have same : levenshtein rest rest = 0 := levenshtein_eq_zero_iff.mpr rfl
      rw [levenshtein_cons_cons, same]
      simp [differ]
  | delete x rest =>
      have same : levenshtein rest rest = 0 := levenshtein_eq_zero_iff.mpr rfl
      cases rest with
      | nil => simp
      | cons y rest =>
          rw [levenshtein_cons_cons, same]
          exact Nat.le_trans (Nat.min_le_left _ _) (Nat.min_le_left _ _)
  | insert y rest =>
      have same : levenshtein rest rest = 0 := levenshtein_eq_zero_iff.mpr rfl
      cases rest with
      | nil => simp
      | cons x rest =>
          rw [levenshtein_cons_cons, same]
          exact Nat.le_trans (Nat.min_le_left _ _) (Nat.min_le_right _ _)
  | cons x _ ih =>
      rw [levenshtein_cons_cons]
      simp only [if_pos, Nat.add_zero]
      exact Nat.le_trans (Nat.min_le_right _ _) ih

/-- At distance one, and only there, one edit makes one list of the other. -/
theorem levenshtein_eq_one_iff : levenshtein a b = 1 ↔ OneEdit a b := by
  constructor
  case mpr =>
      intro edit
      have positive : levenshtein a b ≠ 0 := fun zero => edit.ne (levenshtein_eq_zero_iff.mp zero)
      exact Nat.le_antisymm edit.levenshtein_le (Nat.one_le_iff_ne_zero.mpr positive)
  case mp =>
      intro one
      induction a generalizing b with
      | nil =>
          obtain ⟨y, rfl⟩ := List.length_eq_one_iff.mp one
          exact .insert y []
      | cons x a ih =>
          cases b with
          | nil =>
              obtain rfl : a = [] := by simpa using one
              exact .delete x []
          | cons y b =>
              rw [levenshtein_cons_cons] at one
              -- one of the three ways to begin leads to the least distance
              have choice : levenshtein a (y :: b) = 0 ∨ levenshtein (x :: a) b = 0 ∨
                  levenshtein a b + (if x = y then 0 else 1) = 1 := by omega
              rcases choice with deleted | inserted | kept
              · rw [levenshtein_eq_zero_iff.mp deleted]
                exact .delete x (y :: b)
              · rw [← levenshtein_eq_zero_iff.mp inserted]
                exact .insert y (x :: a)
              · by_cases same : x = y
                · subst same
                  exact .cons x (ih (by simpa using kept))
                · obtain rfl : a = b := by simpa [same] using kept
                  exact .replace same a

end IccvBackend.Lib
