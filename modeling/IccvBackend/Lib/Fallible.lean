/-
Module: IccvBackend.Lib.Fallible
Purpose: Computations that may fail: the two ways to fail early, and inversion of a success.
Trusted boundary: none
Main exports: failIf, orFail, bind_eq_ok_iff, mapM_eq_ok_iff, foldlM_eq_ok_invariant
-/
import Mathlib.Data.List.Forall2
import Mathlib.Data.List.Infix

namespace IccvBackend.Lib

universe u v

variable {ε : Type u} {α β σ : Type v}

/-- Fail when a condition holds. -/
def failIf (condition : Prop) [Decidable condition] (e : ε) : Except ε Unit :=
  if condition then .error e else .ok ()

/-- Fail when there is nothing. -/
def orFail (x : Option α) (e : ε) : Except ε α :=
  match x with
  | some a => .ok a
  | none => .error e

@[simp] theorem failIf_eq_ok_iff {condition : Prop} [Decidable condition] {e : ε} {u : Unit} :
    failIf condition e = .ok u ↔ ¬ condition := by
  unfold failIf; split <;> simp_all

@[simp] theorem orFail_eq_ok_iff {x : Option α} {e : ε} {a : α} :
    orFail x e = .ok a ↔ x = some a := by
  cases x <;> simp [orFail]

/-- A sequence succeeds exactly when its parts do. -/
theorem bind_eq_ok_iff {x : Except ε α} {f : α → Except ε β} {b : β} :
    (x >>= f) = .ok b ↔ ∃ a, x = .ok a ∧ f a = .ok b := by
  cases x with
  | error e => exact ⟨fun ok => (nomatch ok), fun ⟨_, bad, _⟩ => (nomatch bad)⟩
  | ok a => exact ⟨fun ok => ⟨a, rfl, ok⟩, fun ⟨_, same, ok⟩ => by cases same; exact ok⟩

/-- A sequence fails exactly when one of its parts does. -/
theorem bind_eq_error_iff {x : Except ε α} {f : α → Except ε β} {e : ε} :
    (x >>= f) = .error e ↔ x = .error e ∨ ∃ a, x = .ok a ∧ f a = .error e := by
  cases x with
  | error e' =>
      refine ⟨fun failed => .inl (congrArg _ (Except.error.inj failed)), fun failed => ?_⟩
      rcases failed with same | ⟨a, absent, _⟩
      · rw [same]
        rfl
      · cases absent
  | ok a =>
      refine ⟨fun failed => .inr ⟨a, rfl, failed⟩, fun failed => ?_⟩
      rcases failed with absent | ⟨b, same, failed⟩
      · cases absent
      · cases same
        exact failed

/-- Two sequences agree when they go on alike from what the first part may give. -/
theorem bind_congr_of_ok {x : Except ε α} {f g : α → Except ε β}
    (same : ∀ a, x = .ok a → f a = g a) : (x >>= f) = (x >>= g) := by
  cases x with
  | error e => rfl
  | ok a => exact same a rfl

@[simp] theorem pure_eq_ok_iff {a b : α} : (pure a : Except ε α) = .ok b ↔ a = b :=
  ⟨fun same => by cases same; rfl, fun same => by rw [same]; rfl⟩

@[simp] theorem throw_ne_ok {e : ε} {b : α} : (throw e : Except ε α) ≠ .ok b := nofun

/-- A success seen through a function is the image of a success. -/
theorem except_map_eq_ok_iff {f : α → β} {x : Except ε α} {b : β} :
    x.map f = .ok b ↔ ∃ a, x = .ok a ∧ f a = b := by
  cases x with
  | error e => exact ⟨nofun, fun ⟨_, absent, _⟩ => nomatch absent⟩
  | ok a =>
      exact ⟨fun same => ⟨a, rfl, Except.ok.inj same⟩,
        fun ⟨_, same, image⟩ => by rw [← Except.ok.inj same] at image; exact congrArg _ image⟩

/-- A list is mapped when each of its elements is. -/
theorem mapM_eq_ok_iff {f : α → Except ε β} {l : List α} {ys : List β} :
    l.mapM f = .ok ys ↔ List.Forall₂ (fun a b => f a = .ok b) l ys := by
  induction l generalizing ys with
  | nil =>
      rw [List.mapM_nil, pure_eq_ok_iff, List.forall₂_nil_left_iff]
      exact eq_comm
  | cons a l ih =>
      simp only [List.mapM_cons, bind_eq_ok_iff, pure_eq_ok_iff, ih,
        List.forall₂_cons_left_iff]
      constructor
      · rintro ⟨b, made, rest, all, rfl⟩
        exact ⟨b, rest, made, all, rfl⟩
      · rintro ⟨b, rest, made, all, rfl⟩
        exact ⟨b, made, rest, all, rfl⟩

/-- A list that is not mapped has an element that is not. -/
theorem mapM_eq_error {f : α → Except ε β} {l : List α} {e : ε} (failed : l.mapM f = .error e) :
    ∃ a ∈ l, f a = .error e := by
  induction l with
  | nil => cases failed
  | cons a l ih =>
      rw [List.mapM_cons, bind_eq_error_iff] at failed
      rcases failed with here | ⟨b, _, later⟩
      · exact ⟨a, List.mem_cons_self, here⟩
      · rw [bind_eq_error_iff] at later
        rcases later with rest | ⟨_, _, absent⟩
        · obtain ⟨c, mem, there⟩ := ih rest
          exact ⟨c, List.mem_cons_of_mem a mem, there⟩
        · cases absent

/-- A loop that fails has failed at one of its turns. -/
theorem foldlM_eq_error {step : σ → α → Except ε σ} {e : ε} {elements : List α} {s : σ}
    (failed : elements.foldlM step s = .error e) : ∃ a ∈ elements, ∃ s', step s' a = .error e := by
  induction elements generalizing s with
  | nil => cases failed
  | cons a elements ih =>
      rw [List.foldlM_cons, bind_eq_error_iff] at failed
      rcases failed with turn | ⟨s', _, rest⟩
      · exact ⟨a, List.mem_cons_self, s, turn⟩
      · obtain ⟨b, mem, turn⟩ := ih rest
        exact ⟨b, List.mem_cons_of_mem _ mem, turn⟩

/-- The rule of a loop that may stop with an error: an invariant of the elements done and the
accumulator, kept by each turn that succeeds, holds of the whole list when the loop succeeds. -/
theorem foldlM_eq_ok_invariant {step : σ → α → Except ε σ}
    (Inv : List α → σ → Prop) {elements : List α} {s t : σ} (start : Inv [] s)
    (keep : ∀ done a s s', done ++ [a] <+: elements → Inv done s → step s a = .ok s' →
      Inv (done ++ [a]) s')
    (ok : elements.foldlM step s = .ok t) : Inv elements t := by
  have general : ∀ rest done s, done ++ rest = elements → Inv done s →
      rest.foldlM step s = .ok t → Inv elements t := by
    intro rest
    induction rest with
    | nil =>
        intro done s whole inv ok
        obtain rfl : s = t := by simpa using ok
        simpa [← whole] using inv
    | cons a rest ih =>
        intro done s whole inv ok
        rw [List.foldlM_cons, bind_eq_ok_iff] at ok
        obtain ⟨s', turn, ok⟩ := ok
        have pre : done ++ [a] <+: elements := ⟨rest, by simpa using whole⟩
        exact ih (done ++ [a]) s' (by simpa using whole) (keep done a s s' pre inv turn) ok
  exact general elements [] s rfl start ok

end IccvBackend.Lib
