/-
Module: IccvBackend.Proofs.AlmostSameWord
Purpose: `mesmaPalavra` is equality, or edit distance one between long words.
Trusted boundary: none
Main exports: Planilha.varrer_primeiraDiferenca, Planilha.resto_iff, Planilha.mesmaPalavra_iff,
  Planilha.mesmaPalavra_comm, Planilha.mesmaPalavra_levenshtein
-/
import IccvBackend.Lib.EditDistance
import IccvBackend.Treasury.Nomes

namespace IccvBackend.Planilha

open Lib

variable {α : Type*} [DecidableEq α] {a b : List α} {x y : α}

/-! ### The scanning loop -/

theorem girar_cons (i : Nat) :
    girar (x :: a) (x :: b) (i + 1) = (girar a b i).map (· + 1) := by
  simp only [girar, List.getElem?_cons_succ]
  split
  · rfl
  · rfl

/-- A first letter in common is one turn more. -/
theorem varrer_cons (voltas i : Nat) :
    varrer (x :: a) (x :: b) voltas (i + 1) = (varrer a b voltas i).map (· + 1) := by
  induction voltas generalizing i with
  | zero => rfl
  | succ voltas ih =>
      simp only [varrer, girar_cons]
      cases girar a b i with
      | none => rfl
      | some proximo => exact ih proximo

/-- The loop stops on two texts that are not the same, where they first differ, at the latest past
the end of the shorter. -/
theorem varrer_primeiraDiferenca (differ : a ≠ b) :
    varrer a b (min a.length b.length + 1) 0 = some (primeiraDiferenca a b) := by
  induction a generalizing b with
  | nil =>
      cases b with
      | nil => exact absurd rfl differ
      | cons y b => rfl
  | cons x a ih =>
      cases b with
      | nil => rfl
      | cons y b =>
          by_cases same : x = y
          · subst same
            have rest : a ≠ b := fun equal => differ (congrArg _ equal)
            have turn : girar (x :: a) (x :: b) 0 = some 1 := by simp [girar]
            have turns : min (x :: a).length (x :: b).length = min a.length b.length + 1 := by
              simp only [List.length_cons]
              omega
            rw [turns, varrer, turn]
            simp [varrer_cons, ih rest, primeiraDiferenca]
          · have turn : girar (x :: a) (y :: b) 0 = none := by simp [girar, same]
            rw [varrer, turn]
            simp [primeiraDiferenca, same]

/-! ### What is left after the first difference -/

/-- The three comparisons of the rests find exactly the texts one edit apart. -/
theorem resto_iff (differ : a ≠ b) :
    (a.drop (primeiraDiferenca a b + 1) = b.drop (primeiraDiferenca a b + 1) ∨
      a.drop (primeiraDiferenca a b + 1) = b.drop (primeiraDiferenca a b) ∨
      a.drop (primeiraDiferenca a b) = b.drop (primeiraDiferenca a b + 1)) ↔ OneEdit a b := by
  induction a generalizing b with
  | nil =>
      cases b with
      | nil => exact absurd rfl differ
      | cons y b =>
          cases b with
          | nil => simpa [primeiraDiferenca] using OneEdit.insert y []
          | cons z b =>
              have far : ¬ OneEdit [] (y :: z :: b) := by
                intro edit
                cases edit
              simpa [primeiraDiferenca] using far
  | cons x a ih =>
      cases b with
      | nil =>
          cases a with
          | nil => simpa [primeiraDiferenca] using OneEdit.delete x []
          | cons z a =>
              have far : ¬ OneEdit (x :: z :: a) [] := by
                intro edit
                cases edit
              simpa [primeiraDiferenca] using far
      | cons y b =>
          by_cases same : x = y
          · subst same
            have rest : a ≠ b := fun equal => differ (congrArg _ equal)
            simpa [primeiraDiferenca] using ih rest
          · simpa [primeiraDiferenca, same] using (oneEdit_cons_of_ne same).symm

theorem mesmaPalavra_iff :
    mesmaPalavra a b = true ↔ a = b ∨ (4 ≤ a.length ∧ 4 ≤ b.length ∧ OneEdit a b) := by
  by_cases same : a = b
  · simp [mesmaPalavra, same]
  · unfold mesmaPalavra
    rw [if_neg same, or_iff_right same]
    split
    case isTrue shortOrFar =>
        rw [Bool.or_eq_true, decide_eq_true_eq, decide_eq_true_eq] at shortOrFar
        constructor
        case mp => exact nofun
        case mpr =>
            rintro ⟨longA, longB, edit⟩
            have near := edit.length_le
            omega
    case isFalse longAndNear =>
        rw [Bool.or_eq_true, decide_eq_true_eq, decide_eq_true_eq] at longAndNear
        simp only [Bool.or_eq_true, decide_eq_true_eq, or_assoc, resto_iff same]
        constructor
        case mp =>
            intro edit
            exact ⟨by omega, by omega, edit⟩
        case mpr => exact fun long => long.2.2

theorem mesmaPalavra_comm (a b : List α) : mesmaPalavra a b = mesmaPalavra b a := by
  rw [Bool.eq_iff_iff, mesmaPalavra_iff, mesmaPalavra_iff, ← levenshtein_eq_one_iff,
    ← levenshtein_eq_one_iff, levenshtein_comm, eq_comm, and_left_comm]

/-- Two words are taken for the same when they are, or when both are long and one letter apart; the
loop that looks for the letter stops; and the order of the two makes no difference. -/
theorem mesmaPalavra_levenshtein (a b : List α) :
    (mesmaPalavra a b = true ↔
      a = b ∨ (4 ≤ a.length ∧ 4 ≤ b.length ∧ levenshtein a b = 1)) ∧
      (a ≠ b → ∃ voltas, varrer a b voltas 0 = some (primeiraDiferenca a b)) ∧
      mesmaPalavra a b = mesmaPalavra b a := by
  refine ⟨?_, fun differ => ⟨_, varrer_primeiraDiferenca differ⟩, ?_⟩
  · rw [mesmaPalavra_iff, levenshtein_eq_one_iff]
  · exact mesmaPalavra_comm a b

end IccvBackend.Planilha
