/-
Module: IccvBackend.Treasury.Conciliacao
Purpose: `tesouraria/conciliacao.ts`: the pairs suggested between bank entries and manual entries,
  for any tolerance of days.
Trusted boundary: human-reviewed spec
Main exports: ParaConciliar, Conciliacao.sugerirPares, sugerirPares_eq
-/
import IccvBackend.Treasury.CashBook
import Mathlib.Algebra.Order.Floor.Ring
import Mathlib.Data.Rat.Floor

namespace IccvBackend

open Lib

/-- What the suggestion looks at in an entry.  `amount` is in reais. -/
structure ParaConciliar where
  id : Id
  type : FinancialEntryType
  amount : ℚ
  date : Dia
  userId : Option Id
deriving Repr, DecidableEq

namespace Conciliacao

/-- `Math.round(valor * 100)`: halves go up. -/
def centavos (valor : ℚ) : Int := ⌊valor * 100 + 1 / 2⌋

/-- A candidate pair.  `nota` is in days. -/
structure Candidato where
  bancoId : Id
  manualId : Id
  nota : ℚ
deriving Repr, DecidableEq

/-- The same tither breaks a tie, and never passes in front of a nearer date. -/
def nota (b m : ParaConciliar) : ℚ :=
  let mesmoDizimista : ℚ := if b.userId.isSome && b.userId = m.userId then 1 / 2 else 0
  diasEntre b.date m.date - mesmoDizimista

/-- The candidate two entries make, if any. -/
def candidato? (tolerancia : ℚ) (b m : ParaConciliar) : Option Candidato :=
  if b.type ≠ m.type || centavos b.amount ≠ centavos m.amount then none
  else if tolerancia < diasEntre b.date m.date then none
  else some ⟨b.id, m.id, nota b m⟩

def candidatos (banco manuais : List ParaConciliar) (tolerancia : ℚ) : List Candidato :=
  banco.flatMap fun b => manuais.filterMap fun m => candidato? tolerancia b m

/-- The loop over the candidates, with the entries `usados` so far. -/
def formarPares : List Candidato → List Id → List Par
  | [], _ => []
  | c :: candidatos, usados =>
      if c.bancoId ∈ usados || c.manualId ∈ usados then formarPares candidatos usados
      else ⟨c.bancoId, c.manualId⟩ :: formarPares candidatos (c.manualId :: c.bancoId :: usados)

/-- `sugerirPares`. -/
def sugerirPares (banco manuais : List ParaConciliar) (tolerancia : ℚ) : List Par :=
  formarPares ((candidatos banco manuais tolerancia).insertionSort fun x y => x.nota ≤ y.nota) []

end Conciliacao

/-! ### The suggestion of the cash book -/

/-- `paraSugestao`. -/
def paraSugestao (l : Lancamento) : ParaConciliar where
  id := l.id
  type := l.type
  amount := l.amount / 100
  date := doDia l.date
  userId := l.userId

namespace Conciliacao

theorem centavos_paraSugestao (l : Lancamento) : centavos (paraSugestao l).amount = l.amount := by
  have exact' : (l.amount : ℚ) / 100 * 100 = l.amount := div_mul_cancel₀ _ (by norm_num)
  unfold centavos paraSugestao
  rw [exact', Int.floor_intCast_add]
  norm_num

/-- A candidate of the cash book, with its half days as days. -/
def emDias (c : IccvBackend.Candidato) : Candidato := ⟨c.bancoId, c.manualId, c.nota / 2⟩

theorem nota_paraSugestao (b m : Lancamento) :
    nota (paraSugestao b) (paraSugestao m) =
      diasEntre (doDia b.date) (doDia m.date) -
        (if b.userId.isSome && b.userId = m.userId then 1 / 2 else 0) := rfl

theorem candidato?_paraSugestao (b m : Lancamento) :
    candidato? toleranciaDias (paraSugestao b) (paraSugestao m) =
      (IccvBackend.candidato? b m).map emDias := by
  have kind : ∀ l : Lancamento, (paraSugestao l).type = l.type := fun _ => rfl
  unfold candidato? IccvBackend.candidato?
  simp only [centavos_paraSugestao, kind]
  by_cases differ : (decide (b.type ≠ m.type) || decide (b.amount ≠ m.amount)) = true
  · simp only [differ, if_true, Option.map_none]
  · have days : (toleranciaDias : ℚ) < diasEntre (paraSugestao b).date (paraSugestao m).date ↔
        toleranciaDias < diasEntre (doDia b.date) (doDia m.date) := Nat.cast_lt
    by_cases far : toleranciaDias < diasEntre (doDia b.date) (doDia m.date)
    · simp only [differ, if_false, days, far, if_true, Option.map_none, Bool.false_eq_true]
    · simp only [differ, if_false, days, far, Option.map_some, Bool.false_eq_true]
      congr 1
      simp only [emDias, nota_paraSugestao]
      congr 1
      by_cases tither : (b.userId.isSome && decide (b.userId = m.userId)) = true
      · rw [if_pos tither, if_pos tither]
        push_cast
        ring
      · rw [if_neg tither, if_neg tither]
        push_cast
        ring

theorem formarPares_emDias (cs : List IccvBackend.Candidato) (usados : List Id) :
    formarPares (cs.map emDias) usados = IccvBackend.escolher cs usados := by
  induction cs generalizing usados with
  | nil => rfl
  | cons c cs ih =>
      simp only [List.map_cons, formarPares, IccvBackend.escolher, ih]
      rfl

end Conciliacao

/-- The cash book suggests the pairs of `conciliacao.ts` with the tolerance of three days. -/
theorem sugerirPares_eq (banco manuais : List Lancamento) :
    sugerirPares banco manuais =
      Conciliacao.sugerirPares (banco.map paraSugestao) (manuais.map paraSugestao)
        toleranciaDias := by
  have same : Conciliacao.candidatos (banco.map paraSugestao) (manuais.map paraSugestao)
      toleranciaDias =
        (banco.flatMap fun b => manuais.filterMap fun m => candidato? b m).map
          Conciliacao.emDias := by
    simp only [Conciliacao.candidatos, List.flatMap_map, List.filterMap_map, Function.comp_def,
      Conciliacao.candidato?_paraSugestao, List.map_flatMap, List.map_filterMap]
  have order : ∀ x y : Candidato,
      x.nota ≤ y.nota ↔ (Conciliacao.emDias x).nota ≤ (Conciliacao.emDias y).nota := by
    intro x y
    simp only [Conciliacao.emDias]
    rw [div_le_div_iff_of_pos_right (by norm_num)]
    exact Int.cast_le.symm
  unfold sugerirPares Conciliacao.sugerirPares
  rw [same, ← List.map_insertionSort _ _ Conciliacao.emDias _ fun x _ y _ => order x y]
  exact (Conciliacao.formarPares_emDias _ _).symm

end IccvBackend
