/-
Module: IccvBackend.Proofs.SnapshotPairs
Purpose: The pairs of `parearPorId` over snapshots as JSON are those over the payments the
  middleware has in hand.
Trusted boundary: none
Main exports: Escrito, Escrito.parearPorId_json
-/
import IccvBackend.Lib.Trail
import IccvBackend.Prisma.Audit
import IccvBackend.Prisma.Snapshots

namespace IccvBackend

open Lib

/-- How a payment is written as JSON, and its uuid, in which there is no number sign. -/
structure Escrito (ν : Type) where
  uuid : Id → List Char
  uuid_inj : Function.Injective uuid
  uuid_ne : ∀ i, (uuid i).head? ≠ some '#'
  json : Retrato → JsonValue ν
  idDe_json : ∀ row, Dinheiro.idDe (json row) = row.id.map fun i => .str (uuid i)

namespace Escrito

variable {ν : Type} (escrito : Escrito ν)

/-- The text of a key. -/
def chave : Chave → Primitivo ν
  | .id i => .str (escrito.uuid i)
  | .indice n => .str ('#' :: (toString n).toList)

theorem toString_inj {m n : Nat} (same : (toString m).toList = (toString n).toList) : m = n := by
  have digits : Nat.toDigits 10 m = Nat.toDigits 10 n := by
    simpa [Nat.toString_eq_ofList_toDigits] using same
  rw [← Nat.ofDigitChars_ten_toDigits (n := m), digits, Nat.ofDigitChars_ten_toDigits]

theorem chave_injective : Function.Injective escrito.chave := by
  intro c c' same
  cases c with
  | id i =>
      cases c' with
      | id j => rw [escrito.uuid_inj (Primitivo.str.inj same)]
      | indice n => exact absurd (congrArg List.head? (Primitivo.str.inj same)) (escrito.uuid_ne i)
  | indice m =>
      cases c' with
      | id j => exact absurd (congrArg List.head? (Primitivo.str.inj same)).symm (escrito.uuid_ne j)
      | indice n => rw [toString_inj (List.cons.inj (Primitivo.str.inj same)).2]

theorem chaveDe_json (indice : Nat) (row : Retrato) :
    Dinheiro.chaveDe indice (escrito.json row) = escrito.chave (IccvBackend.chave indice row) := by
  rw [Dinheiro.chaveDe, escrito.idDe_json, IccvBackend.chave]
  cases row.id with
  | none => rfl
  | some i => rfl

theorem comChave_json (rows : List Retrato) :
    Dinheiro.comChave (rows.map escrito.json) =
      (comChave 0 rows).map fun linha => (escrito.chave linha.1, escrito.json linha.2) := by
  rw [Dinheiro.comChave]
  generalize 0 = indice
  induction rows generalizing indice with
  | nil => rfl
  | cons row rows ih => simp [comChave, List.zipIdx_cons, chaveDe_json, ih]

variable [DecidableEq ν]

theorem guardado_json (c : Chave) (rows : List (Chave × Retrato)) :
    Dinheiro.guardado (escrito.chave c)
        (rows.map fun linha => (escrito.chave linha.1, escrito.json linha.2)) =
      (arquivado c rows).map escrito.json := by
  rw [Dinheiro.guardado, arquivado, ← List.map_reverse]
  induction rows.reverse with
  | nil => rfl
  | cons linha linhas ih =>
      rw [List.map_cons, List.lookup_cons, List.find?_cons]
      by_cases here : linha.1 = c
      · simp [here]
      · have apart : (escrito.chave c == escrito.chave linha.1) = false :=
          beq_eq_false_iff_ne.mpr (escrito.chave_injective.ne (Ne.symm here))
        rw [apart, decide_eq_false here]
        exact ih

/-- Over the payments written as JSON, `parearPorId` pairs what it pairs over the payments. -/
theorem parearPorId_json (before after : List Retrato) :
    Dinheiro.parearPorId (.arr (before.map escrito.json)) (.arr (after.map escrito.json)) =
      (parearPorId before after).map fun par =>
      (par.1.map escrito.json, par.2.map escrito.json) := by
  have keys (rows : List Retrato) :
      ((comChave 0 rows).map fun linha => (escrito.chave linha.1, escrito.json linha.2)).map
        Prod.fst = ((comChave 0 rows).map Prod.fst).map escrito.chave := by
    rw [List.map_map, List.map_map]
    rfl
  rw [Dinheiro.parearPorId, parearPorId]
  simp only [Dinheiro.comoLista, comChave_json, keys]
  rw [← List.map_append, map_eraseDups escrito.chave_injective, List.map_map, List.map_map]
  apply List.map_congr_left
  intro c _
  simp only [Function.comp_apply, guardado_json]

end Escrito

end IccvBackend
