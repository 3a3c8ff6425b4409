/-
Module: IccvBackend.Proofs.Reactivations
Purpose: Which payments come back, with what, and what they cost after that.
Trusted boundary: none
Main exports: Database.restantes, SoOQueCabe, reativarCompras_soOQueCabe
-/
import IccvBackend.Event.Reactivation

namespace IccvBackend

open Lib

/-! ### The law -/

/-- What is left of each variant before the reactivation: `none` has no limit. -/
def Database.restantes (db : Database) (variantId : Id) : Option Nat :=
  disponivel (db.catalogue.estoque variantId) (db.vendidos variantId)

/-- A reactivation takes only what fits, and accounts for it. -/
structure SoOQueCabe (db : Database) (paymentIds : List Id) (depois : Database) (r : Reativacao) :
    Prop where
  /-- what comes back and what was sold are in the stock, when what was sold was -/
  noEstoque : ∀ v stock, db.catalogue.estoque v = some stock → db.vendidos v ≤ stock →
    ((depois.payments.filter fun p => p.id ∈ r.reativados).map fun p => p.unidades v).sum +
      db.vendidos v ≤ stock
  comIngresso : ∀ p ∈ db.payments, p.id ∈ paymentIds → p.status.liberaEstoque = true →
    p.roleRegistrationId ≠ none → p.id ∈ r.reativados
  /-- what remains at a turn counts only the payments before it that come back -/
  semIngresso : ∀ anteriores p posteriores, db.aReativar paymentIds = anteriores ++
    p :: posteriores → p.roleRegistrationId = none → p.productItems ≠ [] →
      (p.id ∈ r.reativados ↔
        ∃ item ∈ p.productItems, item.CabeEm (restanteNaVez db.restantes anteriores r))
  /-- a payment that comes back loses its removed items and their cents, and nothing else -/
  volta : ∀ p ∈ db.payments, p.id ∈ r.reativados → p.semItens r.itensRemovidos ∈ depois.payments ∧
    cents (p.semItens r.itensRemovidos).amount = cents p.amount -
      ((p.productItems.filter fun item => item.id ∈ r.itensRemovidos).map
        PaymentProductItem.centavos).sum
  /-- the others are as they were -/
  fica : ∀ p ∈ db.payments, p.id ∉ r.reativados → p ∈ depois.payments
  /-- what is outside the list or in another status does not come back -/
  intocado : ∀ p ∈ db.payments, p.id ∉ paymentIds ∨ p.status.liberaEstoque = false →
    p.id ∉ r.reativados
  ids : depois.payments.map Payment.id = db.payments.map Payment.id

/-! ### Every reactivation -/

/-- The amount drops by the cents of what is removed. -/
theorem semItens_cents_eq (ids : List Id) (p : Payment) :
    cents (p.semItens ids).amount = cents p.amount -
      ((p.productItems.filter fun item => item.id ∈ ids).map PaymentProductItem.centavos).sum := by
  simp only [Payment.semItens]
  split
  · next none_out => rw [none_out, List.map_nil, List.sum_nil, sub_zero]
  · rw [cents_intCast_div]

theorem soOQueCabe_of_ok {db depois : Database} {paymentIds : List Id} {r : Reativacao}
    (ok : reativarCompras db paymentIds = .ok (depois, r)) : SoOQueCabe db paymentIds depois r := by
  have did := reativarCompras_spec ok
  have decided : Decididos db.restantes (db.aReativar paymentIds) r := decididos_reativarCompras ok
  have after : ∀ p ∈ db.payments, p.semItens r.itensRemovidos ∈ depois.payments := by
    intro p mem
    rw [did.payments]
    exact List.mem_map_of_mem mem
  refine ⟨?_, ?_, ?_, ?_, ?_, ?_, ?_⟩
  · intro v stock limit within
    have units := did.cabe v stock limit
    rw [did.payments, List.filter_map, List.map_map]
    exact Nat.add_le_of_le_sub within units
  · intro p mem listed frees ticket
    obtain ⟨anteriores, posteriores, split⟩ :=
      List.append_of_mem (mem_aReativar.mpr ⟨mem, listed, frees⟩)
    exact (decided anteriores p posteriores split).mpr (.inl ticket)
  · intro anteriores p posteriores split ticketless _
    rw [decided anteriores p posteriores split]
    exact or_iff_right (not_not.mpr ticketless)
  · intro p mem _
    exact ⟨after p mem, semItens_cents_eq _ p⟩
  · intro p mem out
    have same := semItens_of_disjoint (did.removidos p mem out)
    exact same ▸ after p mem
  · intro p mem outside back
    obtain ⟨q, q_mem, same⟩ := did.reativados p.id back
    obtain ⟨q_in, listed, frees⟩ := mem_aReativar.mp q_mem
    obtain rfl := db.eq_of_id_eq q_in mem same
    rcases outside with unlisted | holds
    · exact unlisted listed
    · rw [holds] at frees
      cases frees
  · rw [did.payments, List.map_map]
    rfl

/-- A reactivation takes only what fits and accounts for it.  It stops halfway, with nothing
written, only on a payment without ticket and without items. -/
theorem reativarCompras_soOQueCabe (db : Database) (paymentIds : List Id) :
    (∀ depois r, reativarCompras db paymentIds = .ok (depois, r) →
        SoOQueCabe db paymentIds depois r) ∧
      ((∀ p ∈ db.aReativar paymentIds, p.roleRegistrationId = none → p.productItems ≠ []) →
        ∃ depois r, reativarCompras db paymentIds = .ok (depois, r)) := by
  refine ⟨fun depois r => soOQueCabe_of_ok, fun bought => ?_⟩
  cases outcome : reativarCompras db paymentIds with
  | ok out => exact ⟨out.1, out.2, rfl⟩
  | error e =>
      obtain ⟨p, mem, ticketless, empty⟩ := reativarCompras_error outcome
      exact absurd empty (bought p mem ticketless)

end IccvBackend
