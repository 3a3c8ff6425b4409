/-
Module: IccvBackend.Payment.AmountCheck
Purpose: `payment/amount-check.ts`: "paid" counts only when the value matches what was charged.
Trusted boundary: human-reviewed spec
Main exports: conferirValorPago, PagoBasta, conferirValorPago_eq_paid_iff
-/
import IccvBackend.Prisma.Schema

namespace IccvBackend

/-- `conferirValorPago`.  Without a charged value (absent or zero) or a paid value there is nothing
to compare, and the status stands. -/
def conferirValorPago (status : PaymentStatus) (pagoEmCentavos : Option Nat)
    (cobradoEmCentavos : Option Int) : PaymentStatus :=
  if status ≠ .paid then status
  else
    match cobradoEmCentavos, pagoEmCentavos with
    | some cobrado, some pago =>
        if cobrado = 0 then status else if cobrado ≤ pago then status else .inAnalysis
    | _, _ => status

/-- The paid value, where both values are known, covers what was charged. -/
def PagoBasta (pagoEmCentavos : Option Nat) (cobradoEmCentavos : Option Int) : Prop :=
  ∀ pago cobrado, pagoEmCentavos = some pago → cobradoEmCentavos = some cobrado →
    cobrado ≤ (pago : Int)

/-- The check lets "paid" through exactly when the value covers the charge. -/
theorem conferirValorPago_eq_paid_iff {status : PaymentStatus} {pago : Option Nat}
    {cobrado : Option Int} :
    conferirValorPago status pago cobrado = .paid ↔
      status = .paid ∧ PagoBasta pago cobrado := by
  unfold conferirValorPago PagoBasta
  by_cases paid : status = .paid
  · subst paid
    cases cobrado with
    | none => simp
    | some cobrado =>
        cases pago with
        | none => simp
        | some pago =>
            simp only [ne_eq, not_true_eq_false, if_false, true_and, Option.some.injEq]
            by_cases zero : cobrado = 0
            · simp [zero]
            · simp [zero]
  · simp [paid]

end IccvBackend
