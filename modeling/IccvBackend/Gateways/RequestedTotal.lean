/-
Module: IccvBackend.Gateways.RequestedTotal
Purpose: What each house is asked to collect, against the total stored for the value check.
Trusted boundary: none
Main exports: totalPedido, totalPedido_eq_totalCobrado_iff
-/
import IccvBackend.Gateways.InfinitePay
import IccvBackend.Gateways.MercadoPago
import IccvBackend.Gateways.Pagbank
import IccvBackend.Gateways.Ton
import Mathlib.Algebra.BigOperators.Ring.Finset

namespace IccvBackend

/-!
Three adapters send the cart that `aplicarDesconto` returns, whose total is the stored one.  The
PagBank adapter sends the cart as it is and the discount beside it, so the two numbers agree only
where the discount spreads over the units without a remainder.
-/

/-- The total, in cents, of the body the adapter of a house posts. -/
def totalPedido (provider : PaymentProvider) (maxInstallments : Option Int) (now : Instant)
    (pedido : HostedCheckoutRequest) : ℚ :=
  match provider with
  | .pagbank => (Pagbank.checkoutBody pedido).totalInCents
  | .mercadoPago => (MercadoPago.preferenceBody now pedido).totalInCents
  | .infinitepay => (InfinitePay.linkBody pedido).totalInCents
  | .ton => (Ton.orderBody maxInstallments now pedido).totalInCents

/-- The sum of a cart with its lines written out. -/
private theorem totalEmCentavos_eq (items : List HostedCheckoutItem) :
    totalEmCentavos items =
      (items.map fun item => item.unitAmountCents * (item.quantity : Int)).sum := rfl

theorem pagbank_totalInCents (pedido : HostedCheckoutRequest) :
    (Pagbank.checkoutBody pedido).totalInCents =
      totalEmCentavos pedido.items - pedido.discountCents := by
  simp [Pagbank.checkoutBody, Pagbank.CheckoutBody.totalInCents, totalEmCentavos_eq,
    Function.comp_def]

theorem mercadoPago_totalInCents (now : Instant) (pedido : HostedCheckoutRequest) :
    (MercadoPago.preferenceBody now pedido).totalInCents =
      totalCobradoEmCentavos pedido.items pedido.discountCents := by
  -- reais times a hundred are the cents again
  have line : ∀ item : HostedCheckoutItem,
      (item.unitAmountCents : ℚ) / 100 * 100 * item.quantity =
        ((item.unitAmountCents * (item.quantity : Int) : Int) : ℚ) := by
    intro item
    rw [div_mul_cancel₀ _ (by norm_num)]
    push_cast
    rfl
  simp only [MercadoPago.preferenceBody, MercadoPago.PreferenceBody.totalInCents,
    totalCobradoEmCentavos, totalEmCentavos_eq, List.map_map, Function.comp_def, line]
  rw [Int.cast_list_sum, List.map_map]
  rfl

theorem infinitePay_totalInCents (pedido : HostedCheckoutRequest) :
    (InfinitePay.linkBody pedido).totalInCents =
      totalCobradoEmCentavos pedido.items pedido.discountCents := by
  simp [InfinitePay.linkBody, InfinitePay.LinkBody.totalInCents, totalCobradoEmCentavos,
    totalEmCentavos_eq, Function.comp_def]

theorem ton_totalInCents (maxInstallments : Option Int) (now : Instant)
    (pedido : HostedCheckoutRequest) :
    (Ton.orderBody maxInstallments now pedido).totalInCents =
      totalCobradoEmCentavos pedido.items pedido.discountCents := by
  simp [Ton.orderBody, Ton.OrderBody.totalInCents, totalCobradoEmCentavos, totalEmCentavos_eq,
    Function.comp_def]

/-- A house is asked for the stored total always, but PagBank, which is asked for it exactly when
there is no discount or the discount, scaled in doubles, spreads exactly. -/
theorem totalPedido_eq_totalCobrado_iff (provider : PaymentProvider) (maxInstallments : Option Int)
    (now : Instant) (pedido : HostedCheckoutRequest) (nonempty : pedido.items ≠ [])
    (units : ∀ item ∈ pedido.items, 1 ≤ item.unitAmountCents)
    (quantities : ∀ item ∈ pedido.items, 1 ≤ item.quantity)
    (discount : 0 ≤ pedido.discountCents) :
    totalPedido provider maxInstallments now pedido =
        totalCobradoEmCentavos pedido.items pedido.discountCents ↔
      provider ≠ .pagbank ∨ pedido.discountCents = 0 ∨
        SpreadsExactly Lib.Binary64.fl pedido.items pedido.discountCents := by
  cases provider with
  | pagbank =>
      have exactly : totalCobradoEmCentavos pedido.items pedido.discountCents = _ ↔ _ :=
        totalEmCentavos_aplicarDescontoCom_eq_iff nonempty units quantities discount
      simp only [totalPedido, pagbank_totalInCents, ne_eq, not_true_eq_false, false_or]
      rw [← exactly]
      exact ⟨fun same => (Int.cast_injective same).symm, fun same => by rw [same]⟩
  | mercadoPago => simp [totalPedido, mercadoPago_totalInCents]
  | infinitepay => simp [totalPedido, infinitePay_totalInCents]
  | ton => simp [totalPedido, ton_totalInCents]

/-- A ticket and two shirts at one real each, `desconto` cents off. -/
def pedidoDeIngressoECamisas (desconto : Int) : HostedCheckoutRequest where
  referenceId := 1
  eventId := 2
  eventName := "Retiro"
  customer :=
    { name := "Ana Souza"
      email := "ana@example.com"
      taxId := "00000000000"
      phone := { country := "55", area := "11", number := "900000000" } }
  items :=
    [{ referenceId := 3
       name := "Ingresso Retiro - Adulto"
       description := "Adulto"
       quantity := 1
       unitAmountCents := 100 },
     { referenceId := 4
       name := "Camisa (P)"
       description := "Camisa - P"
       quantity := 2
       unitAmountCents := 100 }]
  discountCents := desconto
  expiresAt := 3600000
  paymentNotificationUrl := "payments"
  checkoutNotificationUrl := "checkouts"
  redirectUrl := "events"
  softDescriptor := "Igreja de cristo"

/-- Without a discount PagBank is asked for what is stored. -/
theorem totalPedido_without_discount :
    totalPedido .pagbank none 0 (pedidoDeIngressoECamisas 0) =
      totalCobradoEmCentavos (pedidoDeIngressoECamisas 0).items 0 :=
  (totalPedido_eq_totalCobrado_iff .pagbank none 0 (pedidoDeIngressoECamisas 0) (by decide)
    (by decide) (by decide) (by decide)).mpr (.inr (.inl rfl))

/-- One per cent off the ticket: PagBank is asked for 299 cents and 300 are stored. -/
theorem totalPedido_one_cent_off :
    ¬ ∀ (provider : PaymentProvider) (maxInstallments : Option Int) (now : Instant)
        (pedido : HostedCheckoutRequest), pedido.items ≠ [] →
        (∀ item ∈ pedido.items, 1 ≤ item.unitAmountCents) →
        (∀ item ∈ pedido.items, 1 ≤ item.quantity) → 0 ≤ pedido.discountCents →
        totalPedido provider maxInstallments now pedido =
          totalCobradoEmCentavos pedido.items pedido.discountCents := by
  intro always
  have asked := always .pagbank none 0 (pedidoDeIngressoECamisas 1) (by decide) (by decide)
    (by decide) (by decide)
  have stored : totalCobradoEmCentavos (pedidoDeIngressoECamisas 1).items 1 = 300 := by
    decide +kernel
  have collected : (Pagbank.checkoutBody (pedidoDeIngressoECamisas 1)).totalInCents = 299 := by
    decide
  simp only [totalPedido, collected] at asked
  rw [show (pedidoDeIngressoECamisas 1).discountCents = 1 from rfl, stored] at asked
  norm_num at asked

-- the double of 7650 / 12000 is below it, so 5800 scales to 3697 and not to 3698
example :
    totalCobradoEmCentavos
      [{ referenceId := 3, name := "Ingresso", description := "", quantity := 1,
         unitAmountCents := 5800 },
       { referenceId := 4, name := "Camisa", description := "", quantity := 2,
         unitAmountCents := 3100 }] 4350 = 7649 := by
  decide +kernel

end IccvBackend
