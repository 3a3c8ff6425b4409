/-
Module: IccvBackend.Gateways.InfinitePay
Purpose: `gateways/infinitepay/infinitepay.gateway.ts`: the link body, the one charge of
  a reference and the reading of a notification.
Trusted boundary: human-reviewed spec
Main exports: InfinitePay.linkBody, InfinitePay.paraCharge, InfinitePay.listCharges,
  InfinitePay.parseWebhook
-/
import IccvBackend.Gateways.Discount

namespace IccvBackend.InfinitePay

structure LinkItem where
  quantity : Nat
  price : Int
  description : String
deriving Repr, DecidableEq

/-- The body of `createLink`. -/
structure LinkBody where
  orderNsu : Id
  redirectUrl : String
  webhookUrl : String
  customerName : String
  customerEmail : String
  phoneNumber : String
  items : List LinkItem
deriving Repr, DecidableEq

/-- The body `createCheckout` posts: the discount is worked into the items. -/
def linkBody (pedido : HostedCheckoutRequest) : LinkBody :=
  let itens := aplicarDesconto pedido.items pedido.discountCents
  { orderNsu := pedido.referenceId
    redirectUrl := pedido.redirectUrl
    webhookUrl := pedido.paymentNotificationUrl
    customerName := pedido.customer.name
    customerEmail := pedido.customer.email
    phoneNumber := pedido.customer.phone.area ++ pedido.customer.phone.number
    items := itens.map fun item =>
      { quantity := item.quantity
        price := item.unitAmountCents
        description := if item.description = "" then item.name else item.description } }

/-- What the house collects. -/
def LinkBody.totalInCents (body : LinkBody) : Int :=
  (body.items.map fun item => item.price * (item.quantity : Int)).sum

/-- The answer of `paymentCheck`. -/
structure Conferencia where
  success : Bool
  paid : Bool
  captureMethod : Option String
  paidAmount : Option Nat
  installments : Option Nat
deriving Repr, DecidableEq

def mapearMetodo : Option String → PaymentMethod
  | some "pix" => .pix
  | some "credit_card" => .creditCard
  | some "debit_card" => .debitCard
  | _ => .other

def paraCharge (now : Instant) (conferencia : Conferencia) : GatewayCharge where
  status := if conferencia.paid then .paid else .waiting
  method := mapearMetodo conferencia.captureMethod
  createdAt := now
  paidAmountCents := conferencia.paidAmount
  payload :=
    [("payment_method", conferencia.captureMethod.getD ""),
      ("installments", (conferencia.installments.map toString).getD "")]

/-- The house answers for one charge at most. -/
def listCharges (now : Instant) (paymentCheck : Id → Except GatewayError Conferencia)
    (referenceId : Id) : Except GatewayError (List GatewayCharge) := do
  let conferencia ← paymentCheck referenceId
  if conferencia.success then pure [paraCharge now conferencia] else throw .resourceNotFound

/-! ### Notifications -/

/-- The keys of a notification's body that the adapter reads. -/
structure Notification where
  orderNsu : Option Id
  transactionNsu : Option String
  invoiceSlug : Option String
  receiptUrl : Option String
deriving Repr, DecidableEq

/-- What `paymentCheck` is asked about. -/
structure Consulta where
  orderNsu : Id
  transactionNsu : Option String
  slug : Option String
deriving Repr, DecidableEq

/-- The check a notification asks the house for, if it asks. -/
def consultaPedida (body : Notification) : Option Consulta :=
  body.orderNsu.map fun orderNsu =>
    { orderNsu := orderNsu, transactionNsu := body.transactionNsu, slug := body.invoiceSlug }

/-- The translation of a notification: the body says which charge to look at, the API whether it
was paid.  `paymentCheck` answers nothing for a reference it does not know. -/
def parseWebhook (now : Instant)
    (paymentCheck : Consulta → Except GatewayError (Option Conferencia)) (body : Notification) :
    Except GatewayError GatewayWebhookEvent :=
  match consultaPedida body with
  | none => pure (.ignored "notificação sem order_nsu")
  | some consulta => do
      let conferencia ← paymentCheck consulta
      match conferencia.filter Conferencia.success with
      | none => pure (.ignored "a InfinitePay não confirmou esta cobrança")
      | some conferencia =>
          let charge := paraCharge now conferencia
          pure (.payment consulta.orderNsu charge.status charge.method charge.paidAmountCents
            (charge.payload ++ [("codeTransaction", body.transactionNsu.getD ""),
              ("receipt", body.receiptUrl.getD "")]))

end IccvBackend.InfinitePay
