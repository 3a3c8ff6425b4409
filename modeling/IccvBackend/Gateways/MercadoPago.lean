/-
Module: IccvBackend.Gateways.MercadoPago
Purpose: `gateways/mercadopago/mercadopago.gateway.ts`: the preference body, the charges of a
  reference and the reading of a notification.
Trusted boundary: human-reviewed spec
Main exports: MercadoPago.preferenceBody, MercadoPago.paraCharge, MercadoPago.mapearStatus,
  MercadoPago.verifyWebhook, MercadoPago.parseWebhook
-/
import IccvBackend.Gateways.Discount
import IccvBackend.Lib.Cents

namespace IccvBackend.MercadoPago

open Lib

structure PreferenceItem where
  id : Id
  title : String
  description : String
  quantity : Nat
  currencyId : String
  unitPrice : ℚ
deriving DecidableEq

/-- The body of `createPreference`. -/
structure PreferenceBody where
  externalReference : Id
  statementDescriptor : String
  items : List PreferenceItem
  payerName : String
  payerSurname : String
  payerEmail : String
  identificationType : String
  identificationNumber : String
  phoneAreaCode : String
  phoneNumber : String
  backUrl : String
  autoReturn : String
  notificationUrl : String
  expires : Bool
  expirationDateFrom : Instant
  expirationDateTo : Instant
deriving DecidableEq

/-- `name.trim().split(/\s+/)`. -/
def palavras (name : String) : List String :=
  ((name.toList.splitOnP isBlank).filter fun word => !word.isEmpty).map String.ofList

/-- The body `createCheckout` posts: the discount is worked into the items, and the unit price is
in reais. -/
def preferenceBody (now : Instant) (pedido : HostedCheckoutRequest) : PreferenceBody :=
  let itens := aplicarDesconto pedido.items pedido.discountCents
  let nome := (palavras pedido.customer.name).headD ""
  let sobrenome := (palavras pedido.customer.name).tail
  { externalReference := pedido.referenceId
    statementDescriptor := pedido.softDescriptor
    items := itens.map fun item =>
      { id := item.referenceId
        title := item.name
        description := item.description
        quantity := item.quantity
        currencyId := "BRL"
        unitPrice := (item.unitAmountCents : ℚ) / 100 }
    payerName := nome
    payerSurname := if sobrenome = [] then nome else " ".intercalate sobrenome
    payerEmail := pedido.customer.email
    identificationType := "CPF"
    identificationNumber := pedido.customer.taxId
    phoneAreaCode := pedido.customer.phone.area
    phoneNumber := pedido.customer.phone.number
    backUrl := pedido.redirectUrl
    autoReturn := "approved"
    notificationUrl := pedido.paymentNotificationUrl
    expires := true
    expirationDateFrom := now
    expirationDateTo := pedido.expiresAt }

/-- What the house collects, in cents. -/
def PreferenceBody.totalInCents (body : PreferenceBody) : ℚ :=
  (body.items.map fun item => item.unitPrice * 100 * (item.quantity : ℚ)).sum

/-! ### Charges -/

/-- A payment of the house.  Amounts are in reais and never negative. -/
structure Pagamento where
  id : String
  status : Option String
  paymentTypeId : Option String
  createdAt : Instant
  /-- `transaction_details.total_paid_amount` -/
  totalPaidAmount : Option ℚ
  transactionAmount : Option ℚ
  receipt : Option String
deriving DecidableEq

def mapearMetodo : Option String → PaymentMethod
  | some "bank_transfer" => .pix
  | some "credit_card" => .creditCard
  | some "debit_card" => .debitCard
  | some "ticket" => .boleto
  | _ => .other

def mapearStatus : Option String → PaymentStatus
  | some "approved" => .paid
  | some "authorized" => .inAnalysis
  | some "in_process" => .inAnalysis
  | some "in_mediation" => .inAnalysis
  | some "rejected" => .declined
  | some "cancelled" => .canceled
  | some "refunded" => .refunded
  | some "charged_back" => .refunded
  | _ => .waiting

def paraCharge (pagamento : Pagamento) : GatewayCharge where
  status := mapearStatus pagamento.status
  method := mapearMetodo pagamento.paymentTypeId
  createdAt := pagamento.createdAt
  paidAmountCents :=
    (pagamento.totalPaidAmount.or pagamento.transactionAmount).map fun reais => (cents reais).toNat
  payload :=
    [("payment_method", pagamento.paymentTypeId.getD ""), ("codeTransaction", pagamento.id),
      ("receipt", pagamento.receipt.getD "")]

/-- An empty answer is an unknown reference. -/
def listCharges (searchPayments : Id → Except GatewayError (List Pagamento)) (referenceId : Id) :
    Except GatewayError (List GatewayCharge) := do
  match ← searchPayments referenceId with
  | [] => throw .resourceNotFound
  | pagamentos => pure (pagamentos.map paraCharge)

/-! ### Notifications -/

/-- The keys of the query and the body that the adapter reads, as text. -/
structure Notification where
  type : Option String
  topic : Option String
  queryType : Option String
  /-- `query['data.id']` -/
  queryDataId : Option String
  queryId : Option String
  /-- `body.data.id` -/
  dataId : Option String
  resource : Option String
deriving Repr, DecidableEq

/-- `idDoPagamento`: an old notice carries a whole URL, and the id is its end. -/
def idDoPagamento (body : Notification) : String :=
  match ((body.queryDataId.or body.queryId).or body.dataId).or body.resource with
  | none => ""
  | some bruto => ((bruto.splitOn "/").filter fun parte => parte ≠ "").getLast?.getD ""

/-- `partes`: the fields of `x-signature`; a later field of a name wins. -/
def partes (assinatura : String) : List (String × String) :=
  ((assinatura.splitOn ",").map fun parte =>
    match parte.splitOn "=" with
    | chave :: resto => (trim chave, trim ("=".intercalate resto))
    | [] => ("", "")).reverse

/-- `verifyWebhook`: the signature covers the pointer to the payment, not the body. -/
def verifyWebhook (hmac : String → String → String) (webhookSecret : Option String)
    (req : WebhookRequest Notification) : Bool :=
  let segredo := (webhookSecret.map trim).getD ""
  let assinatura := req.cabecalho "x-signature"
  let requestId := req.cabecalho "x-request-id"
  let dataId := idDoPagamento req.body
  if segredo = "" ∨ assinatura = "" ∨ dataId = "" then false
  else
    match (partes assinatura).lookup "ts", (partes assinatura).lookup "v1" with
    | some ts, some v1 =>
        ts ≠ "" && v1 ≠ "" &&
          v1 = hmac segredo
            ("id:" ++ toLowerCase dataId ++ ";request-id:" ++ requestId ++ ";ts:" ++ ts ++ ";")
    | _, _ => false

/-- The payment `getPayment` brings. -/
structure PagamentoObtido extends Pagamento where
  externalReference : Option Id

/-- The payment a notification asks the house for, if it asks. -/
def pagamentoPedido (body : Notification) : Option String :=
  if (body.type.or body.topic).or body.queryType = some "payment" ∧ idDoPagamento body ≠ "" then
    some (idDoPagamento body)
  else none

/-- The translation of a notification: the body points at a payment of the house, and reference and
state come from the API. -/
def parseWebhook (getPayment : String → Except GatewayError (Option PagamentoObtido))
    (body : Notification) : Except GatewayError GatewayWebhookEvent :=
  let tipo := (body.type.or body.topic).or body.queryType
  if tipo ≠ some "payment" then
    pure (.ignored ("notificação do tipo " ++ tipo.getD "undefined"))
  else if idDoPagamento body = "" then pure (.ignored "notificação sem id de pagamento")
  else do
    let pagamento ← getPayment (idDoPagamento body)
    match pagamento with
    | none => pure (.ignored "pagamento sem referência externa — não é deste sistema")
    | some pagamento =>
        match pagamento.externalReference with
        | none => pure (.ignored "pagamento sem referência externa — não é deste sistema")
        | some referenceId =>
            let charge := paraCharge pagamento.toPagamento
            pure (.payment referenceId charge.status charge.method charge.paidAmountCents
              charge.payload)

end IccvBackend.MercadoPago
