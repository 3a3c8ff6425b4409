/-
Module: IccvBackend.Gateways.Ton
Purpose: `gateways/ton/ton.gateway.ts`: the order body, the charges of a reference and the reading
  of a notification.
Trusted boundary: human-reviewed spec
Main exports: Ton.orderBody, Ton.paraCharge, Ton.mapearStatus, Ton.verifyWebhook, Ton.parseWebhook
-/
import IccvBackend.Gateways.Discount

namespace IccvBackend.Ton

open Lib

structure OrderItem where
  code : Id
  description : String
  quantity : Nat
  amount : Int
deriving Repr, DecidableEq

/-- One way to pay by card in instalments. -/
structure Installment where
  number : Nat
  total : Int
deriving Repr, DecidableEq

/-- The body of `createOrder`. -/
structure OrderBody where
  code : Id
  closed : Bool
  customerName : String
  customerEmail : String
  customerType : String
  document : String
  documentType : String
  mobilePhone : CustomerPhone
  items : List OrderItem
  paymentMethod : String
  expiresIn : Int
  defaultPaymentMethod : String
  acceptedPaymentMethods : List String
  successUrl : String
  customerEditable : Bool
  skipCheckoutSuccessPage : Bool
  statementDescriptor : String
  installments : List Installment
  pixExpiresIn : Int
deriving Repr, DecidableEq

/-- The instalments offered, all at the total of the purchase.  `maxInstallments` is the setting
read as a number, absent when it is not an integer. -/
def parcelas (maxInstallments : Option Int) (total : Int) : List Installment :=
  let teto : Nat :=
    match maxInstallments with
    | some pedido => if 0 < pedido then (min pedido 12).toNat else 1
    | none => 1
  (List.range teto).map fun i => { number := i + 1, total := total }

/-- The validity of the checkout in minutes, five at least. -/
def minutos (now expiresAt : Instant) : Int :=
  max 5 (round (((expiresAt : ℚ) - now) / 60000))

/-- The body `createCheckout` posts: the discount is worked into the items. -/
def orderBody (maxInstallments : Option Int) (now : Instant) (pedido : HostedCheckoutRequest) :
    OrderBody :=
  let itens := aplicarDesconto pedido.items pedido.discountCents
  let total := totalEmCentavos itens
  let minutos := minutos now pedido.expiresAt
  { code := pedido.referenceId
    closed := false
    customerName := pedido.customer.name
    customerEmail := pedido.customer.email
    customerType := "individual"
    document := String.ofList (pedido.customer.taxId.toList.filter Char.isDigit)
    documentType := "CPF"
    mobilePhone := pedido.customer.phone
    items := itens.map fun item =>
      { code := item.referenceId
        description := if item.description = "" then item.name else item.description
        quantity := item.quantity
        amount := item.unitAmountCents }
    paymentMethod := "checkout"
    expiresIn := minutos
    defaultPaymentMethod := "pix"
    acceptedPaymentMethods := ["credit_card", "pix", "boleto"]
    successUrl := pedido.redirectUrl
    customerEditable := false
    skipCheckoutSuccessPage := false
    statementDescriptor := String.ofList (pedido.softDescriptor.toList.take 13)
    installments := parcelas maxInstallments total
    pixExpiresIn := minutos * 60 }

/-- What the house collects. -/
def OrderBody.totalInCents (body : OrderBody) : Int :=
  (body.items.map fun item => item.amount * (item.quantity : Int)).sum

/-! ### Charges -/

structure Charge where
  id : String
  status : Option String
  paymentMethod : Option String
  createdAt : Instant
  paidAmount : Option Nat
  amount : Option Nat
  /-- `last_transaction.pdf ?? last_transaction.url` -/
  receipt : Option String
deriving Repr, DecidableEq

structure Order where
  id : Id
  code : Option Id
  charges : Option (List Charge)
deriving Repr, DecidableEq

def mapearMetodo : Option String → PaymentMethod
  | some "pix" => .pix
  | some "credit_card" => .creditCard
  | some "debit_card" => .debitCard
  | some "boleto" => .boleto
  | _ => .other

def mapearStatus : Option String → PaymentStatus
  | some "paid" => .paid
  | some "overpaid" => .paid
  | some "processing" => .inAnalysis
  | some "underpaid" => .inAnalysis
  | some "failed" => .declined
  | some "payment_failed" => .declined
  | some "not_authorized" => .declined
  | some "canceled" => .canceled
  | some "refunded" => .refunded
  | some "chargedback" => .refunded
  | _ => .waiting

def paraCharge (charge : Charge) : GatewayCharge where
  status := mapearStatus charge.status
  method := mapearMetodo charge.paymentMethod
  createdAt := charge.createdAt
  paidAmountCents := charge.paidAmount.or charge.amount
  payload :=
    [("payment_method", charge.paymentMethod.getD ""), ("codeTransaction", charge.id),
      ("receipt", charge.receipt.getD "")]

/-- The charges of every order of the reference; none at all is an unknown reference. -/
def listCharges (findOrdersByCode : Id → Except GatewayError (List Order)) (referenceId : Id) :
    Except GatewayError (List GatewayCharge) := do
  let pedidos ← findOrdersByCode referenceId
  match pedidos.flatMap fun pedido => pedido.charges.getD [] with
  | [] => throw .resourceNotFound
  | charges => pure (charges.map paraCharge)

/-! ### Notifications -/

/-- The keys of a notification's body that the adapter reads. -/
structure Notification where
  type : String
  code : Option Id
  id : Option Id
  orderCode : Option Id
  orderId : Option Id
deriving Repr, DecidableEq

/-- The charge of an order a notification is about: one the house calls `paid` before any other,
else the most recent. -/
def escolherCobranca (charges : List Charge) : Option Charge :=
  (charges.find? fun charge => charge.status = some "paid").or
    (charges.insertionSort fun a b => b.createdAt ≤ a.createdAt).head?

/-- The translation of a notification: the body points at the order, the state comes from the
API. -/
def parseWebhook (getOrder : Id → Except GatewayError (Option Order))
    (findOrdersByCode : Id → Except GatewayError (List Order)) (body : Notification) :
    Except GatewayError GatewayWebhookEvent :=
  if !("order.".isPrefixOf body.type || "charge.".isPrefixOf body.type) then
    pure (.ignored ("notificação do tipo " ++ body.type))
  else do
    let code := body.code.or body.orderCode
    let pedido ←
      match body.orderId.or body.id, code with
      | some orderId, _ => getOrder orderId
      | none, some code => do pure (← findOrdersByCode code).head?
      | none, none => return .ignored "notificação sem pedido identificável"
    match pedido with
    | none => pure (.ignored "pedido não encontrado na Ton")
    | some pedido =>
        match pedido.code.or code with
        | none => pure (.ignored "pedido sem referência deste sistema")
        | some referenceId =>
            match escolherCobranca (pedido.charges.getD []) with
            | none => pure (.ignored "pedido ainda sem cobrança")
            | some escolhida =>
                let charge := paraCharge escolhida
                pure (.payment referenceId charge.status charge.method charge.paidAmountCents
                  charge.payload)

/-- `replace(/^sha256=/i, '')`. -/
def semPrefixo (assinatura : String) : String :=
  if toLowerCase (String.ofList (assinatura.toList.take 7)) = "sha256=" then
    String.ofList (assinatura.toList.drop 7)
  else assinatura

/-- `verifyWebhook`: without a secret the proof is left to the API. -/
def verifyWebhook (hmac : String → String → String) (webhookSecret : Option String)
    (req : WebhookRequest Notification) : Bool :=
  match webhookSecret.map trim with
  | none => true
  | some "" => true
  | some segredo =>
      let cabecalho :=
        if req.cabecalho "x-hub-signature-256" ≠ "" then req.cabecalho "x-hub-signature-256"
        else req.cabecalho "x-hub-signature"
      let recebido := semPrefixo cabecalho
      recebido ≠ "" && toLowerCase recebido = hmac segredo req.rawBody

/-- What a notification asks the house for. -/
inductive Consulta where
  | getOrder (orderId : Id)
  | findOrdersByCode (code : Id)
deriving Repr, DecidableEq

/-- The question a notification asks the house, if it asks. -/
def consultaPedida (body : Notification) : Option Consulta :=
  if !("order.".isPrefixOf body.type || "charge.".isPrefixOf body.type) then none
  else
    match body.orderId.or body.id, body.code.or body.orderCode with
    | some orderId, _ => some (.getOrder orderId)
    | none, some code => some (.findOrdersByCode code)
    | none, none => none

end IccvBackend.Ton
