/-
Module: IccvBackend.Gateways.Pagbank
Purpose: `gateways/pagbank/pagbank.gateway.ts`: the checkout body, the charges of a reference and
  the reading of a notification.
Trusted boundary: human-reviewed spec
Main exports: Pagbank.checkoutBody, Pagbank.paraCharge, Pagbank.mapearStatus, Pagbank.parseWebhook
-/
import IccvBackend.Gateways.Types

namespace IccvBackend.Pagbank

open Lib

/-!
A call to the API is an argument: `getCharges` is what `client.getCharges` answers for a reference.
The charges of an answer carry the keys the adapter reads.
-/

structure CheckoutItem where
  referenceId : Id
  description : String
  name : String
  quantity : Nat
  unitAmount : Int
deriving Repr, DecidableEq

/-- `CreatePagbankCheckoutDto`. -/
structure CheckoutBody where
  referenceId : Id
  softDescriptor : String
  expirationDate : Instant
  paymentNotificationUrls : List String
  notificationUrls : List String
  redirectUrl : String
  returnUrl : String
  customerModifiable : Bool
  customer : Customer
  discountAmount : Int
  items : List CheckoutItem
  paymentMethods : List String
deriving Repr, DecidableEq

/-- The body `createCheckout` posts: the items as they are and the discount in its own field. -/
def checkoutBody (pedido : HostedCheckoutRequest) : CheckoutBody where
  referenceId := pedido.referenceId
  softDescriptor := pedido.softDescriptor
  expirationDate := pedido.expiresAt
  paymentNotificationUrls := [pedido.paymentNotificationUrl]
  notificationUrls := [pedido.checkoutNotificationUrl]
  redirectUrl := pedido.redirectUrl
  returnUrl := pedido.redirectUrl
  customerModifiable := false
  customer := pedido.customer
  discountAmount := pedido.discountCents
  items := pedido.items.map fun item =>
    { referenceId := item.referenceId
      description := item.description
      name := item.name
      quantity := item.quantity
      unitAmount := item.unitAmountCents }
  paymentMethods := ["CREDIT_CARD", "DEBIT_CARD", "BOLETO", "PIX"]

/-- What the house collects: unit amounts times quantities, less the discount field. -/
def CheckoutBody.totalInCents (body : CheckoutBody) : Int :=
  (body.items.map fun item => item.unitAmount * (item.quantity : Int)).sum - body.discountAmount

structure Link where
  rel : String
  href : String
deriving Repr, DecidableEq

/-- `resultado.links?.find((l) => l.rel === 'PAY')?.href ?? ''`. -/
def payUrl (links : Option (List Link)) : String :=
  ((links.bind fun links => links.find? fun link => link.rel = "PAY").map Link.href).getD ""

/-! ### Charges -/

structure Charge where
  id : String
  status : Option String
  /-- `payment_method.type` -/
  paymentMethod : Option String
  createdAt : Instant
  /-- `amount.summary.paid` -/
  paid : Option Nat
  links : String
deriving Repr, DecidableEq

def mapearMetodo : Option String → PaymentMethod
  | some "PIX" => .pix
  | some "CREDIT_CARD" => .creditCard
  | some "DEBIT_CARD" => .debitCard
  | some "CASH" => .cash
  | some "BOLETO" => .boleto
  | _ => .other

def mapearStatus : Option String → PaymentStatus
  | some "PAID" => .paid
  | some "IN_ANALYSIS" => .inAnalysis
  | some "DECLINED" => .declined
  | some "CANCELED" => .canceled
  | some "REFUNDED" => .refunded
  | _ => .waiting

def mapearStatusDeCheckout : String → CheckoutStatus
  | "ACTIVE" => .active
  | "EXPIRED" => .expired
  | "INACTIVE" => .inactive
  | _ => .inactive

/-- One charge, as `listCharges` translates it. -/
def paraCharge (charge : Charge) : GatewayCharge where
  status := mapearStatus charge.status
  method := mapearMetodo charge.paymentMethod
  createdAt := charge.createdAt
  paidAmountCents := charge.paid
  payload :=
    [("payment_method", charge.paymentMethod.getD ""), ("links", charge.links),
      ("codeTransaction", charge.id)]

def listCharges (getCharges : Id → Except GatewayError (List Charge)) (referenceId : Id) :
    Except GatewayError (List GatewayCharge) :=
  (getCharges referenceId).map (List.map paraCharge)

/-! ### Notifications -/

/-- The keys of a notification's body that the adapter reads.  A charge of the body is its
`reference_id`. -/
structure Notification where
  charges : Option (List (Option Id))
  status : Option String
  id : Option Id
  referenceId : Option Id
deriving Repr, DecidableEq

/-- `x-authenticity-token`: the hash of `token-body`, letter case aside. -/
def assinaturaConfere (sha256 : String → String) (token recebido rawBody : String) : Bool :=
  recebido ≠ "" &&
    toLowerCase recebido = toLowerCase (sha256 (trim token ++ "-" ++ rawBody))

/-- The charge a notification is about: a paid one before any other, else the most recent.
`[...charges].sort((a, b) => b.createdAt.getTime() - a.createdAt.getTime())[0]` is the head of a
stable sort by descending date. -/
def escolherCobranca (charges : List GatewayCharge) : Option GatewayCharge :=
  (charges.find? fun charge => charge.status = .paid).or
    (charges.insertionSort fun a b => b.createdAt ≤ a.createdAt).head?

/-- What the charges of a reference turn a notification into. -/
def eventoDaReferencia (referenceId : Id) (charges : List GatewayCharge) : GatewayWebhookEvent :=
  match escolherCobranca charges with
  | none => .ignored "o gateway não confirmou esta cobrança"
  | some escolhida =>
      .payment referenceId escolhida.status escolhida.method escolhida.paidAmountCents
        (escolhida.payload ++ [("confirmadoNaFonte", "true")])

/-- The reference a payment notification points at. -/
def Notification.referencia (body : Notification) : Option Id :=
  match body.charges, body.status, body.id with
  | none, some _, some _ => none
  | _, _, _ => body.referenceId.or ((body.charges.bind List.head?).join)

/-- The translation of a notification.  The body only points at a reference; the state comes from
the API. -/
def parseWebhook (assinatura : Bool) (getCharges : Id → Except GatewayError (List Charge))
    (body : Notification) : Except GatewayError GatewayWebhookEvent :=
  match body.charges, body.status, body.id with
  | none, some status, some id =>
      if assinatura then pure (.checkout id (mapearStatusDeCheckout status))
      else pure (.ignored "aviso de checkout sem assinatura válida")
  | _, _, _ =>
      match body.referenceId.or ((body.charges.bind List.head?).join) with
      | none => pure (.ignored "notificação sem referência")
      | some referenceId =>
          (listCharges getCharges referenceId).map (eventoDaReferencia referenceId)

end IccvBackend.Pagbank
