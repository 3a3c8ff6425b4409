/-
Module: IccvBackend.Gateways.Types
Purpose: The vocabulary the payment service and the adapters share
  (`gateways/core/gateway.types.ts`, `payment-gateway.interface.ts`, `gateway.errors.ts`).
Trusted boundary: human-reviewed spec
Main exports: HostedCheckoutItem, HostedCheckoutRequest, HostedCheckoutResult, GatewayCharge,
  GatewayWebhookEvent, GatewayError, WebhookRequest, chargeMaisRecente
-/
import IccvBackend.Lib.FirstMax
import IccvBackend.Lib.Text
import IccvBackend.Prisma.Schema

namespace IccvBackend

/-- One line of a hosted checkout, in cents. -/
structure HostedCheckoutItem where
  referenceId : Id
  name : String
  description : String
  quantity : Nat
  unitAmountCents : Int
deriving Repr, DecidableEq

structure CustomerPhone where
  country : String
  area : String
  number : String
deriving Repr, DecidableEq

structure Customer where
  name : String
  email : String
  taxId : String
  phone : CustomerPhone
deriving Repr, DecidableEq

/-- The checkout as the system asks for it, before any adapter translates it. -/
structure HostedCheckoutRequest where
  referenceId : Id
  eventId : Id
  eventName : String
  customer : Customer
  items : List HostedCheckoutItem
  discountCents : Int
  expiresAt : Instant
  paymentNotificationUrl : String
  checkoutNotificationUrl : String
  redirectUrl : String
  softDescriptor : String
deriving Repr, DecidableEq

/-- What a house answers to `createCheckout`. -/
structure HostedCheckoutResult where
  checkoutId : Id
  payUrl : String
deriving Repr, DecidableEq

/-- One attempt to pay a reference, translated from the house. -/
structure GatewayCharge where
  status : PaymentStatus
  method : PaymentMethod
  createdAt : Instant
  paidAmountCents : Option Nat
  payload : Json
deriving Repr, DecidableEq

/-- How a call to a house fails: it does not know the reference, or it refused or did not answer. -/
inductive GatewayError where
  | resourceNotFound
  | request
deriving Repr, DecidableEq

/-- What a notification meant. -/
inductive GatewayWebhookEvent where
  | payment (referenceId : Id) (status : PaymentStatus) (method : PaymentMethod)
      (paidAmountCents : Option Nat) (payload : Json)
  | checkout (checkoutId : Id) (status : CheckoutStatus)
  | ignored (reason : String)
deriving Repr, DecidableEq

/-- The notification as it came: headers by lower case name, the bytes of the body as text, and the
keys of body and query the adapter reads. -/
structure WebhookRequest (β : Type) where
  headers : List (String × List String)
  rawBody : String
  body : β

/-- `cabecalho`: the first value of a header, empty without one. -/
def WebhookRequest.cabecalho {β : Type} (req : WebhookRequest β) (nome : String) : String :=
  ((req.headers.lookup nome).bind List.head?).getD ""

/-- `charges.reduce((atual, item) => item.createdAt > atual.createdAt ? item : atual)`, the choice
of a charge in `reconciliar` and in `createCheckout`'s check of an active checkout.  Both test for
the empty list first. -/
def chargeMaisRecente (charges : List GatewayCharge) : Option GatewayCharge :=
  Lib.firstMax GatewayCharge.createdAt charges

end IccvBackend
