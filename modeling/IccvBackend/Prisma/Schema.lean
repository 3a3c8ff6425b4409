/-
Module: IccvBackend.Prisma.Schema
Purpose: The rows of `prisma/schema.prisma` that registrations, the shop and payments read and
  write.
Trusted boundary: human-reviewed spec
Main exports: Payment, PaymentCheckout, PaymentProductItem, EventOnUsers, GroupRoles,
  EventProduct, Failure
-/
import Mathlib.Data.Rat.Floor

namespace IccvBackend

/-!
Ids are the uuids of the schema.  They are compared and never inspected, so they are numbers here,
handed out by one counter (see `Database.nextId`).  Instants are milliseconds.  `Float` columns are
rationals, each standing for the double nearest to it: every amount the code computes is rounded to
cents before it is stored.

Rows that belong to one parent and leave with it (`onDelete: Cascade`) are nested in the parent, in
the shape `include` returns them: product items and checkouts in their payment, roles in their
group, variants in their product, role registrations in their event registration.
-/

abbrev Id := Nat
abbrev Instant := Nat

/-- A JSON object, as text by key. -/
abbrev Json := List (String × String)

/-! ### Failures

An exception that leaves a service: the HTTP status it becomes and its message. -/

inductive HttpStatus where
  | badRequest
  | unauthorized
  | forbidden
  | notFound
  | conflict
  | tooManyRequests
  | serviceUnavailable
  | internalServerError
  | badGateway
deriving Repr, DecidableEq

structure Failure where
  status : HttpStatus
  message : String
deriving Repr, DecidableEq

def badRequest (message : String) : Failure := ⟨.badRequest, message⟩
def unauthorized (message : String) : Failure := ⟨.unauthorized, message⟩
def forbidden (message : String) : Failure := ⟨.forbidden, message⟩
def notFound (message : String) : Failure := ⟨.notFound, message⟩
def conflict (message : String) : Failure := ⟨.conflict, message⟩
def tooManyRequests (message : String) : Failure := ⟨.tooManyRequests, message⟩
def serviceUnavailable (message : String) : Failure := ⟨.serviceUnavailable, message⟩
def internalServerError (message : String) : Failure := ⟨.internalServerError, message⟩

/-! ### Enumerations -/

inductive PaymentStatus where
  | paid
  | inAnalysis
  | declined
  | canceled
  | waiting
  | refunded
deriving Repr, DecidableEq

inductive PaymentMethod where
  | pix
  | creditCard
  | debitCard
  | cash
  | boleto
  | other
deriving Repr, DecidableEq

inductive PaymentReceived where
  | pending
  | system
  | external
deriving Repr, DecidableEq

inductive CheckoutStatus where
  | active
  | expired
  | inactive
deriving Repr, DecidableEq

inductive PaymentProvider where
  | pagbank
  | mercadoPago
  | infinitepay
  | ton
deriving Repr, DecidableEq

inductive EventStatus where
  | active
  | inactive
  | test
deriving Repr, DecidableEq

inductive ChurchModule where
  | events
  | news
  | treasury
  | requests
deriving Repr, DecidableEq

inductive MinorApprovalStatus where
  | notRequired
  | pending
  | approved
  | rejected
deriving Repr, DecidableEq

/-! ### Churches, people and events -/

/-- A church: the modules of its plan (`none` without a plan) and the online charging switch. -/
structure Church where
  id : Id
  plan : Option (List ChurchModule)
  modulePayment : Bool
deriving Repr, DecidableEq

/-- A church's account at one payment house.  `opens` tells whether the sealed credentials open
with the keys the server has now. -/
structure PaymentProviderConfig where
  id : Id
  churchId : Id
  provider : PaymentProvider
  enabled : Bool
  isDefault : Bool
  opens : Bool
  /-- the secret of the notification URL, kept inside the sealed credentials -/
  webhookSecret : String
deriving Repr, DecidableEq

/-- A day of the calendar, as `getFullYear`, `getMonth` and `getDate` read it. -/
structure CalendarDay where
  year : Int
  month : Nat
  day : Nat
deriving Repr, DecidableEq

structure User where
  id : Id
  fullName : String
  email : String
  cpf : String
  cellphone : String
  birthday : CalendarDay
  /-- the account is blocked (`block` relation present) -/
  blocked : Bool
deriving Repr, DecidableEq

/-- An event with the keys of `data` that the modelled code reads: `publicStore === true` and
`minorAgeLimit === 18`. -/
structure Event where
  id : Id
  churchId : Id
  name : String
  status : EventStatus
  startDate : CalendarDay
  endDate : Option Instant
  publicStore : Bool
  minorAgeLimitIs18 : Bool
deriving Repr, DecidableEq

structure RolesRegistration where
  id : Id
  price : ℚ
  description : String
deriving DecidableEq

structure GroupRoles where
  id : Id
  eventId : Id
  name : String
  capacity : Option Int
  active : Bool
  opensAt : Option Instant
  closesAt : Option Instant
  roles : List RolesRegistration
deriving DecidableEq

structure Discounts where
  id : Id
  percentage : ℚ
  description : String
deriving DecidableEq

/-! ### The shop -/

structure EventProductVariant where
  id : Id
  name : String
  stock : Option Nat
deriving Repr, DecidableEq

/-- A product.  `validarProdutos` refuses a negative price wherever a product is written. -/
structure EventProduct where
  id : Id
  eventId : Id
  name : String
  description : Option String
  price : ℚ
  price_nonneg : 0 ≤ price
  images : List String
  variants : List EventProductVariant
deriving DecidableEq

/-- One line of a purchase.  Its quantity passed `montarPedido` and its price is the price the
product had then. -/
structure PaymentProductItem where
  id : Id
  variantId : Id
  quantity : Nat
  quantity_pos : 0 < quantity
  unitPrice : ℚ
  unitPrice_nonneg : 0 ≤ unitPrice
  createdAt : Instant
deriving DecidableEq

/-! ### Payments -/

/-- What a payment was sent to: a hosted checkout at one house. -/
structure PaymentCheckout where
  checkoutId : Id
  referenceId : Id
  status : CheckoutStatus
  amount : ℚ
  link : String
  createdAt : Instant
  provider : PaymentProvider
  configId : Option Id
  chargedAmountCents : Option Int
deriving DecidableEq

structure Payment where
  id : Id
  userId : Option Id
  eventId : Option Id
  roleRegistrationId : Option Id
  amount : ℚ
  status : PaymentStatus
  method : PaymentMethod
  receivedFrom : PaymentReceived
  payload : Option Json
  createdAt : Instant
  productItems : List PaymentProductItem
  checkouts : List PaymentCheckout
deriving DecidableEq

/-! ### Registrations -/

structure EventOnUsersRolesRegistration where
  roleRegistrationId : Id
  discountId : Option Id
deriving Repr, DecidableEq

structure EventOnUsers where
  userId : Id
  eventId : Id
  minorApprovalStatus : MinorApprovalStatus
  signedTermUrl : Option String
  minorApprovalReviewedById : Option Id
  minorApprovalReviewedAt : Option Instant
  minorApprovalRejectionReason : Option String
  termsAcceptedAt : Option Instant
  certificateCode : Option String
  rolesRegistration : List EventOnUsersRolesRegistration
deriving Repr, DecidableEq

structure Waitlist where
  userId : Id
  eventId : Id
  roleRegistrationId : Id
deriving Repr, DecidableEq

end IccvBackend
