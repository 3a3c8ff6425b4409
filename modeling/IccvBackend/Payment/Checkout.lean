/-
Module: IccvBackend.Payment.Checkout
Purpose: `payment/payment.service.ts`: `createCheckout`, cut where it commits or waits for a house.
Trusted boundary: human-reviewed spec
Main exports: lerCheckout, reativarCheckout, conferirCheckoutAtivo, checkoutReutilizavel,
  montarPedidoHosted, gravarCheckout
-/
import IccvBackend.Event.EventProducts
import IccvBackend.Gateways.Discount
import IccvBackend.Gateways.Registry
import IccvBackend.Payment.Service

namespace IccvBackend

open Lib

/-!
`createCheckout` reads the payments once and works on what it read until the end.  In between it
commits a reactivation, asks the houses about the active checkouts, and asks one for a new
checkout.  The functions below are the stretches between these points; whatever another request
commits between two of them is not seen by what was read before.
-/

/-- `CreatePaymentCheckoutDto`. -/
structure CreatePaymentCheckoutDto where
  userId : Id
  eventId : Id
  roleRegistrationId : List Id
  paymentIds : List Id
deriving Repr, DecidableEq

/-- A payment as it was read, with the role and the discount of its ticket. -/
structure PagamentoLido where
  payment : Payment
  eventUserRole : Option (RolesRegistration × Option Discounts)

/-- What the read phase brought. -/
structure CheckoutLido where
  event : Event
  config : PaymentProviderConfig
  user : User
  /-- the variants and products the items point at -/
  catalogue : Catalogue
  aCobrar : List PagamentoLido

/-- `unpaidPayments`, with what the read phase brought. -/
structure CheckoutEmCurso where
  lido : CheckoutLido
  unpaidPayments : List PagamentoLido

def CheckoutEmCurso.ids (c : CheckoutEmCurso) : List Id :=
  c.unpaidPayments.map fun p => p.payment.id

/-- `activeCheckouts`, each with the payment it belongs to. -/
def CheckoutEmCurso.activeCheckouts (c : CheckoutEmCurso) : List (Id × PaymentCheckout) :=
  c.unpaidPayments.flatMap fun p =>
    (p.payment.checkouts.filter fun checkout => checkout.status = .active).map fun checkout =>
      (p.payment.id, checkout)

/-! ### The read phase -/

def emAndamento : String :=
  "Alguns itens possuem pagamentos em andamento. Por favor, atualize a página."

/-- The payments a request names, as they are now. -/
def Database.paraCheckout (db : Database) (dto : CreatePaymentCheckoutDto) : List PagamentoLido :=
  (db.payments.filter fun p =>
    p.userId = some dto.userId && p.eventId = some dto.eventId &&
      (p.roleRegistrationId.any (· ∈ dto.roleRegistrationId) || p.id ∈ dto.paymentIds)).map
    fun p => { payment := p, eventUserRole := db.eventUserRole p }

/-- Everything up to the reactivation. -/
def lerCheckout (db : Database) (dto : CreatePaymentCheckoutDto) : Except Failure CheckoutLido := do
  failIf (dto.roleRegistrationId = [] ∧ dto.paymentIds = [])
    (badRequest "No role registrations provided")
  let event ← orFail (db.catalogue.event? dto.eventId) (notFound "Event not found")
  failIf (¬ (db.catalogue.church? event.churchId).any cobraOnline)
    (serviceUnavailable semCobrancaOnline)
  let config ← paraIgreja db.catalogue event.churchId
  let user ← orFail (db.catalogue.user? dto.userId) (notFound "User not found")
  let payments := db.paraCheckout dto
  failIf (payments = []) (notFound "No registrations found for payment")
  let aCobrar := payments.filter fun p => p.payment.status ≠ .paid && p.payment.status ≠ .refunded
  failIf (aCobrar = [])
    (badRequest
      (if payments.any fun p => p.payment.status = .refunded then
        "Pagamento estornado não pode ser pago de novo. Fale com a organização do evento."
      else emAndamento))
  pure { event := event, config := config, user := user, catalogue := db.catalogue,
         aCobrar := aCobrar }

/-- What a request reads is what the database holds. -/
theorem lerCheckout_ok {db : Database} {dto : CreatePaymentCheckoutDto} {lido : CheckoutLido}
    (ok : lerCheckout db dto = .ok lido) :
    lido.catalogue = db.catalogue ∧
      lido.aCobrar = (db.paraCheckout dto).filter fun p =>
        p.payment.status ≠ .paid && p.payment.status ≠ .refunded := by
  unfold lerCheckout at ok
  simp only [bind_eq_ok_iff, orFail_eq_ok_iff, failIf_eq_ok_iff, pure_eq_ok_iff] at ok
  obtain ⟨_, _, event, _, _, _, config, _, user, _, _, _, _, _, rfl⟩ := ok
  exact ⟨rfl, rfl⟩

/-- Each payment is read as it is, with the role of its ticket. -/
theorem mem_aCobrar {db : Database} {dto : CreatePaymentCheckoutDto} {lido : CheckoutLido}
    (ok : lerCheckout db dto = .ok lido) {p : PagamentoLido} (mem : p ∈ lido.aCobrar) :
    p.payment ∈ db.payments ∧ p.eventUserRole = db.eventUserRole p.payment := by
  rw [(lerCheckout_ok ok).2] at mem
  obtain ⟨q, q_mem, rfl⟩ := List.mem_map.mp (List.mem_of_mem_filter mem)
  exact ⟨List.mem_of_mem_filter q_mem, rfl⟩

/-! ### The reactivation -/

/-- The status of payments that wait to be paid. -/
def voltarAEsperar : Database.PaymentUpdate := { status := some .waiting, method := some .other }

/-- The payments that will be charged: those that held their units when they were read, and those
that just took them again, without the items that no longer fit. -/
def unpaidPaymentsOf (aCobrar : List PagamentoLido) (r : Reativacao) : List PagamentoLido :=
  (aCobrar.filter fun p =>
    !p.payment.status.liberaEstoque || p.payment.id ∈ r.reativados).map fun p =>
      { p with
        payment :=
          { p.payment with
            productItems := p.payment.productItems.filter fun item => item.id ∉ r.itensRemovidos } }

/-- The reactivation transaction.  When nothing is left to charge the request is refused, and what
was committed stays. -/
def reativarCheckout (db : Database) (lido : CheckoutLido) :
    Except Failure (Database × Except Failure CheckoutEmCurso) := do
  let reativacao ← reativarCompras db (lido.aCobrar.map fun p => p.payment.id)
  let r := reativacao.2
  let unpaidPayments := unpaidPaymentsOf lido.aCobrar r
  pure (reativacao.1.updateManyPayments (fun p => p.id ∈ r.reativados) voltarAEsperar,
    if unpaidPayments = [] then throw (badRequest (r.recusa.getD "Bad Request"))
    else pure { lido := lido, unpaidPayments := unpaidPayments })

/-- A reactivation that commits: what came back waits, and the request goes on with it. -/
theorem reativarCheckout_ok {db db' : Database} {lido : CheckoutLido}
    {outcome : Except Failure CheckoutEmCurso}
    (ok : reativarCheckout db lido = .ok (db', outcome)) :
    ∃ reativado r, Reativou db (lido.aCobrar.map fun p => p.payment.id) reativado r ∧
      db' = reativado.updateManyPayments (fun p => p.id ∈ r.reativados) voltarAEsperar ∧
      ∀ c, outcome = .ok c →
        c = { lido := lido, unpaidPayments := unpaidPaymentsOf lido.aCobrar r } := by
  unfold reativarCheckout at ok
  rw [bind_eq_ok_iff] at ok
  obtain ⟨⟨reativado, r⟩, reactivation, rest⟩ := ok
  obtain ⟨rfl, rfl⟩ := Prod.mk.inj (pure_eq_ok_iff.mp rest)
  refine ⟨reativado, r, reativarCompras_spec reactivation, rfl, fun c done => ?_⟩
  split at done
  · exact absurd done throw_ne_ok
  · exact (pure_eq_ok_iff.mp done).symm

/-! ### The check of an active checkout -/

/-- `charges.reduce(...)`, after the test for the empty list: the charge that decides. -/
def cobrancaDoCheckoutAtivo (charges : List GatewayCharge) : Option GatewayCharge :=
  chargeMaisRecente charges

/-- What the house answers about an active checkout: nothing that stops the request, or the status
to write on its payment. -/
def conferirCheckoutAtivo (cat : Catalogue) (churchId : Id) (checkout : PaymentCheckout)
    (reply : Except GatewayError (List GatewayCharge)) :
    Except Failure (Option (PaymentStatus × GatewayCharge)) := do
  let _ ← casaDoCheckout cat checkout churchId
  match reply with
  | .error .resourceNotFound => pure none
  | .error .request => throw (gatewayRequestError checkout.provider)
  | .ok charges =>
      match cobrancaDoCheckoutAtivo charges with
      | none => pure none
      | some charge =>
          let statusConferido :=
            conferirValorPago charge.status charge.paidAmountCents checkout.chargedAmountCents
          pure (if statusConferido ≠ .waiting then some (statusConferido, charge) else none)

/-- The first of the two writes on a checkout that is no longer waiting. -/
def inativarCheckout (db : Database) (checkoutId : Id) : Database :=
  db.updateManyCheckouts (fun _ c => c.checkoutId = checkoutId) .inactive

/-- The second of them. -/
def gravarStatusDoCheckout (db : Database) (paymentId : Id) (status : PaymentStatus)
    (charge : GatewayCharge) : Database :=
  db.updateManyPayments (fun p => p.id = paymentId)
    (gatewayUpdate status charge.method charge.payload)

/-! ### Reuse -/

/-- The link of a checkout that can be used again: the only active one of every payment, of no
other payment, and less than an hour old. -/
def checkoutReutilizavel (db : Database) (c : CheckoutEmCurso) (agora : Instant) :
    Option PaymentCheckout :=
  let active := c.activeCheckouts
  let allHaveActive := c.unpaidPayments.all fun p =>
    p.payment.checkouts.any fun checkout => checkout.status = .active
  match active with
  | [] => none
  | first :: _ =>
      let unique := active.all fun row => row.2.checkoutId = first.2.checkoutId
      let usedByOthers := db.checkoutsWhere fun p checkout =>
        checkout.checkoutId = first.2.checkoutId && checkout.status = .active && p.id ∉ c.ids
      if allHaveActive && unique && usedByOthers.isEmpty &&
          agora < first.2.createdAt + 60 * 60 * 1000 then
        some first.2
      else none

/-- A link that is used again is a checkout of one of the payments. -/
theorem checkoutReutilizavel_spec {db : Database} {c : CheckoutEmCurso} {agora : Instant}
    {checkout : PaymentCheckout} (found : checkoutReutilizavel db c agora = some checkout) :
    ∃ p ∈ c.unpaidPayments, checkout ∈ p.payment.checkouts := by
  unfold checkoutReutilizavel at found
  dsimp only at found
  split at found
  · exact nomatch found
  · next first rest active =>
      split at found
      · obtain rfl := Option.some.inj found
        have mem : first ∈ c.activeCheckouts := active ▸ List.mem_cons_self
        obtain ⟨p, p_mem, row_mem⟩ := List.mem_flatMap.mp mem
        obtain ⟨checkout, checkout_mem, rfl⟩ := List.mem_map.mp row_mem
        exact ⟨p, p_mem, List.mem_of_mem_filter checkout_mem⟩
      · exact nomatch found

/-- The write of the reuse. -/
def reutilizarCheckout (db : Database) (c : CheckoutEmCurso) : Database :=
  db.updateManyPayments (fun p => p.id ∈ c.ids) voltarAEsperar

/-! ### The new checkout -/

structure Ticket where
  id : Id
  description : String
  price : ℚ
deriving DecidableEq

/-- `tickets`: only a payment with a ticket becomes a ticket item. -/
def CheckoutEmCurso.tickets (c : CheckoutEmCurso) : List Ticket :=
  c.unpaidPayments.filterMap fun p => p.eventUserRole.map fun role =>
    { id := role.1.id, description := role.1.description, price := role.1.price }

/-- `discount.percentage * (role?.price || 0)`: the discount of a ticket, in reais. -/
def descontoDoIngresso (eventUserRole : Option (RolesRegistration × Option Discounts)) : ℚ :=
  match eventUserRole with
  | some (role, some discount) =>
      Binary64.fl (Binary64.fl discount.percentage * Binary64.fl role.price)
  | _ => 0

/-- `totalDiscount`, in reais: each addition rounds to a double. -/
def CheckoutEmCurso.totalDiscount (c : CheckoutEmCurso) : ℚ :=
  c.unpaidPayments.foldl (fun acc p =>
    match p.eventUserRole with
    | some (_, some _) => Binary64.fl (acc + descontoDoIngresso p.eventUserRole)
    | _ => acc) 0

structure Produto where
  referenceId : Id
  description : String
  name : String
  quantity : Nat
  unitPrice : ℚ
deriving DecidableEq

/-- `produtos`: the items of every payment, at the price stored when they were bought. -/
def CheckoutEmCurso.produtos (c : CheckoutEmCurso) : List Produto :=
  c.unpaidPayments.flatMap fun p => p.payment.productItems.map fun item =>
    let variante := c.lido.catalogue.varianteDoItem item.variantId
    let product := (variante.map VarianteComEstoque.productName).getD ""
    let name := (variante.map VarianteComEstoque.name).getD ""
    { referenceId := item.variantId
      description := product ++ " - " ++ name
      name := product ++ " (" ++ name ++ ")"
      quantity := item.quantity
      unitPrice := item.unitPrice }

/-- The items of the request to the house: what costs something. -/
def CheckoutEmCurso.items (c : CheckoutEmCurso) : List HostedCheckoutItem :=
  ((c.tickets.filter fun t => t.price > 0).map fun t =>
    { referenceId := t.id
      name := "Ingresso " ++ c.lido.event.name ++ " - " ++ t.description
      description := t.description
      quantity := 1
      unitAmountCents := cents t.price }) ++
  (c.produtos.filter fun produto => produto.unitPrice > 0).map fun produto =>
    { referenceId := produto.referenceId
      name := produto.name
      description := produto.description
      quantity := produto.quantity
      unitAmountCents := cents produto.unitPrice }

/-- `amount` of the new rows: tickets and products, without the discount. -/
def CheckoutEmCurso.amount (c : CheckoutEmCurso) : ℚ :=
  Binary64.fl
    (Binary64.sum (c.tickets.map fun t => Binary64.fl t.price) +
      Binary64.sum (c.produtos.map fun produto =>
        Binary64.fl (Binary64.fl produto.unitPrice * produto.quantity)))

/-- `extrairDddENumero`. -/
def extrairDddENumero (telefone : String) : Except Failure (String × String) :=
  let numeros := telefone.toList.filter Char.isDigit
  let numeroLimpo := if ['5', '5'].isPrefixOf numeros then numeros.drop 2 else numeros
  if numeroLimpo.length < 10 then throw (internalServerError "Número de telefone inválido")
  else pure (String.ofList (numeroLimpo.take 2), String.ofList (numeroLimpo.drop 2))

/-- The request to the house.  `referenceId` is a fresh uuid. -/
def montarPedidoHosted (amb : Ambiente) (c : CheckoutEmCurso) (referenceId : Id)
    (agora : Instant) : Except Failure HostedCheckoutRequest := do
  failIf (c.tickets = [] ∧ c.produtos = []) (badRequest "No tickets found for payment")
  let telefone ← extrairDddENumero c.lido.user.cellphone
  pure
    { referenceId := referenceId
      eventId := c.lido.event.id
      eventName := c.lido.event.name
      customer :=
        { name := c.lido.user.fullName
          email := c.lido.user.email
          taxId := c.lido.user.cpf
          phone := { country := "55", area := telefone.1, number := telefone.2 } }
      items := c.items
      discountCents := cents c.totalDiscount
      expiresAt := agora + 60 * 60 * 1000
      paymentNotificationUrl := montarUrlDeWebhook amb c.lido.config "payments"
      checkoutNotificationUrl := montarUrlDeWebhook amb c.lido.config "checkouts"
      redirectUrl := semBarraFinal amb.urlFrontend ++ "/events/" ++ toString c.lido.event.id
      softDescriptor := "Igreja de cristo" }

theorem montarPedidoHosted_ok {amb : Ambiente} {c : CheckoutEmCurso} {referenceId : Id}
    {agora : Instant} {pedido : HostedCheckoutRequest}
    (ok : montarPedidoHosted amb c referenceId agora = .ok pedido) :
    pedido.referenceId = referenceId ∧ pedido.items = c.items ∧
      pedido.discountCents = cents c.totalDiscount := by
  unfold montarPedidoHosted at ok
  simp only [bind_eq_ok_iff, failIf_eq_ok_iff, pure_eq_ok_iff] at ok
  obtain ⟨_, _, telefone, _, rfl⟩ := ok
  exact ⟨rfl, rfl, rfl⟩

/-- The row of the new checkout. -/
def novoCheckout (c : CheckoutEmCurso) (pedido : HostedCheckoutRequest)
    (result : HostedCheckoutResult) (agora : Instant) : PaymentCheckout where
  checkoutId := result.checkoutId
  referenceId := pedido.referenceId
  status := .active
  amount := c.amount
  link := result.payUrl
  createdAt := agora
  provider := c.lido.config.provider
  configId := some c.lido.config.id
  chargedAmountCents := some (totalCobradoEmCentavos pedido.items pedido.discountCents)

/-- The answer to `gateway.createCheckout`: a checkout without a link is refused. -/
def lerResultado (config : PaymentProviderConfig)
    (reply : Except GatewayError HostedCheckoutResult) : Except Failure HostedCheckoutResult :=
  match reply with
  | .error _ => throw (gatewayRequestError config.provider)
  | .ok result =>
      if result.payUrl = "" then
        throw (badRequest
          ("Não foi possível gerar o link de pagamento em " ++ config.provider.label))
      else pure result

/-- The last transaction: the old checkouts close, the new one is hung on every payment, and the
payments wait.  A payment deleted meanwhile breaks the foreign key. -/
def gravarCheckout (db : Database) (c : CheckoutEmCurso) (pedido : HostedCheckoutRequest)
    (result : HostedCheckoutResult) (agora : Instant) : Except Failure Database :=
  if c.ids.all fun id => (db.payment? id).isSome then
    let antigos := c.activeCheckouts.map fun row => row.2.checkoutId
    let fechados := db.updateManyCheckouts
      (fun _ checkout => checkout.checkoutId ∈ antigos && checkout.status = .active) .inactive
    let criados := fechados.createManyCheckouts c.ids (novoCheckout c pedido result agora)
    pure (criados.updateManyPayments (fun p => p.id ∈ c.ids) voltarAEsperar)
  else throw (internalServerError "Internal server error")

theorem gravarCheckout_ok {db db' : Database} {c : CheckoutEmCurso}
    {pedido : HostedCheckoutRequest} {result : HostedCheckoutResult} {agora : Instant}
    (ok : gravarCheckout db c pedido result agora = .ok db') :
    (c.ids.all fun id => (db.payment? id).isSome) = true ∧
      db' = ((db.updateManyCheckouts (fun _ checkout =>
          checkout.checkoutId ∈ (c.activeCheckouts.map fun row => row.2.checkoutId) &&
            checkout.status = .active) .inactive).createManyCheckouts c.ids
              (novoCheckout c pedido result agora)).updateManyPayments (fun p => p.id ∈ c.ids)
                voltarAEsperar := by
  unfold gravarCheckout at ok
  split at ok
  · next all => exact ⟨all, (pure_eq_ok_iff.mp ok).symm⟩
  · exact absurd ok throw_ne_ok

end IccvBackend
