/-
Module: IccvBackend.Event.Purchase
Purpose: `event/event.service.ts`: buying products of an event's shop.
Trusted boundary: human-reviewed spec
Main exports: comprarProdutosTx, ingressoQueAceitaProdutos, comprarProdutos
-/
import IccvBackend.Event.EventProducts
import IccvBackend.Event.Registration

namespace IccvBackend

open Lib

/-- What `_comprarProdutosTx` receives, with the clock. -/
structure PurchaseRequest where
  userId : Id
  eventId : Id
  juntoDaInscricao : Bool
  porOutraPessoa : Bool
  agora : Instant
deriving Repr, DecidableEq

/-- `vendidosPorVariante`: the units sold of the variants of one event. -/
def Database.vendidosPorVariante (db : Database) (eventId variantId : Id) : Nat :=
  if (db.catalogue.variant? variantId).any fun pair => pair.1.eventId = eventId then
    db.vendidos variantId
  else 0

/-- `ingressoQueAceitaProdutos`: the oldest ticket that is still open, without products and without
an active checkout.  A free ticket is born paid and also serves. -/
def ingressoQueAceitaProdutos (db : Database) (userId eventId : Id) : Option Payment :=
  let ingressos := db.payments.filter fun p =>
    p.userId = some userId && p.eventId = some eventId && p.roleRegistrationId.isSome &&
      p.productItems.isEmpty && !(p.checkouts.any fun c => c.status = .active) &&
      (p.status = .waiting || (p.status = .paid && p.amount = 0))
  (ingressos.insertionSort fun a b => a.createdAt ≤ b.createdAt).head?

/-- The lines of an order: every variant found with the units asked of it. -/
def Pedido.itens (pedido : Pedido) (agora : Instant)
    (variantes : List (EventProduct × EventProductVariant)) : List Database.ItemCreate :=
  variantes.filterMap fun pair => (pedido.get? pair.2.id).map fun quantidade =>
    { variantId := pair.2.id
      quantity := quantidade.val
      quantity_pos := quantidade.property.1
      unitPrice := pair.1.price
      unitPrice_nonneg := pair.1.price_nonneg
      createdAt := agora }

/-- The sum of the lines, in cents. -/
def totalDosItens (itens : List Database.ItemCreate) : Int :=
  (itens.map fun item => cents item.unitPrice * item.quantity).sum

/-- Hang the lines on a payment, one `create` each. -/
def Database.createItems (db : Database) (paymentId : Id) (itens : List Database.ItemCreate) :
    Database :=
  itens.foldl (fun db item => db.createItem paymentId item) db

/-- The update of the ticket that takes the products.  A free ticket goes back to waiting. -/
def ticketUpdate (ingresso : Payment) (totalEmCentavos : Int) : Database.PaymentUpdate :=
  let volta := ingresso.status = .paid ∧ totalEmCentavos > 0
  { amount := some (((cents ingresso.amount + totalEmCentavos : Int) : ℚ) / 100)
    status := if volta then some .waiting else none
    method := if volta then some .other else none }

/-- The payment of a loose purchase: it has no ticket, and is born paid when it costs nothing. -/
def purchasePayment (request : PurchaseRequest) (totalEmCentavos : Int) :
    Database.PaymentCreate where
  userId := request.userId
  eventId := request.eventId
  roleRegistrationId := none
  amount := (totalEmCentavos : ℚ) / 100
  status := if totalEmCentavos > 0 then .waiting else .paid
  method := if totalEmCentavos > 0 then .other else .cash
  receivedFrom := .pending
  createdAt := request.agora

/-- The writes of a purchase that passed every check. -/
def gravarCompra (db : Database) (request : PurchaseRequest) (itens : List Database.ItemCreate) :
    Database :=
  let total := totalDosItens itens
  let ingresso :=
    if request.juntoDaInscricao then
      ingressoQueAceitaProdutos db request.userId request.eventId
    else none
  match ingresso with
  | some ingresso =>
      (db.updateManyPayments (fun p => p.id = ingresso.id)
        (ticketUpdate ingresso total)).createItems ingresso.id itens
  | none => (db.createPayment (purchasePayment request total)).createItems db.nextId itens

/-- The variants an order names, of its event, each with its product. -/
def PurchaseRequest.variantes (request : PurchaseRequest) (pedido : Pedido) (cat : Catalogue) :
    List (EventProduct × EventProductVariant) :=
  cat.variants.filter fun pair =>
    pair.2.id ∈ pedido.variantIds && pair.1.eventId = request.eventId

/-- `_comprarProdutosTx`. -/
def comprarProdutosTx (db : Database) (request : PurchaseRequest) (pedido : Pedido) :
    Except Failure Database := do
  let variantes := request.variantes pedido db.catalogue
  let inscrito := !(db.rolesOf request.userId request.eventId).isEmpty
  let evento := db.catalogue.event? request.eventId
  failIf (evento.any fun evento => evento.status = .inactive)
    (badRequest "A loja deste evento está fechada")
  failIf (¬ podeComprarNaLoja inscrito (evento.any Event.publicStore) request.porOutraPessoa)
    (forbidden
      "As compras da loja deste evento são exclusivas para quem tem inscrição confirmada")
  failIf (variantes.length ≠ pedido.variantIds.length)
    (badRequest "Produto inválido para este evento")
  conferirEstoque (db.vendidosPorVariante request.eventId) pedido (variantes.map comEstoque)
  let itens := pedido.itens request.agora variantes
  failIf (totalDosItens itens = 0 ∧ ¬ inscrito)
    (forbidden "Produtos gratuitos são exclusivos para quem tem inscrição confirmada")
  pure (gravarCompra db request itens)

/-- `comprarProdutos`, up to its transaction. -/
def comprarProdutos (db : Database) (request : PurchaseRequest) (items : List (Id × Int)) :
    Except Failure Database := do
  let pedido ← montarPedido items
  comprarProdutosTx db request pedido

/-! ### The rows a purchase writes -/

/-- The rows of the lines of a purchase, with the ids they get. -/
def itemRows : Id → List Database.ItemCreate → List PaymentProductItem
  | _, [] => []
  | next, item :: itens => item.row next :: itemRows (next + 1) itens

/-- A payment with more items, if it is the one with this id. -/
def pendurar (paymentId : Id) (rows : List PaymentProductItem) (p : Payment) : Payment :=
  if p.id = paymentId then { p with productItems := p.productItems ++ rows } else p

@[simp] theorem pendurar_id (paymentId : Id) (rows : List PaymentProductItem) (p : Payment) :
    (pendurar paymentId rows p).id = p.id := by
  unfold pendurar; split <;> rfl

theorem pendurar_of_eq (paymentId : Id) (rows : List PaymentProductItem) {p : Payment}
    (eq : p.id = paymentId) :
    pendurar paymentId rows p = { p with productItems := p.productItems ++ rows } := if_pos eq

theorem pendurar_of_ne {paymentId : Id} {rows : List PaymentProductItem} {p : Payment}
    (ne : p.id ≠ paymentId) : pendurar paymentId rows p = p := if_neg ne

theorem itemRows_eq_nil_iff {next : Id} {itens : List Database.ItemCreate} :
    itemRows next itens = [] ↔ itens = [] := by
  cases itens <;> simp [itemRows]

/-- The rows cost what the lines cost. -/
theorem centavos_itemRows (next : Id) (itens : List Database.ItemCreate) :
    ((itemRows next itens).map PaymentProductItem.centavos).sum = totalDosItens itens := by
  induction itens generalizing next with
  | nil => rfl
  | cons item itens ih =>
      rw [itemRows, List.map_cons, List.sum_cons, ih]
      rfl

/-- The rows have the units of the lines. -/
theorem unidadesDe_itemRows (variantId next : Id) (itens : List Database.ItemCreate) :
    unidadesDe variantId (itemRows next itens) =
      (itens.map fun item => if item.variantId = variantId then item.quantity else 0).sum := by
  induction itens generalizing next with
  | nil => rfl
  | cons item itens ih =>
      have rest := ih (next + 1)
      unfold unidadesDe at rest ⊢
      by_cases same : item.variantId = variantId <;>
        simp [itemRows, Database.ItemCreate.row, same, rest]

theorem createItems_payments (paymentId : Id) :
    ∀ (itens : List Database.ItemCreate) (db : Database),
      (db.createItems paymentId itens).payments =
        db.payments.map (pendurar paymentId (itemRows db.nextId itens))
  | [], db => by
      refine (List.map_id db.payments).symm.trans (List.map_congr_left fun p _ => ?_)
      unfold pendurar
      split <;> simp [itemRows]
  | item :: itens, db => by
      have tail := createItems_payments paymentId itens (db.createItem paymentId item)
      rw [Database.createItems, List.foldl_cons]
      rw [Database.createItems] at tail
      rw [tail]
      simp only [Database.createItem, List.map_map]
      refine List.map_congr_left fun p _ => ?_
      by_cases this : p.id = paymentId
      · simp [this, Database.addItem, pendurar, itemRows]
      · simp [Database.addItem_of_ne this, pendurar_of_ne this]

theorem createItems_catalogue (paymentId : Id) :
    ∀ (itens : List Database.ItemCreate) (db : Database),
      (db.createItems paymentId itens).catalogue = db.catalogue
  | [], _ => rfl
  | item :: itens, db => createItems_catalogue paymentId itens (db.createItem paymentId item)

theorem createItems_eventOnUsers (paymentId : Id) :
    ∀ (itens : List Database.ItemCreate) (db : Database),
      (db.createItems paymentId itens).eventOnUsers = db.eventOnUsers
  | [], _ => rfl
  | item :: itens, db => createItems_eventOnUsers paymentId itens (db.createItem paymentId item)

/-- The ticket that takes products: a row that holds stock, without items and active checkouts. -/
theorem ingressoQueAceitaProdutos_spec {db : Database} {userId eventId : Id} {p : Payment}
    (found : ingressoQueAceitaProdutos db userId eventId = some p) :
    p ∈ db.payments ∧ p.userId = some userId ∧ p.eventId = some eventId ∧
      p.roleRegistrationId.isSome ∧ p.productItems = [] ∧
      (∀ c ∈ p.checkouts, c.status ≠ .active) ∧
      (p.status = .waiting ∨ p.status = .paid ∧ p.amount = 0) := by
  have mem := List.mem_of_mem_head? found
  rw [List.mem_insertionSort, List.mem_filter] at mem
  obtain ⟨in_db, selected⟩ := mem
  simp only [Bool.and_eq_true, decide_eq_true_eq, List.isEmpty_iff, Bool.not_eq_true',
    List.any_eq_false, Bool.or_eq_true] at selected
  obtain ⟨⟨⟨⟨⟨user, event⟩, ticket⟩, no_items⟩, no_active⟩, status⟩ := selected
  exact ⟨in_db, user, event, ticket, no_items, no_active, status⟩

/-- A purchase is either hung on a ticket that accepts it, or a payment of its own. -/
theorem gravarCompra_payments (db : Database) (request : PurchaseRequest)
    (itens : List Database.ItemCreate) :
    (∃ ingresso, request.juntoDaInscricao = true ∧
        ingressoQueAceitaProdutos db request.userId request.eventId = some ingresso ∧
        (gravarCompra db request itens).payments = db.payments.map fun p =>
          if p.id = ingresso.id then
            pendurar ingresso.id (itemRows db.nextId itens)
              ((ticketUpdate ingresso (totalDosItens itens)).apply p)
          else p) ∨
      (gravarCompra db request itens).payments = db.payments ++
        [pendurar db.nextId (itemRows (db.nextId + 1) itens)
          ((purchasePayment request (totalDosItens itens)).row db.nextId)] := by
  unfold gravarCompra
  dsimp only
  split
  · next ingresso found =>
      have hung : request.juntoDaInscricao = true ∧
          ingressoQueAceitaProdutos db request.userId request.eventId = some ingresso := by
        split at found
        · next hung => exact ⟨hung, found⟩
        · exact nomatch found
      refine .inl ⟨ingresso, hung.1, hung.2, ?_⟩
      · rw [createItems_payments, Database.updateManyPayments_payments, List.map_map]
        refine List.map_congr_left fun p _ => ?_
        by_cases this : p.id = ingresso.id
        · simp [this]; rfl
        · simp [this, pendurar_of_ne this]
  · refine .inr ?_
    rw [createItems_payments, Database.createPayment_payments, List.map_append, List.map_singleton]
    congr 1
    refine (List.map_congr_left fun p mem => pendurar_of_ne ?_).trans (List.map_id' _)
    exact (db.payments_keyed.lt_next p mem).ne

theorem gravarCompra_catalogue (db : Database) (request : PurchaseRequest)
    (itens : List Database.ItemCreate) :
    (gravarCompra db request itens).catalogue = db.catalogue := by
  unfold gravarCompra
  dsimp only
  split <;> rw [createItems_catalogue] <;> rfl

theorem gravarCompra_eventOnUsers (db : Database) (request : PurchaseRequest)
    (itens : List Database.ItemCreate) :
    (gravarCompra db request itens).eventOnUsers = db.eventOnUsers := by
  unfold gravarCompra
  dsimp only
  split <;> rw [createItems_eventOnUsers] <;> rfl

/-- The lines of an order that names only variants found: one for each. -/
theorem itens_ne_nil {db : Database} {request : PurchaseRequest} {pedido : Pedido}
    (some_line : pedido.linhas ≠ [])
    (found : (request.variantes pedido db.catalogue).length = pedido.variantIds.length) :
    pedido.itens request.agora (request.variantes pedido db.catalogue) ≠ [] := by
  intro no_items
  cases variantes : request.variantes pedido db.catalogue with
  | nil =>
      rw [variantes] at found
      exact some_line (by simpa [Pedido.variantIds] using found.symm)
  | cons pair rest =>
      have listed : pair.2.id ∈ pedido.variantIds := by
        have mem : pair ∈ request.variantes pedido db.catalogue := by simp [variantes]
        have := (List.mem_filter.mp mem).2
        simp only [Bool.and_eq_true, decide_eq_true_eq] at this
        exact this.1
      obtain ⟨linha, linha_mem, same⟩ := List.mem_map.mp listed
      have missing : pedido.get? pair.2.id = none := by
        have := List.filterMap_eq_nil_iff.mp no_items pair (by simp [variantes])
        simpa using this
      have absent := List.find?_eq_none.mp (Option.map_eq_none_iff.mp missing) linha linha_mem
      simp [same] at absent

/-- A purchase that went through passed the stock check on the variants it found. -/
theorem comprarProdutos_ok {db db' : Database} {request : PurchaseRequest}
    {items : List (Id × Int)} (ok : comprarProdutos db request items = .ok db') :
    ∃ pedido : Pedido, montarPedido items = .ok pedido ∧
      (request.variantes pedido db.catalogue).length = pedido.variantIds.length ∧
      conferirEstoque (db.vendidosPorVariante request.eventId) pedido
        ((request.variantes pedido db.catalogue).map comEstoque) = .ok () ∧
      pedido.linhas ≠ [] ∧
      db' = gravarCompra db request
        (pedido.itens request.agora (request.variantes pedido db.catalogue)) := by
  unfold comprarProdutos at ok
  rw [bind_eq_ok_iff] at ok
  obtain ⟨pedido, built, tx⟩ := ok
  unfold comprarProdutosTx at tx
  simp only [bind_eq_ok_iff, failIf_eq_ok_iff, pure_eq_ok_iff] at tx
  obtain ⟨_, _, _, _, _, length, _, checked, _, _, rfl⟩ := tx
  exact ⟨pedido, built, not_not.mp length, checked, montarPedido_linhas built, rfl⟩

end IccvBackend
