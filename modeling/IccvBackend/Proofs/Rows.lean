/-
Module: IccvBackend.Proofs.Rows
Purpose: Where each payment row comes from, for every step of the server.
Trusted boundary: none
Main exports: Payment.links, Payment.MesmaConta, Efeito, efeito, Origem, passo_origem
-/
import IccvBackend.Event.Reactivation
import IccvBackend.System

namespace IccvBackend

open Lib

/-!
What a payment owes (its ticket, its items, its amount) and the checkouts it was sent to change in
few ways.  `Origem` lists them, so an invariant about amounts or checkouts is one case for each
origin, and not one for each step of the server.
-/

/-! ### Rows of one payment -/

/-- A checkout without its status, the only column that changes after it was made. -/
def PaymentCheckout.semStatus (c : PaymentCheckout) : PaymentCheckout :=
  { c with status := .inactive }

/-- The checkouts a payment was sent to. -/
def Payment.links (p : Payment) : List PaymentCheckout := p.checkouts.map PaymentCheckout.semStatus

/-- Two rows of one payment with the same amount, parts and checkouts. -/
structure Payment.MesmaConta (q p : Payment) : Prop where
  id : q.id = p.id
  userId : q.userId = p.userId
  eventId : q.eventId = p.eventId
  roleRegistrationId : q.roleRegistrationId = p.roleRegistrationId
  amount : q.amount = p.amount
  productItems : q.productItems = p.productItems
  links : q.links = p.links

theorem Payment.MesmaConta.refl (p : Payment) : p.MesmaConta p :=
  ⟨rfl, rfl, rfl, rfl, rfl, rfl, rfl⟩

theorem Payment.MesmaConta.trans {a b c : Payment} (first : a.MesmaConta b)
    (second : b.MesmaConta c) : a.MesmaConta c :=
  ⟨first.id.trans second.id, first.userId.trans second.userId, first.eventId.trans second.eventId,
    first.roleRegistrationId.trans second.roleRegistrationId, first.amount.trans second.amount,
    first.productItems.trans second.productItems, first.links.trans second.links⟩

/-- An update without an amount. -/
theorem mesmaConta_apply {data : Database.PaymentUpdate} (no_amount : data.amount = none)
    (p : Payment) : (data.apply p).MesmaConta p :=
  ⟨rfl, rfl, rfl, rfl, by simp [Database.PaymentUpdate.apply, no_amount], rfl, rfl⟩

/-- Statuses of checkouts are not part of the links. -/
theorem mesmaConta_checkouts (selected : PaymentCheckout → Bool) (status : CheckoutStatus)
    (p : Payment) :
    Payment.MesmaConta
      { p with
        checkouts := p.checkouts.map fun c =>
          if selected c then { c with status := status } else c } p where
  id := rfl
  userId := rfl
  eventId := rfl
  roleRegistrationId := rfl
  amount := rfl
  productItems := rfl
  links := by
    simp only [Payment.links, List.map_map]
    refine List.map_congr_left fun c _ => ?_
    simp only [Function.comp_apply]
    split <;> rfl

/-- A payment with one more checkout. -/
def Payment.comLink (p : Payment) (row : PaymentCheckout) : Payment :=
  { p with checkouts := p.checkouts ++ [row] }

/-- A ticket with the products that were hung on it. -/
def Payment.comItens (p : Payment) (rows : List PaymentProductItem) (total : Int) : Payment :=
  { p with
    amount := ((cents p.amount + total : Int) : ℚ) / 100
    productItems := p.productItems ++ rows }

/-! ### The effect of a step -/

/-- What a step adds: tickets of these roles, products on a ticket and their cents, a checkout on
these payments. -/
structure Efeito where
  novos : List (GroupRoles × RolesRegistration)
  recebe : Option (Payment × Int)
  link : Option (List Id × PaymentCheckout)

/-- The roles a step writes tickets for: those of a registration or an edit that goes through. -/
def ingressosNovos (amb : Ambiente) (w : World) : Action → List (GroupRoles × RolesRegistration)
  | .registerUserInEvent request =>
      if (registerUserInEvent amb.quando w.db request).isOk then request.comVaga w.db else []
  | .updateUserFromEvent userId eventId roles agora =>
      if (updateUserFromEvent amb.quando w.db userId eventId roles agora).isOk then
        RegistrationRequest.comVaga ⟨userId, eventId, roles, false, false, agora⟩
          (w.db.deleteRegistration userId eventId)
      else []
  | _ => []

/-- New tickets are of roles of the catalogue. -/
theorem comVaga_subset {db : Database} {request : RegistrationRequest}
    {role : GroupRoles × RolesRegistration} (mem : role ∈ request.comVaga db) :
    role ∈ db.catalogue.roles :=
  List.mem_of_mem_filter (List.mem_of_mem_filter mem)

theorem ingressosNovos_subset {amb : Ambiente} {w : World} {action : Action}
    {role : GroupRoles × RolesRegistration} (mem : role ∈ ingressosNovos amb w action) :
    role ∈ w.db.catalogue.roles := by
  cases action with
  | registerUserInEvent request =>
      simp only [ingressosNovos] at mem
      split at mem
      · exact comVaga_subset mem
      · exact nomatch mem
  | updateUserFromEvent userId eventId roles agora =>
      simp only [ingressosNovos] at mem
      split at mem
      · have listed := comVaga_subset mem
        exact listed
      · exact nomatch mem
  | _ => exact nomatch mem

/-- The ticket a step hangs products on, and what they cost. -/
def ingressoQueRecebe (w : World) : Action → Option (Payment × Int)
  | .comprarProdutos request items =>
      if request.juntoDaInscricao then
        match montarPedido items with
        | .error _ => none
        | .ok pedido =>
            (ingressoQueAceitaProdutos w.db request.userId request.eventId).map fun ingresso =>
              (ingresso, totalDosItens (pedido.itens request.agora
                (request.variantes pedido w.db.catalogue)))
      else none
  | _ => none

/-- The checkout a step makes, and the payments it is for. -/
def linkNovo (w : World) : Action → Option (List Id × PaymentCheckout)
  | .resume i resposta =>
      match w.tasks[i]? with
      | some (.checkoutCreate c pedido) =>
          match lerResultado c.lido.config resposta.created with
          | .error _ => none
          | .ok result =>
              if c.ids.all fun id => (w.db.payment? id).isSome then
                some (c.ids, novoCheckout c pedido result resposta.agora)
              else none
      | _ => none
  | _ => none

def efeito (amb : Ambiente) (w : World) (action : Action) : Efeito where
  novos := ingressosNovos amb w action
  recebe := ingressoQueRecebe w action
  link := linkNovo w action

/-! ### Where a row comes from -/

/-- The origins of a row after a step: the row there was, that row without some items, a ticket that
took products, a payment sent to a new checkout, a new ticket, a new purchase. -/
inductive Origem (db : Database) (e : Efeito) (q : Payment) : Prop
  | mantido (p : Payment) (mem : p ∈ db.payments) (same : q.MesmaConta p)
  | cortado (p : Payment) (mem : p ∈ db.payments) (ids : List Id)
      (same : q.MesmaConta (p.semItens ids))
      (sobrou : p.roleRegistrationId = none → (p.semItens ids).productItems ≠ [])
  | juntado (p : Payment) (mem : p ∈ db.payments) (ticket : p.roleRegistrationId.isSome)
      (rows : List PaymentProductItem) (total : Int) (recebe : e.recebe = some (p, total))
      (custam : (rows.map PaymentProductItem.centavos).sum = total)
      (same : q.MesmaConta (p.comItens rows total))
  | cobrado (p : Payment) (mem : p ∈ db.payments) (ids : List Id) (row : PaymentCheckout)
      (link : e.link = some (ids, row)) (listed : p.id ∈ ids) (same : q.MesmaConta (p.comLink row))
  | inscrito (role : GroupRoles × RolesRegistration) (mem : role ∈ e.novos)
      (request : RegistrationRequest) (id : Id) (fresh : db.nextId ≤ id)
      (same : q.MesmaConta ((ticketPayment request role.2).row id))
  | comprado (fresh : db.nextId ≤ q.id) (no_ticket : q.roleRegistrationId = none)
      (rows : List PaymentProductItem) (some_item : rows ≠ []) (total : Int)
      (custam : (rows.map PaymentProductItem.centavos).sum = total)
      (amount : q.amount = (total : ℚ) / 100) (items : q.productItems = rows)
      (no_links : q.links = [])

section Writes

variable {db : Database} {e : Efeito}

/-- A rewrite of every row that leaves amount, parts and links alone. -/
theorem origem_map {db' : Database} {f : Payment → Payment}
    (rows : db'.payments = db.payments.map f) (same : ∀ p, (f p).MesmaConta p) :
    ∀ q ∈ db'.payments, Origem db e q := by
  intro q mem
  rw [rows] at mem
  obtain ⟨p, p_mem, rfl⟩ := List.mem_map.mp mem
  exact .mantido p p_mem (same p)

theorem origem_updateMany {selected : Payment → Bool} {data : Database.PaymentUpdate}
    (no_amount : data.amount = none) :
    ∀ q ∈ (db.updateManyPayments selected data).payments, Origem db e q :=
  origem_map rfl fun p => by
    cases selected p
    · exact .refl p
    · exact mesmaConta_apply no_amount p

theorem origem_updateManyCheckouts (selected : Payment → PaymentCheckout → Bool)
    (status : CheckoutStatus) :
    ∀ q ∈ (db.updateManyCheckouts selected status).payments, Origem db e q :=
  origem_map rfl fun p => mesmaConta_checkouts (selected p) status p

/-- Rows that are left after others were deleted, or in another order. -/
theorem origem_of_subset {db' : Database} (sub : ∀ q ∈ db'.payments, q ∈ db.payments) :
    ∀ q ∈ db'.payments, Origem db e q :=
  fun q mem => .mantido q (sub q mem) (.refl q)

/-- A write that leaves amount, parts and links alone, after another. -/
theorem Origem.of_mesmaConta {q q' : Payment} (origem : Origem db e q) (same : q'.MesmaConta q) :
    Origem db e q' := by
  cases origem with
  | mantido p mem other => exact .mantido p mem (same.trans other)
  | cortado p mem ids other sobrou => exact .cortado p mem ids (same.trans other) sobrou
  | juntado p mem ticket rows total recebe custam other =>
      exact .juntado p mem ticket rows total recebe custam (same.trans other)
  | cobrado p mem ids row link listed other =>
      exact .cobrado p mem ids row link listed (same.trans other)
  | inscrito role mem request id fresh other =>
      exact .inscrito role mem request id fresh (same.trans other)
  | comprado fresh no_ticket rows some_item total custam amount items no_links =>
      exact .comprado (same.id ▸ fresh) (same.roleRegistrationId.trans no_ticket) rows some_item
        total custam (same.amount.trans amount) (same.productItems.trans items)
        (same.links.trans no_links)

/-! ### The operations -/

theorem Registrou.origem {request : RegistrationRequest} {user : User} {event : Event}
    {result : Database × List (Id × ResultType)}
    (registrou : Registrou db request user event result) (novos : e.novos = request.comVaga db) :
    ∀ q ∈ result.1.payments, Origem db e q := by
  intro q mem
  rcases registrou.new_ticket mem with old | ⟨role, role_mem, id, fresh, rfl⟩
  · exact .mantido q old (.refl q)
  · exact .inscrito role (novos ▸ role_mem) request id fresh (.refl _)

theorem Reativou.origem {depois : Database} {ids : List Id} {r : Reativacao}
    (reativou : Reativou db ids depois r) : ∀ q ∈ depois.payments, Origem db e q := by
  intro q mem
  rw [reativou.payments] at mem
  obtain ⟨p, p_mem, rfl⟩ := List.mem_map.mp mem
  by_cases back : p.id ∈ r.reativados
  · exact .cortado p p_mem r.itensRemovidos (.refl _) (reativou.sobrou p p_mem back)
  · have whole := semItens_of_disjoint (reativou.removidos p p_mem back)
    exact .mantido p p_mem (whole.symm ▸ .refl p)

theorem origem_gravarCompra {request : PurchaseRequest} {itens : List Database.ItemCreate}
    (some_item : itens ≠ [])
    (recebe : ∀ p, request.juntoDaInscricao = true →
      ingressoQueAceitaProdutos db request.userId request.eventId = some p →
        e.recebe = some (p, totalDosItens itens)) :
    ∀ q ∈ (gravarCompra db request itens).payments, Origem db e q := by
  intro q mem
  rcases gravarCompra_payments db request itens with ⟨ingresso, hung, found, payments⟩ | payments
  · obtain ⟨ingresso_mem, _, _, ticket, no_items, _⟩ := ingressoQueAceitaProdutos_spec found
    rw [payments] at mem
    obtain ⟨p, p_mem, rfl⟩ := List.mem_map.mp mem
    by_cases this : p.id = ingresso.id
    · obtain rfl := db.eq_of_id_eq p_mem ingresso_mem this
      refine .juntado p p_mem ticket (itemRows db.nextId itens) (totalDosItens itens)
        (recebe p hung found) (centavos_itemRows _ _) ?_
      rw [if_pos rfl, pendurar_of_eq p.id _
        (p := (ticketUpdate p (totalDosItens itens)).apply p) rfl]
      exact ⟨rfl, rfl, rfl, rfl, rfl, rfl, rfl⟩
    · rw [if_neg this]
      exact .mantido p p_mem (.refl p)
  · rw [payments, List.mem_append, List.mem_singleton] at mem
    rcases mem with old | rfl
    · exact .mantido q old (.refl q)
    · rw [pendurar_of_eq db.nextId _
        (p := (purchasePayment request (totalDosItens itens)).row db.nextId) rfl]
      exact .comprado le_rfl rfl (itemRows (db.nextId + 1) itens)
        (by simpa [itemRows_eq_nil_iff] using some_item) (totalDosItens itens)
        (centavos_itemRows _ _) rfl rfl rfl

/-- The last transaction of a checkout hangs one row on each of its payments. -/
theorem gravarCheckout_payments {depois : Database} {c : CheckoutEmCurso}
    {pedido : HostedCheckoutRequest} {result : HostedCheckoutResult} {agora : Instant}
    (ok : gravarCheckout db c pedido result agora = .ok depois) :
    ∃ f : Payment → Payment, depois.payments = db.payments.map f ∧
      ∀ p, (f p).MesmaConta
        (if p.id ∈ c.ids then p.comLink (novoCheckout c pedido result agora) else p) := by
  rw [(gravarCheckout_ok ok).2]
  simp only [Database.updateManyPayments_payments, Database.createManyCheckouts,
    Database.updateManyCheckouts, Database.modifyPayments_payments, List.map_map]
  refine ⟨_, rfl, fun p => ?_⟩
  have same := mesmaConta_checkouts (fun checkout =>
    checkout.checkoutId ∈ (c.activeCheckouts.map fun row => row.2.checkoutId) &&
      checkout.status = .active) .inactive p
  by_cases listed : p.id ∈ c.ids
  · simp only [Function.comp_apply, listed, decide_true, if_true]
    refine ⟨rfl, rfl, rfl, rfl, rfl, rfl, ?_⟩
    have links := same.links
    simp only [Payment.links] at links
    simp only [Payment.links, Payment.comLink, Database.PaymentUpdate.apply, List.map_append, links]
  · simp only [Function.comp_apply, listed, decide_false, Bool.false_eq_true, if_false]
    exact same

theorem origem_gravarCheckout {depois : Database} {c : CheckoutEmCurso}
    {pedido : HostedCheckoutRequest} {result : HostedCheckoutResult} {agora : Instant}
    (ok : gravarCheckout db c pedido result agora = .ok depois)
    (link : e.link = some (c.ids, novoCheckout c pedido result agora)) :
    ∀ q ∈ depois.payments, Origem db e q := by
  obtain ⟨f, rows, same⟩ := gravarCheckout_payments ok
  intro q mem
  rw [rows] at mem
  obtain ⟨p, p_mem, rfl⟩ := List.mem_map.mp mem
  have here := same p
  split at here
  · next listed => exact .cobrado p p_mem c.ids _ link listed here
  · exact .mantido p p_mem here

end Writes

/-- What a stretch of a task leaves, but for the checkout it may hang. -/
theorem gravou_origem {db depois : Database} {e : Efeito} {resposta : Resposta} {task : Task}
    (gravou : Gravou db resposta task depois)
    (link : ∀ c pedido result, task = .checkoutCreate c pedido →
      lerResultado c.lido.config resposta.created = .ok result →
      (c.ids.all fun id => (db.payment? id).isSome) = true →
        e.link = some (c.ids, novoCheckout c pedido result resposta.agora)) :
    ∀ q ∈ depois.payments, Origem db e q := by
  cases gravou with
  | nada => exact origem_of_subset fun _ mem => mem
  | reativou ok =>
      obtain ⟨reativado, r, reativou, rfl, _⟩ := reativarCheckout_ok ok
      intro q mem
      obtain ⟨q', q'_mem, rfl⟩ := List.mem_map.mp mem
      refine (reativou.origem q' q'_mem).of_mesmaConta ?_
      split
      · exact mesmaConta_apply rfl q'
      · exact .refl q'
  | inativou => exact origem_updateManyCheckouts _ _
  | pediu => exact origem_of_subset fun _ mem => mem
  | marcou => exact origem_updateMany rfl
  | reutilizou => exact origem_updateMany rfl
  | criou read ok =>
      exact origem_gravarCheckout ok (link _ _ _ rfl read (gravarCheckout_ok ok).1)
  | editou ok =>
      obtain ⟨reativado, reactivation, rows, _⟩ := updatePaymentStatusTx_ok ok
      intro q mem
      rw [rows] at mem
      obtain ⟨q', q'_mem, rfl⟩ := List.mem_map.mp mem
      have before : Origem db e q' := by
        rcases reativarSePreciso_ok reactivation with ⟨_, rfl⟩ | ⟨_, r, reativou, _⟩
        · exact .mantido q' q'_mem (.refl q')
        · exact reativou.origem q' q'_mem
      refine before.of_mesmaConta ?_
      split
      · exact mesmaConta_apply rfl q'
      · exact .refl q'
  | invalidou => exact origem_updateManyCheckouts _ _
  | estornou ok =>
      rw [refundPaymentTx_ok ok]
      exact origem_updateMany rfl
  | removeu => exact origem_of_subset fun q mem => List.mem_of_mem_filter mem
  | reconciliou =>
      unfold gravarCobranca
      dsimp only
      split
      · intro q mem
        obtain ⟨q', q'_mem, rfl⟩ := List.mem_map.mp mem
        exact (origem_updateMany rfl q' q'_mem).of_mesmaConta (mesmaConta_checkouts _ _ q')
      · exact origem_updateMany rfl

/-- Where each row comes from, for every step of the server. -/
theorem passo_origem {amb : Ambiente} {w : World} {action : Action} {db : Database}
    (passo : Passo amb w action db) : ∀ q ∈ db.payments, Origem w.db (efeito amb w action) q := by
  cases passo with
  | parado => exact origem_of_subset fun _ mem => mem
  | inscreveu ok =>
      obtain ⟨_, _, registrou⟩ := registerUserInEvent_ok ok
      exact registrou.origem (by rw [efeito, ingressosNovos, ok]; rfl)
  | trocou ok =>
      obtain ⟨_, ⟨_, _, registrou⟩, _⟩ := updateUserFromEvent_ok ok
      intro q mem
      rcases registrou.new_ticket mem with old | ⟨role, role_mem, id, fresh, rfl⟩
      · exact .mantido q (List.mem_of_mem_filter old) (.refl q)
      · refine .inscrito role ?_ _ id fresh (.refl _)
        rw [efeito, ingressosNovos, ok]
        exact role_mem
  | @comprou request items depois ok =>
      obtain ⟨pedido, built, length, _, some_line, rfl⟩ := comprarProdutos_ok ok
      refine origem_gravarCompra (itens_ne_nil some_line length) fun p hung found => ?_
      simp only [efeito, ingressoQueRecebe, hung, built, found, if_true, Option.map_some]
  | @avisou notice depois ok =>
      rcases updatePaymentWebhook_cases w.db notice with
        ⟨_, failed⟩ | ⟨first, rest, found, ⟨_, same⟩ | ⟨_, status, rfl, written, rfl, wrote⟩⟩
      · exact nomatch failed.symm.trans ok
      · exact Except.ok.inj (same.symm.trans ok) ▸ origem_of_subset fun _ mem => mem
      · obtain rfl := Except.ok.inj (wrote.symm.trans ok)
        intro q mem
        split at mem
        · obtain ⟨q', q'_mem, rfl⟩ := List.mem_map.mp mem
          exact (origem_updateMany rfl q' q'_mem).of_mesmaConta (mesmaConta_checkouts _ _ q')
        · exact origem_updateMany rfl q mem
  | avisouCheckout ok =>
      rw [updatePaymentCheckoutWebhook_ok ok]
      exact origem_updateManyCheckouts _ _
  | precoDoIngresso => exact origem_of_subset fun _ mem => mem
  | precoDoProduto => exact origem_of_subset fun _ mem => mem
  | reordenou rank =>
      exact origem_of_subset fun q mem => (List.mem_insertionSort _).mp mem
  | seguiu found gravou =>
      refine gravou_origem gravou fun c pedido result task read all => ?_
      subst task
      simp only [efeito, linkNovo, found, read, all, if_true]

/-! ### Prices of roles -/

/-- A step that is no edit of the price of a role. -/
def MantemPrecos : Action → Prop
  | .setRolePrice _ _ => False
  | _ => True

theorem gravou_catalogue {db depois : Database} {resposta : Resposta} {task : Task}
    (gravou : Gravou db resposta task depois) : depois.catalogue = db.catalogue := by
  cases gravou with
  | reativou ok =>
      obtain ⟨reativado, r, reativou, rfl, _⟩ := reativarCheckout_ok ok
      exact reativou.catalogue
  | criou read ok =>
      rw [(gravarCheckout_ok ok).2]
      rfl
  | editou ok =>
      obtain ⟨reativado, reactivation, _, catalogue⟩ := updatePaymentStatusTx_ok ok
      refine catalogue.trans ?_
      rcases reativarSePreciso_ok reactivation with ⟨_, rfl⟩ | ⟨_, r, reativou, _⟩
      · rfl
      · exact reativou.catalogue
  | estornou ok =>
      rw [refundPaymentTx_ok ok]
      rfl
  | reconciliou => exact gravarCobranca_catalogue _ _ _ _
  | _ => rfl

/-- Roles are found as before by every step but an edit of their price. -/
theorem passo_role? {amb : Ambiente} {w : World} {action : Action} {depois : Database}
    (passo : Passo amb w action depois) (prices : MantemPrecos action) (roleId : Id) :
    depois.catalogue.role? roleId = w.db.catalogue.role? roleId := by
  cases passo with
  | inscreveu ok =>
      obtain ⟨_, _, registrou⟩ := registerUserInEvent_ok ok
      rw [registrou.catalogue]
  | trocou ok =>
      obtain ⟨_, ⟨_, _, registrou⟩, _⟩ := updateUserFromEvent_ok ok
      rw [registrou.catalogue]
      rfl
  | comprou ok =>
      obtain ⟨pedido, _, _, _, _, rfl⟩ := comprarProdutos_ok ok
      rw [gravarCompra_catalogue]
  | @avisou notice _ ok =>
      rcases updatePaymentWebhook_cases w.db notice with
        ⟨_, failed⟩ | ⟨first, rest, _, ⟨_, same⟩ | ⟨_, status, rfl, written, rfl, wrote⟩⟩
      · exact nomatch failed.symm.trans ok
      · rw [← Except.ok.inj (same.symm.trans ok)]
      · rw [← Except.ok.inj (wrote.symm.trans ok)]
        split <;> rfl
  | avisouCheckout ok => rw [updatePaymentCheckoutWebhook_ok ok]; rfl
  | precoDoIngresso => exact prices.elim
  | seguiu found gravou => rw [gravou_catalogue gravou]
  | _ => rfl

end IccvBackend
