/-
Module: IccvBackend.Proofs.OldLinks
Purpose: "Paid" on the value of a charge, against what its payments cost at that moment.
Trusted boundary: none
Main exports: Baixa, baixa, PagaOQueCusta, SoJuntaSemLink, ContaDosLinks, contaDosLinks_step,
  pagaOQueCusta_run
-/
import IccvBackend.Lib.Transitions
import IccvBackend.Proofs.Links
import IccvBackend.Proofs.StatusWrites
import IccvBackend.Proofs.Tickets

namespace IccvBackend

open Lib

/-!
The value check compares what was paid with what the link charged when it was made.  What a payment
costs changes later in two ways: a reactivation takes items away, a purchase hangs items on a
ticket.  The second one looks only at checkouts that are still active here; a link that was closed
here is still open at the house, and so is a link on its way.
-/

/-! ### Marking as paid -/

/-- A write of "paid" that a known value decided: the reference, the payments, and the paid
cents. -/
structure Baixa where
  referenceId : Id
  selected : Payment → Bool
  pago : Nat

/-- The write of "paid" of a notification or of a round, where the charge and the paid value are
known. -/
def baixa (w : World) : Action → Option Baixa
  | .updatePaymentWebhook notice =>
      match w.db.checkoutsWhere (notice.selects w.db) with
      | [] => none
      | first :: rest =>
          if first.1.status ≠ .paid ∧ conferirValorPago notice.status notice.pagoEmCentavos
              first.2.chargedAmountCents = .paid then
            first.2.chargedAmountCents.bind fun _ => notice.pagoEmCentavos.map fun pago =>
              { referenceId := notice.referenceId
                selected := fun p => p.id ∈ (first :: rest).map fun row => row.1.id
                pago := pago }
          else none
  | .resume i _ =>
      match w.tasks[i]? with
      | some (.reconcileWrite cobranca .paid charge _ _) =>
          cobranca.chargedAmountCents.bind fun _ => charge.paidAmountCents.map fun pago =>
            { referenceId := cobranca.referenceId
              selected := fun p => p.tem cobranca.referenceId
              pago := pago }
      | _ => none
  | _ => none

/-- What the payments of a write cost now, in cents. -/
def Baixa.custo (b : Baixa) (db : Database) : Int :=
  ((db.payments.filter b.selected).map fun p => cents p.amount).sum

/-- Nothing is marked paid for less than it costs, less the discount its charge included. -/
def PagaOQueCusta (s : World × Registros) (action : Action) : Prop :=
  ∀ b, baixa s.1 action = some b →
    ∃ registro, s.2 b.referenceId = some registro ∧ b.custo s.1.db ≤ b.pago + registro.abatido

/-! ### The condition -/

/-- Products that cost something are hung only on a ticket that was never sent to a house, and that
no checkout on its way has read. -/
def SoJuntaSemLink (w : World) (action : Action) : Prop :=
  ∀ ingresso total, ingressoQueRecebe w action = some (ingresso, total) →
    total = 0 ∨ ingresso.checkouts = [] ∧
      ∀ task ∈ w.tasks, ∀ lido ∈ task.captura, lido.payment.id ≠ ingresso.id

/-- Role prices stay, and nothing is hung on a ticket that was sent to a house. -/
def NaoEncarece (w : World) (action : Action) : Prop :=
  MantemPrecos action ∧ SoJuntaSemLink w action

/-! ### What a checkout charges for a payment -/

/-- The cents of the ticket of a payment: the price of its role. -/
def ingressoDe (cat : Catalogue) (p : Payment) : Int :=
  ((p.roleRegistrationId.bind cat.role?).map fun role => cents role.price).getD 0

/-- The cents a checkout charges for a ticket: nothing below zero. -/
def valorDoIngresso (eventUserRole : Option (RolesRegistration × Option Discounts)) : Int :=
  match eventUserRole with
  | some (role, _) => if role.price > 0 then cents role.price else 0
  | none => 0

theorem valorDoIngresso_nonneg (role : Option (RolesRegistration × Option Discounts)) :
    0 ≤ valorDoIngresso role := by
  unfold valorDoIngresso
  split
  · split
    · next pos => exact cents_nonneg pos.le
    · exact le_rfl
  · exact le_rfl

theorem le_valorDoIngresso (role : RolesRegistration) (discount : Option Discounts) :
    cents role.price ≤ valorDoIngresso (some (role, discount)) := by
  unfold valorDoIngresso
  dsimp only
  split
  · exact le_rfl
  · next not_pos => exact not_lt.mp fun pos => not_pos (pos_of_cents_pos pos)

/-- The tickets of a cart. -/
theorem sum_valorDoIngresso (lidos : List PagamentoLido) :
    (((lidos.filterMap fun p => p.eventUserRole.map fun role =>
        (⟨role.1.id, role.1.description, role.1.price⟩ : Ticket)).filter
          fun t => t.price > 0).map fun t => cents t.price).sum =
      (lidos.map fun lido => valorDoIngresso lido.eventUserRole).sum := by
  induction lidos with
  | nil => rfl
  | cons lido lidos ih =>
      cases role : lido.eventUserRole with
      | none => simpa [role, valorDoIngresso] using ih
      | some role' =>
          by_cases pos : role'.1.price > 0 <;> simpa [role, valorDoIngresso, pos] using ih

/-- Items without a price are worth nothing. -/
theorem sum_centavos_com_preco (itens : List PaymentProductItem) :
    ((itens.filter fun item => item.unitPrice > 0).map PaymentProductItem.centavos).sum =
      (itens.map PaymentProductItem.centavos).sum := by
  rw [← sum_map_filter_add itens fun item => decide (item.unitPrice > 0), left_eq_add]
  refine List.sum_eq_zero fun x mem => ?_
  obtain ⟨item, item_mem, rfl⟩ := List.mem_map.mp mem
  have free : item.unitPrice = 0 := by
    have not_pos : ¬ item.unitPrice > 0 := by simpa using (List.mem_filter.mp item_mem).2
    exact le_antisymm (not_lt.mp not_pos) item.unitPrice_nonneg
  simp [PaymentProductItem.centavos, free]

/-- The products of a cart. -/
theorem sum_centavosDosItens (lidos : List PagamentoLido) :
    (lidos.flatMap fun p => (p.payment.productItems.filter fun item => item.unitPrice > 0).map
        PaymentProductItem.centavos).sum =
      (lidos.map fun lido => lido.payment.centavosDosItens).sum := by
  induction lidos with
  | nil => rfl
  | cons lido lidos ih =>
      rw [List.flatMap_cons, List.sum_append, sum_centavos_com_preco, ih]
      rfl

/-- The cart of a checkout is worth what its payments were read with. -/
theorem totalEmCentavos_items (c : CheckoutEmCurso) :
    totalEmCentavos c.items = (c.unpaidPayments.map fun lido =>
      valorDoIngresso lido.eventUserRole + lido.payment.centavosDosItens).sum := by
  rw [List.sum_map_add, ← sum_valorDoIngresso, ← sum_centavosDosItens, CheckoutEmCurso.items,
    totalEmCentavos_append]
  congr 1
  · simp only [CheckoutEmCurso.tickets, totalEmCentavos, List.map_map, Function.comp_def,
      HostedCheckoutItem.linha, Nat.cast_one, mul_one]
  · simp only [CheckoutEmCurso.produtos, totalEmCentavos, List.map_map, List.filter_flatMap,
      List.map_flatMap, List.filter_map, Function.comp_def, HostedCheckoutItem.linha]
    rfl

/-! ### The invariant -/

/-- What a checkout read of a payment still covers it: the ticket, and the items that cost
something. -/
structure Capturado (cat : Catalogue) (lido : PagamentoLido) (p : Payment) : Prop where
  ingresso : ingressoDe cat p ≤ valorDoIngresso lido.eventUserRole
  itens : (p.productItems.filter fun item => item.centavos ≠ 0).Sublist lido.payment.productItems

/-- A payment as a checkout read it still covers the row. -/
structure Cobre (db : Database) (lido : PagamentoLido) : Prop where
  antigo : lido.payment.id < db.nextId
  capturado : ∀ p ∈ db.payments, p.id = lido.payment.id → Capturado db.catalogue lido p

/-- What a payment counts for under a reference: its amount, or nothing below zero. -/
def Payment.custoEm (referenceId : Id) (p : Payment) : Int :=
  if p.tem referenceId then max 0 (cents p.amount) else 0

/-- What the payments of a reference cost together. -/
def custoDe (payments : List Payment) (referenceId : Id) : Int :=
  (payments.map (Payment.custoEm referenceId)).sum

/-- Links and what they charge against what their payments cost. -/
structure ContaDosLinks (w : World) (h : Registros) : Prop where
  links : LinksEmDia w h
  inscritas : ∀ p ∈ w.db.payments, p.Inscrita w.db
  papeis : ∀ p ∈ w.db.payments, ∀ roleId, p.roleRegistrationId = some roleId →
    (w.db.catalogue.role? roleId).isSome
  contas : ∀ p ∈ w.db.payments,
    cents p.amount = ingressoDe w.db.catalogue p + p.centavosDosItens
  capturas : ∀ task ∈ w.tasks, ∀ lido ∈ task.captura, Cobre w.db lido
  pedidos : ∀ c pedido, .checkoutCreate c pedido ∈ w.tasks → pedido.items = c.items
  escritas : ∀ cobranca charge restantes casas,
    .reconcileWrite cobranca .paid charge restantes casas ∈ w.tasks →
      PagoBasta charge.paidAmountCents cobranca.chargedAmountCents
  valores : ∀ referenceId registro, h referenceId = some registro →
    custoDe w.db.payments referenceId ≤ totalEmCentavos registro.pedido.items

/-- Leaving out the items that cost nothing leaves the cents. -/
theorem sum_centavos_ne_zero (itens : List PaymentProductItem) :
    ((itens.filter fun item => item.centavos ≠ 0).map PaymentProductItem.centavos).sum =
      (itens.map PaymentProductItem.centavos).sum := by
  rw [← sum_map_filter_add itens fun item => decide (item.centavos ≠ 0), left_eq_add]
  refine List.sum_eq_zero fun x mem => ?_
  obtain ⟨item, item_mem, rfl⟩ := List.mem_map.mp mem
  simpa using (List.mem_filter.mp item_mem).2

/-- A payment that a checkout covers costs no more than the checkout charges for it. -/
theorem Capturado.le {cat : Catalogue} {lido : PagamentoLido} {p : Payment}
    (capturado : Capturado cat lido p) :
    ingressoDe cat p + p.centavosDosItens ≤
      valorDoIngresso lido.eventUserRole + lido.payment.centavosDosItens := by
  refine add_le_add capturado.ingresso ?_
  rw [Payment.centavosDosItens, ← sum_centavos_ne_zero]
  refine (capturado.itens.map PaymentProductItem.centavos).sum_le_sum fun x mem => ?_
  obtain ⟨item, _, rfl⟩ := List.mem_map.mp mem
  exact centavos_nonneg item

theorem Capturado.congr {cat : Catalogue} {lido : PagamentoLido} {p q : Payment}
    (capturado : Capturado cat lido p) (role : q.roleRegistrationId = p.roleRegistrationId)
    (itens : (q.productItems.filter fun item => item.centavos ≠ 0).Sublist
      (p.productItems.filter fun item => item.centavos ≠ 0)) : Capturado cat lido q where
  ingresso := by
    rw [ingressoDe, role]
    exact capturado.ingresso
  itens := itens.trans capturado.itens

/-- Rows that cost nothing leave no item behind. -/
theorem filter_centavos_of_sum_zero {rows : List PaymentProductItem}
    (free : (rows.map PaymentProductItem.centavos).sum = 0) :
    (rows.filter fun item => item.centavos ≠ 0) = [] := by
  rw [List.filter_eq_nil_iff]
  intro item mem costs
  have nonneg : ∀ x ∈ rows.map PaymentProductItem.centavos, 0 ≤ x := by
    intro x x_mem
    obtain ⟨other, _, rfl⟩ := List.mem_map.mp x_mem
    exact centavos_nonneg other
  have le := List.single_le_sum nonneg item.centavos (List.mem_map_of_mem mem)
  have costs_nothing : item.centavos = 0 := le_antisymm (le.trans_eq free) (centavos_nonneg item)
  simp [costs_nothing] at costs

section Step

variable {amb : Ambiente} {w : World} {h : Registros} {action : Action}

/-- The ticket cents of a payment stay where role prices do. -/
theorem ingressoDe_step {depois : Database} (passo : Passo amb w action depois)
    (prices : MantemPrecos action) (p : Payment) :
    ingressoDe depois.catalogue p = ingressoDe w.db.catalogue p := by
  have same : depois.catalogue.role? = w.db.catalogue.role? := funext (passo_role? passo prices)
  rw [ingressoDe, ingressoDe, same]

theorem ingressoDe_congr {cat : Catalogue} {p q : Payment}
    (role : q.roleRegistrationId = p.roleRegistrationId) : ingressoDe cat q = ingressoDe cat p := by
  rw [ingressoDe, ingressoDe, role]

/-- Every ticket is of a role of the catalogue. -/
theorem papeis_step (prices : MantemPrecos action)
    (papeis : ∀ p ∈ w.db.payments, ∀ roleId, p.roleRegistrationId = some roleId →
      (w.db.catalogue.role? roleId).isSome) {q : Payment}
    (mem : q ∈ (step amb w action).db.payments) {roleId : Id}
    (ticket : q.roleRegistrationId = some roleId) :
    ((step amb w action).db.catalogue.role? roleId).isSome := by
  rw [passo_role? (step_passo amb w action) prices]
  cases passo_origem (step_passo amb w action) q mem with
  | mantido p p_mem same => exact papeis p p_mem roleId (same.roleRegistrationId ▸ ticket)
  | cortado p p_mem ids same _ => exact papeis p p_mem roleId (same.roleRegistrationId ▸ ticket)
  | juntado p p_mem _ rows total _ _ same =>
      exact papeis p p_mem roleId (same.roleRegistrationId ▸ ticket)
  | cobrado p p_mem ids row _ _ same =>
      exact papeis p p_mem roleId (same.roleRegistrationId ▸ ticket)
  | inscrito role role_mem request id _ same =>
      have this : some role.2.id = some roleId := same.roleRegistrationId.symm.trans ticket
      rw [← Option.some.inj this, Catalogue.role?_of_mem (ingressosNovos_subset role_mem)]
      rfl
  | comprado _ no_ticket => exact nomatch no_ticket.symm.trans ticket

/-- Every amount is the price of the role and the items. -/
theorem contas_step (prices : MantemPrecos action)
    (contas : ∀ p ∈ w.db.payments,
      cents p.amount = ingressoDe w.db.catalogue p + p.centavosDosItens) {q : Payment}
    (mem : q ∈ (step amb w action).db.payments) :
    cents q.amount = ingressoDe (step amb w action).db.catalogue q + q.centavosDosItens := by
  rw [ingressoDe_step (step_passo amb w action) prices]
  cases passo_origem (step_passo amb w action) q mem with
  | mantido p p_mem same =>
      rw [ingressoDe_congr same.roleRegistrationId, same.amount, Payment.centavosDosItens,
        same.productItems]
      exact contas p p_mem
  | cortado p p_mem ids same _ =>
      have conta := contas p p_mem
      have cut := semItens_cents ids p
      rw [ingressoDe_congr (same.roleRegistrationId.trans (semItens_roleRegistrationId ids p)),
        same.amount, Payment.centavosDosItens, same.productItems, ← Payment.centavosDosItens]
      omega
  | juntado p p_mem _ rows total _ custam same =>
      have conta := contas p p_mem
      have role : q.roleRegistrationId = p.roleRegistrationId := same.roleRegistrationId
      rw [ingressoDe_congr role, same.amount, Payment.centavosDosItens, same.productItems]
      simp only [Payment.comItens]
      rw [cents_intCast_div, List.map_append, List.sum_append, custam, conta,
        Payment.centavosDosItens, add_assoc]
  | cobrado p p_mem ids row _ _ same =>
      have role : q.roleRegistrationId = p.roleRegistrationId := same.roleRegistrationId
      rw [ingressoDe_congr role, same.amount, Payment.centavosDosItens, same.productItems]
      exact contas p p_mem
  | inscrito role role_mem request id _ same =>
      have ticket : q.roleRegistrationId = some role.2.id := same.roleRegistrationId
      rw [ingressoDe, ticket, Option.bind_some,
        Catalogue.role?_of_mem (ingressosNovos_subset role_mem), same.amount,
        Payment.centavosDosItens, same.productItems]
      exact (add_zero _).symm
  | comprado _ no_ticket rows _ total custam amount items _ =>
      rw [ingressoDe, no_ticket, amount, cents_intCast_div, Payment.centavosDosItens, items, custam]
      exact (zero_add _).symm

/-- Where products are hung, a checkout on its way has not read the ticket, or they are free. -/
def SoltoDe (w : World) (action : Action) (lido : PagamentoLido) : Prop :=
  ∀ ingresso total, ingressoQueRecebe w action = some (ingresso, total) →
    total = 0 ∨ lido.payment.id ≠ ingresso.id

/-- What a checkout read still covers the rows after a step. -/
theorem cobre_step (prices : MantemPrecos action) {lido : PagamentoLido}
    (solto : SoltoDe w action lido) (cobre : Cobre w.db lido) :
    Cobre (step amb w action).db lido := by
  have passo := step_passo amb w action
  refine ⟨cobre.antigo.trans_le (passo_nextId passo), fun q mem this => ?_⟩
  have later : ∀ p, Capturado w.db.catalogue lido p →
      Capturado (step amb w action).db.catalogue lido p := fun p capturado =>
    ⟨(ingressoDe_step passo prices p).trans_le capturado.ingresso, capturado.itens⟩
  apply later
  cases passo_origem passo q mem with
  | mantido p p_mem same =>
      refine (cobre.capturado p p_mem (same.id.symm.trans this)).congr same.roleRegistrationId ?_
      rw [same.productItems]
  | cortado p p_mem ids same _ =>
      refine (cobre.capturado p p_mem (same.id.symm.trans this)).congr same.roleRegistrationId ?_
      rw [same.productItems]
      exact List.filter_sublist.filter _
  | juntado p p_mem _ rows total recebe custam same =>
      refine (cobre.capturado p p_mem (same.id.symm.trans this)).congr same.roleRegistrationId ?_
      rcases solto p total recebe with rfl | other
      · rw [same.productItems]
        simp only [Payment.comItens]
        rw [List.filter_append, filter_centavos_of_sum_zero custam, List.append_nil]
      · exact absurd (this.symm.trans same.id) other
  | cobrado p p_mem ids row _ _ same =>
      refine (cobre.capturado p p_mem (same.id.symm.trans this)).congr same.roleRegistrationId ?_
      rw [same.productItems]
      exact List.Sublist.refl _
  | inscrito role _ request id fresh same =>
      have this_id : q.id = id := same.id
      exact absurd (this ▸ this_id ▸ fresh) (not_le.mpr cobre.antigo)
  | comprado fresh => exact absurd (this ▸ fresh) (not_le.mpr cobre.antigo)

/-- What a request reads covers the rows it was read from. -/
theorem ContaDosLinks.cobre_lido (inv : ContaDosLinks w h) {lido : PagamentoLido}
    (mem : lido.payment ∈ w.db.payments)
    (role : lido.eventUserRole = w.db.eventUserRole lido.payment) : Cobre w.db lido := by
  refine ⟨w.db.payments_keyed.lt_next _ mem, fun p p_mem this => ?_⟩
  obtain rfl := w.db.eq_of_id_eq p_mem mem this
  refine ⟨?_, List.filter_sublist⟩
  cases ticket : lido.payment.roleRegistrationId with
  | none =>
      rw [ingressoDe, ticket]
      exact valorDoIngresso_nonneg _
  | some roleId =>
      obtain ⟨found, is_found⟩ := Option.isSome_iff_exists.mp (inv.papeis _ mem roleId ticket)
      obtain ⟨discount, held⟩ := eventUserRole_of_inscrita (inv.inscritas _ mem) ticket is_found
      rw [ingressoDe, ticket, Option.bind_some, is_found, role, held]
      exact le_valorDoIngresso found discount

/-- A reactivation takes the same items from the rows and from what its checkout read. -/
theorem cobre_reativado {db reativado : Database} {ids : List Id} {r : Reativacao}
    (reativou : Reativou db ids reativado r) {lido : PagamentoLido} (cobre : Cobre db lido) :
    Cobre (reativado.updateManyPayments (fun p => p.id ∈ r.reativados) voltarAEsperar)
      { lido with
        payment :=
          { lido.payment with
            productItems :=
              lido.payment.productItems.filter fun item => item.id ∉ r.itensRemovidos } } := by
  refine ⟨lt_of_lt_of_eq cobre.antigo reativou.nextId.symm, fun q mem this => ?_⟩
  obtain ⟨q', q'_mem, rfl⟩ := List.mem_map.mp mem
  rw [reativou.payments] at q'_mem
  obtain ⟨p, p_mem, rfl⟩ := List.mem_map.mp q'_mem
  have same : Payment.MesmaConta
      (if decide ((p.semItens r.itensRemovidos).id ∈ r.reativados) then
        voltarAEsperar.apply (p.semItens r.itensRemovidos)
      else p.semItens r.itensRemovidos) (p.semItens r.itensRemovidos) := by
    split
    · exact mesmaConta_apply rfl _
    · exact .refl _
  dsimp only at this ⊢
  generalize (if decide ((p.semItens r.itensRemovidos).id ∈ r.reativados) then
    voltarAEsperar.apply (p.semItens r.itensRemovidos) else p.semItens r.itensRemovidos) = q
    at same this ⊢
  have capturado := cobre.capturado p p_mem (same.id.symm.trans this)
  constructor
  · rw [Database.updateManyPayments_catalogue, reativou.catalogue,
      ingressoDe_congr (same.roleRegistrationId.trans (semItens_roleRegistrationId _ p))]
    exact capturado.ingresso
  · have kept : (p.semItens r.itensRemovidos).productItems.filter (fun item => item.centavos ≠ 0) =
        (p.productItems.filter fun item => item.centavos ≠ 0).filter
          fun item => item.id ∉ r.itensRemovidos := by
      rw [semItens_items, List.filter_filter, List.filter_filter]
      exact List.filter_congr fun item _ => Bool.and_comm _ _
    rw [same.productItems, kept]
    exact capturado.itens.filter _

/-- What a new task read covers the rows after its step. -/
theorem ContaDosLinks.cobre_nova (inv : ContaDosLinks w h) (prices : MantemPrecos action)
    {task : Task} (nova : TarefaNova amb w action task) {lido : PagamentoLido}
    (mem : lido ∈ task.captura) : Cobre (step amb w action).db lido := by
  cases nova with
  | cobra ok =>
      obtain ⟨in_db, role⟩ := mem_aCobrar ok mem
      exact cobre_step prices (fun _ _ recebe => nomatch recebe) (inv.cobre_lido in_db role)
  | @segue i resposta before _ found left =>
      have before_covers := inv.capturas _ (List.mem_of_getElem? found)
      have kept : ∀ lido ∈ before.captura, Cobre (step amb w (.resume i resposta)).db lido :=
        fun lido mem => cobre_step prices (fun _ _ recebe => nomatch recebe)
          (before_covers lido mem)
      cases left with
      | reativou ok =>
          obtain ⟨reativado, r, reativou, rfl, outcome⟩ := reativarCheckout_ok ok
          obtain rfl := outcome _ rfl
          obtain ⟨old, old_mem, rfl⟩ := List.mem_map.mp mem
          have db : (step amb w (.resume i resposta)).db =
              reativado.updateManyPayments (fun p => p.id ∈ r.reativados) voltarAEsperar := by
            simp only [step, found, runTask, ok]
          rw [db]
          exact cobre_reativado reativou (before_covers old (List.mem_of_mem_filter old_mem))
      | conferiu => exact kept lido mem
      | reutiliza => exact kept lido mem
      | pediu => exact kept lido mem
      | _ => cases mem
  | _ => cases mem

/-! ### What the payments of a reference cost -/

theorem custoEm_nonneg (referenceId : Id) (p : Payment) : 0 ≤ p.custoEm referenceId := by
  unfold Payment.custoEm
  split
  · exact le_max_left _ _
  · exact le_rfl

theorem custoEm_le_of_links {p q : Payment} (links : q.links = p.links)
    (amount : cents q.amount ≤ cents p.amount) (referenceId : Id) :
    q.custoEm referenceId ≤ p.custoEm referenceId := by
  have same : q.tem referenceId = p.tem referenceId := by
    rw [Bool.eq_iff_iff, tem_iff_links, tem_iff_links, links]
  rw [Payment.custoEm, Payment.custoEm, same]
  split
  · exact max_le_max le_rfl amount
  · exact le_rfl

/-- A payment that was not sent under a reference counts for nothing there. -/
theorem custoEm_of_not_tem {q : Payment} {referenceId : Id}
    (no_link : ∀ c ∈ q.links, c.referenceId ≠ referenceId) : q.custoEm referenceId = 0 := by
  refine if_neg fun has => ?_
  obtain ⟨c, mem, same⟩ := tem_iff_links.mp has
  exact no_link c mem same

/-- A reference the history knows never comes to cost more. -/
theorem ContaDosLinks.custoDe_step (inv : ContaDosLinks w h) (guard : NaoEncarece w action)
    {referenceId : Id} {registro : Registro} (known : h referenceId = some registro) :
    custoDe (step amb w action).db.payments referenceId ≤ custoDe w.db.payments referenceId := by
  refine sum_map_le_of_match Payment.id w.db.payments (fun p _ => custoEm_nonneg referenceId p) _
    (step amb w action).db.payments_keyed.nodup fun q mem => ?_
  cases passo_origem (step_passo amb w action) q mem with
  | mantido p p_mem same =>
      exact .inr ⟨p, p_mem, same.id, custoEm_le_of_links same.links (same.amount ▸ le_rfl) _⟩
  | cortado p p_mem ids same _ =>
      have links : q.links = p.links := same.links
      refine .inr ⟨p, p_mem, same.id, custoEm_le_of_links links ?_ _⟩
      have cut := semItens_cents ids p
      have fewer : (p.semItens ids).centavosDosItens ≤ p.centavosDosItens := by
        refine (List.filter_sublist.map PaymentProductItem.centavos).sum_le_sum fun x x_mem => ?_
        obtain ⟨item, _, rfl⟩ := List.mem_map.mp x_mem
        exact centavos_nonneg item
      rw [same.amount]
      omega
  | juntado p p_mem _ rows total recebe custam same =>
      rcases guard.2 p total recebe with rfl | ⟨no_links, _⟩
      · have links : q.links = p.links := same.links
        refine .inr ⟨p, p_mem, same.id, custoEm_le_of_links links ?_ _⟩
        rw [same.amount]
        simp [Payment.comItens]
      · refine .inl (custoEm_of_not_tem fun c c_mem => ?_).le
        have no_link : q.links = [] := by
          rw [same.links]
          simp [Payment.links, Payment.comItens, no_links]
        exact absurd (no_link ▸ c_mem) List.not_mem_nil
  | cobrado p p_mem ids row new _ same =>
      by_cases has : p.tem referenceId = true
      · refine .inr ⟨p, p_mem, same.id, ?_⟩
        have amount : q.amount = p.amount := same.amount
        rw [Payment.custoEm, Payment.custoEm, if_pos has, amount]
        split
        · exact le_rfl
        · exact le_max_left _ _
      · refine .inl (custoEm_of_not_tem fun c c_mem this => ?_).le
        have both : c ∈ p.links ++ [row.semStatus] := by
          have := same.links ▸ c_mem
          simpa [Payment.links, Payment.comLink] using this
        rcases List.mem_append.mp both with old | here
        · exact has (tem_iff_links.mpr ⟨c, old, this⟩)
        · obtain rfl := List.mem_singleton.mp here
          obtain ⟨i, resposta, d, pedido, rfl, found, _, _, _, reference, _⟩ := linkNovo_spec new
          have unknown := (inv.links.pedidos _ (List.mem_of_getElem? found) pedido rfl).2
          have same_reference : pedido.referenceId = referenceId := reference.symm.trans this
          have both := (same_reference ▸ unknown).symm.trans known
          cases both
  | inscrito role _ request id _ same =>
      refine .inl (custoEm_of_not_tem fun c c_mem => ?_).le
      exact absurd (same.links ▸ c_mem) List.not_mem_nil
  | comprado _ _ _ _ _ _ _ _ no_links =>
      refine .inl (custoEm_of_not_tem fun c c_mem => ?_).le
      exact absurd (no_links ▸ c_mem) List.not_mem_nil

/-- The payments of a new checkout cost no more than its cart. -/
theorem ContaDosLinks.custoDe_novo (inv : ContaDosLinks w h) {pedido : HostedCheckoutRequest}
    (made : pedidoGravado w action = some pedido) :
    custoDe (step amb w action).db.payments pedido.referenceId ≤ totalEmCentavos pedido.items := by
  obtain ⟨i, resposta, c, row, rfl, found, new⟩ := pedidoGravado_spec made
  have waits := List.mem_of_getElem? found
  have unknown := (inv.links.pedidos _ waits pedido rfl).2
  rw [inv.pedidos c pedido waits, totalEmCentavos_items]
  refine sum_map_le_of_match (fun lido : PagamentoLido => lido.payment.id)
    c.unpaidPayments (fun lido _ => add_nonneg (valorDoIngresso_nonneg _)
      (centavosDosItens_nonneg _)) _ (step amb w (.resume i resposta)).db.payments_keyed.nodup
    fun q mem => ?_
  -- no row had the reference before
  have not_before : ∀ p ∈ w.db.payments, ∀ c ∈ p.links, c.referenceId ≠ pedido.referenceId := by
    intro p p_mem c c_mem this
    obtain ⟨registro, known, _⟩ := inv.links.linhas p p_mem c c_mem
    exact nomatch (this ▸ unknown).symm.trans known
  cases passo_origem (step_passo amb w (.resume i resposta)) q mem with
  | mantido p p_mem same =>
      exact .inl (custoEm_of_not_tem (same.links ▸ not_before p p_mem)).le
  | cortado p p_mem ids same _ =>
      have links : q.links = p.links := same.links
      exact .inl (custoEm_of_not_tem (links ▸ not_before p p_mem)).le
  | juntado p p_mem _ rows total recebe _ _ => exact nomatch recebe
  | cobrado p p_mem ids row' new' listed same =>
      obtain ⟨rfl, rfl⟩ := Prod.mk.inj (Option.some.inj (new'.symm.trans new))
      obtain ⟨lido, lido_mem, this⟩ := List.mem_map.mp listed
      have same_id : q.id = p.id := same.id
      refine .inr ⟨lido, lido_mem, same_id.trans this.symm, ?_⟩
      have capturado := (inv.capturas _ waits lido lido_mem).capturado p p_mem this.symm
      have amount : q.amount = p.amount := same.amount
      have nonneg := add_nonneg (valorDoIngresso_nonneg lido.eventUserRole)
        (centavosDosItens_nonneg lido.payment)
      rw [Payment.custoEm, amount]
      split
      · exact max_le nonneg ((inv.contas p p_mem).trans_le capturado.le)
      · exact nonneg
  | inscrito role _ request id _ same =>
      refine .inl (custoEm_of_not_tem fun c c_mem => ?_).le
      exact absurd (same.links ▸ c_mem) List.not_mem_nil
  | comprado _ _ _ _ _ _ _ _ no_links =>
      refine .inl (custoEm_of_not_tem fun c c_mem => ?_).le
      exact absurd (no_links ▸ c_mem) List.not_mem_nil

/-! ### The invariant along a run -/

/-- The requests that wait are of the cart of their checkout. -/
theorem pedido_itens_nova {task : Task} (nova : TarefaNova amb w action task) {c : CheckoutEmCurso}
    {pedido : HostedCheckoutRequest} (waits : task = .checkoutCreate c pedido) :
    pedido.items = c.items := by
  cases nova with
  | segue found left =>
      cases left with
      | pediu ok =>
          obtain ⟨rfl, rfl⟩ := Task.checkoutCreate.inj waits
          exact (montarPedidoHosted_ok ok).2.1
      | _ => exact nomatch waits
  | _ => exact nomatch waits

/-- A round only decides on "paid" for a value that covers the charge. -/
theorem pagoBasta_nova {task : Task} (nova : TarefaNova amb w action task)
    {cobranca : CobrancaPendente} {charge : GatewayCharge} {restantes : List CobrancaPendente}
    {casas : Casas} (decides : task = .reconcileWrite cobranca .paid charge restantes casas) :
    PagoBasta charge.paidAmountCents cobranca.chargedAmountCents := by
  cases nova with
  | segue found left =>
      cases left with
      | decidiu decided =>
          obtain ⟨rfl, rfl, rfl, rfl, rfl⟩ := Task.reconcileWrite.inj decides
          simp only [conferirCobranca, Option.bind_eq_bind, Option.bind_eq_some_iff] at decided
          obtain ⟨charge', _, first, _, checked⟩ := decided
          split at checked
          · exact nomatch checked
          · obtain ⟨paid, rfl⟩ := Prod.mk.inj (Option.some.inj checked)
            exact (conferirValorPago_eq_paid_iff.mp paid).2
      | _ => exact nomatch decides
  | _ => exact nomatch decides

/-- One step keeps the links and what they charge in line with what the payments cost. -/
theorem contaDosLinks_step (amb : Ambiente) (inv : ContaDosLinks w h)
    (guard : NaoEncarece w action) :
    ContaDosLinks (step amb w action) (registrar h w action (step amb w action)) := by
  refine
    { links := linksEmDia_step amb inv.links action
      inscritas := inscritas_step amb w action inv.inscritas
      papeis := fun q mem roleId => papeis_step guard.1 inv.papeis mem
      contas := fun q mem => contas_step guard.1 inv.contas mem
      capturas := ?_
      pedidos := ?_
      escritas := ?_
      valores := ?_ }
  · intro task mem lido lido_mem
    rcases mem_tasks_step mem with old | here
    · refine cobre_step guard.1 (fun ingresso total recebe =>
        ?_) (inv.capturas task old lido lido_mem)
      exact (guard.2 ingresso total recebe).imp_right fun solto => solto.2 task old lido lido_mem
    · exact inv.cobre_nova guard.1 here lido_mem
  · intro c pedido mem
    rcases mem_tasks_step mem with old | here
    · exact inv.pedidos c pedido old
    · exact pedido_itens_nova here rfl
  · intro cobranca charge restantes casas mem
    rcases mem_tasks_step mem with old | here
    · exact inv.escritas cobranca charge restantes casas old
    · exact pagoBasta_nova here rfl
  · intro referenceId registro known
    cases before : h referenceId with
    | some registro' =>
        obtain rfl : registro' = registro :=
          Option.some.inj ((inv.links.registrar_of_some before).symm.trans known)
        exact (inv.custoDe_step guard before).trans (inv.valores referenceId registro' before)
    | none =>
        unfold registrar at known
        cases made : pedidoGravado w action with
        | none => simp [made, before] at known
        | some pedido =>
            simp only [made] at known
            by_cases this : referenceId = pedido.referenceId
            · subst this
              rw [Function.update_self] at known
              obtain rfl := Option.some.inj known
              exact inv.custoDe_novo made
            · rw [Function.update_of_ne this, before] at known
              exact nomatch known

/-- The payments of a write of "paid" were sent under its reference, and the paid value covers what
that reference charged. -/
theorem ContaDosLinks.baixa (inv : ContaDosLinks w h) {b : Baixa}
    (marks : IccvBackend.baixa w action = some b) :
    (∃ registro, h b.referenceId = some registro ∧ registro.cobrado ≤ b.pago) ∧
      ∀ p ∈ w.db.payments, b.selected p = true → p.tem b.referenceId = true := by
  cases action with
  | updatePaymentWebhook notice =>
      simp only [IccvBackend.baixa] at marks
      cases found : w.db.checkoutsWhere (notice.selects w.db) with
      | nil => simp [found] at marks
      | cons first rest =>
          simp only [found] at marks
          split at marks
          · next paid =>
              simp only [Option.bind_eq_some_iff, Option.map_eq_some_iff] at marks
              obtain ⟨charged, is_charged, pago, is_pago, rfl⟩ := marks
              have rows : ∀ row ∈ first :: rest, row ∈ w.db.checkoutsWhere (notice.selects w.db) :=
                fun row mem => found ▸ mem
              obtain ⟨first_mem, c_mem, reference, _⟩ :=
                tem_of_checkoutsWhere (rows first List.mem_cons_self)
              obtain ⟨registro, known, is_cobrado⟩ :=
                inv.links.linhas first.1 first_mem first.2.semStatus (List.mem_map_of_mem c_mem)
              refine ⟨⟨registro, reference ▸ known, ?_⟩, fun p p_mem sel => ?_⟩
              · exact (conferirValorPago_eq_paid_iff.mp paid.2).2 pago registro.cobrado is_pago
                  is_cobrado
              · obtain ⟨row, row_mem, same⟩ := List.mem_map.mp (of_decide_eq_true sel)
                obtain ⟨row_in, _, _, has⟩ := tem_of_checkoutsWhere (rows row row_mem)
                exact w.db.eq_of_id_eq row_in p_mem same ▸ has
          · exact nomatch marks
  | resume i resposta =>
      simp only [IccvBackend.baixa] at marks
      split at marks
      · next cobranca charge restantes casas found =>
          simp only [Option.bind_eq_some_iff, Option.map_eq_some_iff] at marks
          obtain ⟨charged, is_charged, pago, is_pago, rfl⟩ := marks
          have waits := List.mem_of_getElem? found
          obtain ⟨registro, known, is_cobrado⟩ :=
            inv.links.rodadas _ waits cobranca List.mem_cons_self
          refine ⟨⟨registro, known, ?_⟩, fun p _ sel => sel⟩
          exact inv.escritas _ _ _ _ waits pago registro.cobrado is_pago is_cobrado
      · exact nomatch marks
  | _ => exact nomatch marks

/-- A write costs no more than all payments of its reference. -/
theorem Baixa.custo_le (b : Baixa) {db : Database}
    (sent : ∀ p ∈ db.payments, b.selected p = true → p.tem b.referenceId = true) :
    b.custo db ≤ custoDe db.payments b.referenceId := by
  have others : 0 ≤ ((db.payments.filter fun p => !b.selected p).map
      (Payment.custoEm b.referenceId)).sum := by
    refine List.sum_nonneg fun x mem => ?_
    obtain ⟨p, _, rfl⟩ := List.mem_map.mp mem
    exact custoEm_nonneg _ p
  have mine : b.custo db ≤
      ((db.payments.filter b.selected).map (Payment.custoEm b.referenceId)).sum := by
    refine List.sum_le_sum fun p mem => ?_
    obtain ⟨p_mem, sel⟩ := List.mem_filter.mp mem
    rw [Payment.custoEm, if_pos (sent p p_mem sel)]
    exact le_max_right _ _
  rw [custoDe, ← sum_map_filter_add db.payments b.selected]
  exact le_add_of_le_of_nonneg mine others

end Step

/-- **Old links.**  From a database without payments and a server without requests, in every run
whose steps hang nothing that costs on a ticket that was sent to a house, and edit no role price,
"paid" is only written for what the payments cost. -/
theorem pagaOQueCusta_run (amb : Ambiente) {w : World} (no_payments : w.db.payments = [])
    (no_tasks : w.tasks = []) {actions : List Action}
    (guarded : EachStep (step amb) NaoEncarece w actions) :
    EachStep (withHistory (step amb) registrar) PagaOQueCusta (w, fun _ => none) actions := by
  have start : ContaDosLinks w fun _ => none :=
    { links := linksEmDia_of_vazio no_payments no_tasks
      inscritas := by simp [no_payments]
      papeis := by simp [no_payments]
      contas := by simp [no_payments]
      capturas := by simp [no_tasks]
      pedidos := by simp [no_tasks]
      escritas := by simp [no_tasks]
      valores := fun _ _ known => nomatch known }
  have guarded' : EachStep (withHistory (step amb) registrar)
      (fun s action => NaoEncarece s.1 action) (w, fun _ => none) actions :=
    (eachStep_withHistory _).mpr guarded
  have along : Always (withHistory (step amb) registrar) (fun s => ContaDosLinks s.1 s.2)
      (w, fun _ => none) actions := by
    apply always_of_eachStep (P := fun s => ContaDosLinks s.1 s.2) _ start guarded'
    intro s action inv guard
    exact contaDosLinks_step amb inv guard
  refine eachStep_of_always ?_ along guarded'
  intro s action inv _ b marks
  obtain ⟨⟨registro, known, covered⟩, sent⟩ := inv.baixa marks
  refine ⟨registro, known, (b.custo_le sent).trans ((inv.valores _ _ known).trans ?_)⟩
  rw [Registro.abatido]
  omega

/-! ### The product on the old link -/

namespace Loja

/-- A ticket and the link it was charged by. -/
def ingressoComLink : List Action :=
  [.createCheckout ⟨3, 5, [7], []⟩, .resume 0 (resposta 1000 [] 500),
    .resume 0 (resposta 1000 [] 500), .resume 0 (resposta 1000 [] 500)]

/-- The panel edits the payment, which closes its link here, and then a product goes on the
ticket. -/
def produtoNoLinkAntigo : List Action :=
  [inscricao 3 1000] ++ ingressoComLink ++
    [edicao 100 .waiting, .resume 0 (resposta 2000 [] 500), .resume 0 (resposta 2000 [] 500),
      compra 3 true 3000]

/-- The same purchase before the link. -/
def produtoAntesDoLink : List Action :=
  [inscricao 3 1000, compra 3 true 1500] ++ ingressoComLink ++ [aviso 102 .paid (some 15000)]

end Loja

/-- The condition holds where the product comes before the link. -/
theorem pagaOQueCusta_run_produtoAntesDoLink :
    EachStep (withHistory (step Loja.ambiente) registrar) PagaOQueCusta
      (Loja.aberta .pagbank 100 none, fun _ => none) Loja.produtoAntesDoLink := by
  have hung : SoJuntaSemLink (step Loja.ambiente (Loja.aberta .pagbank 100 none)
      (Loja.inscricao 3 1000)) (Loja.compra 3 true 1500) := by
    intro ingresso total recebe
    have no_links : (ingressoQueRecebe (step Loja.ambiente (Loja.aberta .pagbank 100 none)
        (Loja.inscricao 3 1000)) (Loja.compra 3 true 1500)).all
          (fun row => row.1.checkouts = []) = true := by decide +kernel
    rw [recebe] at no_links
    exact .inr ⟨of_decide_eq_true no_links, fun task mem => nomatch mem⟩
  have other : ∀ w action, (∀ request items, action ≠ .comprarProdutos request items) →
      SoJuntaSemLink w action := by
    intro w action not_purchase ingresso total recebe
    cases action with
    | comprarProdutos request items => exact absurd rfl (not_purchase request items)
    | _ => exact nomatch recebe
  exact pagaOQueCusta_run Loja.ambiente rfl rfl
    ⟨⟨trivial, other _ _ nofun⟩, ⟨trivial, hung⟩, ⟨trivial, other _ _ nofun⟩,
      ⟨trivial, other _ _ nofun⟩, ⟨trivial, other _ _ nofun⟩, ⟨trivial, other _ _ nofun⟩,
      ⟨trivial, other _ _ nofun⟩, trivial⟩

/-- The old link is paid with what it charged: 100 reais for a ticket and a product of 150. -/
theorem not_pagaOQueCusta_linkAntigo :
    ¬ EachStep (withHistory (step Loja.ambiente) registrar) PagaOQueCusta
      (Loja.aberta .pagbank 100 none, fun _ => none)
      (Loja.produtoNoLinkAntigo ++ [Loja.aviso 101 .paid (some 10000)]) := by
  intro each
  obtain ⟨_, last, _⟩ := eachStep_append.mp each
  generalize reached : runFrom (withHistory (step Loja.ambiente) registrar)
    (Loja.aberta .pagbank 100 none, fun _ => none) Loja.produtoNoLinkAntigo = s at last
  have marked : (baixa s.1 (Loja.aviso 101 .paid (some 10000))).any (fun b =>
      (s.2 b.referenceId).all fun registro =>
        (b.pago : Int) + registro.abatido < b.custo s.1.db) = true := by
    subst reached
    decide +kernel
  obtain ⟨b, marks, less⟩ := (Option.any_eq_true _ _).mp marked
  obtain ⟨registro, known, covered⟩ := last b marks
  rw [known] at less
  exact absurd covered (not_le.mpr (of_decide_eq_true less))

end IccvBackend
