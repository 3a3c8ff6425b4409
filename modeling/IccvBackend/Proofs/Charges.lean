/-
Module: IccvBackend.Proofs.Charges
Purpose: What the link of a checkout charges, against what its payments owe when it is returned.
Trusted boundary: none
Main exports: Conta.devido, linkDevolvido, CobraOQueDevem, ComoFoiLido, CobraSemMudanca,
  ContasCertas, cobraOQueDevem_run
-/
import IccvBackend.Proofs.Amounts
import IccvBackend.Proofs.OldLinks

namespace IccvBackend

open Lib

/-!
A charge is put together from what the request read: the price of each role, the items, the
discount.  What is owed is put together from the rows.  The two are compared where the link is
returned: right after the new checkout is hung on its payments, or when an old one is used again.
-/

/-! ### What is returned and what is owed -/

/-- The amounts less the discount, a cent a unit at least. -/
def Conta.devido (conta : Conta) : Int :=
  max conta.unidades (conta.soma - conta.desconto)

/-- The checkout whose link a step answers a request with: the one used again, or the new one. -/
def linkDevolvido (w : World) (action : Action) : Option PaymentCheckout :=
  match action with
  | .resume i _ =>
      match w.tasks[i]? with
      | some (.checkoutReuse _ checkout) => some checkout
      | _ => (linkNovo w action).map Prod.snd
  | _ => none

/-- The link that is returned charges what its payments owe. -/
def CobraOQueDevem (amb : Ambiente) (w : World) (action : Action) : Prop :=
  ∀ checkout, linkDevolvido w action = some checkout →
    checkout.chargedAmountCents =
      some (contaDe (step amb w action).db checkout.referenceId).devido

instance (amb : Ambiente) (w : World) (action : Action) :
    Decidable (CobraOQueDevem amb w action) :=
  inferInstanceAs (Decidable (∀ checkout ∈ linkDevolvido w action,
    checkout.chargedAmountCents =
      some (contaDe (step amb w action).db checkout.referenceId).devido))

/-! ### The condition -/

/-- A payment as a request read it. -/
def PagamentoLido.visto (lido : PagamentoLido) : PagamentoVisto where
  paymentId := lido.payment.id
  amount := lido.payment.amount
  itens := lido.payment.productItems.filter fun item => item.unitPrice > 0
  desconto := descontoDoIngresso lido.eventUserRole
  ingressoCobrado := lido.eventUserRole.any fun role => role.1.price > 0

/-- A row against what the request read of it: the role costs what it cost when the ticket was
written, and items that cost something and discount are those that were read. -/
structure ComoFoiLido (ingresso : Id → Int) (db : Database) (lido : PagamentoLido) (p : Payment) :
    Prop where
  preco : valorDoIngresso lido.eventUserRole = ingresso p.id
  itens : (db.visto p).itens = lido.visto.itens
  desconto : (db.visto p).desconto = lido.visto.desconto
  cobrado : (db.visto p).ingressoCobrado = lido.visto.ingressoCobrado

/-- The discounts added in doubles have the cents of their sum, and fit the cart. -/
def DescontoExato (c : CheckoutEmCurso) : Prop :=
  cents c.totalDiscount =
      cents (c.unpaidPayments.map fun lido => descontoDoIngresso lido.eventUserRole).sum ∧
    DescontoCabe Binary64.fl c.items (cents c.totalDiscount)

instance (c : CheckoutEmCurso) : Decidable (DescontoExato c) :=
  inferInstanceAs (Decidable (_ ∧ _))

/-- A new link is of rows as they were read, with a discount that fits its cart; the payments of a
link used again are the payments it was made for, each as it was then. -/
def LinkSemMudanca (s : World × Registros × (Id → Int)) (action : Action) : Task → Prop
  | .checkoutReuse _ checkout => ∀ registro ∈ s.2.1 checkout.referenceId,
      (s.1.db.vistos checkout.referenceId).Perm registro.vistos
  | .checkoutCreate c _ =>
      (linkNovo s.1 action).isSome →
        (∀ lido ∈ c.unpaidPayments, ∀ p ∈ s.1.db.payments, p.id = lido.payment.id →
          ComoFoiLido s.2.2 s.1.db lido p) ∧
          DescontoExato c
  | _ => True

/-- What the steps of a run must meet where a task goes on. -/
def CobraSemMudanca (s : World × Registros × (Id → Int)) (action : Action) : Prop :=
  match action with
  | .resume i _ => ∀ task ∈ s.1.tasks[i]?, LinkSemMudanca s action task
  | _ => True

instance {ingresso : Id → Int} {db : Database} {lido : PagamentoLido} {p : Payment} :
    Decidable (ComoFoiLido ingresso db lido p) :=
  decidable_of_iff (_ ∧ _ ∧ _ ∧ _)
    ⟨fun ⟨preco, itens, desconto, cobrado⟩ => ⟨preco, itens, desconto, cobrado⟩,
      fun lida => ⟨lida.preco, lida.itens, lida.desconto, lida.cobrado⟩⟩

instance (s : World × Registros × (Id → Int)) (action : Action) :
    ∀ task, Decidable (LinkSemMudanca s action task)
  | .checkoutReuse _ checkout =>
      inferInstanceAs (Decidable (∀ registro ∈ s.2.1 checkout.referenceId,
        (s.1.db.vistos checkout.referenceId).Perm registro.vistos))
  | .checkoutCreate c _ =>
      inferInstanceAs (Decidable ((linkNovo s.1 action).isSome →
        (∀ lido ∈ c.unpaidPayments, ∀ p ∈ s.1.db.payments, p.id = lido.payment.id →
          ComoFoiLido s.2.2 s.1.db lido p) ∧
          DescontoExato c))
  | .checkoutReactivate _ | .checkoutVerify _ _ | .checkoutMark _ _ _ | .statusWrite _ _
  | .statusInvalidate _ | .refundWrite _ | .removeWrite _ _ | .reconcileNext _ _
  | .reconcileWrite _ _ _ _ _ => isTrue trivial

instance (s : World × Registros × (Id → Int)) : ∀ action, Decidable (CobraSemMudanca s action)
  | .resume i resposta =>
      inferInstanceAs (Decidable (∀ task ∈ s.1.tasks[i]?,
        LinkSemMudanca s (.resume i resposta) task))
  | .registerUserInEvent _ | .updateUserFromEvent _ _ _ _ | .removeUserFromEvent _ _ _
  | .comprarProdutos _ _ | .createCheckout _ | .updatePaymentStatus _ _ | .refundPayment _
  | .updatePaymentWebhook _ | .updatePaymentCheckoutWebhook _ _ _ | .reconciliar _
  | .setRolePrice _ _ | .setProductPrice _ _ | .reorder _ | .drop _ => isTrue trivial

/-- The history of a run: the request behind each reference, and the ticket cents of each
payment. -/
def anotar (h : Registros × (Id → Int)) (w : World) (action : Action) (depois : World) :
    Registros × (Id → Int) :=
  (registrar h.1 w action depois, registrarIngresso h.2 w action depois)

/-! ### The cart of a request -/

/-- A ticket counts for a unit where it costs something. -/
theorem sum_ingressosCobrados (lidos : List PagamentoLido) :
    (((lidos.filterMap fun p => p.eventUserRole.map fun role =>
        (⟨role.1.id, role.1.description, role.1.price⟩ : Ticket)).filter
          fun t => t.price > 0).map fun _ => (1 : Int)).sum =
      (lidos.map fun lido => if lido.visto.ingressoCobrado then (1 : Int) else 0).sum := by
  induction lidos with
  | nil => rfl
  | cons lido lidos ih =>
      cases role : lido.eventUserRole with
      | none => simpa [role, PagamentoLido.visto] using ih
      | some role' =>
          by_cases pos : role'.1.price > 0 <;> simpa [role, pos, PagamentoLido.visto] using ih

/-- The units of the cart are the charged units of its payments. -/
theorem piso_items (c : CheckoutEmCurso) :
    piso c.items = (c.unpaidPayments.map fun lido => lido.visto.unidades).sum := by
  have products : ((c.produtos.filter fun produto => produto.unitPrice > 0).map fun produto =>
      (produto.quantity : Int)).sum = (c.unpaidPayments.map fun lido =>
        (lido.visto.itens.map fun item => (item.quantity : Int)).sum).sum := by
    simp only [CheckoutEmCurso.produtos, List.filter_flatMap, List.map_flatMap, List.filter_map,
      List.map_map, Function.comp_def]
    induction c.unpaidPayments with
    | nil => rfl
    | cons lido lidos ih => rw [List.flatMap_cons, List.sum_append, ih]; rfl
  simp only [PagamentoVisto.unidades]
  rw [List.sum_map_add, ← sum_ingressosCobrados, ← products, CheckoutEmCurso.items, piso_append]
  simp only [piso, CheckoutEmCurso.tickets, List.map_map, Function.comp_def, Nat.cast_one]

/-- Every line of a cart is of one unit at least. -/
theorem one_le_quantity_items {c : CheckoutEmCurso} :
    ∀ item ∈ c.items, 1 ≤ item.quantity := by
  intro item mem
  rcases List.mem_append.mp mem with ticket | product
  · obtain ⟨_, _, rfl⟩ := List.mem_map.mp ticket
    exact le_rfl
  · obtain ⟨produto, produto_mem, rfl⟩ := List.mem_map.mp product
    obtain ⟨lido, _, item_mem⟩ := List.mem_flatMap.mp (List.mem_of_mem_filter produto_mem)
    obtain ⟨bought, _, rfl⟩ := List.mem_map.mp item_mem
    exact bought.quantity_pos

/-! ### The rows of a new checkout -/

section Step

variable {amb : Ambiente} {w : World} {h : Registros} {ingresso : Id → Int}

/-- The role and the discount of a ticket hang on the keys of its row. -/
theorem eventUserRole_congr {db depois : Database} {p q : Payment}
    (catalogue : depois.catalogue = db.catalogue) (rows : depois.eventOnUsers = db.eventOnUsers)
    (userId : q.userId = p.userId) (eventId : q.eventId = p.eventId)
    (role : q.roleRegistrationId = p.roleRegistrationId) :
    depois.eventUserRole q = db.eventUserRole p := by
  simp only [Database.eventUserRole, Database.registration?, catalogue, rows, userId, eventId, role]

/-- A payment is as it was where its row, the registrations and the catalogue are. -/
theorem visto_congr {db depois : Database} {p q : Payment}
    (catalogue : depois.catalogue = db.catalogue) (rows : depois.eventOnUsers = db.eventOnUsers)
    (same : q.MesmaConta p) : depois.visto q = db.visto p := by
  have role := eventUserRole_congr catalogue rows same.userId same.eventId same.roleRegistrationId
  simp only [Database.visto, role, same.id, same.amount, same.productItems]

/-- A new checkout is that of a task, and the rows after it are the rows before with the link. -/
theorem step_of_linkNovo (amb : Ambiente) {action : Action} {ids : List Id} {row : PaymentCheckout}
    (new : linkNovo w action = some (ids, row)) :
    (step amb w action).db.catalogue = w.db.catalogue ∧
      (step amb w action).db.eventOnUsers = w.db.eventOnUsers ∧
      ∃ f : Payment → Payment, (step amb w action).db.payments = w.db.payments.map f ∧
        ∀ p, (f p).MesmaConta (if p.id ∈ ids then p.comLink row else p) := by
  obtain ⟨i, resposta, c, pedido, rfl, found, rfl, all, -⟩ := linkNovo_spec new
  simp only [linkNovo, found] at new
  cases read : lerResultado c.lido.config resposta.created with
  | error => simp [read] at new
  | ok result =>
      simp only [read, all, if_true, Option.some.injEq, Prod.mk.injEq, true_and] at new
      subst new
      have committed : ∃ depois, gravarCheckout w.db c pedido result resposta.agora =
          .ok depois := by
        simp only [gravarCheckout, all, if_true]
        exact ⟨_, rfl⟩
      obtain ⟨depois, ok⟩ := committed
      have db : (step amb w (.resume i resposta)).db = depois := by
        simp only [step, found, runTask, read, ok]
      obtain ⟨f, rows, same⟩ := gravarCheckout_payments ok
      rw [db]
      refine ⟨?_, ?_, f, rows, same⟩
      · rw [(gravarCheckout_ok ok).2]
        rfl
      · rw [(gravarCheckout_ok ok).2]
        rfl

/-- The rows of a new checkout are those it was made for, and they owe what they owed. -/
theorem LinksEmDia.contaDe_novo (links : LinksEmDia w h) {action : Action} {ids : List Id}
    {row : PaymentCheckout} (new : linkNovo w action = some (ids, row)) :
    contaDe (step amb w action).db row.referenceId =
      contaDosVistos ((w.db.payments.filter fun p => p.id ∈ ids).map w.db.visto) := by
  obtain ⟨catalogue, registrations, f, rows, same⟩ := step_of_linkNovo amb new
  obtain ⟨i, resposta, c, pedido, rfl, found, rfl, all, -, reference, -⟩ := linkNovo_spec new
  have unknown := (links.pedidos _ (List.mem_of_getElem? found) pedido rfl).2
  -- no row had the reference before
  have not_before : ∀ p ∈ w.db.payments, p.tem row.referenceId = false := by
    intro p p_mem
    rw [Bool.eq_false_iff]
    intro has
    obtain ⟨registro, known⟩ := links.known p_mem has
    exact nomatch (reference ▸ unknown).symm.trans known
  have sent : ∀ p ∈ w.db.payments, (f p).tem row.referenceId = decide (p.id ∈ c.ids) := by
    intro p p_mem
    have here := (same p).links
    rw [Bool.eq_iff_iff, tem_iff_links, here, decide_eq_true_eq]
    by_cases listed : p.id ∈ c.ids
    · simp [listed, Payment.links, Payment.comLink, PaymentCheckout.semStatus]
    · simp only [listed, if_false, ← tem_iff_links, not_before p p_mem, Bool.false_eq_true]
  have covered : (w.db.payments.map f).filter (fun q => q.tem row.referenceId) =
      (w.db.payments.filter fun p => p.id ∈ c.ids).map f := by
    rw [List.filter_map]
    congr 1
    exact List.filter_congr sent
  have kept : ∀ p, (step amb w (.resume i resposta)).db.visto (f p) = w.db.visto p := by
    intro p
    have here := same p
    split at here
    -- the link is not part of what a payment owes by
    · exact (visto_congr catalogue registrations here).trans rfl
    · exact visto_congr catalogue registrations here
  simp only [contaDe, Database.vistos, rows, covered, List.map_map, Function.comp_def, kept]

/-! ### The invariant -/

/-- Amounts are right, requests hold different payments and ask for their own cart, and every link
charged what its payments owed when it was made. -/
structure ContasCertas (w : World) (h : Registros) (ingresso : Id → Int) : Prop where
  links : LinksEmDia w h
  certas : ∀ p ∈ w.db.payments, p.ContaCerta ingresso
  distintas : ∀ task ∈ w.tasks, (task.captura.map fun lido => lido.payment.id).Nodup
  pedidos : ∀ c pedido, .checkoutCreate c pedido ∈ w.tasks →
    pedido.items = c.items ∧ pedido.discountCents = cents c.totalDiscount
  valores : ∀ referenceId registro, h referenceId = some registro →
    registro.cobrado = registro.conta.devido

/-- The items with a price are all that is owed for items. -/
theorem centavosDosItens_congr {p q : Payment}
    (same : (p.productItems.filter fun item => item.unitPrice > 0) =
      q.productItems.filter fun item => item.unitPrice > 0) :
    p.centavosDosItens = q.centavosDosItens := by
  rw [Payment.centavosDosItens, Payment.centavosDosItens, ← sum_centavos_com_preco, same,
    sum_centavos_com_preco]

/-- Rows as they were read owe the cart of the request. -/
theorem ContasCertas.contaDe_novo (inv : ContasCertas w h ingresso) {i : Nat} {resposta : Resposta}
    {c : CheckoutEmCurso} {pedido : HostedCheckoutRequest} {row : PaymentCheckout}
    (found : w.tasks[i]? = some (.checkoutCreate c pedido))
    (new : linkNovo w (.resume i resposta) = some (c.ids, row))
    (lidos : ∀ lido ∈ c.unpaidPayments, ∀ p ∈ w.db.payments, p.id = lido.payment.id →
      ComoFoiLido ingresso w.db lido p)
    (exato : cents c.totalDiscount =
      cents (c.unpaidPayments.map fun lido => descontoDoIngresso lido.eventUserRole).sum) :
    contaDe (step amb w (.resume i resposta)).db row.referenceId =
      { soma := totalEmCentavos c.items
        desconto := cents c.totalDiscount
        unidades := piso c.items } := by
  obtain ⟨_, _, c', _, same, found', -, all, -⟩ := linkNovo_spec new
  obtain ⟨rfl, rfl⟩ := Action.resume.inj same
  obtain ⟨rfl, rfl⟩ := Task.checkoutCreate.inj (Option.some.inj (found'.symm.trans found))
  have rows_nodup : ((w.db.payments.filter fun p => p.id ∈ c'.ids).map Payment.id).Nodup :=
    w.db.payments_keyed.nodup.sublist (List.filter_sublist.map _)
  have ids_nodup : (c'.unpaidPayments.map fun lido => lido.payment.id).Nodup :=
    inv.distintas _ (List.mem_of_getElem? found)
  -- every payment of the request has its row
  have same_ids : ∀ id, id ∈ (w.db.payments.filter fun p => p.id ∈ c'.ids).map Payment.id ↔
      id ∈ c'.unpaidPayments.map fun lido => lido.payment.id := by
    intro id
    constructor
    · intro mem
      obtain ⟨p, p_mem, rfl⟩ := List.mem_map.mp mem
      exact of_decide_eq_true (List.mem_filter.mp p_mem).2
    · intro listed
      have there := List.all_eq_true.mp all id listed
      obtain ⟨p, is_p⟩ := Option.isSome_iff_exists.mp there
      obtain ⟨p_mem, rfl⟩ := Database.payment?_mem is_p
      exact List.mem_map.mpr ⟨p, List.mem_filter.mpr ⟨p_mem, decide_eq_true listed⟩, rfl⟩
  have matched : ∀ {M : Type} [AddCommMonoid M] (g : Payment → M) (g' : PagamentoLido → M),
      (∀ lido p, p ∈ w.db.payments → ComoFoiLido ingresso w.db lido p → g p = g' lido) →
        ((w.db.payments.filter fun p => p.id ∈ c'.ids).map g).sum =
          (c'.unpaidPayments.map g').sum := by
    intro M _ g g' worth
    apply sum_map_eq_of_match rows_nodup ids_nodup same_ids
    intro p p_mem lido lido_mem this
    have p_in := List.mem_of_mem_filter p_mem
    exact worth lido p p_in (lidos lido lido_mem p p_in this)
  rw [inv.links.contaDe_novo new, totalEmCentavos_items, piso_items, exato, contaDosVistos]
  simp only [List.map_map, Function.comp_def]
  congr 1
  · apply matched
    intro lido p p_mem lida
    rw [Database.visto, (inv.certas p p_mem).soma, lida.preco, centavosDosItens_congr lida.itens]
  · congr 1
    exact matched _ _ fun lido p _ lida => lida.desconto
  · apply matched
    intro lido p _ lida
    simp only [PagamentoVisto.unidades, lida.itens, lida.cobrado]

/-- A link made under the condition charges what its payments owe. -/
theorem ContasCertas.devido_novo (amb : Ambiente) (inv : ContasCertas w h ingresso)
    {action : Action}
    (guard : CobraSemMudanca (w, h, ingresso) action) {ids : List Id} {row : PaymentCheckout}
    (new : linkNovo w action = some (ids, row)) :
    ∃ pedido, pedidoGravado w action = some pedido ∧ row.referenceId = pedido.referenceId ∧
      row.chargedAmountCents =
        some (totalCobradoEmCentavos pedido.items pedido.discountCents) ∧
      totalCobradoEmCentavos pedido.items pedido.discountCents =
        (contaDe (step amb w action).db row.referenceId).devido := by
  obtain ⟨i, resposta, c, pedido, rfl, found, rfl, -, made, reference, charged⟩ := linkNovo_spec new
  refine ⟨pedido, made, reference, charged, ?_⟩
  obtain ⟨items, discount⟩ := inv.pedidos c pedido (List.mem_of_getElem? found)
  have guard := guard _ (Option.mem_def.mpr found)
  simp only [LinkSemMudanca, new, Option.isSome_some, true_imp_iff] at guard
  obtain ⟨lidos, exato, cabe⟩ := guard
  rw [inv.contaDe_novo found new lidos exato, items, discount]
  exact (totalEmCentavos_aplicarDescontoCom_eq_max_iff one_le_quantity_items).mpr cabe

/-- What a request reads are different payments. -/
theorem distintas_nova {action : Action} {task : Task}
    (before : ∀ task ∈ w.tasks, (task.captura.map fun lido => lido.payment.id).Nodup)
    (nova : TarefaNova amb w action task) :
    (task.captura.map fun lido => lido.payment.id).Nodup := by
  cases nova with
  | cobra ok =>
      have sub : ∀ p : List Payment, p.Sublist w.db.payments → (p.map Payment.id).Nodup :=
        fun p sub => w.db.payments_keyed.nodup.sublist (sub.map _)
      simp only [Task.captura, (lerCheckout_ok ok).2, Database.paraCheckout]
      rw [List.filter_map, List.map_map]
      exact sub _ (List.filter_sublist.trans List.filter_sublist)
  | segue found left =>
      have held := before _ (List.mem_of_getElem? found)
      cases left with
      | reativou ok =>
          obtain ⟨reativado, r, _, _, outcome⟩ := reativarCheckout_ok ok
          obtain rfl := outcome _ rfl
          simp only [Task.captura, unpaidPaymentsOf, List.map_map]
          exact held.sublist (List.filter_sublist.map _)
      | conferiu => exact held
      | reutiliza => exact held
      | pediu => exact held
      | _ => exact List.nodup_nil
  | _ => exact List.nodup_nil

/-- The requests that wait are of the cart and the discount of their checkout. -/
theorem pedido_da_tarefa {action : Action} {c : CheckoutEmCurso} {pedido : HostedCheckoutRequest}
    (nova : TarefaNova amb w action (.checkoutCreate c pedido)) :
    pedido.items = c.items ∧ pedido.discountCents = cents c.totalDiscount := by
  cases nova with
  | segue found left =>
      cases left with
      | pediu ok => exact (montarPedidoHosted_ok ok).2

/-- One step that meets the condition keeps every link at what its payments owed. -/
theorem contasCertas_step (amb : Ambiente) (inv : ContasCertas w h ingresso) {action : Action}
    (guard : CobraSemMudanca (w, h, ingresso) action) :
    ContasCertas (step amb w action) (registrar h w action (step amb w action))
      (registrarIngresso ingresso w action (step amb w action)) := by
  refine
    { links := linksEmDia_step amb inv.links action
      certas := fun q mem => (contaCerta_step inv.certas mem).1
      distintas := ?_
      pedidos := ?_
      valores := ?_ }
  · intro task mem
    rcases mem_tasks_step mem with old | here
    · exact inv.distintas task old
    · exact distintas_nova inv.distintas here
  · intro c pedido mem
    rcases mem_tasks_step mem with old | here
    · exact inv.pedidos c pedido old
    · exact pedido_da_tarefa here
  · intro referenceId registro known
    unfold registrar at known
    cases made : pedidoGravado w action with
    | none =>
        rw [made] at known
        exact inv.valores referenceId registro known
    | some pedido =>
        simp only [made] at known
        by_cases this : referenceId = pedido.referenceId
        · subst this
          rw [Function.update_self] at known
          obtain rfl := Option.some.inj known
          obtain ⟨i, resposta, c, row, rfl, _, link⟩ := pedidoGravado_spec made
          obtain ⟨pedido', made', reference, _, devido⟩ := inv.devido_novo amb guard link
          obtain rfl := Option.some.inj (made'.symm.trans made)
          rw [reference] at devido
          exact devido
        · rw [Function.update_of_ne this] at known
          exact inv.valores referenceId registro known

/-- Using a link again changes nothing of its payments. -/
theorem vistos_reutilizarCheckout (db : Database) (c : CheckoutEmCurso) (referenceId : Id) :
    (reutilizarCheckout db c).vistos referenceId = db.vistos referenceId := by
  have same : ∀ p : Payment,
      (if decide (p.id ∈ c.ids) then voltarAEsperar.apply p else p).MesmaConta p := by
    intro p
    split
    · exact mesmaConta_apply rfl p
    · exact .refl p
  have sent : ∀ p : Payment,
      (if decide (p.id ∈ c.ids) then voltarAEsperar.apply p else p).tem referenceId =
        p.tem referenceId := by
    intro p
    rw [Bool.eq_iff_iff, tem_iff_links, tem_iff_links, (same p).links]
  have covered : (reutilizarCheckout db c).payments.filter (fun q => q.tem referenceId) =
      (db.payments.filter fun p => p.tem referenceId).map fun p =>
        if decide (p.id ∈ c.ids) then voltarAEsperar.apply p else p := by
    rw [reutilizarCheckout, Database.updateManyPayments_payments, List.filter_map]
    congr 1
    exact List.filter_congr fun p _ => sent p
  have kept : ∀ p : Payment, (reutilizarCheckout db c).visto
      (if decide (p.id ∈ c.ids) then voltarAEsperar.apply p else p) = db.visto p :=
    fun p => visto_congr rfl rfl (same p)
  simp only [Database.vistos, covered, List.map_map, Function.comp_def, kept]

/-- The order of payments makes no difference to what they owe together. -/
theorem contaDosVistos_perm {agora antes : List PagamentoVisto} (same : agora.Perm antes) :
    contaDosVistos agora = contaDosVistos antes := by
  unfold contaDosVistos
  rw [(same.map _).sum_eq, (same.map PagamentoVisto.desconto).sum_eq,
    (same.map PagamentoVisto.unidades).sum_eq]

/-- A link used again is a copy of a row, and its step leaves what is owed alone. -/
theorem ContasCertas.cobraOQueDevem (amb : Ambiente) (inv : ContasCertas w h ingresso)
    {action : Action} (guard : CobraSemMudanca (w, h, ingresso) action) :
    CobraOQueDevem amb w action := by
  intro checkout returned
  cases action with
  | resume i resposta =>
      simp only [linkDevolvido] at returned
      split at returned
      · next c link found =>
          obtain rfl := Option.some.inj returned
          obtain ⟨registro, known, charged⟩ :=
            inv.links.copias _ (List.mem_of_getElem? found) link (List.mem_append_right _ (by simp))
          have same := guard _ (Option.mem_def.mpr found) registro known
          have db : (step amb w (.resume i resposta)).db = reutilizarCheckout w.db c := by
            simp only [step, found, runTask]
          rw [charged, db, contaDe, vistos_reutilizarCheckout, contaDosVistos_perm same,
            inv.valores _ _ known, Registro.conta]
      · obtain ⟨⟨ids, row⟩, new, rfl⟩ := Option.map_eq_some_iff.mp returned
        obtain ⟨pedido, _, _, charged, devido⟩ := inv.devido_novo amb guard new
        rw [charged, devido]
  | _ => cases returned

end Step

/-- **Charges.**  From a database without payments and a server without requests, in every run whose
new links are of rows as they were read, with a discount that fits, and whose links used again are
of the payments they were made for, each as it was then, every link that is returned charges what
its payments owe. -/
theorem cobraOQueDevem_run (amb : Ambiente) {w : World} (no_payments : w.db.payments = [])
    (no_tasks : w.tasks = []) (ingresso : Id → Int) {actions : List Action}
    (guarded : EachStep (withHistory (step amb) anotar) CobraSemMudanca
      (w, (fun _ => none), ingresso) actions) :
    EachStep (step amb) (CobraOQueDevem amb) w actions := by
  have start : ContasCertas w (fun _ => none) ingresso :=
    { links := linksEmDia_of_vazio no_payments no_tasks
      certas := by simp [no_payments]
      distintas := by simp [no_tasks]
      pedidos := by simp [no_tasks]
      valores := fun _ _ known => nomatch known }
  have along : Always (withHistory (step amb) anotar) (fun s => ContasCertas s.1 s.2.1 s.2.2)
      (w, (fun _ => none), ingresso) actions := by
    apply always_of_eachStep (P := fun s => ContasCertas s.1 s.2.1 s.2.2) _ start guarded
    intro s action inv guard
    exact contasCertas_step amb inv guard
  refine (eachStep_withHistory (w, (fun _ => none), ingresso)).mp
    (eachStep_of_always ?_ along guarded)
  intro s action inv guard
  exact inv.cobraOQueDevem amb guard

/-! ### The price of a role edited after the registration -/

namespace Loja

/-- A ticket with a product, the link it is charged by, and the same link asked for again. -/
def linkPedidoDuasVezes : List Action :=
  [inscricao 3 1000, compra 3 true 1500] ++ ingressoComLink ++ ingressoComLink ++
    [.resume 0 (resposta 2000 [] 500)]

/-- A ticket of 100 reais, whose role then costs 120, and its link. -/
def precoEditadoAntesDoLink : List Action :=
  [inscricao 3 1000, .setRolePrice 7 120] ++ ingressoComLink

end Loja

/-- A new link and a link used again charge the ticket and the product. -/
theorem cobraOQueDevem_run_linkPedidoDuasVezes :
    EachStep (step Loja.ambiente) (CobraOQueDevem Loja.ambiente) (Loja.aberta .pagbank 100 none)
      Loja.linkPedidoDuasVezes :=
  cobraOQueDevem_run Loja.ambiente rfl rfl (fun _ => 0) (by decide +kernel)

/-- The link charges 120 reais for a payment of 100. -/
theorem not_cobraOQueDevem_precoEditado :
    ¬ EachStep (step Loja.ambiente) (CobraOQueDevem Loja.ambiente) (Loja.aberta .pagbank 100 none)
      Loja.precoEditadoAntesDoLink := by
  decide +kernel

end IccvBackend
