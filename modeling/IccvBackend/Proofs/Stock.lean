/-
Module: IccvBackend.Proofs.Stock
Purpose: Units sold under every write, and when the stock of a shop is never oversold.
Trusted boundary: none
Main exports: NotOversold, CabeNoEstoque, notOversold_step_iff, notOversold_run_iff
-/
import IccvBackend.Event.Reactivation
import IccvBackend.Lib.Transitions
import IccvBackend.Proofs.StatusWrites
import IccvBackend.System

namespace IccvBackend

open Lib

/-!
A unit is sold while the payment it hangs on has a status that holds stock.  Purchases and
reactivations check what is left before they take units.  Five other writes set a status without
looking: a payment notification, a reconciliation round, and three writes of `createCheckout`.  They
take units again whenever they select a payment that had given its units back.
-/

/-- Of every variant with a limit, no more units are sold than the limit. -/
def NotOversold (db : Database) : Prop :=
  ∀ v stock, db.catalogue.estoque v = some stock → db.vendidos v ≤ stock

/-! ### Units held -/

/-- The units of a variant a payment holds now. -/
def Payment.unidadesPresas (variantId : Id) (p : Payment) : Nat :=
  if p.status.liberaEstoque then 0 else p.unidades variantId

theorem vendidos_eq_sum (db : Database) (variantId : Id) :
    db.vendidos variantId = (db.payments.map (Payment.unidadesPresas variantId)).sum := by
  unfold Database.vendidos
  induction db.payments with
  | nil => rfl
  | cons p payments ih =>
      by_cases frees : p.status.liberaEstoque <;> simp_all [Payment.unidadesPresas]

/-- A payment without items holds nothing. -/
theorem unidadesPresas_of_nil {p : Payment} (no_items : p.productItems = []) (variantId : Id) :
    p.unidadesPresas variantId = 0 := by
  unfold Payment.unidadesPresas Payment.unidades
  rw [no_items]
  split <;> rfl

/-- Payments that hold the same units row by row sell the same. -/
theorem vendidos_congr {db db' : Database} {f : Payment → Payment} {variantId : Id}
    (rows : db'.payments = db.payments.map f)
    (same : ∀ p ∈ db.payments, (f p).unidadesPresas variantId = p.unidadesPresas variantId) :
    db'.vendidos variantId = db.vendidos variantId := by
  rw [vendidos_eq_sum, vendidos_eq_sum, rows, List.map_map]
  exact congrArg List.sum (List.map_congr_left same)

/-- The units of a variant that a write of status on `selected` takes again. -/
def Database.unidadesRevividas (db : Database) (selected : Payment → Bool) (variantId : Id) : Nat :=
  ((db.payments.filter fun p => selected p && p.status.liberaEstoque).map
    (Payment.unidades variantId)).sum

section EscreveStatus

variable {db depois : Database} {selected : Payment → Bool} {status : PaymentStatus}

/-- A write of a status that holds stock takes again the units of the selected payments that had
given them back. -/
theorem EscreveStatus.vendidos_eq (escreve : EscreveStatus db depois selected status)
    (holds : status.liberaEstoque = false) (variantId : Id) :
    depois.vendidos variantId =
      db.vendidos variantId + db.unidadesRevividas selected variantId := by
  obtain ⟨data, checkouts, written, _, payments⟩ := escreve.payments
  rw [vendidos_eq_sum, vendidos_eq_sum, Database.unidadesRevividas, payments]
  induction db.payments with
  | nil => rfl
  | cons p payments ih =>
      have head : Payment.unidadesPresas variantId
            { (if selected p then data.apply p else p) with checkouts := checkouts p } =
          p.unidadesPresas variantId +
            if selected p && p.status.liberaEstoque then p.unidades variantId else 0 := by
        by_cases sel : selected p <;> by_cases frees : p.status.liberaEstoque <;>
          simp [sel, frees, Payment.unidadesPresas, Database.PaymentUpdate.apply, written, holds,
            Payment.unidades]
      simp only [List.map_cons, List.sum_cons, head, ih, List.filter_cons]
      split <;> simp <;> omega

/-- A write of a status that frees stock sells nothing. -/
theorem EscreveStatus.vendidos_le (escreve : EscreveStatus db depois selected status)
    (frees : status.liberaEstoque = true) (variantId : Id) :
    depois.vendidos variantId ≤ db.vendidos variantId := by
  obtain ⟨data, checkouts, written, _, payments⟩ := escreve.payments
  rw [vendidos_eq_sum, vendidos_eq_sum, payments]
  refine sum_map_le_of_map fun p _ => ?_
  by_cases sel : selected p
  · simp [sel, Payment.unidadesPresas, Database.PaymentUpdate.apply, written, frees]
  · simp [sel, Payment.unidadesPresas, Payment.unidades]

end EscreveStatus

/-- An update without a status sells nothing and frees nothing. -/
theorem vendidos_updateMany_none {db : Database} {selected : Payment → Bool}
    {data : Database.PaymentUpdate} (written : data.status = none) (variantId : Id) :
    (db.updateManyPayments selected data).vendidos variantId = db.vendidos variantId := by
  refine vendidos_congr rfl fun p _ => ?_
  by_cases sel : selected p
  · simp [sel, Payment.unidadesPresas, Database.PaymentUpdate.apply, written, Payment.unidades]
  · simp [sel]

/-- A table of the same payments sells the same. -/
theorem vendidos_of_payments_eq {db db' : Database} (same : db'.payments = db.payments)
    (variantId : Id) : db'.vendidos variantId = db.vendidos variantId := by
  simp only [Database.vendidos, same]

theorem vendidos_updateManyCheckouts (db : Database) (selected : Payment → PaymentCheckout → Bool)
    (status : CheckoutStatus) (variantId : Id) :
    (db.updateManyCheckouts selected status).vendidos variantId = db.vendidos variantId :=
  vendidos_congr rfl fun _ _ => rfl

theorem vendidos_deletePayments_le (db : Database) (selected : Payment → Bool) (variantId : Id) :
    (db.deletePayments selected).vendidos variantId ≤ db.vendidos variantId := by
  rw [vendidos_eq_sum, vendidos_eq_sum]
  exact sum_map_filter_le _ _

theorem vendidos_reorderPayments (db : Database) (rank : Id → Nat) (variantId : Id) :
    (db.reorderPayments rank).vendidos variantId = db.vendidos variantId := by
  rw [vendidos_eq_sum, vendidos_eq_sum]
  exact ((List.perm_insertionSort _ _).map _).sum_eq

/-! ### Operations that never oversell -/

/-- A database with the same stock that sells no more is not oversold either. -/
theorem NotOversold.of_le {db db' : Database} (fine : NotOversold db)
    (same_stock : ∀ v, db'.catalogue.estoque v = db.catalogue.estoque v)
    (le : ∀ v, db'.vendidos v ≤ db.vendidos v) : NotOversold db' := by
  intro v stock limited
  rw [same_stock] at limited
  exact (le v).trans (fine v stock limited)

/-- New tickets have no items. -/
theorem vendidos_registrou {db : Database} {request : RegistrationRequest} {user : User}
    {event : Event} {result : Database × List (Id × ResultType)}
    (registrou : Registrou db request user event result) (variantId : Id) :
    result.1.vendidos variantId = db.vendidos variantId := by
  obtain ⟨novos, payments, tickets⟩ := registrou.payments
  have no_units : (novos.map (Payment.unidadesPresas variantId)).sum = 0 := by
    clear payments
    generalize request.comVaga db = roles at tickets
    induction tickets with
    | nil => rfl
    | cons new _ ih =>
        obtain ⟨id, _, rfl⟩ := new
        rw [List.map_cons, List.sum_cons, unidadesPresas_of_nil rfl, zero_add, ih]
  rw [vendidos_eq_sum, vendidos_eq_sum, payments, List.map_append, List.sum_append, no_units,
    add_zero]

/-- The lines of an order on the variants found: at most the units asked of each. -/
theorem itens_units_le (pedido : Pedido) (agora : Instant) (variantId : Id)
    {variantes : List (EventProduct × EventProductVariant)}
    (nodup : (variantes.map fun pair => pair.2.id).Nodup) :
    ((pedido.itens agora variantes).map fun item =>
        if item.variantId = variantId then item.quantity else 0).sum ≤
      if variantId ∈ variantes.map fun pair => pair.2.id then pedido.unidades variantId else 0 := by
  induction variantes with
  | nil => simp [Pedido.itens]
  | cons pair variantes ih =>
      simp only [List.map_cons, List.nodup_cons] at nodup
      have rest := ih nodup.2
      simp only [Pedido.itens, List.filterMap_cons] at rest ⊢
      cases found : pedido.get? pair.2.id with
      | none =>
          simp only [Option.map_none, List.map_cons, List.mem_cons]
          refine rest.trans ?_
          by_cases here : variantId ∈ variantes.map fun pair => pair.2.id
          · simp [here]
          · simp only [here, if_false]; exact Nat.zero_le _
      | some quantidade =>
          simp only [Option.map_some, List.map_cons, List.sum_cons, List.mem_cons]
          by_cases same : pair.2.id = variantId
          · subst same
            rw [if_neg nodup.1] at rest
            simp only [if_true, true_or, Pedido.unidades, found, Option.map_some, Option.getD_some]
            omega
          · have other : ¬ variantId = pair.2.id := fun h => same h.symm
            simp only [same, other, if_false, false_or, zero_add]
            exact rest

/-- More items sell their units at most, on one payment. -/
theorem unidadesPresas_pendurar_le (paymentId : Id) (rows : List PaymentProductItem) (p : Payment)
    (variantId : Id) :
    (pendurar paymentId rows p).unidadesPresas variantId ≤
      p.unidadesPresas variantId +
        if p.id = paymentId then unidadesDe variantId rows else 0 := by
  unfold pendurar
  by_cases this : p.id = paymentId
  · simp only [this, if_true, Payment.unidadesPresas, Payment.unidades, unidadesDe_append]
    split <;> omega
  · simp [this]

/-- The writes of a purchase sell its lines at most. -/
theorem vendidos_gravarCompra_le (db : Database) (request : PurchaseRequest)
    (itens : List Database.ItemCreate) (variantId : Id) :
    (gravarCompra db request itens).vendidos variantId ≤ db.vendidos variantId +
      (itens.map fun item => if item.variantId = variantId then item.quantity else 0).sum := by
  rw [vendidos_eq_sum, vendidos_eq_sum]
  rcases gravarCompra_payments db request itens with ⟨ingresso, _, found, payments⟩ | payments
  · obtain ⟨mem, _, _, _, no_items, _⟩ := ingressoQueAceitaProdutos_spec found
    rw [payments, ← unidadesDe_itemRows variantId db.nextId itens, List.map_map]
    generalize itemRows db.nextId itens = rows
    refine (List.sum_le_sum (g := fun p => p.unidadesPresas variantId +
      if p.id = ingresso.id then unidadesDe variantId rows else 0) fun p p_mem => ?_).trans ?_
    · by_cases this : p.id = ingresso.id
      · -- the ticket has no items, so its status does not matter
        have hung := unidadesPresas_pendurar_le ingresso.id rows
          ((ticketUpdate ingresso (totalDosItens itens)).apply p) variantId
        have empty : ((ticketUpdate ingresso (totalDosItens itens)).apply p).productItems = [] := by
          rw [db.eq_of_id_eq p_mem mem this]
          exact no_items
        rw [unidadesPresas_of_nil empty, zero_add] at hung
        simp only [Function.comp_apply, this, if_true]
        exact (hung.trans (by split <;> simp)).trans (Nat.le_add_left _ _)
      · simp [this]
    · rw [List.sum_map_add]
      exact Nat.add_le_add_left (db.payments_keyed.sum_map_key_le _ _) _
  · rw [payments, ← unidadesDe_itemRows variantId (db.nextId + 1) itens, List.map_append,
      List.sum_append]
    refine Nat.add_le_add_left ?_ _
    have hung := unidadesPresas_pendurar_le db.nextId (itemRows (db.nextId + 1) itens)
      ((purchasePayment request (totalDosItens itens)).row db.nextId) variantId
    have no_items : ((purchasePayment request (totalDosItens itens)).row db.nextId).productItems =
        [] := rfl
    rw [unidadesPresas_of_nil no_items, zero_add] at hung
    simpa using hung.trans (by split <;> simp)

/-- A purchase that passes the stock check does not oversell. -/
theorem notOversold_comprarProdutos {db db' : Database} {request : PurchaseRequest}
    {items : List (Id × Int)} (fine : NotOversold db)
    (ok : comprarProdutos db request items = .ok db') : NotOversold db' := by
  obtain ⟨pedido, _, _, checked, _, rfl⟩ := comprarProdutos_ok ok
  intro v stock limited
  rw [gravarCompra_catalogue] at limited
  have before := fine v stock limited
  have nodup : ((request.variantes pedido db.catalogue).map fun pair => pair.2.id).Nodup := by
    have all := db.catalogue.variants_nodup
    rw [← Catalogue.map_id_variants] at all
    exact all.sublist (List.filter_sublist.map _)
  have units := itens_units_le pedido request.agora v nodup
  have sold := vendidos_gravarCompra_le db request
    (pedido.itens request.agora (request.variantes pedido db.catalogue)) v
  by_cases asked : v ∈ (request.variantes pedido db.catalogue).map fun pair => pair.2.id
  · rw [if_pos asked] at units
    obtain ⟨pair, pair_mem, rfl⟩ := List.mem_map.mp asked
    have in_event : pair ∈ db.catalogue.variants ∧ pair.1.eventId = request.eventId := by
      have := List.mem_filter.mp pair_mem
      simp only [Bool.and_eq_true, decide_eq_true_eq] at this
      exact ⟨this.1, this.2.2⟩
    have found := Catalogue.variant?_of_mem in_event.1
    have pair_stock : (comEstoque pair).stock = some stock := by
      simpa [Catalogue.estoque, Catalogue.varianteDoItem, found] using limited
    have fits := conferirEstoque_ok checked (comEstoque pair) (List.mem_map_of_mem pair_mem) stock
      pair_stock
    have sold_here : db.vendidosPorVariante request.eventId (comEstoque pair).id =
        db.vendidos pair.2.id := by
      simp [Database.vendidosPorVariante, comEstoque, found, in_event.2]
    rw [sold_here] at fits
    simp only [comEstoque] at fits
    omega
  · rw [if_neg asked] at units
    omega

/-! ### Reactivation -/

section Reativou

variable {db depois : Database} {ids : List Id} {r : Reativacao}

theorem Reativou.semItens_eq (reativou : Reativou db ids depois r) {p : Payment}
    (mem : p ∈ db.payments) (out : p.id ∉ r.reativados) : p.semItens r.itensRemovidos = p :=
  semItens_of_disjoint (reativou.removidos p mem out)

/-- A payment that comes back had given its units back. -/
theorem Reativou.liberava (reativou : Reativou db ids depois r) {p : Payment}
    (mem : p ∈ db.payments) (back : p.id ∈ r.reativados) : p.status.liberaEstoque = true := by
  obtain ⟨q, q_mem, same⟩ := reativou.reativados p.id back
  obtain ⟨q_in, _, frees⟩ := mem_aReativar.mp q_mem
  rwa [db.eq_of_id_eq q_in mem same] at frees

/-- The removal of items alone sells and frees nothing: the items hung on canceled payments. -/
theorem Reativou.vendidos (reativou : Reativou db ids depois r) (variantId : Id) :
    depois.vendidos variantId = db.vendidos variantId := by
  refine vendidos_congr reativou.payments fun p mem => ?_
  by_cases back : p.id ∈ r.reativados
  · simp [Payment.unidadesPresas, reativou.liberava mem back]
  · rw [reativou.semItens_eq mem back]

/-- A status written on payments that came back does not oversell: what they took fits. -/
theorem Reativou.notOversold (reativou : Reativou db ids depois r) (fine : NotOversold db)
    {escrito : Database} {selected : Payment → Bool} {status : PaymentStatus}
    (escreve : EscreveStatus depois escrito selected status) (holds : status.liberaEstoque = false)
    (only_back : ∀ p ∈ db.payments, selected (p.semItens r.itensRemovidos) = true →
      p.status.liberaEstoque = true → p.id ∈ r.reativados) :
    NotOversold escrito := by
  intro v stock limited
  rw [escreve.catalogue, reativou.catalogue] at limited
  have revived : depois.unidadesRevividas selected v ≤ stock - db.vendidos v := by
    refine le_trans ?_ (reativou.cabe v stock limited)
    rw [Database.unidadesRevividas, reativou.payments, List.filter_map, List.map_map]
    have narrowed : db.payments.filter ((fun p => selected p && p.status.liberaEstoque) ∘
          Payment.semItens r.itensRemovidos) =
        (db.payments.filter fun p => p.id ∈ r.reativados).filter
          ((fun p => selected p && p.status.liberaEstoque) ∘
            Payment.semItens r.itensRemovidos) := by
      rw [List.filter_filter]
      refine List.filter_congr fun p mem => ?_
      simp only [Function.comp_apply, semItens_status]
      cases sel : selected (p.semItens r.itensRemovidos) <;>
        cases frees : p.status.liberaEstoque <;> simp
      exact only_back p mem sel frees
    rw [narrowed]
    exact sum_map_filter_le _ _
  rw [escreve.vendidos_eq holds, reativou.vendidos]
  have := fine v stock limited
  omega

end Reativou

/-- An edit of the panel checks the stock of what it brings back. -/
theorem notOversold_updatePaymentStatusTx {db db' : Database} {lido : Payment}
    {dto : UpdatePaymentStatusDto} (fine : NotOversold db)
    (ok : updatePaymentStatusTx db lido dto = .ok db') : NotOversold db' := by
  obtain ⟨reativado, reactivation, rows, catalogue⟩ := updatePaymentStatusTx_ok ok
  suffices after : NotOversold (reativado.updateManyPayments (fun p => p.id = lido.id)
      (statusUpdate lido dto)) by
    exact after.of_le (fun v => by rw [catalogue]; rfl)
      fun v => (vendidos_of_payments_eq rows v).le
  rcases reativarSePreciso_ok reactivation with ⟨frees, rfl⟩ | ⟨holds, r, reativou, back⟩
  · cases status : dto.status with
    | none => simp [status] at frees
    | some novo =>
        refine fine.of_le (fun _ => rfl) fun v => ?_
        have escreve : EscreveStatus reativado (reativado.updateManyPayments
            (fun p => p.id = lido.id) (statusUpdate lido dto)) (fun p => p.id = lido.id) novo :=
          escreveStatus_updateMany _ _ status rfl
        exact escreve.vendidos_le (by simpa [status] using frees) v
  · cases status : dto.status with
    | none =>
        refine fine.of_le (fun v => by simp [reativou.catalogue]) fun v => ?_
        rw [vendidos_updateMany_none (by exact status), reativou.vendidos]
    | some novo =>
        refine reativou.notOversold fine (escreveStatus_updateMany _ _ status rfl)
          (by simpa [status] using holds) ?_
        exact fun p mem this frees => back p mem (of_decide_eq_true this) frees

/-- The reactivation of a checkout brings back what fits. -/
theorem notOversold_reativarCheckout {db db' : Database} {lido : CheckoutLido}
    {outcome : Except Failure CheckoutEmCurso} (fine : NotOversold db)
    (ok : reativarCheckout db lido = .ok (db', outcome)) : NotOversold db' := by
  obtain ⟨reativado, r, reativou, rfl, _⟩ := reativarCheckout_ok ok
  exact reativou.notOversold fine (escreveStatus_updateMany _ _ rfl rfl) rfl
    fun p _ back _ => of_decide_eq_true back

/-! ### Writes that do not look at the stock -/

/-- The units such a write takes again are still there. -/
def CabeNoEstoque (w : World) (action : Action) : Prop :=
  ∀ selected status, escritaSemConferencia w action = some (selected, status) →
    status.liberaEstoque = false →
      ∀ v stock, w.db.catalogue.estoque v = some stock →
        w.db.unidadesRevividas selected v ≤ stock - w.db.vendidos v

/-- A write of a status is harmless exactly when it frees stock or what it takes again fits. -/
theorem EscreveStatus.notOversold_iff {db depois : Database} {selected : Payment → Bool}
    {status : PaymentStatus} (escreve : EscreveStatus db depois selected status)
    (fine : NotOversold db) :
    NotOversold depois ↔
      (status.liberaEstoque = false → ∀ v stock, db.catalogue.estoque v = some stock →
        db.unidadesRevividas selected v ≤ stock - db.vendidos v) := by
  have same_stock : ∀ v, depois.catalogue.estoque v = db.catalogue.estoque v :=
    fun v => by rw [escreve.catalogue]
  cases frees : status.liberaEstoque with
  | true =>
      simp only [Bool.true_eq_false, false_imp_iff, iff_true]
      exact fine.of_le same_stock fun v => escreve.vendidos_le frees v
  | false =>
      simp only [NotOversold, escreve.vendidos_eq frees, same_stock, true_imp_iff]
      constructor
      · intro after v stock limited
        have := after v stock limited
        omega
      · intro fits v stock limited
        have := fits v stock limited
        have := fine v stock limited
        omega

theorem cabeNoEstoque_of_none {w : World} {action : Action}
    (looks : escritaSemConferencia w action = none) : CabeNoEstoque w action := by
  intro selected status write
  rw [looks] at write
  exact nomatch write

/-- A step that makes no such write does not oversell. -/
theorem notOversold_of_none {amb : Ambiente} {w : World} {action : Action} {db : Database}
    (fine : NotOversold w.db) (passo : Passo amb w action db)
    (looks : escritaSemConferencia w action = none) : NotOversold db := by
  cases passo with
  | parado => exact fine
  | inscreveu ok =>
      obtain ⟨user, event, registrou⟩ := registerUserInEvent_ok ok
      exact fine.of_le (fun v => by rw [registrou.catalogue])
        fun v => (vendidos_registrou registrou v).le
  | @trocou userId eventId _ _ _ ok =>
      obtain ⟨_, ⟨user, event, registrou⟩, _⟩ := updateUserFromEvent_ok ok
      refine fine.of_le (fun v => by rw [registrou.catalogue]; rfl) fun v => ?_
      rw [vendidos_registrou registrou v]
      exact vendidos_deletePayments_le w.db
        (Database.ticketOf userId eventId (w.db.rolesOf userId eventId)) v
  | comprou ok => exact notOversold_comprarProdutos fine ok
  | @avisou notice depois ok =>
      rcases updatePaymentWebhook_cases w.db notice with
        ⟨_, failed⟩ | ⟨first, rest, found, ⟨_, same⟩ | ⟨unpaid, _⟩⟩
      · exact nomatch failed.symm.trans ok
      · exact Except.ok.inj (same.symm.trans ok) ▸ fine
      · simp [escritaSemConferencia, found, unpaid] at looks
  | avisouCheckout ok =>
      rw [updatePaymentCheckoutWebhook_ok ok]
      exact fine.of_le (fun _ => rfl) fun v => (vendidos_updateManyCheckouts _ _ _ v).le
  | precoDoIngresso => exact fine
  | precoDoProduto productId price =>
      exact fine.of_le (fun v => Catalogue.estoque_setProductPrice _ _ _ v) fun _ => le_rfl
  | reordenou rank =>
      exact fine.of_le (fun _ => rfl) fun v => (vendidos_reorderPayments _ _ v).le
  | @seguiu i resposta task _ found gravou =>
      cases gravou with
      | nada => exact fine
      | reativou ok => exact notOversold_reativarCheckout fine ok
      | inativou =>
          exact fine.of_le (fun _ => rfl) fun v => (vendidos_updateManyCheckouts _ _ _ v).le
      | pediu => exact fine
      | marcou => simp [escritaSemConferencia, found] at looks
      | reutilizou => simp [escritaSemConferencia, found] at looks
      | criou link ok =>
          have all := (gravarCheckout_ok ok).1
          simp [escritaSemConferencia, found, link, all, Except.isOk, Except.toBool] at looks
      | editou ok => exact notOversold_updatePaymentStatusTx fine ok
      | invalidou =>
          exact fine.of_le (fun _ => rfl) fun v => (vendidos_updateManyCheckouts _ _ _ v).le
      | @estornou paymentId _ ok =>
          rw [refundPaymentTx_ok ok]
          have escreve : EscreveStatus w.db (w.db.updateManyPayments (fun p => p.id = paymentId)
              { status := some .refunded }) (fun p => p.id = paymentId) .refunded :=
            escreveStatus_updateMany _ _ rfl rfl
          exact fine.of_le (fun _ => rfl) fun v => escreve.vendidos_le rfl v
      | removeu =>
          exact fine.of_le (fun _ => rfl) fun v => vendidos_deletePayments_le w.db _ v
      | reconciliou => simp [escritaSemConferencia, found] at looks

/-- One step oversells exactly when it writes a status without looking, on payments whose units are
gone. -/
theorem notOversold_step_iff {amb : Ambiente} {w : World} {action : Action}
    (fine : NotOversold w.db) :
    NotOversold (step amb w action).db ↔ CabeNoEstoque w action := by
  cases write : escritaSemConferencia w action with
  | none =>
      exact ⟨fun _ => cabeNoEstoque_of_none write,
        fun _ => notOversold_of_none fine (step_passo amb w action) write⟩
  | some pair =>
      obtain ⟨selected, status⟩ := pair
      rw [(step_of_escrita amb write).notOversold_iff fine]
      constructor
      · rintro fits selected' status' write'
        obtain ⟨rfl, rfl⟩ := Prod.mk.inj (Option.some.inj (write.symm.trans write'))
        exact fits
      · exact fun fits => fits selected status write

/-- **Stock.**  From a shop that is not oversold, a run keeps every state so exactly when each of
its writes that do not look at the stock takes again only units that are still there. -/
theorem notOversold_run_iff {amb : Ambiente} {w : World} (fine : NotOversold w.db)
    (actions : List Action) :
    Always (step amb) (fun w => NotOversold w.db) w actions ↔
      EachStep (step amb) CabeNoEstoque w actions :=
  always_iff_eachStep (fun _ _ => notOversold_step_iff) fine

/-! ### The run that oversells -/

namespace Loja

theorem notOversold_aberta (provider : PaymentProvider) (price : ℚ) (stock : Option Nat) :
    NotOversold (aberta provider price stock).db := fun _ _ _ => Nat.zero_le _

/-- One shirt: bought, sent to the house and canceled by the panel; bought by somebody else; then
the house says that the first buyer paid. -/
def camisetaVendidaDuasVezes : List Action :=
  [compra 3 false 1000, .createCheckout ⟨3, 5, [], [100]⟩, .resume 0 (resposta 1000 [] 500),
    .resume 0 (resposta 1000 [] 500), .resume 0 (resposta 1000 [] 500), edicao 100 .canceled,
    .resume 0 (resposta 1500 [] 500), .resume 0 (resposta 1500 [] 500), compra 4 false 2000,
    aviso 102 .paid (some 5000)]

theorem oversold_camisetaVendidaDuasVezes :
    ¬ NotOversold (runFrom (step ambiente) (aberta .pagbank 100 (some 1))
      camisetaVendidaDuasVezes).db := by
  intro fine
  have limited : (runFrom (step ambiente) (aberta .pagbank 100 (some 1))
      camisetaVendidaDuasVezes).db.catalogue.estoque 9 = some 1 := by decide +kernel
  have sold : (runFrom (step ambiente) (aberta .pagbank 100 (some 1))
      camisetaVendidaDuasVezes).db.vendidos 9 = 2 := by decide +kernel
  have := fine 9 1 limited
  omega

end Loja

/-- The shop sells two units of a variant that has one. -/
theorem not_notOversold_after_late_payment :
    NotOversold (Loja.aberta .pagbank 100 (some 1)).db ∧
      ¬ NotOversold (runFrom (step Loja.ambiente) (Loja.aberta .pagbank 100 (some 1))
        Loja.camisetaVendidaDuasVezes).db :=
  ⟨Loja.notOversold_aberta _ _ _, Loja.oversold_camisetaVendidaDuasVezes⟩

/-- A write of that run takes again a unit that is gone. -/
theorem notOversold_run_iff_late_payment :
    ¬ EachStep (step Loja.ambiente) CabeNoEstoque (Loja.aberta .pagbank 100 (some 1))
      Loja.camisetaVendidaDuasVezes := by
  intro cabe
  have always := (notOversold_run_iff (Loja.notOversold_aberta _ _ _) _).mpr cabe
  exact Loja.oversold_camisetaVendidaDuasVezes always.last

end IccvBackend
