/-
Module: IccvBackend.Proofs.StatusWrites
Purpose: The steps that write a status on payments, and what the status of a row is after any step.
Trusted boundary: none
Main exports: escritaSemConferencia, escritaDeStatus, EscreveStatus, step_of_escrita,
  StatusDepois, passo_status
-/
import IccvBackend.Event.Reactivation
import IccvBackend.System

namespace IccvBackend

open Lib

/-!
Six steps write a status on rows they select: a payment notification, a reconciliation write, three
writes of `createCheckout` and the edit of the panel.  The first five decide by what a house says or
by what was read before, and look at the rows they write on at most once.  `escritaDeStatus` names
the rows and the status of such a step; every other step changes the status of a row in ways that
`StatusDepois` lists.
-/

/-! ### The writes -/

/-- The payments a step writes a status on without looking at the stock, and that status. -/
def escritaSemConferencia (w : World) : Action → Option ((Payment → Bool) × PaymentStatus)
  | .updatePaymentWebhook notice =>
      match w.db.checkoutsWhere (notice.selects w.db) with
      | [] => none
      | first :: rest =>
          if first.1.status = .paid then none
          else
            some (fun p : Payment => decide (p.id ∈ (first :: rest).map fun row => row.1.id),
              conferirValorPago notice.status notice.pagoEmCentavos first.2.chargedAmountCents)
  | .resume i resposta =>
      match w.tasks[i]? with
      | some (.checkoutMark paymentId status _) => some (fun p => p.id = paymentId, status)
      | some (.checkoutReuse c _) => some (fun p => p.id ∈ c.ids, .waiting)
      | some (.checkoutCreate c _) =>
          if (lerResultado c.lido.config resposta.created).isOk ∧
              c.ids.all fun id => (w.db.payment? id).isSome then
            some (fun p => p.id ∈ c.ids, .waiting)
          else none
      | some (.reconcileWrite cobranca status _ _ _) =>
          some (fun p => p.checkouts.any fun c => c.referenceId = cobranca.referenceId, status)
      | _ => none
  | _ => none

/-- The payment and the status of an edit of the panel that goes through. -/
def edicaoDeStatus (w : World) : Action → Option ((Payment → Bool) × PaymentStatus)
  | .resume i _ =>
      match w.tasks[i]? with
      | some (.statusWrite lido dto) =>
          if (updatePaymentStatusTx w.db lido dto).isOk then
            dto.status.map fun status => (fun p => p.id = lido.id, status)
          else none
      | _ => none
  | _ => none

/-- The payments a step writes a status on, and that status. -/
def escritaDeStatus (w : World) (action : Action) : Option ((Payment → Bool) × PaymentStatus) :=
  (escritaSemConferencia w action).or (edicaoDeStatus w action)

/-- `depois` is one status write on `db`, up to checkouts. -/
structure EscreveStatus (db depois : Database) (selected : Payment → Bool)
    (status : PaymentStatus) : Prop where
  catalogue : depois.catalogue = db.catalogue
  payments : ∃ (data : Database.PaymentUpdate) (checkouts : Payment → List PaymentCheckout),
    data.status = some status ∧ data.amount = none ∧
      depois.payments = db.payments.map fun p =>
        { (if selected p then data.apply p else p) with checkouts := checkouts p }

theorem escreveStatus_updateMany (db : Database) (selected : Payment → Bool)
    {data : Database.PaymentUpdate} {status : PaymentStatus} (written : data.status = some status)
    (no_amount : data.amount = none) :
    EscreveStatus db (db.updateManyPayments selected data) selected status :=
  ⟨rfl, data, Payment.checkouts, written, no_amount,
    List.map_congr_left fun p _ => by cases selected p <;> rfl⟩

theorem escreveStatus_updateMany_checkouts (db : Database) (selected : Payment → Bool)
    {data : Database.PaymentUpdate} {status : PaymentStatus} (written : data.status = some status)
    (no_amount : data.amount = none) (closed : Payment → PaymentCheckout → Bool)
    (closing : CheckoutStatus) :
    EscreveStatus db ((db.updateManyPayments selected data).updateManyCheckouts closed closing)
      selected status := by
  refine ⟨rfl, data, fun p => (if selected p then data.apply p else p).checkouts.map fun c =>
    if closed (if selected p then data.apply p else p) c then { c with status := closing } else c,
    written, no_amount, ?_⟩
  simp only [Database.updateManyCheckouts, Database.modifyPayments_payments,
    Database.updateManyPayments_payments, List.map_map]
  rfl

theorem escreveStatus_gravarCheckout {db depois : Database} {c : CheckoutEmCurso}
    {pedido : HostedCheckoutRequest} {result : HostedCheckoutResult} {agora : Instant}
    (ok : gravarCheckout db c pedido result agora = .ok depois) :
    EscreveStatus db depois (fun p => p.id ∈ c.ids) .waiting := by
  rw [(gravarCheckout_ok ok).2]
  refine ⟨rfl, voltarAEsperar, fun p =>
    (p.checkouts.map fun checkout =>
      if checkout.checkoutId ∈ (c.activeCheckouts.map fun row => row.2.checkoutId) &&
          checkout.status = .active then
        { checkout with status := .inactive }
      else checkout) ++
    if p.id ∈ c.ids then [novoCheckout c pedido result agora] else [], rfl, rfl, ?_⟩
  simp only [Database.updateManyPayments_payments, Database.createManyCheckouts,
    Database.updateManyCheckouts, Database.modifyPayments_payments, List.map_map]
  refine List.map_congr_left fun p _ => ?_
  by_cases listed : p.id ∈ c.ids <;> simp [listed, Database.PaymentUpdate.apply]

/-- A step that makes an unchecked write commits that write. -/
theorem step_of_escrita (amb : Ambiente) {w : World} {action : Action}
    {selected : Payment → Bool} {status : PaymentStatus}
    (write : escritaSemConferencia w action = some (selected, status)) :
    EscreveStatus w.db (step amb w action).db selected status := by
  cases action with
  | updatePaymentWebhook notice =>
      rcases updatePaymentWebhook_cases w.db notice with
        ⟨none_found, _⟩ | ⟨first, rest, found, ⟨paid, _⟩ | ⟨unpaid, _, rfl, _, rfl, ok⟩⟩
      · simp [escritaSemConferencia, none_found] at write
      · simp [escritaSemConferencia, found, paid] at write
      · simp only [escritaSemConferencia, found, unpaid, if_false, Option.some.injEq,
          Prod.mk.injEq] at write
        obtain ⟨rfl, rfl⟩ := write
        simp only [step, ok, World.commit, id_eq]
        split
        · exact escreveStatus_updateMany_checkouts _ _ rfl rfl _ _
        · exact escreveStatus_updateMany _ _ rfl rfl
  | resume i resposta =>
      simp only [escritaSemConferencia] at write
      cases found : w.tasks[i]? with
      | none => simp [found] at write
      | some task =>
          rw [found] at write
          simp only [step, found]
          cases task with
          | checkoutMark paymentId status' charge =>
              obtain ⟨rfl, rfl⟩ := Prod.mk.inj (Option.some.inj write)
              exact escreveStatus_updateMany _ _ rfl rfl
          | checkoutReuse c checkout =>
              obtain ⟨rfl, rfl⟩ := Prod.mk.inj (Option.some.inj write)
              exact escreveStatus_updateMany _ _ rfl rfl
          | checkoutCreate c pedido =>
              dsimp only at write
              split at write
              · next success =>
                  obtain ⟨rfl, rfl⟩ := Prod.mk.inj (Option.some.inj write)
                  obtain ⟨link, all⟩ := success
                  cases result : lerResultado c.lido.config resposta.created with
                  | error => simp [result, Except.isOk, Except.toBool] at link
                  | ok result' =>
                      simp only [runTask, result]
                      cases wrote : gravarCheckout w.db c pedido result' resposta.agora with
                      | error => simp [gravarCheckout, all, pure, Except.pure] at wrote
                      | ok depois => exact escreveStatus_gravarCheckout wrote
              · cases write
          | reconcileWrite cobranca status' charge restantes casas =>
              obtain ⟨rfl, rfl⟩ := Prod.mk.inj (Option.some.inj write)
              simp only [runTask, gravarCobranca]
              split
              · exact escreveStatus_updateMany_checkouts _ _ rfl rfl _ _
              · exact escreveStatus_updateMany _ _ rfl rfl
          | _ => cases write
  | _ => cases write

/-! ### The status of a row after a step -/

/-- Where the status of a row comes from: the row there was; a row that had given its units back; a
free ticket that takes products; a refund; a new row; the write of the step. -/
inductive StatusDepois (db : Database) (write : Option ((Payment → Bool) × PaymentStatus))
    (q : Payment) : Prop
  | mantido (p : Payment) (mem : p ∈ db.payments) (id : q.id = p.id) (status : q.status = p.status)
  | reativado (p : Payment) (mem : p ∈ db.payments) (id : q.id = p.id)
      (frees : p.status.liberaEstoque = true)
  | gratuito (p : Payment) (mem : p ∈ db.payments) (id : q.id = p.id) (free : p.amount = 0)
  | estornado (p : Payment) (mem : p ∈ db.payments) (id : q.id = p.id)
      (refunded : q.status = .refunded)
  | novo (fresh : db.nextId ≤ q.id)
  | escrito (p : Payment) (mem : p ∈ db.payments) (id : q.id = p.id)
      (selected : Payment → Bool) (status : PaymentStatus)
      (wrote : write = some (selected, status)) (sel : selected p = true)
      (written : q.status = status)

section StatusDepois

variable {db depois : Database} {write : Option ((Payment → Bool) × PaymentStatus)}

/-- Rows that keep their status. -/
theorem statusDepois_of_same (same : ∀ q ∈ depois.payments, ∃ p ∈ db.payments, q.id = p.id ∧
    q.status = p.status) : ∀ q ∈ depois.payments, StatusDepois db write q := by
  intro q mem
  obtain ⟨p, p_mem, id, status⟩ := same q mem
  exact .mantido p p_mem id status

theorem statusDepois_of_subset (sub : ∀ q ∈ depois.payments, q ∈ db.payments) :
    ∀ q ∈ depois.payments, StatusDepois db write q :=
  statusDepois_of_same fun q mem => ⟨q, sub q mem, rfl, rfl⟩

theorem statusDepois_updateManyCheckouts (selected : Payment → PaymentCheckout → Bool)
    (status : CheckoutStatus) :
    ∀ q ∈ (db.updateManyCheckouts selected status).payments, StatusDepois db write q :=
  statusDepois_of_same fun q mem => by
    obtain ⟨p, p_mem, rfl⟩ := List.mem_map.mp mem
    exact ⟨p, p_mem, rfl, rfl⟩

theorem EscreveStatus.statusDepois {selected : Payment → Bool} {status : PaymentStatus}
    (escreve : EscreveStatus db depois selected status)
    (wrote : write = some (selected, status)) :
    ∀ q ∈ depois.payments, StatusDepois db write q := by
  obtain ⟨data, checkouts, written, _, payments⟩ := escreve.payments
  intro q mem
  rw [payments] at mem
  obtain ⟨p, p_mem, rfl⟩ := List.mem_map.mp mem
  by_cases sel : selected p = true
  · exact .escrito p p_mem (by simp [sel, Database.PaymentUpdate.apply]) selected status wrote sel
      (by simp [sel, Database.PaymentUpdate.apply, written])
  · exact .mantido p p_mem (by simp [sel]) (by simp [sel])

theorem Registrou.statusDepois {request : RegistrationRequest} {user : User} {event : Event}
    {result : Database × List (Id × ResultType)}
    (registrou : Registrou db request user event result) :
    ∀ q ∈ result.1.payments, StatusDepois db write q := by
  intro q mem
  rcases registrou.new_ticket mem with old | ⟨_, _, id, fresh, rfl⟩
  · exact .mantido q old rfl rfl
  · exact .novo fresh

theorem statusDepois_gravarCompra (request : PurchaseRequest) (itens : List Database.ItemCreate) :
    ∀ q ∈ (gravarCompra db request itens).payments, StatusDepois db write q := by
  intro q mem
  rcases gravarCompra_payments db request itens with ⟨ingresso, _, found, payments⟩ | payments
  · obtain ⟨ingresso_mem, _, _, _, _, _, status⟩ := ingressoQueAceitaProdutos_spec found
    rw [payments] at mem
    obtain ⟨p, p_mem, rfl⟩ := List.mem_map.mp mem
    by_cases this : p.id = ingresso.id
    · obtain rfl := db.eq_of_id_eq p_mem ingresso_mem this
      simp only [if_true, pendurar_of_eq p.id _
        (p := (ticketUpdate p (totalDosItens itens)).apply p) rfl]
      rcases status with waiting | ⟨_, free⟩
      · exact .mantido p p_mem rfl (by simp [ticketUpdate, waiting, Database.PaymentUpdate.apply])
      · exact .gratuito p p_mem rfl free
    · rw [if_neg this]
      exact .mantido p p_mem rfl rfl
  · rw [payments, List.mem_append, List.mem_singleton] at mem
    rcases mem with old | rfl
    · exact .mantido q old rfl rfl
    · refine .novo (le_of_eq ?_)
      rw [pendurar_id]
      rfl

/-- The transaction of the panel: the write of its status, after a reactivation that keeps it. -/
theorem statusDepois_updatePaymentStatusTx {lido : Payment} {dto : UpdatePaymentStatusDto}
    (ok : updatePaymentStatusTx db lido dto = .ok depois)
    (wrote : write = dto.status.map fun status =>
      (fun p => decide (p.id = lido.id), status)) :
    ∀ q ∈ depois.payments, StatusDepois db write q := by
  obtain ⟨reativado, reactivation, rows, _⟩ := updatePaymentStatusTx_ok ok
  have before : ∀ q ∈ reativado.payments, ∃ p ∈ db.payments, q.id = p.id ∧ q.status = p.status := by
    rcases reativarSePreciso_ok reactivation with ⟨_, rfl⟩ | ⟨_, r, reativou, _⟩
    · exact fun q mem => ⟨q, mem, rfl, rfl⟩
    · intro q mem
      rw [reativou.payments] at mem
      obtain ⟨p, p_mem, rfl⟩ := List.mem_map.mp mem
      exact ⟨p, p_mem, rfl, rfl⟩
  intro q mem
  rw [rows] at mem
  obtain ⟨q', q'_mem, rfl⟩ := List.mem_map.mp mem
  obtain ⟨p, p_mem, id, status⟩ := before q' q'_mem
  by_cases this : p.id = lido.id
  · have row : (if decide (q'.id = lido.id) = true then (statusUpdate lido dto).apply q' else q') =
        (statusUpdate lido dto).apply q' := by simp [id, this]
    rw [row]
    cases novo : dto.status with
    | none =>
        refine .mantido p p_mem id (status ▸ ?_)
        simp [Database.PaymentUpdate.apply, statusUpdate, novo]
    | some novo' =>
        refine .escrito p p_mem id _ novo' (by rw [wrote, novo]; rfl) (by simp [this]) ?_
        simp [Database.PaymentUpdate.apply, statusUpdate, novo]
  · have row : (if decide (q'.id = lido.id) = true then (statusUpdate lido dto).apply q' else q') =
        q' := by simp [id, this]
    rw [row]
    exact .mantido p p_mem id status

end StatusDepois

/-- The status of every row after every step of the server. -/
theorem passo_status {amb : Ambiente} {w : World} {action : Action} {db : Database}
    (passo : Passo amb w action db) :
    ∀ q ∈ db.payments, StatusDepois w.db (escritaDeStatus w action) q := by
  cases passo with
  | parado => exact statusDepois_of_subset fun _ mem => mem
  | inscreveu ok =>
      obtain ⟨_, _, registrou⟩ := registerUserInEvent_ok ok
      exact registrou.statusDepois
  | trocou ok =>
      obtain ⟨_, ⟨_, _, registrou⟩, _⟩ := updateUserFromEvent_ok ok
      intro q mem
      rcases registrou.new_ticket mem with old | ⟨_, _, id, fresh, rfl⟩
      · exact .mantido q (List.mem_of_mem_filter old) rfl rfl
      · exact .novo fresh
  | comprou ok =>
      obtain ⟨pedido, _, _, _, _, rfl⟩ := comprarProdutos_ok ok
      exact statusDepois_gravarCompra _ _
  | @avisou notice depois ok =>
      rcases updatePaymentWebhook_cases w.db notice with
        ⟨_, failed⟩ | ⟨first, rest, found, ⟨_, same⟩ | ⟨unpaid, status, rfl, written, rfl, wrote⟩⟩
      · exact nomatch failed.symm.trans ok
      · exact Except.ok.inj (same.symm.trans ok) ▸ statusDepois_of_subset fun _ mem => mem
      · obtain rfl := Except.ok.inj (wrote.symm.trans ok)
        have write : escritaDeStatus w (.updatePaymentWebhook notice) =
            some (fun p : Payment => decide (p.id ∈ (first :: rest).map fun row => row.1.id),
              conferirValorPago notice.status notice.pagoEmCentavos
                first.2.chargedAmountCents) := by
          simp only [escritaDeStatus, escritaSemConferencia, found, unpaid, if_false]
          rfl
        split
        · exact (escreveStatus_updateMany_checkouts _ _ rfl rfl _ _).statusDepois write
        · exact (escreveStatus_updateMany _ _ rfl rfl).statusDepois write
  | avisouCheckout ok =>
      rw [updatePaymentCheckoutWebhook_ok ok]
      exact statusDepois_updateManyCheckouts _ _
  | precoDoIngresso => exact statusDepois_of_subset fun _ mem => mem
  | precoDoProduto => exact statusDepois_of_subset fun _ mem => mem
  | reordenou rank => exact statusDepois_of_subset fun q mem => (List.mem_insertionSort _).mp mem
  | @seguiu i resposta task depois found gravou =>
      cases gravou with
      | nada => exact statusDepois_of_subset fun _ mem => mem
      | reativou ok =>
          obtain ⟨reativado, r, reativou, rfl, _⟩ := reativarCheckout_ok ok
          intro q mem
          obtain ⟨q', q'_mem, rfl⟩ := List.mem_map.mp mem
          rw [reativou.payments] at q'_mem
          obtain ⟨p, p_mem, rfl⟩ := List.mem_map.mp q'_mem
          by_cases back : p.id ∈ r.reativados
          · obtain ⟨p', p'_mem, same⟩ := reativou.reativados p.id back
            obtain ⟨p'_in, _, frees⟩ := mem_aReativar.mp p'_mem
            obtain rfl := w.db.eq_of_id_eq p'_in p_mem same
            exact .reativado p' p_mem (by simp [back, Database.PaymentUpdate.apply]) frees
          · exact .mantido p p_mem (by simp [back]) (by simp [back])
      | inativou => exact statusDepois_updateManyCheckouts _ _
      | pediu => exact statusDepois_of_subset fun _ mem => mem
      | marcou =>
          refine (escreveStatus_updateMany _ _ rfl rfl).statusDepois ?_
          simp only [escritaDeStatus, escritaSemConferencia, found]
          rfl
      | reutilizou =>
          refine (escreveStatus_updateMany _ _ rfl rfl).statusDepois ?_
          simp only [escritaDeStatus, escritaSemConferencia, found]
          rfl
      | criou link ok =>
          refine (escreveStatus_gravarCheckout ok).statusDepois ?_
          have all := (gravarCheckout_ok ok).1
          simp only [escritaDeStatus, escritaSemConferencia, found, link, all, Except.isOk,
            Except.toBool, and_self, if_true]
          rfl
      | editou ok =>
          refine statusDepois_updatePaymentStatusTx ok ?_
          simp only [escritaDeStatus, escritaSemConferencia, edicaoDeStatus, found, ok, Except.isOk,
            Except.toBool, if_true]
          rfl
      | invalidou => exact statusDepois_updateManyCheckouts _ _
      | estornou ok =>
          rw [refundPaymentTx_ok ok]
          intro q mem
          obtain ⟨p, p_mem, rfl⟩ := List.mem_map.mp mem
          split
          · exact .estornado p p_mem rfl rfl
          · exact .mantido p p_mem rfl rfl
      | removeu => exact statusDepois_of_subset fun q mem => List.mem_of_mem_filter mem
      | @reconciliou cobranca status charge restantes casas =>
          have write : escritaDeStatus w (.resume i resposta) =
              some (fun p : Payment =>
                p.checkouts.any fun c => c.referenceId = cobranca.referenceId, status) := by
            simp only [escritaDeStatus, escritaSemConferencia, found]
            rfl
          unfold gravarCobranca
          dsimp only
          split
          · exact (escreveStatus_updateMany_checkouts _ _ rfl rfl _ _).statusDepois write
          · exact (escreveStatus_updateMany _ _ rfl rfl).statusDepois write

end IccvBackend
