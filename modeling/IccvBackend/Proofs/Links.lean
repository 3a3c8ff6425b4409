/-
Module: IccvBackend.Proofs.Links
Purpose: Every checkout row of every state against the request it was made by.
Trusted boundary: none
Main exports: Registro, registrar, LinksEmDia, linksEmDia_step
-/
import IccvBackend.Proofs.Rows
import Mathlib.Data.List.Perm.Basic

namespace IccvBackend

open Lib

/-!
A checkout row keeps what it charged and not what it was charged for.  The request behind each
reference, and what its payments owed then, are kept here as a history variable.  A reference is new
when its request is made and is written once, so the history never forgets, and every copy of a row
that a task holds still agrees with it.
-/

/-! ### The history -/

/-- What payments owe together, in cents: their amounts, the discounts of their tickets, and a cent
for each unit that has a price. -/
structure Conta where
  soma : Int
  desconto : Int
  unidades : Int
deriving DecidableEq

/-- What a payment owes by: its amount, its items with a price, the discount of its ticket, and
whether the ticket has a price. -/
structure PagamentoVisto where
  paymentId : Id
  amount : ℚ
  itens : List PaymentProductItem
  desconto : ℚ
  ingressoCobrado : Bool
deriving DecidableEq

/-- A payment as it is now. -/
def Database.visto (db : Database) (p : Payment) : PagamentoVisto where
  paymentId := p.id
  amount := p.amount
  itens := p.productItems.filter fun item => item.unitPrice > 0
  desconto := descontoDoIngresso (db.eventUserRole p)
  ingressoCobrado := (db.eventUserRole p).any fun role => role.1.price > 0

/-- The payments of a reference as they are now. -/
def Database.vistos (db : Database) (referenceId : Id) : List PagamentoVisto :=
  (db.payments.filter fun p => p.tem referenceId).map db.visto

/-- The charged units of a payment. -/
def PagamentoVisto.unidades (visto : PagamentoVisto) : Int :=
  (if visto.ingressoCobrado then 1 else 0) +
    (visto.itens.map fun item => (item.quantity : Int)).sum

/-- What payments owe together. -/
def contaDosVistos (vistos : List PagamentoVisto) : Conta where
  soma := (vistos.map fun visto => cents visto.amount).sum
  desconto := cents (vistos.map PagamentoVisto.desconto).sum
  unidades := (vistos.map PagamentoVisto.unidades).sum

/-- What the payments of a reference owe now. -/
def contaDe (db : Database) (referenceId : Id) : Conta :=
  contaDosVistos (db.vistos referenceId)

/-- The request of a reference, and its payments as they were when the checkout was made. -/
structure Registro where
  pedido : HostedCheckoutRequest
  vistos : List PagamentoVisto

/-- What the payments owed when the checkout was made. -/
def Registro.conta (registro : Registro) : Conta := contaDosVistos registro.vistos

/-- What the checkout charges. -/
def Registro.cobrado (registro : Registro) : Int :=
  totalCobradoEmCentavos registro.pedido.items registro.pedido.discountCents

/-- What the checkout takes off its cart. -/
def Registro.abatido (registro : Registro) : Int :=
  totalEmCentavos registro.pedido.items - registro.cobrado

abbrev Registros := Id → Option Registro

/-- The request of a task that waits for the house. -/
def Task.pedido : Task → Option HostedCheckoutRequest
  | .checkoutCreate _ pedido => some pedido
  | _ => none

/-- The request a step makes a checkout by. -/
def pedidoGravado (w : World) (action : Action) : Option HostedCheckoutRequest :=
  match action with
  | .resume i _ => (linkNovo w action).bind fun _ => (w.tasks[i]?).bind Task.pedido
  | _ => none

/-- Keep the request of a new checkout. -/
def registrar (h : Registros) (w : World) (action : Action) (depois : World) : Registros :=
  match pedidoGravado w action with
  | some pedido =>
      Function.update h pedido.referenceId
        (some ⟨pedido, depois.db.vistos pedido.referenceId⟩)
  | none => h

/-- A new checkout has the reference of its request and charges its total. -/
theorem linkNovo_spec {w : World} {action : Action} {ids : List Id} {row : PaymentCheckout}
    (new : linkNovo w action = some (ids, row)) :
    ∃ i resposta c pedido, action = .resume i resposta ∧
      w.tasks[i]? = some (.checkoutCreate c pedido) ∧ ids = c.ids ∧
      (c.ids.all fun id => (w.db.payment? id).isSome) = true ∧
      pedidoGravado w action = some pedido ∧ row.referenceId = pedido.referenceId ∧
      row.chargedAmountCents = some (totalCobradoEmCentavos pedido.items pedido.discountCents) := by
  cases action with
  | resume i resposta =>
      have whole := new
      simp only [linkNovo] at new
      cases found : w.tasks[i]? with
      | none => simp [found] at new
      | some task =>
          cases task with
          | checkoutCreate c pedido =>
              simp only [found] at new
              split at new
              · cases new
              · split at new
                · next all =>
                    obtain ⟨rfl, rfl⟩ := Prod.mk.inj (Option.some.inj new)
                    refine ⟨i, resposta, c, pedido, rfl, found, rfl, all, ?_, rfl, rfl⟩
                    simp only [pedidoGravado, whole, found, Option.bind_some, Task.pedido]
                · cases new
          | _ => simp [found] at new
  | _ => cases new

/-- A request that is kept made a checkout. -/
theorem pedidoGravado_spec {w : World} {action : Action} {pedido : HostedCheckoutRequest}
    (made : pedidoGravado w action = some pedido) :
    ∃ i resposta c row, action = .resume i resposta ∧
      w.tasks[i]? = some (.checkoutCreate c pedido) ∧ linkNovo w action = some (c.ids, row) := by
  cases action with
  | resume i resposta =>
      simp only [pedidoGravado, Option.bind_eq_some_iff] at made
      obtain ⟨⟨ids, row⟩, new, task, found, holds⟩ := made
      obtain ⟨_, _, c, pedido', same, found', rfl, _⟩ := linkNovo_spec new
      obtain ⟨rfl, rfl⟩ := Action.resume.inj same
      obtain rfl := Option.some.inj (found'.symm.trans found)
      obtain rfl : pedido' = pedido := Option.some.inj holds
      exact ⟨i, resposta, c, row, rfl, found, new⟩
  | _ => exact nomatch made

/-! ### Ids are handed out once -/

theorem createItems_nextId (paymentId : Id) :
    ∀ (itens : List Database.ItemCreate) (db : Database),
      db.nextId ≤ (db.createItems paymentId itens).nextId
  | [], _ => le_rfl
  | item :: itens, db =>
      (Nat.le_succ _).trans (createItems_nextId paymentId itens (db.createItem paymentId item))

theorem gravarCompra_nextId (db : Database) (request : PurchaseRequest)
    (itens : List Database.ItemCreate) : db.nextId ≤ (gravarCompra db request itens).nextId := by
  unfold gravarCompra
  dsimp only
  split
  · next ingresso _ =>
      exact createItems_nextId ingresso.id itens (db.updateManyPayments
        (fun p => p.id = ingresso.id) (ticketUpdate ingresso (totalDosItens itens)))
  · exact (Nat.le_succ _).trans (createItems_nextId db.nextId itens
      (db.createPayment (purchasePayment request (totalDosItens itens))))

theorem foldl_registerRole_nextId (request : RegistrationRequest) (minor : MinorApprovalStatus)
    (count : Id → Nat) (roles : List (GroupRoles × RolesRegistration)) :
    ∀ state : Database × List (Id × ResultType),
      state.1.nextId ≤ (roles.foldl (registerRole request minor count) state).1.nextId := by
  induction roles with
  | nil => exact fun _ => le_rfl
  | cons role roles ih =>
      intro state
      refine le_trans ?_ (ih (registerRole request minor count state role))
      unfold registerRole
      split
      · exact le_rfl
      · exact (Nat.le_succ _).trans_eq (inscrever_nextId _ _ _ _).symm

theorem Registrou.nextId {db : Database} {request : RegistrationRequest} {user : User}
    {event : Event} {result : Database × List (Id × ResultType)}
    (registrou : Registrou db request user event result) : db.nextId ≤ result.1.nextId := by
  rw [registrou.result]
  exact foldl_registerRole_nextId _ _ _ _ (db, [])

theorem updatePaymentStatusTx_nextId {db depois : Database} {lido : Payment}
    {dto : UpdatePaymentStatusDto} (ok : updatePaymentStatusTx db lido dto = .ok depois) :
    depois.nextId = db.nextId := by
  unfold updatePaymentStatusTx at ok
  simp only [bind_eq_ok_iff, orFail_eq_ok_iff] at ok
  obtain ⟨reativado, reactivation, atual, _, rest⟩ := ok
  have same : reativado.nextId = db.nextId := by
    rcases reativarSePreciso_ok reactivation with ⟨_, rfl⟩ | ⟨_, r, reativou, _⟩
    · rfl
    · exact reativou.nextId
  rw [← same]
  split at rest
  · unfold Database.setDiscount at rest
    split at rest
    · split at rest
      · rw [← pure_eq_ok_iff.mp rest]; rfl
      · exact absurd rest throw_ne_ok
    · exact absurd rest throw_ne_ok
  · rw [← pure_eq_ok_iff.mp rest]; rfl

/-- No step takes an id back. -/
theorem passo_nextId {amb : Ambiente} {w : World} {action : Action} {depois : Database}
    (passo : Passo amb w action depois) : w.db.nextId ≤ depois.nextId := by
  cases passo with
  | inscreveu ok =>
      obtain ⟨_, _, registrou⟩ := registerUserInEvent_ok ok
      exact registrou.nextId
  | trocou ok =>
      obtain ⟨_, ⟨_, _, registrou⟩, _⟩ := updateUserFromEvent_ok ok
      exact registrou.nextId
  | comprou ok =>
      obtain ⟨pedido, _, _, _, _, rfl⟩ := comprarProdutos_ok ok
      exact gravarCompra_nextId _ _ _
  | @avisou notice _ ok =>
      rcases updatePaymentWebhook_cases w.db notice with
        ⟨_, failed⟩ | ⟨first, rest, _, ⟨_, same⟩ | ⟨_, status, rfl, written, rfl, wrote⟩⟩
      · exact nomatch failed.symm.trans ok
      · rw [← Except.ok.inj (same.symm.trans ok)]
      · rw [← Except.ok.inj (wrote.symm.trans ok)]
        split <;> exact le_rfl
  | avisouCheckout ok =>
      rw [updatePaymentCheckoutWebhook_ok ok]
      exact le_rfl
  | seguiu found gravou =>
      cases gravou with
      | reativou ok =>
          obtain ⟨reativado, r, reativou, rfl, _⟩ := reativarCheckout_ok ok
          exact reativou.nextId.ge
      | pediu => exact Nat.le_succ _
      | criou read ok =>
          rw [(gravarCheckout_ok ok).2]
          exact le_rfl
      | editou ok => exact (updatePaymentStatusTx_nextId ok).ge
      | estornou ok =>
          rw [refundPaymentTx_ok ok]
          exact le_rfl
      | reconciliou =>
          unfold gravarCobranca
          dsimp only
          split <;> exact le_rfl
      | _ => exact le_rfl
  | _ => exact le_rfl

/-! ### The invariant -/

/-- A checkout row says what its request says. -/
def Registrado (h : Registros) (c : PaymentCheckout) : Prop :=
  ∃ registro, h c.referenceId = some registro ∧ c.chargedAmountCents = some registro.cobrado

/-- The checkout rows a task holds. -/
def Task.links (task : Task) : List PaymentCheckout :=
  (task.captura.flatMap fun lido => lido.payment.links) ++
    match task with
    | .checkoutReuse _ checkout => [checkout]
    | _ => []

/-- Every row, and every copy of a row a task holds, agrees with the history; requests that wait
for a house have references of their own, which the history does not know yet. -/
structure LinksEmDia (w : World) (h : Registros) : Prop where
  linhas : ∀ p ∈ w.db.payments, ∀ c ∈ p.links, Registrado h c
  copias : ∀ task ∈ w.tasks, ∀ c ∈ task.links, Registrado h c
  rodadas : ∀ task ∈ w.tasks, ∀ cobranca ∈ task.cobrancas, ∃ registro,
    h cobranca.referenceId = some registro ∧ cobranca.chargedAmountCents = some registro.cobrado
  pedidos : ∀ task ∈ w.tasks, ∀ pedido ∈ task.pedido,
    pedido.referenceId < w.db.nextId ∧ h pedido.referenceId = none
  distintos : ((w.tasks.filterMap Task.pedido).map HostedCheckoutRequest.referenceId).Nodup
  novas : ∀ referenceId, w.db.nextId ≤ referenceId → h referenceId = none

/-- A server without requests and without payments has nothing to remember. -/
theorem linksEmDia_of_vazio {w : World} (no_payments : w.db.payments = [])
    (no_tasks : w.tasks = []) :
    LinksEmDia w fun _ => none where
  linhas := by simp [no_payments]
  copias := by simp [no_tasks]
  rodadas := by simp [no_tasks]
  pedidos := by simp [no_tasks]
  distintos := by simp [no_tasks]
  novas := fun _ _ => rfl

theorem mem_links_iff {p : Payment} {c : PaymentCheckout} :
    c ∈ p.links ↔ ∃ c' ∈ p.checkouts, c'.semStatus = c := by
  simp [Payment.links]

/-- A payment has a reference when one of its links does. -/
theorem tem_iff_links {p : Payment} {referenceId : Id} :
    p.tem referenceId = true ↔ ∃ c ∈ p.links, c.referenceId = referenceId := by
  rw [tem_eq_true_iff, List.mem_map]
  constructor
  · rintro ⟨c, mem, same⟩
    exact ⟨c.semStatus, mem_links_iff.mpr ⟨c, mem, rfl⟩, same⟩
  · rintro ⟨_, mem, same⟩
    obtain ⟨c, c_mem, rfl⟩ := mem_links_iff.mp mem
    exact ⟨c, c_mem, same⟩

section Step

variable {amb : Ambiente} {w : World} {h : Registros}

/-- The references of rows are known to the history. -/
theorem LinksEmDia.known (links : LinksEmDia w h) {p : Payment} (mem : p ∈ w.db.payments)
    {referenceId : Id} (has : p.tem referenceId = true) :
    ∃ registro, h referenceId = some registro := by
  obtain ⟨c, c_mem, rfl⟩ := tem_iff_links.mp has
  obtain ⟨registro, known, _⟩ := links.linhas p mem c c_mem
  exact ⟨registro, known⟩

/-- The history of a step keeps what it knew. -/
theorem LinksEmDia.registrar_of_some (links : LinksEmDia w h) {action : Action} {depois : World}
    {referenceId : Id} {registro : Registro} (known : h referenceId = some registro) :
    registrar h w action depois referenceId = some registro := by
  unfold registrar
  cases made : pedidoGravado w action with
  | none => exact known
  | some pedido =>
      obtain ⟨i, resposta, c, row, rfl, found, _⟩ := pedidoGravado_spec made
      have unknown := (links.pedidos _ (List.mem_of_getElem? found) pedido rfl).2
      have other : referenceId ≠ pedido.referenceId := by
        rintro rfl
        exact nomatch unknown.symm.trans known
      simpa [Function.update_of_ne other] using known

theorem LinksEmDia.registrado (links : LinksEmDia w h) {action : Action} {depois : World}
    {c : PaymentCheckout} (known : Registrado h c) :
    Registrado (registrar h w action depois) c := by
  obtain ⟨registro, there, charged⟩ := known
  exact ⟨registro, links.registrar_of_some there, charged⟩

/-- The links of the rows after a step are known after it. -/
theorem LinksEmDia.linhas_step (links : LinksEmDia w h) {action : Action} {q : Payment}
    (mem : q ∈ (step amb w action).db.payments) {c : PaymentCheckout} (c_mem : c ∈ q.links) :
    Registrado (registrar h w action (step amb w action)) c := by
  cases passo_origem (step_passo amb w action) q mem with
  | mantido p p_mem same =>
      exact links.registrado (links.linhas p p_mem c (same.links ▸ c_mem))
  | cortado p p_mem ids same _ =>
      exact links.registrado (links.linhas p p_mem c (same.links ▸ c_mem))
  | juntado p p_mem _ rows total _ _ same =>
      exact links.registrado (links.linhas p p_mem c (same.links ▸ c_mem))
  | cobrado p p_mem ids row new _ same =>
      have both : c ∈ p.links ++ [row.semStatus] := by
        have := same.links ▸ c_mem
        simpa [Payment.links, Payment.comLink] using this
      rcases List.mem_append.mp both with old | here
      · exact links.registrado (links.linhas p p_mem c old)
      · obtain rfl := List.mem_singleton.mp here
        obtain ⟨i, resposta, d, pedido, rfl, found, rfl, _, made, reference, charged⟩ :=
          linkNovo_spec new
        refine ⟨⟨pedido, (step amb w (.resume i resposta)).db.vistos pedido.referenceId⟩, ?_,
          charged⟩
        have this : row.semStatus.referenceId = pedido.referenceId := reference
        simp only [registrar, made, this, Function.update_self]
  | inscrito role _ request id _ same =>
      exact absurd (same.links ▸ c_mem) List.not_mem_nil
  | comprado _ _ _ _ _ _ _ _ no_links => exact absurd (no_links ▸ c_mem) List.not_mem_nil

/-- Two requests that wait for a house have different references. -/
theorem LinksEmDia.outros_pedidos (links : LinksEmDia w h) {i : Nat} {task : Task}
    {pedido : HostedCheckoutRequest} (found : w.tasks[i]? = some task)
    (waits : task.pedido = some pedido) :
    ∀ other ∈ w.tasks.eraseIdx i, ∀ pedido' ∈ other.pedido,
      pedido'.referenceId ≠ pedido.referenceId := by
  intro other mem pedido' waits' same
  obtain ⟨inside, rfl⟩ := List.getElem?_eq_some_iff.mp found
  have perm := (List.getElem_cons_eraseIdx_perm inside).filterMap Task.pedido
  rw [List.filterMap_cons_some waits] at perm
  have nodup := (perm.map HostedCheckoutRequest.referenceId).nodup_iff.mpr links.distintos
  refine (List.nodup_cons.mp nodup).1 (List.mem_map.mpr ⟨pedido', ?_, same⟩)
  exact List.mem_filterMap.mpr ⟨other, mem, waits'⟩

theorem emEspera_sublist (w : World) (action : Action) : (w.emEspera action).Sublist w.tasks := by
  cases action with
  | resume i resposta => exact List.eraseIdx_sublist _ _
  | drop i => exact List.eraseIdx_sublist _ _
  | _ => exact List.Sublist.refl _

/-- A task after a step was there before it, or is new. -/
theorem mem_tasks_step {action : Action} {task : Task} (mem : task ∈ (step amb w action).tasks) :
    task ∈ w.tasks ∨ TarefaNova amb w action task := by
  obtain ⟨nova, tasks, new⟩ := step_tasks amb w action
  rcases List.mem_append.mp (tasks ▸ mem) with old | here
  · exact .inl ((emEspera_sublist w action).subset old)
  · exact .inr (new task (Option.mem_toList.mp here))

/-- A request that goes on waiting is still unknown to the history. -/
theorem LinksEmDia.pedido_emEspera (links : LinksEmDia w h) {action : Action} {depois : World}
    {task : Task} (mem : task ∈ w.emEspera action) {pedido : HostedCheckoutRequest}
    (waits : pedido ∈ task.pedido) : registrar h w action depois pedido.referenceId = none := by
  have unknown := (links.pedidos task ((emEspera_sublist w action).subset mem) pedido waits).2
  unfold registrar
  cases made : pedidoGravado w action with
  | none => exact unknown
  | some gravado =>
      obtain ⟨i, resposta, c, row, rfl, found, _⟩ := pedidoGravado_spec made
      have other := links.outros_pedidos found rfl task mem pedido waits
      simpa [Function.update_of_ne other] using unknown

/-- The rows that a new task holds are rows of the database, or of the task before it. -/
theorem LinksEmDia.copias_nova (links : LinksEmDia w h) {action : Action} {task : Task}
    (nova : TarefaNova amb w action task) : ∀ c ∈ task.links, Registrado h c := by
  have held : ∀ {lidos : List PagamentoLido},
      (∀ lido ∈ lidos, ∀ c ∈ lido.payment.links, Registrado h c) →
      ∀ c ∈ lidos.flatMap fun lido => lido.payment.links, Registrado h c := by
    intro lidos all c mem
    obtain ⟨lido, lido_mem, c_mem⟩ := List.mem_flatMap.mp mem
    exact all lido lido_mem c c_mem
  have before : ∀ {i : Nat} {task : Task}, w.tasks[i]? = some task → ∀ lido ∈ task.captura,
      ∀ c ∈ lido.payment.links, Registrado h c := fun found lido mem c c_mem =>
    links.copias _ (List.mem_of_getElem? found) c
      (List.mem_append_left _ (List.mem_flatMap.mpr ⟨lido, mem, c_mem⟩))
  intro c mem
  cases nova with
  | cobra ok =>
      refine held (fun lido lido_mem => ?_) c (by simpa [Task.links, Task.captura] using mem)
      exact links.linhas lido.payment (mem_aCobrar ok lido_mem).1
  | segue found left =>
      cases left with
      | reativou ok =>
          obtain ⟨reativado, r, _, _, outcome⟩ := reativarCheckout_ok ok
          obtain rfl := outcome _ rfl
          refine held (fun lido lido_mem => ?_) c (by simpa [Task.links, Task.captura] using mem)
          obtain ⟨old, old_mem, rfl⟩ := List.mem_map.mp lido_mem
          exact before found old (List.mem_of_mem_filter old_mem)
      | conferiu => exact held (before found) c (by simpa [Task.links, Task.captura] using mem)
      | pediu => exact held (before found) c (by simpa [Task.links, Task.captura] using mem)
      | reutiliza reuse =>
          rcases List.mem_append.mp mem with copy | link
          · exact held (before found) c copy
          · obtain rfl := List.mem_singleton.mp link
            obtain ⟨lido, lido_mem, checkout_mem⟩ := checkoutReutilizavel_spec reuse
            exact before found lido lido_mem c.semStatus (List.mem_map_of_mem checkout_mem)
      | _ => exact absurd mem List.not_mem_nil
  | _ => exact absurd mem List.not_mem_nil

/-- The charges of a new task are rows of the database, or charges of the task before it. -/
theorem LinksEmDia.rodadas_nova (links : LinksEmDia w h) {action : Action} {task : Task}
    (nova : TarefaNova amb w action task) : ∀ cobranca ∈ task.cobrancas, ∃ registro,
      h cobranca.referenceId = some registro ∧
        cobranca.chargedAmountCents = some registro.cobrado := by
  intro cobranca mem
  cases nova with
  | roda =>
      obtain ⟨p, p_mem, newest⟩ := List.mem_filterMap.mp (List.mem_of_mem_filter mem)
      obtain ⟨checkout, chosen, rfl⟩ := Option.map_eq_some_iff.mp newest
      exact links.linhas p (List.mem_of_mem_filter p_mem) checkout.semStatus
        (List.mem_map_of_mem (firstMax_mem chosen))
  | segue found left =>
      have before := links.rodadas _ (List.mem_of_getElem? found)
      cases left with
      | pulou => exact before cobranca (List.mem_cons_of_mem _ mem)
      | decidiu => exact before cobranca mem
      | gravou => exact before cobranca (List.mem_cons_of_mem _ mem)
      | _ => exact absurd mem List.not_mem_nil
  | _ => exact absurd mem List.not_mem_nil

/-- A new request takes the next id as its reference. -/
theorem pedido_novo {action : Action} {task : Task} (nova : TarefaNova amb w action task)
    {pedido : HostedCheckoutRequest} (waits : pedido ∈ task.pedido) :
    pedido.referenceId = w.db.nextId ∧ w.db.nextId < (step amb w action).db.nextId ∧
      pedidoGravado w action = none := by
  cases nova with
  | segue found left =>
      cases left with
      | pediu ok used =>
          obtain rfl := Option.mem_some_iff.mp waits
          refine ⟨(montarPedidoHosted_ok ok).1, ?_, ?_⟩
          · simp only [step, found, used]
            exact Nat.lt_succ_self _
          · simp [pedidoGravado, linkNovo, found]
      | _ => cases waits
  | _ => cases waits

/-- One step keeps every row and every copy in agreement with the history. -/
theorem linksEmDia_step (amb : Ambiente) (links : LinksEmDia w h) (action : Action) :
    LinksEmDia (step amb w action) (registrar h w action (step amb w action)) := by
  obtain ⟨nova, tasks, new⟩ := step_tasks amb w action
  have later := passo_nextId (step_passo amb w action)
  have waiting := (emEspera_sublist w action).subset
  refine ⟨fun q mem c => links.linhas_step mem, ?_, ?_, ?_, ?_, ?_⟩
  · intro task mem c c_mem
    refine links.registrado ?_
    rcases List.mem_append.mp (tasks ▸ mem) with old | here
    · exact links.copias task (waiting old) c c_mem
    · exact links.copias_nova (new task (Option.mem_toList.mp here)) c c_mem
  · intro task mem cobranca c_mem
    have known : ∃ registro, h cobranca.referenceId = some registro ∧
        cobranca.chargedAmountCents = some registro.cobrado := by
      rcases List.mem_append.mp (tasks ▸ mem) with old | here
      · exact links.rodadas task (waiting old) cobranca c_mem
      · exact links.rodadas_nova (new task (Option.mem_toList.mp here)) cobranca c_mem
    obtain ⟨registro, there, charged⟩ := known
    exact ⟨registro, links.registrar_of_some there, charged⟩
  · intro task mem pedido waits
    rcases List.mem_append.mp (tasks ▸ mem) with old | here
    · exact ⟨(links.pedidos task (waiting old) pedido waits).1.trans_le later,
        links.pedido_emEspera old waits⟩
    · obtain ⟨reference, used, none_made⟩ :=
          pedido_novo (new task (Option.mem_toList.mp here)) waits
      rw [reference, registrar, none_made]
      exact ⟨used, links.novas _ le_rfl⟩
  · rw [tasks, List.filterMap_append, List.map_append, List.nodup_append]
    refine ⟨links.distintos.sublist
      (((emEspera_sublist w action).filterMap Task.pedido).map _), ?_, ?_⟩
    · cases nova with
      | none => exact List.nodup_nil
      | some task => cases pedido : task.pedido <;> simp [pedido]
    · intro referenceId old referenceId' here same
      obtain ⟨pedido, pedido_mem, rfl⟩ := List.mem_map.mp old
      obtain ⟨task, task_mem, waits⟩ := List.mem_filterMap.mp pedido_mem
      obtain ⟨pedido', pedido'_mem, rfl⟩ := List.mem_map.mp here
      obtain ⟨task', task'_mem, waits'⟩ := List.mem_filterMap.mp pedido'_mem
      have before := (links.pedidos task (waiting task_mem) pedido waits).1
      have next := (pedido_novo (new task' (Option.mem_toList.mp task'_mem)) waits').1
      exact absurd (same.trans next) before.ne
  · intro referenceId unused
    have unknown := links.novas referenceId (later.trans unused)
    unfold registrar
    cases made : pedidoGravado w action with
    | none => exact unknown
    | some pedido =>
        obtain ⟨i, resposta, c, row, rfl, found, _⟩ := pedidoGravado_spec made
        have used := (links.pedidos _ (List.mem_of_getElem? found) pedido rfl).1
        have other : referenceId ≠ pedido.referenceId :=
          (used.trans_le (later.trans unused)).ne'
        simpa [Function.update_of_ne other] using unknown

end Step

end IccvBackend
