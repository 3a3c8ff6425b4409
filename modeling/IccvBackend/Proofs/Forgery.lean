/-
Module: IccvBackend.Proofs.Forgery
Purpose: What the body of a notification can decide: which question the house is asked.
Trusted boundary: none
Main exports: ApiDasCasas.cobrancas, MesmaResposta, SoConfirmado, CheckoutAssinado, DoisCodigos,
  naoForja_iff
-/
import IccvBackend.Lib.Fallible
import IccvBackend.Webhooks.Adapters

namespace IccvBackend

open Lib

/-!
A notification is read in two runs that ask the house the same question.  Each adapter is inverted
once: what a payment event says, and where it was read.  The reference is read from the question or
from the answer, but for one place: Ton falls back to the body for an order without a code.
-/

/-- The charges a house lists in its answer to a call. -/
def ApiDasCasas.cobrancas (api : ApiDasCasas) : Chamada → List GatewayCharge
  | .getCharges referenceId =>
      ((api.getCharges referenceId).toOption.getD []).map Pagbank.paraCharge
  | .getPayment paymentId =>
      (((api.getPayment paymentId).toOption.join.filter fun pagamento =>
        pagamento.externalReference.isSome).map fun pagamento =>
          MercadoPago.paraCharge pagamento.toPagamento).toList
  | .paymentCheck consulta =>
      (((api.paymentCheck consulta).toOption.join.filter InfinitePay.Conferencia.success).map
        (InfinitePay.paraCharge api.agora)).toList
  | .ton (.getOrder orderId) =>
      (((api.getOrder orderId).toOption.join.bind Ton.Order.charges).getD []).map Ton.paraCharge
  | .ton (.findOrdersByCode code) =>
      ((((api.findOrdersByCode code).toOption.bind List.head?).bind Ton.Order.charges).getD []).map
        Ton.paraCharge

section Leis

variable (hash : Hashes) (cred : Credenciais) (api : ApiDasCasas)

/-- Two verified requests that ask the same question and both report a payment report the same
one. -/
def MesmaResposta (a b : Notificacao) : Prop :=
  a.verifyWebhook hash cred = true → b.verifyWebhook hash cred = true →
    ∀ chamada, a.chamada = some chamada → b.chamada = some chamada →
      ∀ referenceId status method paid payload referenceId' status' method' paid' payload',
        a.parseWebhook hash cred api = .ok (.payment referenceId status method paid payload) →
        b.parseWebhook hash cred api = .ok (.payment referenceId' status' method' paid' payload') →
          referenceId = referenceId' ∧ status = status' ∧ method = method' ∧ paid = paid'

/-- A payment is only reported from a charge the house listed when it was asked. -/
def SoConfirmado (a : Notificacao) : Prop :=
  ∀ referenceId status method paid payload,
    a.parseWebhook hash cred api = .ok (.payment referenceId status method paid payload) →
      ∃ chamada, a.chamada = some chamada ∧ ∃ charge ∈ api.cobrancas chamada,
        charge.status = status ∧ charge.method = method ∧ charge.paidAmountCents = paid

/-- A checkout is only reported by a PagBank request that carries the hash of token and body; hex
digits are compared without case. -/
def CheckoutAssinado (a : Notificacao) : Prop :=
  ∀ checkoutId status, a.parseWebhook hash cred api = .ok (.checkout checkoutId status) →
    ∃ req, a = .pagbank req ∧
      toLowerCase (req.cabecalho "x-authenticity-token") =
        toLowerCase (hash.sha256 (trim cred.token ++ "-" ++ req.rawBody))

/-- Two verified Ton requests that point by id at one order with a charge and without a code, and
give two different codes for it. -/
def DoisCodigos (a b : Notificacao) : Prop :=
  ∃ ra rb, a = .ton ra ∧ b = .ton rb ∧ a.verifyWebhook hash cred = true ∧
    b.verifyWebhook hash cred = true ∧
    ∃ orderId pedido code code',
      Ton.consultaPedida ra.body = some (.getOrder orderId) ∧
      Ton.consultaPedida rb.body = some (.getOrder orderId) ∧
      api.getOrder orderId = .ok (some pedido) ∧ pedido.code = none ∧
      pedido.charges.getD [] ≠ [] ∧ ra.body.code.or ra.body.orderCode = some code ∧
      rb.body.code.or rb.body.orderCode = some code' ∧ code ≠ code'

end Leis

/-! ### What a payment event says -/

namespace Pagbank

/-- The charge chosen is one of the charges. -/
theorem escolherCobranca_mem {charges : List GatewayCharge} {charge : GatewayCharge}
    (chosen : escolherCobranca charges = some charge) : charge ∈ charges := by
  rcases Option.or_eq_some_iff.mp chosen with paid | ⟨_, newest⟩
  · exact List.mem_of_find?_eq_some paid
  · exact (List.mem_insertionSort _).mp (List.mem_of_mem_head? newest)

/-- A notification is a notice of a checkout, or is answered from its reference. -/
theorem parseWebhook_cases (assinatura : Bool) (getCharges : Id → Except GatewayError (List Charge))
    (body : Notification) :
    (∃ status id, Notification.referencia body = none ∧ parseWebhook assinatura getCharges body =
      pure (if assinatura then .checkout id (mapearStatusDeCheckout status)
        else .ignored "aviso de checkout sem assinatura válida")) ∨
      parseWebhook assinatura getCharges body =
        match Notification.referencia body with
        | none => pure (.ignored "notificação sem referência")
        | some referenceId =>
            (listCharges getCharges referenceId).map (eventoDaReferencia referenceId) := by
  obtain ⟨charges, status, id, referenceId⟩ := body
  cases charges with
  | some charges => exact .inr rfl
  | none =>
      cases status with
      | none => exact .inr rfl
      | some status =>
          cases id with
          | none => exact .inr rfl
          | some id => exact .inl ⟨status, id, rfl, by cases assinatura <;> rfl⟩

theorem parseWebhook_payment {assinatura : Bool}
    {getCharges : Id → Except GatewayError (List Charge)} {body : Notification} {referenceId : Id}
    {status : PaymentStatus} {method : PaymentMethod} {paid : Option Nat} {payload : Json}
    (event : parseWebhook assinatura getCharges body =
      .ok (.payment referenceId status method paid payload)) :
    Notification.referencia body = some referenceId ∧ ∃ charges escolhida,
      getCharges referenceId = .ok charges ∧
        escolherCobranca (charges.map paraCharge) = some escolhida ∧
        escolhida.status = status ∧ escolhida.method = method ∧
        escolhida.paidAmountCents = paid := by
  rcases parseWebhook_cases assinatura getCharges body with ⟨_, _, _, notice⟩ | asked
  · rw [notice] at event
    split at event <;> exact nomatch event
  · rw [asked] at event
    cases points : Notification.referencia body with
    | none => simp only [points] at event; exact nomatch event
    | some referenceId' =>
        simp only [points] at event
        obtain ⟨lista, listed, same⟩ := except_map_eq_ok_iff.mp event
        obtain ⟨charges, answered, rfl⟩ := except_map_eq_ok_iff.mp listed
        unfold eventoDaReferencia at same
        split at same
        · exact nomatch same
        · next escolhida chosen =>
            obtain ⟨rfl, rfl, rfl, rfl, rfl⟩ := GatewayWebhookEvent.payment.inj same
            exact ⟨rfl, charges, escolhida, answered, chosen, rfl, rfl, rfl⟩

theorem parseWebhook_checkout {assinatura : Bool}
    {getCharges : Id → Except GatewayError (List Charge)} {body : Notification} {checkoutId : Id}
    {status : CheckoutStatus}
    (event : parseWebhook assinatura getCharges body = .ok (.checkout checkoutId status)) :
    assinatura = true := by
  rcases parseWebhook_cases assinatura getCharges body with ⟨_, _, _, notice⟩ | asked
  · rw [notice] at event
    split at event
    · next signed => exact signed
    · exact nomatch event
  · rw [asked] at event
    split at event
    · exact nomatch event
    · obtain ⟨lista, _, same⟩ := except_map_eq_ok_iff.mp event
      unfold eventoDaReferencia at same
      split at same <;> exact nomatch same

end Pagbank

theorem MercadoPago.parseWebhook_event
    {getPayment : String → Except GatewayError (Option MercadoPago.PagamentoObtido)}
    {body : MercadoPago.Notification} {event : GatewayWebhookEvent}
    (read : MercadoPago.parseWebhook getPayment body = .ok event) :
    (∃ reason, event = .ignored reason) ∨ ∃ paymentId pagamento referenceId,
      MercadoPago.pagamentoPedido body = some paymentId ∧
        getPayment paymentId = .ok (some pagamento) ∧
        pagamento.externalReference = some referenceId ∧
        event = .payment referenceId (MercadoPago.paraCharge pagamento.toPagamento).status
          (MercadoPago.paraCharge pagamento.toPagamento).method
          (MercadoPago.paraCharge pagamento.toPagamento).paidAmountCents
          (MercadoPago.paraCharge pagamento.toPagamento).payload := by
  unfold MercadoPago.parseWebhook at read
  dsimp only at read
  split at read
  · exact .inl ⟨_, (pure_eq_ok_iff.mp read).symm⟩
  · next payment =>
      split at read
      · exact .inl ⟨_, (pure_eq_ok_iff.mp read).symm⟩
      · next some_id =>
          rw [bind_eq_ok_iff] at read
          obtain ⟨pagamento, answered, rest⟩ := read
          split at rest
          · exact .inl ⟨_, (pure_eq_ok_iff.mp rest).symm⟩
          · next pagamento =>
              split at rest
              · exact .inl ⟨_, (pure_eq_ok_iff.mp rest).symm⟩
              · next referenceId points =>
                  refine .inr ⟨_, pagamento, referenceId, ?_, answered, points,
                    (pure_eq_ok_iff.mp rest).symm⟩
                  exact if_pos ⟨not_not.mp payment, some_id⟩

theorem InfinitePay.parseWebhook_event {now : Instant}
    {paymentCheck : InfinitePay.Consulta → Except GatewayError (Option InfinitePay.Conferencia)}
    {body : InfinitePay.Notification} {event : GatewayWebhookEvent}
    (read : InfinitePay.parseWebhook now paymentCheck body = .ok event) :
    (∃ reason, event = .ignored reason) ∨ ∃ consulta conferencia payload,
      InfinitePay.consultaPedida body = some consulta ∧
        paymentCheck consulta = .ok (some conferencia) ∧ conferencia.success = true ∧
        event = .payment consulta.orderNsu (InfinitePay.paraCharge now conferencia).status
          (InfinitePay.paraCharge now conferencia).method
          (InfinitePay.paraCharge now conferencia).paidAmountCents payload := by
  unfold InfinitePay.parseWebhook at read
  split at read
  · exact .inl ⟨_, (pure_eq_ok_iff.mp read).symm⟩
  · next consulta asked =>
      rw [bind_eq_ok_iff] at read
      obtain ⟨answer, answered, rest⟩ := read
      split at rest
      · exact .inl ⟨_, (pure_eq_ok_iff.mp rest).symm⟩
      · next conferencia confirmed =>
          obtain ⟨rfl, success⟩ := Option.filter_eq_some_iff.mp confirmed
          exact .inr ⟨consulta, conferencia, _, asked, answered, success,
            (pure_eq_ok_iff.mp rest).symm⟩

namespace Ton

/-- The charge chosen is one of the charges. -/
theorem escolherCobranca_mem {charges : List Charge} {charge : Charge}
    (chosen : escolherCobranca charges = some charge) : charge ∈ charges := by
  rcases Option.or_eq_some_iff.mp chosen with paid | ⟨_, newest⟩
  · exact List.mem_of_find?_eq_some paid
  · exact (List.mem_insertionSort _).mp (List.mem_of_mem_head? newest)

/-- Some charge is chosen where there is one. -/
theorem escolherCobranca_isSome {charges : List Charge} (some_charge : charges ≠ []) :
    ∃ charge, escolherCobranca charges = some charge := by
  cases chosen : escolherCobranca charges with
  | some charge => exact ⟨charge, rfl⟩
  | none =>
      obtain ⟨_, no_head⟩ := Option.or_eq_none_iff.mp chosen
      have length := List.length_insertionSort (fun a b : Charge =>
        b.createdAt ≤ a.createdAt) charges
      rw [List.head?_eq_none_iff.mp no_head] at length
      exact absurd (List.length_eq_zero_iff.mp length.symm) some_charge

/-- The order a question is answered with. -/
def pedidoDe (getOrder : Id → Except GatewayError (Option Order))
    (findOrdersByCode : Id → Except GatewayError (List Order)) :
    Consulta → Except GatewayError (Option Order)
  | .getOrder orderId => getOrder orderId
  | .findOrdersByCode code => (findOrdersByCode code).map List.head?

/-- What a notification is read as, by the order its question is answered with. -/
def eventoDoPedido (code : Option Id) (pedido : Option Order) : GatewayWebhookEvent :=
  match pedido with
  | none => .ignored "pedido não encontrado na Ton"
  | some pedido =>
      match pedido.code.or code with
      | none => .ignored "pedido sem referência deste sistema"
      | some referenceId =>
          match escolherCobranca (pedido.charges.getD []) with
          | none => .ignored "pedido ainda sem cobrança"
          | some escolhida =>
              .payment referenceId (paraCharge escolhida).status (paraCharge escolhida).method
                (paraCharge escolhida).paidAmountCents (paraCharge escolhida).payload

/-- A notification that asks nothing is ignored; another is read from the answer. -/
theorem parseWebhook_cases (getOrder : Id → Except GatewayError (Option Order))
    (findOrdersByCode : Id → Except GatewayError (List Order)) (body : Notification) :
    (consultaPedida body = none ∧
        ∃ reason, parseWebhook getOrder findOrdersByCode body = .ok (.ignored reason)) ∨
      ∃ consulta, consultaPedida body = some consulta ∧
        parseWebhook getOrder findOrdersByCode body =
          (pedidoDe getOrder findOrdersByCode consulta).map
            (eventoDoPedido (body.code.or body.orderCode)) := by
  unfold consultaPedida parseWebhook
  by_cases other : (!("order.".isPrefixOf body.type || "charge.".isPrefixOf body.type)) = true
  · rw [if_pos other, if_pos other]
    exact .inl ⟨rfl, _, rfl⟩
  · rw [if_neg other, if_neg other]
    cases body.orderId.or body.id with
    | some orderId =>
        refine .inr ⟨.getOrder orderId, rfl, ?_⟩
        simp only [pedidoDe]
        rcases getOrder orderId with _ | _ | pedido
        · rfl
        · rfl
        · simp only [Except.map, eventoDoPedido, bind, Except.bind]
          cases pedido.code.or (body.code.or body.orderCode) with
          | none => rfl
          | some referenceId => cases escolherCobranca (pedido.charges.getD []) <;> rfl
    | none =>
        cases body.code.or body.orderCode with
        | none => exact .inl ⟨rfl, _, rfl⟩
        | some code =>
            refine .inr ⟨.findOrdersByCode code, rfl, ?_⟩
            simp only [pedidoDe]
            rcases findOrdersByCode code with _ | _ | ⟨pedido, others⟩
            · rfl
            · rfl
            · simp only [Except.map, eventoDoPedido, List.head?_cons, bind, Except.bind, pure,
                Except.pure]
              cases pedido.code.or (some code) with
              | none => rfl
              | some referenceId => cases escolherCobranca (pedido.charges.getD []) <;> rfl

/-- What a payment event of an order says. -/
theorem eventoDoPedido_payment {code : Option Id} {pedido : Option Order} {referenceId : Id}
    {status : PaymentStatus} {method : PaymentMethod} {paid : Option Nat} {payload : Json}
    (event : eventoDoPedido code pedido = .payment referenceId status method paid payload) :
    ∃ order escolhida, pedido = some order ∧ order.code.or code = some referenceId ∧
      escolherCobranca (order.charges.getD []) = some escolhida ∧
      (paraCharge escolhida).status = status ∧ (paraCharge escolhida).method = method ∧
      (paraCharge escolhida).paidAmountCents = paid := by
  unfold eventoDoPedido at event
  split at event
  · exact nomatch event
  · next order =>
      split at event
      · exact nomatch event
      · next referenceId' points =>
          split at event
          · exact nomatch event
          · next escolhida chosen =>
              obtain ⟨rfl, rfl, rfl, rfl, _⟩ := GatewayWebhookEvent.payment.inj event
              exact ⟨order, escolhida, rfl, points, chosen, rfl, rfl, rfl⟩

theorem eventoDoPedido_ne_checkout {code : Option Id} {pedido : Option Order} {checkoutId : Id}
    {status : CheckoutStatus} : eventoDoPedido code pedido ≠ .checkout checkoutId status := by
  unfold eventoDoPedido
  split
  · nofun
  · split
    · nofun
    · split <;> nofun

theorem parseWebhook_payment {getOrder : Id → Except GatewayError (Option Order)}
    {findOrdersByCode : Id → Except GatewayError (List Order)} {body : Notification}
    {referenceId : Id} {status : PaymentStatus} {method : PaymentMethod} {paid : Option Nat}
    {payload : Json} (event : parseWebhook getOrder findOrdersByCode body =
      .ok (.payment referenceId status method paid payload)) :
    ∃ consulta order escolhida, consultaPedida body = some consulta ∧
      pedidoDe getOrder findOrdersByCode consulta = .ok (some order) ∧
      order.code.or (body.code.or body.orderCode) = some referenceId ∧
      escolherCobranca (order.charges.getD []) = some escolhida ∧
      (paraCharge escolhida).status = status ∧ (paraCharge escolhida).method = method ∧
      (paraCharge escolhida).paidAmountCents = paid := by
  rcases parseWebhook_cases getOrder findOrdersByCode body with
    ⟨_, _, ignored⟩ | ⟨consulta, asked, read⟩
  · exact nomatch ignored.symm.trans event
  · obtain ⟨pedido, answered, same⟩ := except_map_eq_ok_iff.mp (read.symm.trans event)
    obtain ⟨order, escolhida, rfl, rest⟩ := eventoDoPedido_payment same
    exact ⟨consulta, order, escolhida, asked, answered, rest⟩

/-- A question by code is of one code. -/
theorem code_of_consulta {body : Notification} {code : Id}
    (asked : consultaPedida body = some (.findOrdersByCode code)) :
    body.code.or body.orderCode = some code := by
  unfold consultaPedida at asked
  split at asked
  · exact nomatch asked
  · split at asked
    · exact nomatch asked
    · next found => rw [found, Consulta.findOrdersByCode.inj (Option.some.inj asked)]
    · exact nomatch asked

end Ton

/-! ### The three properties -/

section Adaptadores

variable (hash : Hashes) (cred : Credenciais) (api : ApiDasCasas)

theorem soConfirmado (a : Notificacao) : SoConfirmado hash cred api a := by
  intro referenceId status method paid payload event
  cases a with
  | pagbank req =>
      obtain ⟨points, charges, escolhida, answered, chosen, same⟩ :=
        Pagbank.parseWebhook_payment event
      refine ⟨.getCharges referenceId, ?_, escolhida, ?_, same⟩
      · rw [Notificacao.chamada, points]
        rfl
      · simpa [ApiDasCasas.cobrancas, answered, Except.toOption] using
          Pagbank.escolherCobranca_mem chosen
  | mercadoPago req =>
      rcases MercadoPago.parseWebhook_event event with ⟨_, ignored⟩ |
        ⟨paymentId, pagamento, referenceId', asked, answered, points, same⟩
      · exact nomatch ignored
      · obtain ⟨rfl, rfl, rfl, rfl, rfl⟩ := GatewayWebhookEvent.payment.inj same
        refine ⟨.getPayment paymentId, ?_, MercadoPago.paraCharge pagamento.toPagamento, ?_, rfl,
          rfl, rfl⟩
        · rw [Notificacao.chamada, asked]
          rfl
        · simp [ApiDasCasas.cobrancas, answered, Except.toOption, points, Option.filter]
  | infinitepay req =>
      rcases InfinitePay.parseWebhook_event event with ⟨_, ignored⟩ |
        ⟨consulta, conferencia, payload', asked, answered, success, same⟩
      · exact nomatch ignored
      · obtain ⟨rfl, rfl, rfl, rfl, rfl⟩ := GatewayWebhookEvent.payment.inj same
        refine ⟨.paymentCheck consulta, ?_, InfinitePay.paraCharge api.agora conferencia, ?_, rfl,
          rfl, rfl⟩
        · rw [Notificacao.chamada, asked]
          rfl
        · simp [ApiDasCasas.cobrancas, answered, Except.toOption, success, Option.filter]
  | ton req =>
      obtain ⟨consulta, order, escolhida, asked, answered, _, chosen, same⟩ :=
        Ton.parseWebhook_payment event
      refine ⟨.ton consulta, ?_, Ton.paraCharge escolhida, ?_, same⟩
      · rw [Notificacao.chamada, asked]
        rfl
      · have listed := Ton.escolherCobranca_mem chosen
        cases consulta with
        | getOrder orderId =>
            simp only [Ton.pedidoDe] at answered
            simp only [ApiDasCasas.cobrancas, answered]
            exact List.mem_map_of_mem listed
        | findOrdersByCode code =>
            obtain ⟨orders, found, head⟩ := except_map_eq_ok_iff.mp answered
            simp only [ApiDasCasas.cobrancas, found, Except.toOption, Option.bind_some, head]
            exact List.mem_map_of_mem listed

theorem checkoutAssinado (a : Notificacao) : CheckoutAssinado hash cred api a := by
  intro checkoutId status event
  cases a with
  | pagbank req =>
      have signed := Pagbank.parseWebhook_checkout event
      simp only [assinaturaPagbank, Pagbank.assinaturaConfere, Bool.and_eq_true,
        decide_eq_true_eq] at signed
      exact ⟨req, rfl, signed.2⟩
  | mercadoPago req =>
      rcases MercadoPago.parseWebhook_event event with ⟨_, ignored⟩ | ⟨_, _, _, _, _, _, same⟩
      · exact nomatch ignored
      · exact nomatch same
  | infinitepay req =>
      rcases InfinitePay.parseWebhook_event event with ⟨_, ignored⟩ | ⟨_, _, _, _, _, _, same⟩
      · exact nomatch ignored
      · exact nomatch same
  | ton req =>
      rcases Ton.parseWebhook_cases api.getOrder api.findOrdersByCode req.body with
        ⟨_, _, ignored⟩ | ⟨consulta, _, read⟩
      · exact nomatch ignored.symm.trans event
      · obtain ⟨pedido, _, same⟩ := except_map_eq_ok_iff.mp (read.symm.trans event)
        exact absurd same Ton.eventoDoPedido_ne_checkout

/-- Two Ton requests with the same question and different references give two codes for one order
without a code. -/
theorem mesmaResposta_ton {ra rb : WebhookRequest Ton.Notification}
    (unico : ¬ DoisCodigos hash cred api (.ton ra) (.ton rb)) :
    MesmaResposta hash cred api (.ton ra) (.ton rb) := by
  intro verified verified' chamada asks asks' r s m p payload r' s' m' p' payload' event event'
  obtain ⟨consulta, order, escolhida, asked, answered, points, chosen, rfl, rfl, rfl⟩ :=
    Ton.parseWebhook_payment event
  obtain ⟨consulta', order', escolhida', asked', answered', points', chosen', rfl, rfl, rfl⟩ :=
    Ton.parseWebhook_payment event'
  simp only [Notificacao.chamada, asked, Option.map_some] at asks
  simp only [Notificacao.chamada, asked', Option.map_some] at asks'
  obtain rfl := Chamada.ton.inj (Option.some.inj (asks.trans asks'.symm))
  obtain rfl := Option.some.inj (Except.ok.inj (answered.symm.trans answered'))
  obtain rfl := Option.some.inj (chosen.symm.trans chosen')
  refine ⟨?_, rfl, rfl, rfl⟩
  cases code : order.code with
  | some code =>
      simp only [code, Option.some_or] at points points'
      exact Option.some.inj (points.symm.trans points')
  | none =>
      simp only [code, Option.none_or] at points points'
      cases consulta with
      | findOrdersByCode code =>
          have first := Ton.code_of_consulta asked
          have second := Ton.code_of_consulta asked'
          exact Option.some.inj (points.symm.trans (first.trans (second.symm.trans points')))
      | getOrder orderId =>
          by_contra different
          refine unico ⟨ra, rb, rfl, rfl, verified, verified', orderId, order, r, r', asked, asked',
            answered, code, ?_, points, points', different⟩
          intro no_charge
          rw [no_charge] at chosen
          exact absurd (Ton.escolherCobranca_mem chosen) List.not_mem_nil

/-- Two notifications, the first of PagBank, with the same question report the same. -/
theorem mesmaResposta_pagbank (ra : WebhookRequest Pagbank.Notification) (b : Notificacao) :
    MesmaResposta hash cred api (.pagbank ra) b := by
  intro _ _ chamada asks asks' r s m p payload r' s' m' p' payload' event event'
  obtain ⟨points, charges, escolhida, answered, chosen, rfl, rfl, rfl⟩ :=
    Pagbank.parseWebhook_payment event
  simp only [Notificacao.chamada, points, Option.map_some, Option.some.injEq] at asks
  subst asks
  cases b with
  | pagbank rb =>
      obtain ⟨points', charges', escolhida', answered', chosen', rfl, rfl, rfl⟩ :=
        Pagbank.parseWebhook_payment event'
      simp only [Notificacao.chamada, points', Option.map_some, Option.some.injEq,
        Chamada.getCharges.injEq] at asks'
      subst asks'
      obtain rfl := Except.ok.inj (answered.symm.trans answered')
      obtain rfl := Option.some.inj (chosen.symm.trans chosen')
      exact ⟨rfl, rfl, rfl, rfl⟩
  | _ => simp [Notificacao.chamada] at asks'

theorem mesmaResposta_mercadoPago (ra : WebhookRequest MercadoPago.Notification)
    (b : Notificacao) : MesmaResposta hash cred api (.mercadoPago ra) b := by
  intro _ _ chamada asks asks' r s m p payload r' s' m' p' payload' event event'
  rcases MercadoPago.parseWebhook_event event with ⟨_, ignored⟩ |
    ⟨paymentId, pagamento, _, asked, answered, points, same⟩
  · exact nomatch ignored
  · simp only [Notificacao.chamada, asked, Option.map_some, Option.some.injEq] at asks
    subst asks
    cases b with
    | mercadoPago rb =>
        rcases MercadoPago.parseWebhook_event event' with ⟨_, ignored⟩ |
          ⟨paymentId', pagamento', _, asked', answered', points', same'⟩
        · exact nomatch ignored
        · simp only [Notificacao.chamada, asked', Option.map_some, Option.some.injEq,
            Chamada.getPayment.injEq] at asks'
          subst asks'
          obtain rfl := Option.some.inj (Except.ok.inj (answered.symm.trans answered'))
          obtain rfl := Option.some.inj (points.symm.trans points')
          obtain ⟨rfl, rfl, rfl, rfl, _⟩ := GatewayWebhookEvent.payment.inj same
          obtain ⟨rfl, rfl, rfl, rfl, _⟩ := GatewayWebhookEvent.payment.inj same'
          exact ⟨rfl, rfl, rfl, rfl⟩
    | _ => simp [Notificacao.chamada] at asks'

theorem mesmaResposta_infinitepay (ra : WebhookRequest InfinitePay.Notification)
    (b : Notificacao) : MesmaResposta hash cred api (.infinitepay ra) b := by
  intro _ _ chamada asks asks' r s m p payload r' s' m' p' payload' event event'
  rcases InfinitePay.parseWebhook_event event with ⟨_, ignored⟩ |
    ⟨consulta, conferencia, _, asked, answered, _, same⟩
  · exact nomatch ignored
  · simp only [Notificacao.chamada, asked, Option.map_some, Option.some.injEq] at asks
    subst asks
    cases b with
    | infinitepay rb =>
        rcases InfinitePay.parseWebhook_event event' with ⟨_, ignored⟩ |
          ⟨consulta', conferencia', _, asked', answered', _, same'⟩
        · exact nomatch ignored
        · simp only [Notificacao.chamada, asked', Option.map_some, Option.some.injEq,
            Chamada.paymentCheck.injEq] at asks'
          subst asks'
          obtain rfl := Option.some.inj (Except.ok.inj (answered.symm.trans answered'))
          obtain ⟨rfl, rfl, rfl, rfl, _⟩ := GatewayWebhookEvent.payment.inj same
          obtain ⟨rfl, rfl, rfl, rfl, _⟩ := GatewayWebhookEvent.payment.inj same'
          exact ⟨rfl, rfl, rfl, rfl⟩
    | _ => simp [Notificacao.chamada] at asks'

/-- The same question gives the same report, two codes for one Ton order apart. -/
theorem mesmaResposta_of_not_doisCodigos {a b : Notificacao}
    (unico : ¬ DoisCodigos hash cred api a b) : MesmaResposta hash cred api a b := by
  cases a with
  | pagbank ra => exact mesmaResposta_pagbank hash cred api ra b
  | mercadoPago ra => exact mesmaResposta_mercadoPago hash cred api ra b
  | infinitepay ra => exact mesmaResposta_infinitepay hash cred api ra b
  | ton ra =>
      cases b with
      | ton rb => exact mesmaResposta_ton hash cred api unico
      | _ =>
          intro _ _ chamada asks asks' r s m p payload r' s' m' p' payload' event event'
          obtain ⟨consulta, _, _, asked, _⟩ := Ton.parseWebhook_payment event
          simp only [Notificacao.chamada, asked, Option.map_some, Option.some.injEq] at asks
          subst asks
          simp [Notificacao.chamada] at asks'

/-- What a Ton request with a code is told of an order without one. -/
theorem parseWebhook_ton_semCodigo {req : WebhookRequest Ton.Notification} {orderId : Id}
    {pedido : Ton.Order} {charge : Ton.Charge} {given : Id}
    (answered : api.getOrder orderId = .ok (some pedido)) (no_code : pedido.code = none)
    (chosen : Ton.escolherCobranca (pedido.charges.getD []) = some charge)
    (question : Ton.consultaPedida req.body = some (.getOrder orderId))
    (gives : req.body.code.or req.body.orderCode = some given) :
    Notificacao.parseWebhook hash cred api (.ton req) =
      .ok (.payment given (Ton.paraCharge charge).status (Ton.paraCharge charge).method
        (Ton.paraCharge charge).paidAmountCents (Ton.paraCharge charge).payload) := by
  rcases Ton.parseWebhook_cases api.getOrder api.findOrdersByCode req.body with
    ⟨none_asked, _⟩ | ⟨consulta, asked, read⟩
  · exact nomatch none_asked.symm.trans question
  · obtain rfl := Option.some.inj (asked.symm.trans question)
    refine read.trans ?_
    simp only [Ton.pedidoDe, answered, Except.map, Ton.eventoDoPedido, no_code, Option.none_or,
      gives, chosen]

theorem chamada_ton {req : WebhookRequest Ton.Notification} {consulta : Ton.Consulta}
    (question : Ton.consultaPedida req.body = some consulta) :
    Notificacao.chamada (.ton req) = some (.ton consulta) := by
  rw [Notificacao.chamada, question]
  rfl

/-- **No forgery.**  A body only chooses the question, what is reported comes from the answer, and a
checkout is only reported with the hash, exactly when the two requests do not give two codes for a
Ton order without one. -/
theorem naoForja_iff (a b : Notificacao) :
    (MesmaResposta hash cred api a b ∧
      (SoConfirmado hash cred api a ∧ SoConfirmado hash cred api b) ∧
        CheckoutAssinado hash cred api a ∧ CheckoutAssinado hash cred api b) ↔
      ¬ DoisCodigos hash cred api a b := by
  constructor
  · rintro ⟨same, _⟩ ⟨ra, rb, rfl, rfl, verified, verified', orderId, pedido, code, code', asked,
      asked', answered, no_code, some_charge, gives, gives', different⟩
    obtain ⟨charge, chosen⟩ := Ton.escolherCobranca_isSome some_charge
    exact different (same verified verified' _ (chamada_ton asked) (chamada_ton asked')
      _ _ _ _ _ _ _ _ _ _
      (parseWebhook_ton_semCodigo hash cred api answered no_code chosen asked gives)
      (parseWebhook_ton_semCodigo hash cred api answered no_code chosen asked' gives')).1
  · intro unico
    exact ⟨mesmaResposta_of_not_doisCodigos hash cred api unico,
      ⟨soConfirmado hash cred api a, soConfirmado hash cred api b⟩,
      checkoutAssinado hash cred api a, checkoutAssinado hash cred api b⟩

end Adaptadores

/-! ### The order without a code -/

namespace Loja

/-- Houses that know nothing, and an order of the church's account that was paid and has no code. -/
def pedidoSemCodigo : ApiDasCasas where
  agora := 1000
  getCharges := fun _ => .error .resourceNotFound
  getPayment := fun _ => .ok none
  paymentCheck := fun _ => .ok none
  getOrder := fun orderId => .ok (if orderId = 900 then
    some
      { id := 900
        code := none
        charges := some
          [{ id := "ch_1", status := some "paid", paymentMethod := some "pix", createdAt := 1000,
             paidAmount := some 10000, amount := some 10000, receipt := none }] }
    else none)
  findOrdersByCode := fun _ => .ok []

/-- A post that names that order and a code of its own choice. -/
def avisoTon (code : Id) : Notificacao :=
  .ton
    { headers := []
      rawBody := ""
      body :=
        { type := "order.paid", code := some code, id := some 900, orderCode := none,
          orderId := none } }

end Loja

/-- Without a webhook secret, two posts about one order pay two references. -/
theorem not_naoForja_ton :
    ¬ ∀ (hash : Hashes) (cred : Credenciais) (api : ApiDasCasas) (a b : Notificacao),
      MesmaResposta hash cred api a b := by
  intro always
  have same := always ⟨id, fun _ => id⟩ ⟨"", none⟩ Loja.pedidoSemCodigo (Loja.avisoTon 101)
    (Loja.avisoTon 102) (by decide +kernel) (by decide +kernel) (.ton (.getOrder 900))
    (by decide +kernel) (by decide +kernel) 101 .paid .pix (some 10000)
    [("payment_method", "pix"), ("codeTransaction", "ch_1"), ("receipt", "")]
    102 .paid .pix (some 10000)
    [("payment_method", "pix"), ("codeTransaction", "ch_1"), ("receipt", "")]
    (by decide +kernel) (by decide +kernel)
  exact absurd same.1 (by decide)

end IccvBackend
