/-
Module: IccvBackend.Proofs.Acknowledged
Purpose: When a notification that is acknowledged was dealt with.
Trusted boundary: none
Main exports: Tratada, RespondeuCerto, PodeReceber, respondeuCerto_iff
-/
import IccvBackend.Proofs.Isolation
import IccvBackend.Webhooks.Reply

namespace IccvBackend

open Lib

/-! ### The law -/

/-- There are rows of the notification, and their payments have the status. -/
def PagamentosEm (db : Database) (notice : PaymentNotice) (status : PaymentStatus) : Prop :=
  db.checkoutsWhere (notice.selects db) ≠ [] ∧
    ∀ row ∈ db.checkoutsWhere (notice.selects db), row.1.status = status

/-- There are checkouts of the notification, and they have the status. -/
def CheckoutsEm (db : Database) (checkoutId : Id) (escopo : Option EscopoDaCasa)
    (status : CheckoutStatus) : Prop :=
  db.checkoutsWhere (selectsCheckout checkoutId escopo db) ≠ [] ∧
    ∀ row ∈ db.checkoutsWhere (selectsCheckout checkoutId escopo db), row.2.status = status

/-- The notified status is stored, after the check of the value, or the payments were paid. -/
def Tratada (antes depois : Database) (config : PaymentProviderConfig) : GatewayWebhookEvent → Prop
  | .ignored _ => False
  | .checkout checkoutId status =>
      CheckoutsEm depois checkoutId (some (escopoDaConfig config)) status
  | .payment referenceId status method paidAmountCents payload =>
      let notice := avisoDePagamento config referenceId status method paidAmountCents payload
      PagamentosEm antes notice .paid ∨
        ∃ first ∈ (antes.checkoutsWhere (notice.selects antes)).head?,
          PagamentosEm depois notice (statusConferido notice first)

/-- What is acknowledged without a reason to ignore it was dealt with; the rest is an error. -/
def RespondeuCerto (antes : Database) (config : PaymentProviderConfig) (leitura : Leitura)
    (saida : Database × RespostaDaNotificacao) : Prop :=
  (∃ failure, saida.2 = .erro failure) ∨
    (∃ reason, saida.2 = .ignorada reason ∧ leitura.parseWebhook = .ok (.ignored reason)) ∨
      (saida.2 = .recebida ∧
        ∃ evento, leitura.parseWebhook = .ok evento ∧ Tratada antes saida.1 config evento)

/-- The rows are there and no step of the transaction fails; or they have the status already.  Of
the payments, the first one decides whether there is something to write. -/
def PodeReceber (falhas : Falhas) (db : Database) (config : PaymentProviderConfig) :
    GatewayWebhookEvent → Prop
  | .ignored _ => True
  | .checkout checkoutId status =>
      let escopo := some (escopoDaConfig config)
      CheckoutsEm db checkoutId escopo status ∨
        (db.checkoutsWhere (selectsCheckout checkoutId escopo db) ≠ [] ∧
          ∀ passo ∈ passosDoCheckout db checkoutId escopo, falhas passo = none)
  | .payment referenceId status method paidAmountCents payload =>
      let notice := avisoDePagamento config referenceId status method paidAmountCents payload
      PagamentosEm db notice .paid ∨
        ∃ first ∈ (db.checkoutsWhere (notice.selects db)).head?,
          PagamentosEm db notice (statusConferido notice first) ∨
            (first.1.status ≠ .paid ∧ ∀ passo ∈ passosDoPagamento db notice, falhas passo = none)

/-! ### What the two writes store -/

/-- The rows of a filter, after a write that keeps what the filter reads. -/
theorem checkoutsWhere_map {db depois : Database} {before after : Payment → PaymentCheckout → Bool}
    (g : Payment → Payment) (h : Payment → PaymentCheckout → PaymentCheckout)
    (rows : depois.payments = db.payments.map g)
    (checkouts : ∀ p, (g p).checkouts = p.checkouts.map (h p))
    (same : ∀ p c, after (g p) (h p c) = before p c) :
    depois.checkoutsWhere after =
      (db.checkoutsWhere before).map fun row => (g row.1, h row.1 row.2) := by
  simp only [Database.checkoutsWhere, rows, List.flatMap_map, List.map_flatMap]
  refine List.flatMap_congr fun p _ => ?_
  have kept : (after (g p)) ∘ h p = before p := funext fun c => same p c
  rw [checkouts, List.filter_map, kept, List.map_map, List.map_map]
  rfl

theorem of_mem_checkoutsWhere {db : Database} {selected : Payment → PaymentCheckout → Bool}
    {row : Payment × PaymentCheckout} (mem : row ∈ db.checkoutsWhere selected) :
    row.1 ∈ db.payments ∧ selected row.1 row.2 = true := by
  obtain ⟨p, p_mem, row_mem⟩ := List.mem_flatMap.mp mem
  obtain ⟨c, c_mem, rfl⟩ := List.mem_map.mp row_mem
  exact ⟨p_mem, (List.mem_filter.mp c_mem).2⟩

theorem checkoutsEm_gravado {db : Database} {checkoutId : Id} {escopo : Option EscopoDaCasa}
    (found : db.checkoutsWhere (selectsCheckout checkoutId escopo db) ≠ [])
    (status : CheckoutStatus) :
    CheckoutsEm (db.updateManyCheckouts (selectsCheckout checkoutId escopo db) status) checkoutId
      escopo status := by
  set depois := db.updateManyCheckouts (selectsCheckout checkoutId escopo db) status
  have rows : depois.checkoutsWhere (selectsCheckout checkoutId escopo depois) = _ :=
    @checkoutsWhere_map db depois (selectsCheckout checkoutId escopo db) _ _
      (fun p c => if selectsCheckout checkoutId escopo db p c then
      { c with status := status } else c) rfl (fun _ => rfl) fun p c => by
        change selectsCheckout checkoutId escopo db p _ = selectsCheckout checkoutId escopo db p c
        split <;> rfl
  rw [CheckoutsEm, rows]
  refine ⟨fun empty => found (List.map_eq_nil_iff.mp empty), fun row mem => ?_⟩
  obtain ⟨before, before_mem, rfl⟩ := List.mem_map.mp mem
  rw [if_pos (of_mem_checkoutsWhere before_mem).2]

/-- What a notification stores on the payments it read. -/
theorem pagamentosEm_gravado {db written : Database} {notice : PaymentNotice}
    {status : PaymentStatus} (found : db.checkoutsWhere (notice.selects db) ≠ [])
    (wrote : written = db.updateManyPayments
      (fun p => p.id ∈ (db.checkoutsWhere (notice.selects db)).map fun row => row.1.id)
      (gatewayUpdate status notice.method notice.payload)) :
    PagamentosEm (if status = .paid then
      written.updateManyCheckouts (notice.selects written) .inactive else written)
        notice status := by
  set ids := (db.checkoutsWhere (notice.selects db)).map fun row => row.1.id
  set escrita : Payment → Payment := fun p =>
    if p.id ∈ ids then (gatewayUpdate status notice.method notice.payload).apply p else p
  have payments : written.payments = db.payments.map escrita := by
    rw [wrote, Database.updateManyPayments_payments]
    refine List.map_congr_left fun p _ => ?_
    simp only [decide_eq_true_eq, escrita]
  have keys : ∀ p c, notice.selects written (escrita p) c = notice.selects db p c := by
    intro p c
    subst wrote
    simp only [escrita]
    split <;> rfl
  have stored : ∀ row ∈ db.checkoutsWhere (notice.selects db), (escrita row.1).status = status := by
    intro row mem
    simp only [escrita, if_pos (List.mem_map_of_mem (f := fun row =>
      row.1.id) mem : row.1.id ∈ ids)]
    rfl
  have checkouts : ∀ p, (escrita p).checkouts = p.checkouts := by
    intro p
    simp only [escrita]
    split <;> rfl
  split
  · -- the close selects on the rows already written, whose keys are the same
    set depois := written.updateManyCheckouts (notice.selects written) .inactive
    have rows : depois.checkoutsWhere (notice.selects depois) = _ :=
      @checkoutsWhere_map db depois (notice.selects db) _ (fun p => { escrita p with
          checkouts := (escrita p).checkouts.map fun c =>
            if notice.selects written (escrita p) c then { c with status := .inactive } else c })
        (fun p c =>
          if notice.selects written (escrita p) c then { c with status := .inactive } else c)
        (by
          change written.payments.map _ = _
          rw [payments, List.map_map]
          rfl)
        (fun p => by rw [checkouts])
        (fun p c => by
          rw [← keys]
          change notice.selects written (escrita p) _ = _
          split <;> rfl)
    rw [PagamentosEm, rows]
    refine ⟨fun empty => found (List.map_eq_nil_iff.mp empty), fun row mem => ?_⟩
    obtain ⟨before, before_mem, rfl⟩ := List.mem_map.mp mem
    exact stored before before_mem
  · have rows : written.checkoutsWhere (notice.selects written) = _ :=
      @checkoutsWhere_map db written (notice.selects db) _ escrita (fun _ c => c) payments
        (fun p => by rw [checkouts, List.map_id']) keys
    rw [PagamentosEm, rows]
    refine ⟨fun empty => found (List.map_eq_nil_iff.mp empty), fun row mem => ?_⟩
    obtain ⟨before, before_mem, rfl⟩ := List.mem_map.mp mem
    exact stored before before_mem

/-! ### Every notification -/

theorem tratada_payment_iff (falhas : Falhas) (db : Database) (notice : PaymentNotice) :
    (PagamentosEm db notice .paid ∨ ∃ first ∈ (db.checkoutsWhere (notice.selects db)).head?,
        PagamentosEm (engolir db (emTransacao falhas (passosDoPagamento db notice)
          (updatePaymentWebhook db notice))) notice (statusConferido notice first)) ↔
      (PagamentosEm db notice .paid ∨ ∃ first ∈ (db.checkoutsWhere (notice.selects db)).head?,
        PagamentosEm db notice (statusConferido notice first) ∨
          (first.1.status ≠ .paid ∧
            ∀ passo ∈ passosDoPagamento db notice, falhas passo = none)) := by
  refine or_congr_right (exists_congr fun first => and_congr_right fun is_first => ?_)
  by_cases ran : ∀ passo ∈ passosDoPagamento db notice, falhas passo = none
  · rw [emTransacao_ok ran]
    rcases updatePaymentWebhook_cases db notice with
      ⟨empty, _⟩ | ⟨other, rest, found, ⟨paid, same⟩ | ⟨unpaid, status, checked, written,
        wrote, out⟩⟩
    · rw [empty] at is_first
      cases is_first
    · rw [found] at is_first
      obtain rfl : other = first := Option.some.inj is_first
      rw [same, engolir]
      exact (or_iff_left fun writes => writes.1 paid).symm
    · rw [found] at is_first
      obtain rfl : other = first := Option.some.inj is_first
      rw [out, engolir]
      refine iff_of_true ?_ (.inr ⟨unpaid, ran⟩)
      obtain rfl : status = statusConferido notice other := checked
      rw [← found] at wrote
      exact pagamentosEm_gravado (found ▸ List.cons_ne_nil other rest) wrote
  · obtain ⟨falha, failed⟩ := emTransacao_error ran (updatePaymentWebhook db notice)
    rw [failed, engolir]
    exact (or_iff_left fun writes => ran writes.2).symm

theorem tratada_checkout_iff (falhas : Falhas) (db : Database) (checkoutId : Id)
    (status : CheckoutStatus) (escopo : Option EscopoDaCasa) :
    CheckoutsEm (engolir db (emTransacao falhas (passosDoCheckout db checkoutId escopo)
        (updatePaymentCheckoutWebhook db checkoutId status escopo))) checkoutId escopo status ↔
      (CheckoutsEm db checkoutId escopo status ∨
        (db.checkoutsWhere (selectsCheckout checkoutId escopo db) ≠ [] ∧
          ∀ passo ∈ passosDoCheckout db checkoutId escopo, falhas passo = none)) := by
  by_cases ran : ∀ passo ∈ passosDoCheckout db checkoutId escopo, falhas passo = none
  · rw [emTransacao_ok ran]
    cases out : updatePaymentCheckoutWebhook db checkoutId status escopo with
    | error e =>
        rw [engolir]
        refine (or_iff_left fun writes => ?_).symm
        have wrote : updatePaymentCheckoutWebhook db checkoutId status escopo =
            .ok (db.updateManyCheckouts (selectsCheckout checkoutId escopo db) status) :=
          if_neg writes.1
        rw [wrote] at out
        cases out
    | ok depois =>
        rw [engolir]
        have found : db.checkoutsWhere (selectsCheckout checkoutId escopo db) ≠ [] := by
          intro empty
          have refused : updatePaymentCheckoutWebhook db checkoutId status escopo =
              .error (notFound "Payment checkout not found") := if_pos empty
          rw [refused] at out
          cases out
        rw [updatePaymentCheckoutWebhook_ok out]
        exact iff_of_true (checkoutsEm_gravado found status) (.inr ⟨found, ran⟩)
  · obtain ⟨falha, failed⟩ :=
      emTransacao_error ran (updatePaymentCheckoutWebhook db checkoutId status escopo)
    rw [failed, engolir]
    exact (or_iff_left fun writes => ran writes.2).symm

/-- A legitimate notification that was understood is acknowledged only when it was dealt with
exactly when its rows are there and no step of its transaction fails, or they had the status
already. -/
theorem respondeuCerto_iff (falhas : Falhas) (db : Database) (config : PaymentProviderConfig)
    (leitura : Leitura) :
    RespondeuCerto db config leitura (responderNotificacao falhas db config leitura) ↔
      (leitura.verifyWebhook = true → ∀ evento, leitura.parseWebhook = .ok evento →
        PodeReceber falhas db config evento) := by
  obtain ⟨verify, parse⟩ := leitura
  cases verify with
  | false => exact iff_of_true (.inl ⟨_, rfl⟩) fun absent => absurd absent Bool.false_ne_true
  | true =>
      cases parse with
      | error e =>
          refine iff_of_true (.inl ⟨_, rfl⟩) fun _ evento absent => ?_
          cases absent
      | ok evento =>
          have read : (∀ other, (Except.ok evento : Except GatewayError _) = .ok other →
              PodeReceber falhas db config other) ↔ PodeReceber falhas db config evento :=
            ⟨fun all => all evento rfl, fun can other same => Except.ok.inj same ▸ can⟩
          simp only [forall_const, read]
          cases evento with
          | ignored reason => exact iff_of_true (.inr (.inl ⟨reason, rfl, rfl⟩)) trivial
          | checkout checkoutId status =>
              refine Iff.trans ?_ (tratada_checkout_iff falhas db checkoutId status _)
              refine ⟨fun answered => ?_, fun dealt => .inr (.inr ⟨rfl, _, rfl, dealt⟩)⟩
              rcases answered with ⟨_, absent⟩ | ⟨_, absent, _⟩ | ⟨_, other, same, dealt⟩
              · cases absent
              · cases absent
              · cases same
                exact dealt
          | payment referenceId status method paid payload =>
              refine Iff.trans ?_ (tratada_payment_iff falhas db _)
              refine ⟨fun answered => ?_, fun dealt => .inr (.inr ⟨rfl, _, rfl, dealt⟩)⟩
              rcases answered with ⟨_, absent⟩ | ⟨_, absent, _⟩ | ⟨_, other, same, dealt⟩
              · cases absent
              · cases absent
              · cases same
                exact dealt

namespace Loja

/-- The configuration of the church. -/
def casaDaIgreja : PaymentProviderConfig where
  id := 2
  churchId := 1
  provider := .pagbank
  enabled := true
  isDefault := true
  opens := true
  webhookSecret := "segredo"

/-- What its adapter reads. -/
def avisoPago : PaymentNotice := avisoDePagamento casaDaIgreja 101 .paid .pix (some 10000) []

/-- The transaction gets no connection in its ten seconds. -/
def semConexao : Falhas
  | .abrir => some ⟨.internalServerError, "Unable to start a transaction in the given time."⟩
  | _ => none

end Loja

/-- The house says that the ticket was paid, nothing is written, and the house is told it was
received. -/
theorem not_respondeuCerto_semConexao :
    ¬ RespondeuCerto Loja.ingressoNaCasa.db Loja.casaDaIgreja Loja.leituraPaga
      (responderNotificacao Loja.semConexao Loja.ingressoNaCasa.db Loja.casaDaIgreja
        Loja.leituraPaga) := by
  have unpaid : ∀ row ∈ Loja.ingressoNaCasa.db.checkoutsWhere
      (Loja.avisoPago.selects Loja.ingressoNaCasa.db), row.1.status ≠ .paid := by
    decide +kernel
  have checked : ∀ first ∈ (Loja.ingressoNaCasa.db.checkoutsWhere
      (Loja.avisoPago.selects Loja.ingressoNaCasa.db)).head?,
        statusConferido Loja.avisoPago first = .paid := by
    decide +kernel
  have waiting : ¬ PagamentosEm Loja.ingressoNaCasa.db Loja.avisoPago .paid := by
    rintro ⟨found, paid⟩
    obtain ⟨row, mem⟩ := List.exists_mem_of_ne_nil _ found
    exact unpaid row mem (paid row mem)
  have failed : ¬ ∀ passo ∈ passosDoPagamento Loja.ingressoNaCasa.db Loja.avisoPago,
      Loja.semConexao passo = none := by
    decide +kernel
  intro answered
  rcases answered with ⟨_, absent⟩ | ⟨_, absent, _⟩ | ⟨_, evento, same, dealt⟩
  · cases absent
  · cases absent
  · cases same
    rcases (tratada_payment_iff Loja.semConexao _ Loja.avisoPago).mp dealt with
      paid | ⟨first, is_first, paid | ⟨_, ran⟩⟩
    · exact waiting paid
    · rw [checked first is_first] at paid
      exact waiting paid
    · exact failed ran

end IccvBackend
