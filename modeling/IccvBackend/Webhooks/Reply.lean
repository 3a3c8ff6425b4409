/-
Module: IccvBackend.Webhooks.Reply
Purpose: What `processar` answers to the house when a step of the processing fails.
Trusted boundary: human-reviewed spec
Main exports: PassoDaTransacao, Falhas, emTransacao, RespostaDaNotificacao, responderNotificacao,
  processar_eq_responderNotificacao
-/
import IccvBackend.Webhooks.Service

namespace IccvBackend

open Lib

/-!
The stamp of `marcarRecebimento` is caught when it fails and stores nothing that is modelled.  A
transaction that fails at any of its steps writes nothing.
-/

/-- The awaited steps of the two transactions. -/
inductive PassoDaTransacao where
  /-- waiting for a connection -/
  | abrir
  | ler
  | gravarPagamentos
  | gravarCheckouts
  /-- the commit, or the end of the time of the transaction -/
  | confirmar
deriving Repr, DecidableEq

/-- What each step fails with, when it does. -/
abbrev Falhas := PassoDaTransacao → Option Failure

/-- The first step that fails decides. -/
def emTransacao (falhas : Falhas) (passos : List PassoDaTransacao)
    (resultado : Except Failure Database) : Except Failure Database :=
  match passos.findSome? falhas with
  | some falha => .error falha
  | none => resultado

/-- The rows of a notification and the status that the check of the value leaves. -/
def statusConferido (notice : PaymentNotice) (first : Payment × PaymentCheckout) : PaymentStatus :=
  conferirValorPago notice.status notice.pagoEmCentavos first.2.chargedAmountCents

/-- The steps that `updatePaymentWebhook` runs. -/
def passosDoPagamento (db : Database) (notice : PaymentNotice) : List PassoDaTransacao :=
  match db.checkoutsWhere (notice.selects db) with
  | [] => [.abrir, .ler]
  | first :: _ =>
      if first.1.status = .paid then [.abrir, .ler, .confirmar]
      else if statusConferido notice first = .paid then
        [.abrir, .ler, .gravarPagamentos, .gravarCheckouts, .confirmar]
      else [.abrir, .ler, .gravarPagamentos, .confirmar]

/-- The rows of a checkout notification. -/
def selectsCheckout (checkoutId : Id) (escopo : Option EscopoDaCasa) (db : Database) (p : Payment)
    (c : PaymentCheckout) : Bool :=
  c.checkoutId = checkoutId && filtroDaCasa db escopo p c

/-- The steps that `updatePaymentCheckoutWebhook` runs. -/
def passosDoCheckout (db : Database) (checkoutId : Id) (escopo : Option EscopoDaCasa) :
    List PassoDaTransacao :=
  if db.checkoutsWhere (selectsCheckout checkoutId escopo db) = [] then [.abrir, .ler]
  else [.abrir, .ler, .gravarCheckouts, .confirmar]

/-- What `processar` answers. -/
inductive RespostaDaNotificacao where
  | recebida
  | ignorada (reason : String)
  | erro (failure : Failure)
deriving Repr, DecidableEq

/-- The `catch` of the two updates: it logs, and the database is what it was. -/
def engolir (db : Database) : Except Failure Database → Database
  | .ok depois => depois
  | .error _ => db

/-- The notification that `processar` hands over. -/
def avisoDePagamento (config : PaymentProviderConfig) (referenceId : Id) (status : PaymentStatus)
    (method : PaymentMethod) (paidAmountCents : Option Nat) (payload : Json) : PaymentNotice where
  referenceId := referenceId
  status := status
  method := method
  payload := payload
  escopo := some (escopoDaConfig config)
  pagoEmCentavos := paidAmountCents

/-- `processar`, with the database after it and its answer. -/
def responderNotificacao (falhas : Falhas) (db : Database) (config : PaymentProviderConfig)
    (leitura : Leitura) :
    Database × RespostaDaNotificacao :=
  if !leitura.verifyWebhook then (db, .erro (notFound "Not Found"))
  else
    match leitura.parseWebhook with
    | .error _ => (db, .erro (gatewayRequestError config.provider))
    | .ok (.ignored reason) => (db, .ignorada reason)
    | .ok (.checkout checkoutId status) =>
        let escopo := some (escopoDaConfig config)
        (engolir db (emTransacao falhas (passosDoCheckout db checkoutId escopo)
          (updatePaymentCheckoutWebhook db checkoutId status escopo)), .recebida)
    | .ok (.payment referenceId status method paidAmountCents payload) =>
        let notice := avisoDePagamento config referenceId status method paidAmountCents payload
        (engolir db (emTransacao falhas (passosDoPagamento db notice)
          (updatePaymentWebhook db notice)), .recebida)

theorem emTransacao_ok {falhas : Falhas} {passos : List PassoDaTransacao}
    (ok : ∀ passo ∈ passos, falhas passo = none) (resultado : Except Failure Database) :
    emTransacao falhas passos resultado = resultado := by
  rw [emTransacao, List.findSome?_eq_none_iff.mpr ok]

theorem emTransacao_error {falhas : Falhas} {passos : List PassoDaTransacao}
    (failed : ¬ ∀ passo ∈ passos, falhas passo = none) (resultado : Except Failure Database) :
    ∃ falha, emTransacao falhas passos resultado = .error falha := by
  cases first : passos.findSome? falhas with
  | none => exact absurd (List.findSome?_eq_none_iff.mp first) failed
  | some falha => exact ⟨falha, by rw [emTransacao, first]⟩

/-- The database of an answer that is not an error. -/
def semResposta : Database × RespostaDaNotificacao → Except Failure Database
  | (_, .erro failure) => .error failure
  | (depois, _) => .ok depois

/-- Without failures, `responderNotificacao` is `processar`. -/
theorem processar_eq_responderNotificacao (db : Database) (config : PaymentProviderConfig)
    (leitura : Leitura) :
    processar db config leitura =
      semResposta (responderNotificacao (fun _ => none) db config leitura) := by
  have ran : ∀ passos resultado, emTransacao (fun _ => none) passos resultado = resultado :=
    fun _ => emTransacao_ok fun _ _ => rfl
  obtain ⟨verify, parse⟩ := leitura
  cases verify with
  | false => rfl
  | true =>
      cases parse with
      | error _ => rfl
      | ok evento =>
          cases evento with
          | ignored reason => rfl
          | checkout checkoutId status =>
              simp only [processar, responderNotificacao, ran, Bool.not_true, Bool.false_eq_true,
                if_false]
              cases updatePaymentCheckoutWebhook db checkoutId status
                (some (escopoDaConfig config)) <;> rfl
          | payment referenceId status method paid payload =>
              simp only [processar, responderNotificacao, ran, Bool.not_true, Bool.false_eq_true,
                if_false]
              change _ = semResposta (engolir db (updatePaymentWebhook db
                (avisoDePagamento config referenceId status method paid payload)), .recebida)
              rw [avisoDePagamento]
              generalize updatePaymentWebhook db _ = resultado
              cases resultado <;> rfl

end IccvBackend
