/-
Module: IccvBackend.Webhooks.Service
Purpose: `webhooks/webhooks.service.ts`: whose notification it is, and what it is applied to.
Trusted boundary: human-reviewed spec
Main exports: porSegredoDeWebhook, escopoDaConfig, processar, receber, receberLegadoPagbank
-/
import IccvBackend.Gateways.Registry
import IccvBackend.Payment.Service

namespace IccvBackend

open Lib

/-!
What the adapter of a house makes of a request is an argument: `Leitura` is the answer of its
`verifyWebhook` and of its `parseWebhook` under the credential of a configuration.  The stamp
`lastWebhookAt` of the configuration is not modelled.
-/

/-- What an adapter makes of one request under a configuration. -/
structure Leitura where
  verifyWebhook : Bool
  parseWebhook : Except GatewayError GatewayWebhookEvent

/-- `porSegredoDeWebhook`: the configuration of a house that owns a secret.  Equal hashes are equal
secrets. -/
def porSegredoDeWebhook (cat : Catalogue) (provider : PaymentProvider) (segredo : String) :
    Except Failure (Option PaymentProviderConfig) :=
  if segredo.length < 16 then pure none
  else
    match cat.configs.find? fun config =>
        config.provider = provider && config.webhookSecret = segredo with
    | some config => (abrir config).map some
    | none => pure none

/-- `escopo`: house, configuration and church of the credential. -/
def escopoDaConfig (config : PaymentProviderConfig) : EscopoDaCasa where
  provider := config.provider
  configId := config.id
  churchId := config.churchId

/-- `processar`.  The two updates catch their own exceptions, which leave the database as it was. -/
def processar (db : Database) (config : PaymentProviderConfig) (leitura : Leitura) :
    Except Failure Database :=
  if !leitura.verifyWebhook then throw (notFound "Not Found")
  else
    match leitura.parseWebhook with
    | .error _ => throw (gatewayRequestError config.provider)
    | .ok (.ignored _) => pure db
    | .ok (.checkout checkoutId status) =>
        match updatePaymentCheckoutWebhook db checkoutId status (some (escopoDaConfig config)) with
        | .error _ => pure db
        | .ok depois => pure depois
    | .ok (.payment referenceId status method paidAmountCents payload) =>
        match updatePaymentWebhook db
          { referenceId := referenceId
            status := status
            method := method
            payload := payload
            escopo := some (escopoDaConfig config)
            pagoEmCentavos := paidAmountCents } with
        | .error _ => pure db
        | .ok depois => pure depois

/-- `receber`: the route of every house. -/
def receber (db : Database) (provider : PaymentProvider) (segredo : String)
    (le : PaymentProviderConfig → Leitura) : Except Failure Database := do
  let resolvido ← porSegredoDeWebhook db.catalogue provider segredo
  let config ← orFail resolvido (notFound "Not Found")
  processar db config (le config)

/-- The newest PagBank checkout an old notification cites, with its payment. -/
def checkoutLegado (db : Database) (canalDeCheckout : Bool) (referencia : Id) :
    Option (Payment × PaymentCheckout) :=
  firstMax (fun row => row.2.createdAt) (db.checkoutsWhere fun _ c =>
    (if canalDeCheckout then c.checkoutId = referencia else c.referenceId = referencia) &&
      c.provider = .pagbank)

/-- `configDoCheckoutLegado`. -/
def configDoCheckoutLegado (cat : Catalogue) (row : Payment × PaymentCheckout) :
    Except Failure (Option PaymentProviderConfig) :=
  match row.2.configId with
  | some configId => (porConfigId cat configId).map some
  | none =>
      match row.1.eventId.bind cat.event? with
      | none => pure none
      | some event => porIgrejaEProvider cat event.churchId .pagbank

/-- `receberLegadoPagbank`: the routes without a secret.  A body that cites nothing is ignored. -/
def receberLegadoPagbank (db : Database) (canalDeCheckout : Bool) (referencia : Option Id)
    (le : PaymentProviderConfig → Leitura) : Except Failure Database :=
  match referencia with
  | none => pure db
  | some referencia => do
      let row ← orFail (checkoutLegado db canalDeCheckout referencia) (notFound "Not Found")
      let resolvido ← configDoCheckoutLegado db.catalogue row
      let config ← orFail resolvido (notFound "Not Found")
      processar db config (le config)

end IccvBackend
