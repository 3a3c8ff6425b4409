/-
Module: IccvBackend.Gateways.Registry
Purpose: `payment-gateway.registry.ts`, `webhook-url.ts` and `planos/modulos.ts`: which house serves
  a church or a checkout, and whether the church charges online.
Trusted boundary: human-reviewed spec
Main exports: paraIgreja, porConfigId, porIgrejaEProvider, casaDoCheckout, cobraOnline,
  montarUrlDeWebhook
-/
import IccvBackend.Lib.Fallible
import IccvBackend.Prisma.Database

namespace IccvBackend

open Lib

/-- The settings of the server that reach a request. -/
structure Ambiente where
  urlBackend : String
  urlFrontend : String
  /-- how an instant is printed in a message -/
  quando : Instant → String

/-- `cobraOnline`: the plan has the events module and online charging is on. -/
def cobraOnline (igreja : Church) : Bool :=
  (igreja.plan.getD []).contains .events && igreja.modulePayment

def semCobrancaOnline : String :=
  "Esta igreja não recebe pagamento pelo site. O valor é combinado diretamente com a " ++
    "organização do evento."

/-- `abrir`: credentials that no longer open are an error. -/
def abrir (config : PaymentProviderConfig) : Except Failure PaymentProviderConfig :=
  if config.opens then pure config else throw (internalServerError "Internal server error")

/-- `paraIgreja`: the house a church charges by now. -/
def paraIgreja (cat : Catalogue) (churchId : Id) : Except Failure PaymentProviderConfig :=
  match cat.configs.find? fun config =>
      config.churchId = churchId && config.enabled && config.isDefault with
  | some config => abrir config
  | none => throw (serviceUnavailable semCobrancaOnline)

/-- `porConfigId`: the very configuration that made a checkout. -/
def porConfigId (cat : Catalogue) (configId : Id) : Except Failure PaymentProviderConfig :=
  match cat.config? configId with
  | some config => abrir config
  | none => throw (notFound "Configuração de pagamento não encontrada")

/-- `porIgrejaEProvider`: the configuration of a house in a church, on or off. -/
def porIgrejaEProvider (cat : Catalogue) (churchId : Id) (provider : PaymentProvider) :
    Except Failure (Option PaymentProviderConfig) :=
  match cat.configs.find? fun config =>
      config.churchId = churchId && config.provider = provider with
  | some config => (abrir config).map some
  | none => pure none

/-- The name of a provider in the enumeration of the schema. -/
def PaymentProvider.name : PaymentProvider → String
  | .pagbank => "PAGBANK"
  | .mercadoPago => "MERCADO_PAGO"
  | .infinitepay => "INFINITEPAY"
  | .ton => "TON"

/-- `casaDoCheckout`: the house that made a checkout, not the one the church uses today. -/
def casaDoCheckout (cat : Catalogue) (checkout : PaymentCheckout) (churchId : Id) :
    Except Failure PaymentProviderConfig := do
  match checkout.configId with
  | some configId => porConfigId cat configId
  | none =>
      let resolvido ← porIgrejaEProvider cat churchId checkout.provider
      orFail resolvido
        (serviceUnavailable
          ("A integração " ++ checkout.provider.name ++ " não está mais configurada nesta igreja."))

/-- The name of a house in its client's errors. -/
def PaymentProvider.casa : PaymentProvider → String
  | .pagbank => "PagBank"
  | .mercadoPago => "Mercado Pago"
  | .infinitepay => "InfinitePay"
  | .ton => "Ton"

/-- `descriptor.label`. -/
def PaymentProvider.label : PaymentProvider → String
  | .pagbank => "PagBank"
  | .mercadoPago => "Mercado Pago"
  | .infinitepay => "InfinitePay"
  | .ton => "Ton (Stone)"

/-- `GatewayRequestError`: the house refused or did not answer. -/
def gatewayRequestError (provider : PaymentProvider) : Failure :=
  ⟨.badGateway, "Não foi possível falar com " ++ provider.casa ++
    " agora. Tente de novo em alguns minutos."⟩

/-- `slugDoProvider`. -/
def slugDoProvider : PaymentProvider → String
  | .pagbank => "pagbank"
  | .mercadoPago => "mercadopago"
  | .infinitepay => "infinitepay"
  | .ton => "ton"

/-- `url.replace(/\/$/, '')`. -/
def semBarraFinal (url : String) : String :=
  if url.toList.getLast? = some '/' then String.ofList url.toList.dropLast else url

/-- `montarUrlDeWebhook`. -/
def montarUrlDeWebhook (amb : Ambiente) (config : PaymentProviderConfig)
    (canal : String) : String :=
  semBarraFinal amb.urlBackend ++ "/webhooks/" ++ slugDoProvider config.provider ++ "/" ++
    config.webhookSecret ++ "/" ++ canal

end IccvBackend
