/-
Module: IccvBackend.Webhooks.Adapters
Purpose: The four adapters behind one interface: how a request is verified, what it asks its house,
  and what it means.
Trusted boundary: human-reviewed spec
Main exports: Credenciais, ApiDasCasas, Notificacao, Chamada, Notificacao.verifyWebhook,
  Notificacao.chamada, Notificacao.parseWebhook
-/
import IccvBackend.Gateways.InfinitePay
import IccvBackend.Gateways.MercadoPago
import IccvBackend.Gateways.Pagbank
import IccvBackend.Gateways.Ton

namespace IccvBackend

/-!
The hash functions and the answers of the houses are arguments.  A request is of one house: the
registry chose the adapter by the provider of the configuration.
-/

/-- The hash functions of `node:crypto`, as hexadecimal text. -/
structure Hashes where
  sha256 : String → String
  /-- key, then text -/
  hmac : String → String → String

/-- The credentials that notifications are read with. -/
structure Credenciais where
  token : String
  webhookSecret : Option String

/-- What the houses answer now. -/
structure ApiDasCasas where
  agora : Instant
  getCharges : Id → Except GatewayError (List Pagbank.Charge)
  getPayment : String → Except GatewayError (Option MercadoPago.PagamentoObtido)
  paymentCheck : InfinitePay.Consulta → Except GatewayError (Option InfinitePay.Conferencia)
  getOrder : Id → Except GatewayError (Option Ton.Order)
  findOrdersByCode : Id → Except GatewayError (List Ton.Order)

/-- A request to the adapter of a house. -/
inductive Notificacao where
  | pagbank (req : WebhookRequest Pagbank.Notification)
  | mercadoPago (req : WebhookRequest MercadoPago.Notification)
  | infinitepay (req : WebhookRequest InfinitePay.Notification)
  | ton (req : WebhookRequest Ton.Notification)

/-- A call to the API of a house, with what it is asked about. -/
inductive Chamada where
  | getCharges (referenceId : Id)
  | getPayment (paymentId : String)
  | paymentCheck (consulta : InfinitePay.Consulta)
  | ton (consulta : Ton.Consulta)
deriving DecidableEq

section Adapters

variable (hash : Hashes) (cred : Credenciais) (api : ApiDasCasas)

/-- `verifyWebhook`: PagBank and InfinitePay leave the proof to the API. -/
def Notificacao.verifyWebhook : Notificacao → Bool
  | .pagbank _ => true
  | .mercadoPago req => MercadoPago.verifyWebhook hash.hmac cred.webhookSecret req
  | .infinitepay _ => true
  | .ton req => Ton.verifyWebhook hash.hmac cred.webhookSecret req

/-- `assinaturaConfere` of a PagBank request. -/
def assinaturaPagbank (req : WebhookRequest Pagbank.Notification) : Bool :=
  Pagbank.assinaturaConfere hash.sha256 cred.token (req.cabecalho "x-authenticity-token")
    req.rawBody

/-- `parseWebhook`. -/
def Notificacao.parseWebhook : Notificacao → Except GatewayError GatewayWebhookEvent
  | .pagbank req => Pagbank.parseWebhook (assinaturaPagbank hash cred req) api.getCharges req.body
  | .mercadoPago req => MercadoPago.parseWebhook api.getPayment req.body
  | .infinitepay req => InfinitePay.parseWebhook api.agora api.paymentCheck req.body
  | .ton req => Ton.parseWebhook api.getOrder api.findOrdersByCode req.body

end Adapters

/-- The call `parseWebhook` makes, if it makes one. -/
def Notificacao.chamada : Notificacao → Option Chamada
  | .pagbank req => (Pagbank.Notification.referencia req.body).map .getCharges
  | .mercadoPago req => (MercadoPago.pagamentoPedido req.body).map .getPayment
  | .infinitepay req => (InfinitePay.consultaPedida req.body).map .paymentCheck
  | .ton req => (Ton.consultaPedida req.body).map .ton

end IccvBackend
