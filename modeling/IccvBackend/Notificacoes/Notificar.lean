/-
Module: IccvBackend.Notificacoes.Notificar
Purpose: `notificacoes/notificar.ts`, `notificacoes.service.ts` and `purgeOldNotifications` of
  `cron/cron.service.ts`: the notifications, their recipients and the dispatches under way.
Trusted boundary: human-reviewed spec
Main exports: Aviso, Notification, NotificationRecipient, Mundo, Publico, EnvioDoAviso, Gatilho,
  Sininho, notificar, encerrarPedidoDeMembro, marcarLidas, contarNaoLidas, listar, Sininho.agir
-/
import IccvBackend.Auth.Tenant
import IccvBackend.Lib.Table
import IccvBackend.Lib.Transitions
import IccvBackend.Solicitacoes.Service

namespace IccvBackend

open Lib

/-!
A dispatch is a task that stops at each of its statements: what gave rise to the notice is read,
then who should get it, then the notice is written, and anything may happen in between.  The two
reads of `notificarPedidoDeMembro`, which only give names to its text, are one.
-/

/-! ### Rows -/

inductive NotificationType where
  | membershipRequest
  | churchRequest
  | news
  | churchRequestAnswered
  | churchRequestAwaiting
  | membershipAnswered
  | event
deriving Repr, DecidableEq

structure Aviso where
  type : NotificationType
  sourceId : String
  title : String
  body : String
  churchId : Id
deriving Repr, DecidableEq

/-- What gave rise to a notice: `@@unique([type, sourceId])`. -/
def Aviso.origem (aviso : Aviso) : NotificationType × String := (aviso.type, aviso.sourceId)

structure Notification where
  id : Id
  aviso : Aviso
  createdAt : Instant
deriving Repr, DecidableEq

structure NotificationRecipient where
  notificationId : Id
  userId : Id
  readAt : Option Instant
  createdAt : Instant
deriving Repr, DecidableEq

/-- `@@id([notificationId, userId])`. -/
def NotificationRecipient.chave (r : NotificationRecipient) : Id × Id :=
  (r.notificationId, r.userId)

structure PessoaDoAviso where
  id : Id
  fullName : String
  memberChurchId : Option Id
  /-- the events the person is registered in -/
  events : List Id
  waitlists : List Id
deriving Repr, DecidableEq

structure SolicitacaoDoAviso where
  id : Id
  churchId : Id
  requesterId : Id
  title : String
  status : ChurchRequestStatus
  response : Option String
deriving Repr, DecidableEq

structure NoticiaDoAviso where
  id : Id
  title : String
  summary : Option String
  publishedAt : Option Instant
  churchId : Option Id
  eventId : Option Id
  authorId : Option Id
deriving Repr, DecidableEq

structure EventoDoAviso where
  id : Id
  name : String
  status : EventStatus
  churchId : Id
  endDate : Instant
deriving Repr, DecidableEq

/-- The tables a dispatch reads, with the keys its recipients come from. -/
structure Mundo where
  users : List PessoaDoAviso
  churches : List Igreja
  churchRoles : List UserChurchRole
  requests : List SolicitacaoDoAviso
  news : List NoticiaDoAviso
  events : List EventoDoAviso
  users_key : (users.map PessoaDoAviso.id).Nodup
  /-- `@@id([userId, churchId])` -/
  churchRoles_key : (churchRoles.map fun v => (v.userId, v.churchId)).Nodup

namespace Mundo

variable (m : Mundo)

def pessoa? (id : Id) : Option PessoaDoAviso := lookup PessoaDoAviso.id id m.users

def igreja? (id : Id) : Option Igreja := lookup Igreja.id id m.churches

def solicitacao? (id : Id) : Option SolicitacaoDoAviso :=
  lookup SolicitacaoDoAviso.id id m.requests

/-- `vinculadosDa`. -/
def vinculadosDa (churchId : Id) (roles : List Int) : List Id :=
  (m.churchRoles.filter fun v => v.churchId = churchId && v.role ∈ roles).map UserChurchRole.userId

/-- `publicoDa`. -/
def publicoDa (churchId : Id) (eventId : Option Id) : List Id :=
  (m.users.filter fun p =>
    match eventId with
    | some eventId => eventId ∈ p.events || eventId ∈ p.waitlists
    | none => p.memberChurchId = some churchId).map PessoaDoAviso.id

end Mundo

/-! ### What each dispatch sends -/

/-- Who should get a notice: two queries, or people known already. -/
inductive Publico where
  | vinculados (churchId : Id) (roles : List Int)
  | publico (churchId : Id) (eventId : Option Id)
  | estes (userIds : List Id)
deriving Repr, DecidableEq

def Publico.ler (m : Mundo) : Publico → List Id
  | .vinculados churchId roles => m.vinculadosDa churchId roles
  | .publico churchId eventId => m.publicoDa churchId eventId
  | .estes userIds => userIds

/-- The arguments of `notificar`. -/
structure EnvioDoAviso where
  aviso : Aviso
  publico : Publico
  quemFez : Option Id
deriving Repr, DecidableEq

/-- The value of the enumeration, as it stands in a source id. -/
def ChurchRequestStatus.valor : ChurchRequestStatus → String
  | .requested => "REQUESTED"
  | .inReview => "IN_REVIEW"
  | .awaitingTreasury => "AWAITING_TREASURY"
  | .awaitingPastor => "AWAITING_PASTOR"
  | .rejected => "REJECTED"
  | .accepted => "ACCEPTED"
  | .partiallyAccepted => "PARTIALLY_ACCEPTED"

/-- `TITULO_DA_RESPOSTA`. -/
def tituloDaResposta : ChurchRequestStatus → Option String
  | .inReview => some "Solicitação em análise"
  | .accepted => some "Solicitação aceita"
  | .partiallyAccepted => some "Solicitação aceita em parte"
  | .rejected => some "Solicitação recusada"
  | _ => none

namespace Mundo

variable (m : Mundo)

/-- `a?.name` in a template. -/
def emTexto (nome : Option String) : String := nome.getD "undefined"

/-- `notificarPedidoDeMembro`. -/
def notificarPedidoDeMembro (userId churchId : Id) : Option EnvioDoAviso :=
  let pessoa := emTexto ((m.pessoa? userId).map PessoaDoAviso.fullName)
  let igreja := emTexto ((m.igreja? churchId).map Igreja.name)
  some {
    aviso := {
      type := .membershipRequest
      sourceId := toString userId
      title := "Novo pedido de membro"
      body := pessoa ++ " pediu para ser membro de " ++ igreja
      churchId := churchId }
    publico := .vinculados churchId [Role.admin]
    quemFez := some userId }

/-- `notificarRespostaDoPedido`. -/
def notificarRespostaDoPedido (userId churchId : Id) (aceito : Bool) (quemFez : Option Id) :
    Option EnvioDoAviso :=
  let igreja := emTexto ((m.igreja? churchId).map Igreja.name)
  some {
    aviso := {
      type := .membershipAnswered
      sourceId := toString churchId ++ ":" ++ toString userId
      title := if aceito then "Pedido de membro aceito" else "Pedido de membro recusado"
      body := if aceito then "Agora você é membro de " ++ igreja
        else igreja ++ " recusou o seu pedido para ser membro"
      churchId := churchId }
    publico := .estes [userId]
    quemFez := quemFez }

/-- `notificarSolicitacao`. -/
def notificarSolicitacao (requestId : Id) : Option EnvioDoAviso := do
  let s ← m.solicitacao? requestId
  let requester := emTexto ((m.pessoa? s.requesterId).map PessoaDoAviso.fullName)
  some {
    aviso := {
      type := .churchRequest
      sourceId := toString requestId
      title := "Nova solicitação"
      body := requester ++ ": " ++ s.title
      churchId := s.churchId }
    publico := .vinculados s.churchId [Role.admin, Role.tesouraria]
    quemFez := some s.requesterId }

/-- `notificarVezNaSolicitacao`. -/
def notificarVezNaSolicitacao (requestId : Id) (quemFez : Option Id) : Option EnvioDoAviso := do
  let s ← m.solicitacao? requestId
  let daTesouraria := s.status = .awaitingTreasury
  if ¬ daTesouraria ∧ s.status ≠ .awaitingPastor then none
  else
    let pastor := (m.igreja? s.churchId).bind Igreja.spiritualLeaderId
    some {
      aviso := {
        type := .churchRequestAwaiting
        sourceId := toString requestId ++ ":" ++ s.status.valor
        title := if daTesouraria then "Solicitação aguardando a tesouraria"
          else "Solicitação aguardando o pastor"
        body := (if daTesouraria then "O pastor" else "A tesouraria") ++ " aprovou: " ++ s.title
        churchId := s.churchId }
      publico := if daTesouraria then .vinculados s.churchId [Role.tesouraria]
        else .estes pastor.toList
      quemFez := quemFez }

/-- `notificarRespostaDaSolicitacao`. -/
def notificarRespostaDaSolicitacao (requestId : Id)
    (quemFez : Option Id) : Option EnvioDoAviso := do
  let s ← m.solicitacao? requestId
  let titulo ← tituloDaResposta s.status
  some {
    aviso := {
      type := .churchRequestAnswered
      sourceId := toString requestId ++ ":" ++ s.status.valor
      title := titulo
      body := match s.response.filter fun response => response ≠ "" with
        | some response => s.title ++ " — " ++ response
        | none => s.title
      churchId := s.churchId }
    publico := .estes [s.requesterId]
    quemFez := quemFez }

/-- `notificarNoticia`. -/
def notificarNoticia (newsId : Id) : Option EnvioDoAviso := do
  let n ← lookup NoticiaDoAviso.id newsId m.news
  let churchId ← n.churchId
  let publishedAt ← n.publishedAt
  let igreja := (m.igreja? churchId).map Igreja.name
  let preenchido := fun texto : Option String => texto.filter fun texto => texto ≠ ""
  some {
    aviso := {
      type := .news
      sourceId := toString newsId ++ ":" ++ toString publishedAt
      title := n.title
      body := ((preenchido n.summary).or (preenchido igreja)).getD "Nova notícia"
      churchId := churchId }
    publico := .publico churchId n.eventId
    quemFez := n.authorId }

/-- `notificarEvento`. -/
def notificarEvento (eventId : Id) (quemFez : Option Id) : Option EnvioDoAviso := do
  let e ← lookup EventoDoAviso.id eventId m.events
  if e.status ≠ .active then none
  else if (m.igreja? e.churchId).map Igreja.status = some .test then none
  else
    some {
      aviso := {
        type := .event
        sourceId := toString eventId
        title := "Novo evento"
        body := e.name
        churchId := e.churchId }
      publico := .publico e.churchId none
      quemFez := quemFez }

/-- The events `notificarEventosDaIgreja` goes over. -/
def eventosDaIgreja (churchId : Id) (agora : Instant) : List Id :=
  (m.events.filter fun e =>
    e.churchId = churchId && e.status = .active && agora ≤ e.endDate).map EventoDoAviso.id

end Mundo

/-- A call of one of the functions. -/
inductive Gatilho where
  | pedidoDeMembro (userId churchId : Id)
  | respostaDoPedido (userId churchId : Id) (aceito : Bool) (quemFez : Option Id)
  | solicitacao (requestId : Id)
  | vezNaSolicitacao (requestId : Id) (quemFez : Option Id)
  | respostaDaSolicitacao (requestId : Id) (quemFez : Option Id)
  | noticia (newsId : Id)
  | evento (eventId : Id) (quemFez : Option Id)
  | eventosDaIgreja (churchId : Id)
deriving Repr, DecidableEq

/-- What the function sends, from what it reads first; `notificarEventosDaIgreja` sends nothing of
its own. -/
def Gatilho.ler (m : Mundo) : Gatilho → Option EnvioDoAviso
  | .pedidoDeMembro userId churchId => m.notificarPedidoDeMembro userId churchId
  | .respostaDoPedido userId churchId aceito quemFez =>
      m.notificarRespostaDoPedido userId churchId aceito quemFez
  | .solicitacao requestId => m.notificarSolicitacao requestId
  | .vezNaSolicitacao requestId quemFez => m.notificarVezNaSolicitacao requestId quemFez
  | .respostaDaSolicitacao requestId quemFez => m.notificarRespostaDaSolicitacao requestId quemFez
  | .noticia newsId => m.notificarNoticia newsId
  | .evento eventId quemFez => m.notificarEvento eventId quemFez
  | .eventosDaIgreja _ => none

/-! ### The dispatches -/

/-- The statement a dispatch is about to make. -/
inductive FaseDaEntrega where
  | lerOrigem
  | lerPublico (envio : EnvioDoAviso)
  | criar (envio : EnvioDoAviso) (para : List Id)
  | fim
deriving Repr, DecidableEq

structure Entrega where
  pedido : Gatilho
  fase : FaseDaEntrega
  /-- the events that come after, in `notificarEventosDaIgreja` -/
  seguintes : List Id
deriving Repr, DecidableEq

/-- Why the database refused a notice: a repeated key (`P2002`), or a row that is not there. -/
inductive Recusa where
  | chaveRepetida
  | semReferencia
deriving Repr, DecidableEq

/-- A notice that was written. -/
structure Criada where
  id : Id
  envio : EnvioDoAviso
  para : List Id
  quando : Instant
deriving Repr, DecidableEq

/-- A recipient marked as read. -/
structure LeituraDoAviso where
  chave : Id × Id
  quando : Instant
deriving Repr, DecidableEq

structure Sininho where
  agora : Instant
  mundo : Mundo
  notifications : List Notification
  recipients : List NotificationRecipient
  disparos : List Entrega
  nextId : Id
  /-- the calls whose error went to the log -/
  erros : List Gatilho
  /-- every notice written so far -/
  criadas : List Criada
  /-- the sources whose notice left with its church -/
  esquecidas : List (NotificationType × String)
  /-- the recipients taken by the end of a request, or with their person or church -/
  retiradas : List (Id × Id)
  /-- every reading so far -/
  lidas : List LeituraDoAviso

namespace Sininho

def dias (n : Nat) : Nat := n * 86400000

def limite : Nat := 30

variable (s : Sininho)

/-- `notification.create` with its recipients, in one transaction. -/
def criar (envio : EnvioDoAviso) (para : List Id) : Except Recusa Sininho :=
  if s.notifications.any fun n => n.aviso.origem = envio.aviso.origem then .error .chaveRepetida
  else if (s.mundo.igreja? envio.aviso.churchId).isNone then .error .semReferencia
  else if ¬ para.Nodup then .error .chaveRepetida
  else if para.any fun id => (s.mundo.pessoa? id).isNone then .error .semReferencia
  else .ok { s with
    notifications := s.notifications ++ [⟨s.nextId, envio.aviso, s.agora⟩]
    recipients := s.recipients ++ para.map fun userId => ⟨s.nextId, userId, none, s.agora⟩
    nextId := s.nextId + 1
    criadas := s.criadas ++ [⟨s.nextId, envio, para, s.agora⟩] }

def mover (i : Nat) (d : Entrega) : Sininho := { s with disparos := s.disparos.set i d }

/-- The call is over: the next event, if it goes over several. -/
def terminar (i : Nat) (d : Entrega) : Sininho :=
  match d.seguintes with
  | [] => s.mover i { d with fase := .fim }
  | evento :: resto => s.mover i ⟨.evento evento none, .lerOrigem, resto⟩

/-- The error goes to the log and no further: the `catch` of `seguro`. -/
def registrar (pedido : Gatilho) : Sininho := { s with erros := s.erros ++ [pedido] }

/-- `notificar` once the recipients are known. -/
def comPublico (i : Nat) (d : Entrega) (envio : EnvioDoAviso) (userIds : List Id) : Sininho :=
  let para := userIds.filter fun id => some id ≠ envio.quemFez
  if para = [] then s.terminar i d else s.mover i { d with fase := .criar envio para }

/-- `notificar` at its `create`: a repeated key is no error. -/
def notificar (i : Nat) (d : Entrega) (envio : EnvioDoAviso) (para : List Id) : Sininho :=
  match s.criar envio para with
  | .ok s => s.terminar i d
  | .error .chaveRepetida => s.terminar i d
  | .error .semReferencia => (s.registrar d.pedido).terminar i d

/-- Dispatch `i` makes its next statement. -/
def seguir (i : Nat) : Sininho :=
  match s.disparos[i]? with
  | none => s
  | some d =>
      match d.fase with
      | .lerOrigem =>
          match d.pedido with
          | .eventosDaIgreja churchId =>
              s.terminar i { d with seguintes := s.mundo.eventosDaIgreja churchId s.agora }
          | pedido =>
              match pedido.ler s.mundo with
              | none => s.terminar i d
              | some envio =>
                  match envio.publico with
                  | .estes userIds => s.comPublico i d envio userIds
                  | _ => s.mover i { d with fase := .lerPublico envio }
      | .lerPublico envio => s.comPublico i d envio (envio.publico.ler s.mundo)
      | .criar envio para => s.notificar i d envio para
      | .fim => s

/-- The next statement of dispatch `i` fails for another reason. -/
def falhar (i : Nat) : Sininho :=
  match s.disparos[i]? with
  | none => s
  | some d => if d.fase = .fim then s else (s.registrar d.pedido).terminar i d

/-- The notices of a membership request. -/
def pedidosDe (userId : Id) : List Id :=
  (s.notifications.filter fun n => n.aviso.origem = (.membershipRequest, toString userId)).map
    Notification.id

/-- The recipients a test picks leave, and are not to be waited for. -/
def retirar (quem : NotificationRecipient → Bool) : Sininho :=
  { s with
    recipients := s.recipients.filter fun r => !quem r
    retiradas := s.retiradas ++ (s.recipients.filter quem).map NotificationRecipient.chave }

/-- `encerrarPedidoDeMembro`. -/
def encerrarPedidoDeMembro (userId : Id) : Sininho :=
  s.retirar fun r => r.notificationId ∈ s.pedidosDe userId

/-! ### The bell -/

/-- `contarNaoLidas`. -/
def contarNaoLidas (userId : Id) : Nat :=
  s.recipients.countP fun r => r.userId = userId && r.readAt.isNone

/-- `listar`: the last ones of the person, each with its notification. -/
def listar (userId : Id) : List (Notification × Bool) :=
  (((s.recipients.filter fun r => r.userId = userId).mergeSort
      fun a b => decide (b.createdAt ≤ a.createdAt)).take limite).filterMap fun r =>
    (lookup Notification.id r.notificationId s.notifications).map fun n => (n, r.readAt.isSome)

/-- `marcarLidas`: without ids, all of them. -/
def marcarLidas (userId : Id) (ids : Option (List Id)) : Sininho :=
  let marcada := fun r : NotificationRecipient =>
    r.userId = userId && r.readAt.isNone && ids.all fun ids => r.notificationId ∈ ids
  { s with
    recipients := s.recipients.map fun r =>
      if marcada r then { r with readAt := some s.agora } else r
    lidas := s.lidas ++ (s.recipients.filter marcada).map fun r => ⟨r.chave, s.agora⟩ }

/-! ### The cleaning -/

/-- A recipient the cleaning takes: read for 90 days, or unread for 180. -/
def vencido (r : NotificationRecipient) : Bool :=
  match r.readAt with
  | some lida => lida + dias 90 < s.agora
  | none => r.createdAt + dias 180 < s.agora

/-- The first statement of `purgeOldNotifications`. -/
def limparDestinatarios : Sininho :=
  { s with recipients := s.recipients.filter fun r => !s.vencido r }

/-- A notification the cleaning takes: more than a year old and with nobody left to read it. -/
def orfa (n : Notification) : Bool :=
  n.createdAt + dias 365 < s.agora && s.recipients.all fun r => r.notificationId ≠ n.id

/-- The second statement of `purgeOldNotifications`. -/
def limparOrigens : Sininho :=
  { s with notifications := s.notifications.filter fun n => !s.orfa n }

/-! ### What goes on around -/

/-- The other services write; a person that leaves takes their notices along. -/
def mudar (m : Mundo) : Sininho :=
  if s.mundo.churches.all fun c => (m.igreja? c.id).isSome then
    { s.retirar (fun r => (m.pessoa? r.userId).isNone) with mundo := m }
  else s

/-- A church without the row. -/
def semIgreja (m : Mundo) (churchId : Id) : Mundo :=
  { m with
    churches := deleteKey Igreja.id churchId m.churches
    churchRoles := m.churchRoles.filter fun v => v.churchId ≠ churchId
    churchRoles_key := m.churchRoles_key.sublist (List.filter_sublist.map _) }

/-- `church.delete`: its notices leave with it. -/
def excluirIgreja (churchId : Id) : Sininho :=
  let saem := s.notifications.filter fun n => n.aviso.churchId = churchId
  { s.retirar (fun r => r.notificationId ∈ saem.map Notification.id) with
    notifications := s.notifications.filter fun n => n.aviso.churchId ≠ churchId
    esquecidas := s.esquecidas ++ saem.map fun n => n.aviso.origem
    mundo := semIgreja s.mundo churchId }

/-! ### Runs -/

inductive Acao where
  | passar (tempo : Nat)
  | comecar (pedido : Gatilho)
  | seguir (i : Nat)
  | falhar (i : Nat)
  | encerrarPedidoDeMembro (userId : Id)
  | marcarLidas (userId : Id) (ids : Option (List Id))
  | limparDestinatarios
  | limparOrigens
  | mudar (m : Mundo)
  | excluirIgreja (churchId : Id)

/-- One event of a run. -/
def agir : Acao → Sininho
  | .passar tempo => { s with agora := s.agora + tempo }
  | .comecar pedido => { s with disparos := s.disparos ++ [⟨pedido, .lerOrigem, []⟩] }
  | .seguir i => s.seguir i
  | .falhar i => s.falhar i
  | .encerrarPedidoDeMembro userId => s.encerrarPedidoDeMembro userId
  | .marcarLidas userId ids => s.marcarLidas userId ids
  | .limparDestinatarios => s.limparDestinatarios
  | .limparOrigens => s.limparOrigens
  | .mudar m => s.mudar m
  | .excluirIgreja churchId => s.excluirIgreja churchId

/-- Before anything was ever notified. -/
def vazio (m : Mundo) (agora : Instant) : Sininho := ⟨agora, m, [], [], [], 0, [], [], [], [], []⟩

end Sininho

end IccvBackend
