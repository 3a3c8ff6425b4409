/-
Module: IccvBackend.News.Whatsapp
Purpose: The rounds of a news item on WhatsApp (`disparaNoWhatsapp` of `news.service.ts`): the
  groups of registration and the loose links it goes to, and what each of them keeps of the last
  attempt.
Trusted boundary: human-reviewed spec; the rows of a round stay, and their writes succeed
Main exports: Destino, Divulgacao, Rede, disparaNoWhatsapp, Divulgacao.step
-/
import IccvBackend.Lib.Table
import IccvBackend.Lib.Transitions
import IccvBackend.Prisma.Schema

namespace IccvBackend

open Lib

inductive NewsDispatchOrigin where
  | publish
  | manual
  | schedule
deriving Repr, DecidableEq

/-- The address of a WhatsApp group. -/
abbrev Jid := String

/-! ### Destinations -/

/-- What a destination keeps of its attempts. -/
structure ResultadoGravado where
  sentAt : Option Instant
  error : Option String
deriving Repr, DecidableEq

/-- `resultadoDoEnvio`: an empty text is no reason. -/
def ResultadoGravado.comMotivo (agora : Instant) (motivo : Option String)
    (antes : ResultadoGravado) : ResultadoGravado :=
  match motivo.filter fun texto => texto ≠ "" with
  | some texto => { antes with error := some (String.ofList (texto.toList.take 500)) }
  | none => { sentAt := some agora, error := none }

/-- A row of `NewsOnGroupRoles`, with its group of registration. -/
structure NewsOnGroupRoles where
  groupRoleId : Id
  eventName : String
  groupName : String
  groupLink : Option String
  resultado : ResultadoGravado
deriving Repr, DecidableEq

structure NewsGroupLink where
  id : Id
  link : String
  resultado : ResultadoGravado
deriving Repr, DecidableEq

def NewsOnGroupRoles.marcado (agora : Instant) (motivo : Option String) (row : NewsOnGroupRoles) :
    NewsOnGroupRoles :=
  { row with resultado := row.resultado.comMotivo agora motivo }

def NewsGroupLink.marcado (agora : Instant) (motivo : Option String) (row : NewsGroupLink) :
    NewsGroupLink :=
  { row with resultado := row.resultado.comMotivo agora motivo }

/-- Where the result of a destination is written. -/
inductive ChaveDoDestino where
  | grupo (groupRoleId : Id)
  | avulso (id : Id)
deriving Repr, DecidableEq

/-- The two kinds of destination, seen as one. -/
structure Destino where
  chave : ChaveDoDestino
  nome : String
  link : Option String
  resultado : ResultadoGravado
deriving Repr, DecidableEq

def NewsOnGroupRoles.destino (trim : String → String) (row : NewsOnGroupRoles) : Destino where
  chave := .grupo row.groupRoleId
  nome := row.eventName ++ " / " ++ row.groupName
  link := row.groupLink.map trim
  resultado := row.resultado

def NewsGroupLink.destino (row : NewsGroupLink) : Destino where
  chave := .avulso row.id
  nome := row.link
  link := some row.link
  resultado := row.resultado

/-- A round that attempted something. -/
structure NewsDispatch where
  origin : NewsDispatchOrigin
  atInstant : Instant
  sent : Nat
  failed : Nat
  noLink : Nat
deriving Repr, DecidableEq

/-- The destinations of a news item, under their keys. -/
structure Destinos where
  groups : List NewsOnGroupRoles
  groupLinks : List NewsGroupLink
  groups_nodup : (groups.map NewsOnGroupRoles.groupRoleId).Nodup
  groupLinks_nodup : (groupLinks.map NewsGroupLink.id).Nodup

namespace Destinos

/-- Both kinds, in the order of a round. -/
def lista (trim : String → String) (d : Destinos) : List Destino :=
  d.groups.map (NewsOnGroupRoles.destino trim) ++ d.groupLinks.map NewsGroupLink.destino

def marcaGrupo (agora : Instant) (groupRoleId : Id) (motivo : Option String) (d : Destinos) :
    Destinos :=
  { d with
    groups := updateKey NewsOnGroupRoles.groupRoleId groupRoleId (.marcado agora motivo) d.groups
    groups_nodup := nodup_updateKey (fun _ => rfl) d.groups_nodup }

def marcaLink (agora : Instant) (id : Id) (motivo : Option String) (d : Destinos) : Destinos :=
  { d with
    groupLinks := updateKey NewsGroupLink.id id (.marcado agora motivo) d.groupLinks
    groupLinks_nodup := nodup_updateKey (fun _ => rfl) d.groupLinks_nodup }

/-- `marca` of a destination. -/
def marca (agora : Instant) (chave : ChaveDoDestino) (motivo : Option String) (d : Destinos) :
    Destinos :=
  match chave with
  | .grupo groupRoleId => d.marcaGrupo agora groupRoleId motivo
  | .avulso id => d.marcaLink agora id motivo

end Destinos

/-- A news item with its destinations, its rounds, and the messages WhatsApp has accepted for it. -/
structure Divulgacao where
  churchId : Option Id
  destinos : Destinos
  dispatches : List NewsDispatch
  aceitas : List Jid

/-! ### One round -/

/-- What WhatsApp answers in a round, for each destination: the group of its link, and whether a
message to that group is accepted, or the text of the error.  `trim` is of the language. -/
structure Rede where
  trim : String → String
  resolveGroupIdFromInvite : ChaveDoDestino → Except String Jid
  sendToGroup : ChaveDoDestino → Except String Unit

/-- The variables of the loop. -/
structure Envio where
  divulgacao : Divulgacao
  jidsAtendidos : List Jid
  enviados : Nat
  falhas : Nat
  semLink : Nat

namespace Envio

variable (rede : Rede) (agora : Instant)

def marcar (agora : Instant) (destino : Destino) (motivo : Option String) (e : Envio) : Envio :=
  { e with
    divulgacao :=
      { e.divulgacao with destinos := e.divulgacao.destinos.marca agora destino.chave motivo } }

/-- `!link`. -/
def semLink? (destino : Destino) : Bool := destino.link.all fun link => link = ""

/-- The `catch`. -/
def falhar (destino : Destino) (motivo : String) (e : Envio) : Envio :=
  { e with falhas := e.falhas + 1 }.marcar agora destino (some motivo)

/-- One turn of the loop. -/
def tentar (e : Envio) (destino : Destino) : Envio :=
  if semLink? destino then
    { e with semLink := e.semLink + 1 }.marcar agora destino
      (some "O grupo não tem link de WhatsApp preenchido.")
  else
    match rede.resolveGroupIdFromInvite destino.chave with
    | .error motivo => e.falhar agora destino motivo
    | .ok jid =>
        if jid ∈ e.jidsAtendidos then
          { e with enviados := e.enviados + 1 }.marcar agora destino none
        else
          match rede.sendToGroup destino.chave with
          | .error motivo => e.falhar agora destino motivo
          | .ok () =>
              { e with
                divulgacao := { e.divulgacao with aceitas := e.divulgacao.aceitas ++ [jid] }
                jidsAtendidos := e.jidsAtendidos ++ [jid]
                enviados := e.enviados + 1 }.marcar agora destino none

def inicio (d : Divulgacao) : Envio where
  divulgacao := d
  jidsAtendidos := []
  enviados := 0
  falhas := 0
  semLink := 0

end Envio

/-- `!force && destino.sentAt`: a publication skips who has already received. -/
def pula (origem : NewsDispatchOrigin) (destino : Destino) : Bool :=
  origem = .publish && destino.resultado.sentAt.isSome

namespace Divulgacao

variable (rede : Rede) (origem : NewsDispatchOrigin) (agora : Instant) (d : Divulgacao)

/-- The destinations a round attempts. -/
def tentados : List Destino :=
  (d.destinos.lista rede.trim).filter fun destino => !pula origem destino

/-- The loop of a round. -/
def rodada : Envio :=
  (d.destinos.lista rede.trim).foldl
    (fun e destino => if pula origem destino then e else e.tentar rede agora destino) (.inicio d)

/-- `disparaNoWhatsapp`, with what it counts. -/
def disparaNoWhatsapp : Divulgacao × Nat × Nat × Nat :=
  if d.churchId.isNone then (d, 0, 0, 0)
  else
    let fim := d.rodada rede origem agora
    let contas := (fim.enviados, fim.falhas, fim.semLink)
    if fim.enviados + fim.falhas + fim.semLink > 0 then
      ({ fim.divulgacao with
          dispatches := fim.divulgacao.dispatches ++
            [⟨origem, agora, fim.enviados, fim.falhas, fim.semLink⟩] }, contas)
    else (fim.divulgacao, contas)

/-! ### Runs -/

/-- A round, or an edit of the destinations between two of them. -/
inductive Acao where
  | disparar (rede : Rede) (origem : NewsDispatchOrigin) (agora : Instant)
  | editar (destinos : Destinos)

def step (d : Divulgacao) : Acao → Divulgacao
  | .disparar rede origem agora => (d.disparaNoWhatsapp rede origem agora).1
  | .editar destinos => { d with destinos := destinos }

end Divulgacao

end IccvBackend
