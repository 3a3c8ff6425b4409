/-
Module: IccvBackend.Team.Service
Purpose: `create`, `update` and `delete` of `team/team.service.ts` as the statements they are,
  several requests in flight, among the operations that enrol people and take them out of an event.
Trusted boundary: human-reviewed spec
Main exports: Equipes.Equipe, Equipes.Membro, Equipes.TeammDto, Equipes.Banco, Equipes.Chamada,
  Equipes.Sistema, Equipes.Acao, Equipes.step
-/
import IccvBackend.Bedrooms.Service
import IccvBackend.Lib.Upsert

namespace IccvBackend.Equipes

open Lib

/-!
No transaction is opened but for the rows of `createRelations`, which are written all or none.  How
a statement of a request ends comes with the run, as for the rooms: well, failing with nothing
written, or failing once it is written.  What a constraint refuses is not written.

`updateUserFromEvent` takes a person out of the event and in again in one transaction, and an
account with a team is not deleted: neither is a step here.
-/

inductive TeamRole where
  | member
  | leader
deriving Repr, DecidableEq

/-- A row of `Team`. -/
structure Equipe where
  id : Id
  eventId : Id
  name : String
  note : Option String
  capacity : Int
deriving DecidableEq

/-- A row of `TeamOnUsers`. -/
structure Membro where
  userId : Id
  teamId : Id
  role : TeamRole
deriving DecidableEq

/-- `userId_teamId`. -/
def Membro.chave (m : Membro) : Id × Id := (m.userId, m.teamId)

/-- The body of `create` and `update`.  The arrays are checked, their items are not. -/
structure TeammDto where
  name : String
  note : Option String
  capacity : Int
  usersId : List IdRecebido
  usersLeadersId : List IdRecebido
deriving DecidableEq

namespace TeammDto

variable (dto : TeammDto)

/-- `[...usersId, ...usersLeadersId]`. -/
def todos : List IdRecebido := dto.usersId ++ dto.usersLeadersId

/-- Those of the lists who are somebody, each once. -/
def pessoas : List Id := (dto.todos.filterMap IdRecebido.id?).eraseDups

/-- Who is in both lists is a leader. -/
def papel (userId : Id) : TeamRole :=
  if dto.usersLeadersId.contains (.id userId) then .leader else .member

/-- `uniqueUsers` of `createRelations`. -/
def uniqueUsers (idTeam : Id) : List Membro :=
  dto.pessoas.map fun userId => ⟨userId, idTeam, dto.papel userId⟩

end TeammDto

/-! ### The tables -/

/-- A failure of the database that the service catches. -/
def capturada : Failure := internalServerError "Internal Server Error"

/-- One that reaches the framework. -/
def solta : Failure := internalServerError "Internal server error"

/-- `inscricoes` are the keys of `EventOnUsers`, `desligados` the events without the module. -/
structure Banco where
  eventos : List Id
  desligados : List Id
  inscricoes : List (Id × Id)
  equipes : List Equipe
  membros : List Membro
  proximoId : Id

namespace Banco

variable (s : Banco)

/-- `moduloAtivo(evento?.data, 'teams')`. -/
def moduloAtivo (eventId : Id) : Bool := !s.desligados.contains eventId

def equipe? (idTeam : Id) : Option Equipe := lookup Equipe.id idTeam s.equipes

/-- `assertModuloLigado`. -/
def assertModuloLigado (eventId : Id) : Except Failure Unit :=
  failIf (¬ s.moduloAtivo eventId) (badRequest "O módulo Equipes está desligado neste evento")

/-- `assertUsersNoEvento`.  An item that is neither empty nor a text is no value of the column. -/
def assertUsersNoEvento (eventId : Id) (dto : TeammDto) : Except Failure Unit := do
  failIf (dto.todos.contains .outro) solta
  failIf (¬ dto.pessoas.all fun userId => s.inscricoes.contains (userId, eventId))
    (badRequest "Há pessoas na lista que não estão inscritas neste evento")

/-- `findFirst` of the team in the event. -/
def noEvento (idTeam eventId : Id) : Bool :=
  (s.equipe? idTeam).any fun equipe => equipe.eventId = eventId

/-- `team.create`, into an event that is there. -/
def criarEquipe (eventId : Id) (dto : TeammDto) : Option Banco :=
  if s.eventos.contains eventId then
    some
      { s with
        equipes := s.equipes ++ [⟨s.proximoId, eventId, dto.name, dto.note, dto.capacity⟩]
        proximoId := s.proximoId + 1 }
  else none

/-- `createRelations`: the team is there, and every item is somebody. -/
def createRelations (idTeam : Id) (dto : TeammDto) : Option Banco :=
  if (s.equipe? idTeam).isSome && dto.todos.all fun item => item.id?.isSome then
    some { s with
      membros := (dto.uniqueUsers idTeam).foldl (fun rows m => upsert Membro.chave m rows)
        s.membros }
  else none

/-- `deleteMany` of who is in neither list.  A null in them is no value of the column. -/
def removerAusentes (idTeam : Id) (dto : TeammDto) : Option Banco :=
  if dto.todos.all IdRecebido.texto then
    some { s with
      membros := s.membros.filter fun m => m.teamId ≠ idTeam ∨ dto.pessoas.contains m.userId }
  else none

/-- `team.update`. -/
def gravarEquipe (eventId idTeam : Id) (dto : TeammDto) : Option Banco :=
  if (s.equipe? idTeam).isSome then
    some { s with
      equipes := updateKey Equipe.id idTeam
        (fun equipe => { equipe with eventId, name := dto.name, note := dto.note,
                                     capacity := dto.capacity }) s.equipes }
  else none

/-- `deleteMany` of the members of a team. -/
def apagarMembros (idTeam : Id) : Banco :=
  { s with membros := s.membros.filter fun m => m.teamId ≠ idTeam }

/-- `team.delete`: the team is there, and nobody in it. -/
def apagarEquipe (idTeam : Id) : Option Banco :=
  if (s.equipe? idTeam).isSome && s.membros.all fun m => m.teamId ≠ idTeam then
    some { s with equipes := deleteKey Equipe.id idTeam s.equipes }
  else none

/-! ### Who is enrolled -/

/-- The row of `EventOnUsers` that a registration leaves. -/
def inscrever (userId eventId : Id) : Banco :=
  if s.eventos.contains eventId && !s.inscricoes.contains (userId, eventId) then
    { s with inscricoes := s.inscricoes ++ [(userId, eventId)] }
  else s

def semInscricao (userId eventId : Id) : Banco :=
  { s with inscricoes := s.inscricoes.filter fun inscricao => inscricao ≠ (userId, eventId) }

/-- The teams of an event. -/
def doEvento (eventId idTeam : Id) : Bool :=
  s.equipes.any fun equipe => equipe.id = idTeam ∧ equipe.eventId = eventId

/-- The transaction of `removeUserFromEvent`. -/
def removeUserFromEvent (userId eventId : Id) : Banco :=
  { s.semInscricao userId eventId with
    membros := s.membros.filter fun m => !(m.userId = userId && s.doEvento eventId m.teamId) }

/-- The transaction of `movedUserFromWaitlistToEvent`.  `ultima` says that the one who leaves held
no role of another group. -/
def movedUserFromWaitlistToEvent (userId userRemovedId eventId : Id) (ultima : Bool) : Banco :=
  (if ultima then s.semInscricao userRemovedId eventId else s).inscrever userId eventId

/-- The transaction of `EventService.remove`. -/
def removerEvento (eventId : Id) : Banco :=
  { s with
    eventos := s.eventos.filter fun other => other ≠ eventId
    inscricoes := s.inscricoes.filter fun inscricao => inscricao.2 ≠ eventId
    equipes := s.equipes.filter fun equipe => equipe.eventId ≠ eventId
    membros := s.membros.filter fun m => !s.doEvento eventId m.teamId }

end Banco

/-! ### Requests in flight -/

/-- A request between two of its statements. -/
inductive Chamada where
  /-- before `assertUsersNoEvento`, with the id of the team that is edited -/
  | conferindo (eventId : Id) (idTeam : Option Id) (dto : TeammDto)
  | criando (eventId : Id) (dto : TeammDto)
  | procurando (eventId idTeam : Id) (dto : TeammDto)
  | limpando (eventId idTeam : Id) (dto : TeammDto)
  | gravando (eventId idTeam : Id) (dto : TeammDto)
  | vinculando (idTeam : Id) (dto : TeammDto)
  | esvaziando (idTeam : Id)
  | apagando (idTeam : Id)
  | fim (resultado : Except Failure Unit)

structure Sistema where
  banco : Banco
  chamadas : List Chamada

def Sistema.vazio : Sistema where
  banco := ⟨[], [], [], [], [], 0⟩
  chamadas := []

/-- The statement wrote. -/
def gravou : Desfecho → Bool
  | .antes _ => false
  | .ok | .depois _ => true

/-- A statement that writes, and the request once it is done. -/
def escrita (recusa : Failure) (desfecho : Desfecho) (s : Banco) (escrito : Option Banco)
    (depois : Chamada) : Banco × Chamada :=
  match escrito with
  | none => (s, .fim (throw recusa))
  | some novo =>
      (if gravou desfecho then novo else s,
        if desfecho = .ok then depois else .fim (throw recusa))

/-- The next statement of a request. -/
def avancar (desfecho : Desfecho) (s : Banco) : Chamada → Banco × Chamada
  | .conferindo eventId idTeam dto =>
      match s.assertUsersNoEvento eventId dto, idTeam with
      | .error falhou, _ => (s, .fim (throw falhou))
      | .ok _, none => (s, .criando eventId dto)
      | .ok _, some idTeam => (s, .procurando eventId idTeam dto)
  | .criando eventId dto =>
      escrita capturada desfecho s (s.criarEquipe eventId dto) (.vinculando s.proximoId dto)
  | .procurando eventId idTeam dto =>
      if s.noEvento idTeam eventId then (s, .limpando eventId idTeam dto)
      else (s, .fim (throw (notFound "Team does not exists!")))
  | .limpando eventId idTeam dto =>
      escrita capturada desfecho s (s.removerAusentes idTeam dto) (.gravando eventId idTeam dto)
  | .gravando eventId idTeam dto =>
      escrita capturada desfecho s (s.gravarEquipe eventId idTeam dto) (.vinculando idTeam dto)
  | .vinculando idTeam dto =>
      escrita capturada desfecho s (s.createRelations idTeam dto) (.fim (pure ()))
  | .esvaziando idTeam =>
      escrita solta desfecho s (some (s.apagarMembros idTeam)) (.apagando idTeam)
  | .apagando idTeam => escrita solta desfecho s (s.apagarEquipe idTeam) (.fim (pure ()))
  | .fim resultado => (s, .fim resultado)

inductive Acao where
  /-- `create`, up to `assertModuloLigado` -/
  | create (eventId : Id) (dto : TeammDto)
  | update (eventId idTeam : Id) (dto : TeammDto)
  /-- `delete`, up to `findFirst` -/
  | delete (idTeam eventId : Id)
  /-- the next statement of a request -/
  | avancar (k : Nat) (desfecho : Desfecho)
  | inscrever (userId eventId : Id)
  | removeUserFromEvent (userId eventId : Id)
  | movedUserFromWaitlistToEvent (userId userRemovedId eventId : Id) (ultima : Bool)
  | criarEvento (eventId : Id)
  | removerEvento (eventId : Id)
  /-- an edition of the event, which never takes a person or a team -/
  | modulos (desligados : List Id)

namespace Sistema

variable (t : Sistema)

def iniciar (chamada : Chamada) : Sistema := { t with chamadas := t.chamadas ++ [chamada] }

def comBanco (banco : Banco) : Sistema := { t with banco }

end Sistema

/-- One step of a run. -/
def step (t : Sistema) : Acao → Sistema
  | .create eventId dto =>
      match t.banco.assertModuloLigado eventId with
      | .ok _ => t.iniciar (.conferindo eventId none dto)
      | .error falhou => t.iniciar (.fim (throw falhou))
  | .update eventId idTeam dto => t.iniciar (.conferindo eventId (some idTeam) dto)
  | .delete idTeam eventId =>
      if t.banco.noEvento idTeam eventId then t.iniciar (.esvaziando idTeam)
      else t.iniciar (.fim (throw (notFound "Team does not exist!")))
  | .avancar k desfecho =>
      match t.chamadas[k]? with
      | some chamada =>
          let seguinte := avancar desfecho t.banco chamada
          { banco := seguinte.1, chamadas := t.chamadas.set k seguinte.2 }
      | none => t
  | .inscrever userId eventId => t.comBanco (t.banco.inscrever userId eventId)
  | .removeUserFromEvent userId eventId => t.comBanco (t.banco.removeUserFromEvent userId eventId)
  | .movedUserFromWaitlistToEvent userId userRemovedId eventId ultima =>
      t.comBanco (t.banco.movedUserFromWaitlistToEvent userId userRemovedId eventId ultima)
  | .criarEvento eventId =>
      t.comBanco { t.banco with eventos := (eventId :: t.banco.eventos).eraseDups }
  | .removerEvento eventId => t.comBanco (t.banco.removerEvento eventId)
  | .modulos desligados => t.comBanco { t.banco with desligados }

end IccvBackend.Equipes
