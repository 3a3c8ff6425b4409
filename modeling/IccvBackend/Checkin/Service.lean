/-
Module: IccvBackend.Checkin.Service
Purpose: The counter of an event (`checkin.service.ts`), statement by statement: any number of
  operators deliver badges, call, complete and undo at once.
Trusted boundary: human-reviewed spec
Main exports: CheckinRow, Balcao, Balcao.Ponto, Balcao.Chamada, Balcao.avancar, Balcao.step
-/
import IccvBackend.Event.Bedrooms
import IccvBackend.Lib.Table

namespace IccvBackend

open Lib

/-! ### One check-in -/

/-- A check-in with its stamps. -/
structure CheckinRow extends Checkin where
  badgeDeliveredAt : Option Instant
  badgeDeliveredById : Option Id
  calledAt : Option Instant
  calledById : Option Id
  doneAt : Option Instant
  doneById : Option Id
  notes : Option String
deriving Repr, DecidableEq

namespace CheckinRow

/-- The primary key. -/
def chave (r : CheckinRow) : Id × Id := (r.userId, r.eventId)

/-- The row the first delivery creates. -/
def nova (userId eventId operatorId : Id) (agora : Instant) : CheckinRow where
  userId := userId
  eventId := eventId
  status := .queued
  autoBedroomId := none
  badgeDeliveredAt := some agora
  badgeDeliveredById := some operatorId
  calledAt := none
  calledById := none
  doneAt := none
  doneById := none
  notes := none

/-- The update of a new delivery. -/
def entregar (operatorId : Id) (agora : Instant) (r : CheckinRow) : CheckinRow :=
  { r with
    status := .queued
    badgeDeliveredAt := some agora
    badgeDeliveredById := some operatorId
    calledAt := none
    calledById := none
    doneAt := none
    doneById := none }

def chamar (operatorId : Id) (agora : Instant) (r : CheckinRow) : CheckinRow :=
  { r with status := .inProgress, calledAt := some agora, calledById := some operatorId }

def concluir (operatorId : Id) (agora : Instant) (notes : Option String) (r : CheckinRow) :
    CheckinRow :=
  { r with
    status := .done
    doneAt := some agora
    doneById := some operatorId
    notes := notes.or r.notes }

/-- `anterior`: the update of `undo`, for the status it has read. -/
def anterior (status : CheckinStatus) (r : CheckinRow) : CheckinRow :=
  match status with
  | .done => { r with status := .inProgress, doneAt := none, doneById := none }
  | .inProgress => { r with status := .queued, calledAt := none, calledById := none }
  | .queued => { r with status := .pending, badgeDeliveredAt := none, badgeDeliveredById := none }
  | .pending => r

/-- The update of `undoBadgeDelivery`. -/
def reverter (r : CheckinRow) : CheckinRow :=
  { r with
    status := .pending
    badgeDeliveredAt := none
    badgeDeliveredById := none
    calledAt := none
    calledById := none
    doneAt := none
    doneById := none
    autoBedroomId := none }

def comQuarto (autoBedroomId : Option Id) (r : CheckinRow) : CheckinRow :=
  { r with autoBedroomId := autoBedroomId }

/-- `badgeDeliveredAt: 'asc'`, where nulls come last. -/
def porChegada (a b : CheckinRow) : Bool :=
  match a.badgeDeliveredAt, b.badgeDeliveredAt with
  | some x, some y => x ≤ y
  | none, some _ => false
  | _, none => true

end CheckinRow

/-- `NEXT_CANDIDATES`. -/
def nextCandidates : Nat := 5

/-- `QUEUE_STATUSES`. -/
def queueStatuses : List CheckinStatus := [.queued, .inProgress]

/-! ### Calls in flight

A call runs one statement at a time and others run in between.  The count and the create of
`allocateBedroom` hold the row of the bedroom and are one step.  The registrations, the modules of
the events and the bedrooms are not written here. -/

namespace Balcao

/-- What the operator is told. -/
inductive Resposta where
  | participante (userId : Id)
  | recusada (falha : Failure)
deriving Repr, DecidableEq

/-- The statement a call runs next, with what it has read. -/
inductive Ponto where
  | deliverBadge (userId : Id)
  /-- the write of the status, with the row found -/
  | entregar (userId : Id) (existente : Option CheckinRow)
  | jaTemQuarto (userId : Id)
  | candidatos (userId : Id)
  /-- the bedrooms still to try -/
  | alocar (userId : Id) (quartos : List Bedroom)
  | registrar (userId bedroomId : Id)
  | call (userId : Id)
  | callRecusado (userId : Id)
  | callNext
  /-- the candidates read, and how many were tried -/
  | tentarProximo (candidatos : List CheckinRow) (tentados : Nat)
  | complete (userId : Id) (notes : Option String)
  | completeRecusado (userId : Id)
  | undo (userId : Id)
  | desfazer (userId : Id) (atual : CheckinRow)
  | undoBadgeDelivery (userId : Id)
  | reverter (userId : Id) (autoBedroomId : Option Id)
  /-- `releaseAutoBedroom`, from its delete -/
  | liberar (userId bedroomId : Id)
  | limpar (userId : Id)
  | fim (resposta : Resposta)
deriving Repr, DecidableEq

structure Chamada where
  eventId : Id
  operatorId : Id
  ponto : Ponto
deriving Repr, DecidableEq

end Balcao

/-- The tables of the counter, and the calls made on it. -/
structure Balcao where
  db : Database
  desligados : List Id
  bedrooms : List Bedroom
  bedroomsOnUsers : List BedroomOnUser
  checkins : List CheckinRow
  proximoQuarto : Id
  chamadas : List Balcao.Chamada

/-- The name of an operator, `hora`, and the collation of `porNome`. -/
structure TextosDoBalcao where
  operador : Id → Option String
  hora : Instant → String
  porNome : String → String → Bool

namespace Balcao

variable (textos : TextosDoBalcao) (b : Balcao)

/-- The same tables, as the bedrooms see them. -/
def casa : Hospedagem where
  db := b.db
  desligados := b.desligados
  bedrooms := b.bedrooms
  bedroomsOnUsers := b.bedroomsOnUsers
  checkins := b.checkins.map CheckinRow.toCheckin
  proximoQuarto := b.proximoQuarto

def checkin? (userId eventId : Id) : Option CheckinRow :=
  lookup CheckinRow.chave (userId, eventId) b.checkins

/-- `checkin.update` by the key. -/
def atualizar (userId eventId : Id) (f : CheckinRow → CheckinRow) : Balcao :=
  { b with checkins := updateKey CheckinRow.chave (userId, eventId) f b.checkins }

/-- `checkin.updateMany` by the key and the status: nothing when no row has both. -/
def atualizarSe (userId eventId : Id) (esperado : CheckinStatus → Bool)
    (f : CheckinRow → CheckinRow) : Option Balcao :=
  if (b.checkin? userId eventId).any fun r => esperado r.status then
    some (b.atualizar userId eventId f)
  else none

/-- ` por …` and ` às …`, when there is somebody and an hour. -/
def porQuemEQuando (quem : Option Id) (quando : Option Instant) : String :=
  let por := ((quem.bind textos.operador).map fun nome => " por " ++ nome).getD ""
  let as' := (quando.map fun instante => " às " ++ textos.hora instante).getD ""
  por ++ as'

def naoRetirou : Failure := conflict "Este participante ainda não retirou o crachá na recepção"

/-- The refusal of `call`, from the row it reads afterwards. -/
def recusaDeCall (atual : Option CheckinRow) : Failure :=
  match atual with
  | none => naoRetirou
  | some r =>
      match r.status with
      | .pending => naoRetirou
      | .done => conflict "O check-in deste participante já foi concluído"
      | _ => conflict ("Participante já chamado" ++ porQuemEQuando textos r.calledById r.calledAt)

/-- The refusal of `complete`, from the row it reads afterwards. -/
def recusaDeComplete (atual : Option CheckinRow) : Failure :=
  match atual with
  | none => naoRetirou
  | some r =>
      if r.status = .pending then naoRetirou
      else conflict ("Check-in já concluído" ++ porQuemEQuando textos r.doneById r.doneAt)

def inscrito (userId eventId : Id) : Bool := (b.db.registration? userId eventId).isSome

def naoInscrito : Failure := notFound "Participante não inscrito neste evento"

/-- The candidates of `callNext`.  `empate` is the order the database gives to equal instants. -/
def fila (eventId : Id) (empate : CheckinRow → Nat) : List CheckinRow :=
  (((b.checkins.filter fun r => r.eventId = eventId && r.status = .queued).mergeSort
    (fun r r' => empate r ≤ empate r')).mergeSort CheckinRow.porChegada).take nextCandidates

/-- A bedroom of the event is already the person's. -/
def temQuarto (userId eventId : Id) : Bool :=
  b.bedroomsOnUsers.any fun row => row.userId = userId && b.bedrooms.any fun quarto =>
    quarto.id = row.bedroomsId && quarto.eventId = eventId

/-! ### One statement -/

/-- `deliverBadge`. -/
def avancarEntrega (c : Chamada) (agora : Instant) : Ponto → Balcao × Ponto
  | .deliverBadge userId =>
      if b.inscrito userId c.eventId then
        (b, .entregar userId (b.checkin? userId c.eventId))
      else (b, .fim (.recusada naoInscrito))
  | .entregar userId none =>
      if (b.checkin? userId c.eventId).isSome then
        (b, .fim (.recusada
          (conflict "Outro operador acabou de entregar o crachá deste participante")))
      else
        ({ b with checkins := b.checkins ++ [.nova userId c.eventId c.operatorId agora] },
          .jaTemQuarto userId)
  | .entregar userId (some existente) =>
      match b.atualizarSe userId c.eventId (· = .pending) (.entregar c.operatorId agora) with
      | some depois => (depois, .jaTemQuarto userId)
      | none =>
          (b, .fim (.recusada (conflict ("Crachá já entregue" ++
            porQuemEQuando textos existente.badgeDeliveredById existente.badgeDeliveredAt))))
  | .jaTemQuarto userId =>
      if !b.casa.moduloAtivo c.eventId || b.temQuarto userId c.eventId then
        (b, .fim (.participante userId))
      else (b, .candidatos userId)
  | .candidatos userId =>
      (b, .alocar userId (b.casa.candidateBedrooms textos.porNome c.eventId
        (b.casa.gruposDe c.eventId userId)))
  | .alocar userId [] => (b, .fim (.participante userId))
  | .alocar userId (quarto :: quartos) =>
      if quarto.capacity.any fun capacity => capacity ≤ (b.casa.ocupantes quarto.id : Int) then
        (b, .alocar userId quartos)
      else if ⟨userId, quarto.id⟩ ∈ b.bedroomsOnUsers then
        -- the key is taken: the error is logged and the delivery stands
        (b, .fim (.participante userId))
      else
        ({ b with bedroomsOnUsers := b.bedroomsOnUsers ++ [⟨userId, quarto.id⟩] },
          .registrar userId quarto.id)
  | .registrar userId bedroomId =>
      (b.atualizar userId c.eventId (.comQuarto (some bedroomId)),
        .fim (.participante userId))
  | ponto => (b, ponto)

/-- `call` and `callNext`. -/
def avancarFoto (c : Chamada) (agora : Instant) (empate : CheckinRow → Nat) :
    Ponto → Balcao × Ponto
  | .call userId =>
      match b.atualizarSe userId c.eventId (· = .queued) (.chamar c.operatorId agora) with
      | some depois => (depois, .fim (.participante userId))
      | none => (b, .callRecusado userId)
  | .callRecusado userId =>
      (b, .fim (.recusada (recusaDeCall textos (b.checkin? userId c.eventId))))
  | .callNext => (b, .tentarProximo (b.fila c.eventId empate) 0)
  | .tentarProximo candidatos tentados =>
      match candidatos[tentados]? with
      | none => (b, .fim (.recusada (notFound "Não há ninguém aguardando na fila")))
      | some candidato =>
          match b.atualizarSe candidato.userId c.eventId (· = .queued)
            (.chamar c.operatorId agora) with
          | some depois => (depois, .fim (.participante candidato.userId))
          | none => (b, .tentarProximo candidatos (tentados + 1))
  | ponto => (b, ponto)

/-- `complete`. -/
def avancarConclusao (c : Chamada) (agora : Instant) : Ponto → Balcao × Ponto
  | .complete userId notes =>
      match b.atualizarSe userId c.eventId (· ∈ queueStatuses)
        (.concluir c.operatorId agora notes) with
      | some depois => (depois, .fim (.participante userId))
      | none => (b, .completeRecusado userId)
  | .completeRecusado userId =>
      (b, .fim (.recusada (recusaDeComplete textos (b.checkin? userId c.eventId))))
  | ponto => (b, ponto)

/-- After the write of an undo: the release of the bedroom it has read, if any. -/
def soltarQuarto (userId : Id) : Option Id → Ponto
  | some bedroomId => .liberar userId bedroomId
  | none => .fim (.participante userId)

/-- `undo`, `undoBadgeDelivery` and `releaseAutoBedroom`. -/
def avancarRetorno (c : Chamada) : Ponto → Balcao × Ponto
  | .undo userId =>
      match b.checkin? userId c.eventId with
      | some atual =>
          if atual.status = .pending then
            (b, .fim (.recusada (conflict "Não há etapa de check-in para desfazer")))
          else (b, .desfazer userId atual)
      | none => (b, .fim (.recusada (conflict "Não há etapa de check-in para desfazer")))
  | .desfazer userId atual =>
      match b.atualizarSe userId c.eventId (· = atual.status) (.anterior atual.status) with
      | some depois =>
          (depois, soltarQuarto userId
            (if atual.status = .queued then atual.autoBedroomId else none))
      | none =>
          (b, .fim (.recusada (conflict
            "O status deste participante mudou. Atualize a tela e tente de novo.")))
  | .undoBadgeDelivery userId =>
      if b.inscrito userId c.eventId then
        (b, .reverter userId ((b.checkin? userId c.eventId).bind fun r => r.autoBedroomId))
      else (b, .fim (.recusada naoInscrito))
  | .reverter userId autoBedroomId =>
      match b.atualizarSe userId c.eventId (· ≠ .pending) .reverter with
      | some depois => (depois, soltarQuarto userId autoBedroomId)
      | none =>
          (b, .fim (.recusada (conflict
            "Este participante não tem entrega de crachá para reverter")))
  | .liberar userId bedroomId =>
      ({ b with bedroomsOnUsers := b.bedroomsOnUsers.filter fun row =>
          row ≠ ⟨userId, bedroomId⟩ }, .limpar userId)
  | .limpar userId =>
      (b.atualizar userId c.eventId (.comQuarto none),
        .fim (.participante userId))
  | ponto => (b, ponto)

/-- The next statement of a call. -/
def avancar (c : Chamada) (agora : Instant) (empate : CheckinRow → Nat) : Balcao × Ponto :=
  match c.ponto with
  | .deliverBadge _ | .entregar _ _ | .jaTemQuarto _ | .candidatos _ | .alocar _ _
  | .registrar _ _ => b.avancarEntrega textos c agora c.ponto
  | .call _ | .callRecusado _ | .callNext | .tentarProximo _ _ =>
      b.avancarFoto textos c agora empate c.ponto
  | .complete _ _ | .completeRecusado _ => b.avancarConclusao textos c agora c.ponto
  | .undo _ | .desfazer _ _ | .undoBadgeDelivery _ | .reverter _ _ | .liberar _ _ | .limpar _ =>
      b.avancarRetorno c c.ponto
  | .fim resposta => (b, .fim resposta)

/-! ### Runs -/

/-- What an operator asks for. -/
inductive Pedido where
  | deliverBadge (userId : Id)
  | call (userId : Id)
  | callNext
  | complete (userId : Id) (notes : Option String)
  | undo (userId : Id)
  | undoBadgeDelivery (userId : Id)
deriving Repr, DecidableEq

def Pedido.ponto : Pedido → Ponto
  | .deliverBadge userId => .deliverBadge userId
  | .call userId => .call userId
  | .callNext => .callNext
  | .complete userId notes => .complete userId notes
  | .undo userId => .undo userId
  | .undoBadgeDelivery userId => .undoBadgeDelivery userId

inductive Acao where
  | nova (eventId operatorId : Id) (pedido : Pedido)
  /-- the call at this place runs its next statement -/
  | avancar (i : Nat) (agora : Instant) (empate : CheckinRow → Nat)

def step (b : Balcao) : Acao → Balcao
  | .nova eventId operatorId pedido =>
      { b with chamadas := b.chamadas ++ [⟨eventId, operatorId, pedido.ponto⟩] }
  | .avancar i agora empate =>
      match b.chamadas[i]? with
      | none => b
      | some c =>
          let (depois, ponto) := b.avancar textos c agora empate
          { depois with chamadas := b.chamadas.set i { c with ponto := ponto } }

end Balcao

end IccvBackend
