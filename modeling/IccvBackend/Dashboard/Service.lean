/-
Module: IccvBackend.Dashboard.Service
Purpose: The numbers of the events on the home of the panel, and the tasks taken from them
  (`dashboard.service.ts`).
Trusted boundary: human-reviewed spec
Main exports: faseDoEvento, Dashboard.detalhar, pendencias
-/
import IccvBackend.Auth.Tenant
import IccvBackend.Event.Bedrooms
import IccvBackend.Event.Waitlist

namespace IccvBackend

open Lib

/-! ### Phases -/

/-- Where the local day of an instant begins and ends. -/
structure Fuso where
  inicioDoDia : Instant → Instant
  fimDoDia : Instant → Instant

inductive Dashboard.Fase where
  | ongoing
  | upcoming
  | finished
deriving Repr, DecidableEq

structure IgrejaDoEvento where
  id : Id
  name : String
deriving Repr, DecidableEq

/-- `EventoBase`. -/
structure EventoBase where
  id : Id
  name : String
  startDate : Instant
  endDate : Instant
  status : EventStatus
  church : IgrejaDoEvento
deriving Repr, DecidableEq

/-- Both ends of the event count as whole days. -/
def faseDoEvento (fuso : Fuso) (agora : Instant) (evento : EventoBase) : Dashboard.Fase :=
  if agora > fuso.fimDoDia evento.endDate then .finished
  else if agora ≥ fuso.inicioDoDia evento.startDate then .ongoing
  else .upcoming

/-! ### The numbers of an event -/

/-- A row of the query of the groups. -/
structure GrupoDoEvento where
  eventId : Id
  groupId : Id
  name : String
  capacity : Option Int
  taken : Nat
deriving Repr, DecidableEq

structure SomaDeStatus where
  count : Nat
  amount : ℚ
deriving DecidableEq

structure Vagas where
  taken : Nat
  total : Option Int
deriving Repr, DecidableEq

structure Caixa where
  paid : SomaDeStatus
  inAnalysis : SomaDeStatus
  waiting : SomaDeStatus
  expected : ℚ
deriving DecidableEq

structure EventoDetalhado extends EventoBase where
  phase : Dashboard.Fase
  people : Nat
  seats : Vagas
  groups : List GrupoDoEvento
  waitlist : Nat
  finance : Caixa
  /-- how many check-ins are done, of how many people -/
  checkin : Option (Nat × Nat)
deriving DecidableEq

/-- The tables the panel reads. -/
structure Dashboard where
  db : Database
  checkins : List Checkin

namespace Dashboard

variable (dashboard : Dashboard)

/-- `count(r.*)` over the roles of a group. -/
def taken (group : GroupRoles) : Nat :=
  (group.roles.map fun role =>
    dashboard.db.inscricoes.countP fun i => i.roleRegistrationId = role.id).sum

/-- The rows of the groups of some events, `ORDER BY g."name"`. -/
def grupos (porNome : String → String → Bool) (ids : List Id) : List GrupoDoEvento :=
  ((dashboard.db.catalogue.groups.filter fun group => group.eventId ∈ ids).map fun group =>
    { eventId := group.eventId
      groupId := group.id
      name := group.name
      capacity := group.capacity
      taken := dashboard.taken group }).mergeSort fun g g' => porNome g.name g'.name

/-- `porStatus`. -/
def porStatus (eventId : Id) (status : PaymentStatus) : SomaDeStatus :=
  let linhas := dashboard.db.payments.filter fun p => p.eventId = some eventId && p.status = status
  { count := linhas.length
    amount := (linhas.map Payment.amount).sum }

def checkinDe (eventId : Id) (inscritos : Nat) : Option (Nat × Nat) :=
  let doCheckin := dashboard.checkins.filter fun r => r.eventId = eventId
  let checkinsFeitos := doCheckin.countP fun r => r.status = .done
  if doCheckin.isEmpty then none else some (checkinsFeitos, inscritos)

/-- `comTeto`, summed: an event without capacity has no total. -/
def totalDeVagas (doEvento : List GrupoDoEvento) : Option Int :=
  let total := (doEvento.filterMap GrupoDoEvento.capacity).sum
  if total = 0 then none else some total

/-- One event of `detalhar`, with the rows the queries brought. -/
def detalhe (fuso : Fuso) (agora : Instant) (grupos : List GrupoDoEvento) (evento : EventoBase) :
    EventoDetalhado :=
  let doEvento := grupos.filter fun linha => linha.eventId = evento.id
  let inscritos := dashboard.db.eventOnUsers.countP fun row => row.eventId = evento.id
  let paid := dashboard.porStatus evento.id .paid
  let inAnalysis := dashboard.porStatus evento.id .inAnalysis
  let waiting := dashboard.porStatus evento.id .waiting
  { evento with
    phase := faseDoEvento fuso agora evento
    people := inscritos
    seats :=
      { taken := (doEvento.map GrupoDoEvento.taken).sum
        total := totalDeVagas doEvento }
    groups := doEvento
    waitlist := dashboard.db.waitlist.countP fun row => row.eventId = evento.id
    finance :=
      { paid := paid
        inAnalysis := inAnalysis
        waiting := waiting
        expected := paid.amount + inAnalysis.amount + waiting.amount }
    checkin := dashboard.checkinDe evento.id inscritos }

/-- `detalhar`. -/
def detalhar (porNome : String → String → Bool) (fuso : Fuso) (agora : Instant)
    (eventos : List EventoBase) : List EventoDetalhado :=
  let ids := eventos.map EventoBase.id
  eventos.map (dashboard.detalhe fuso agora (dashboard.grupos porNome ids))

end Dashboard

/-! ### The tasks -/

inductive KindDaPendencia where
  | receipts
  | waitlist
deriving Repr, DecidableEq

structure Pendencia where
  kind : KindDaPendencia
  eventId : Id
  eventName : String
  churchName : String
  count : Nat
  amount : Option ℚ
  seatsOpen : Option Int
deriving DecidableEq

namespace EventoDetalhado

variable (evento : EventoDetalhado)

/-- The receipts to check, of any event. -/
def comprovantes : Option Pendencia :=
  if evento.finance.inAnalysis.count > 0 then
    some
      { kind := .receipts
        eventId := evento.id
        eventName := evento.name
        churchName := evento.church.name
        count := evento.finance.inAnalysis.count
        amount := some evento.finance.inAnalysis.amount
        seatsOpen := none }
  else none

/-- `livres`. -/
def livres : Int :=
  match evento.seats.total with
  | none => 0
  | some total => total - evento.seats.taken

/-- Somebody to call from the waiting list. -/
def listaDeEspera (gerenciaInscricao : Bool) : Option Pendencia :=
  if evento.phase ≠ .finished ∧ gerenciaInscricao ∧ evento.waitlist > 0 ∧ evento.livres > 0 then
    some
      { kind := .waitlist
        eventId := evento.id
        eventName := evento.name
        churchName := evento.church.name
        count := evento.waitlist
        amount := none
        seatsOpen := some evento.livres }
  else none

end EventoDetalhado

/-- Calling from the waiting list is of whoever administers: the treasury does not. -/
def gerenciaInscricao (perfil : Option Int) (todasAsIgrejas : Bool) : Bool :=
  todasAsIgrejas || perfil ≠ some Role.tesouraria

/-- `pendencias`. -/
def pendencias (eventos : List EventoDetalhado) (perfil : Option Int) (todasAsIgrejas : Bool) :
    List Pendencia :=
  eventos.flatMap fun evento =>
    evento.comprovantes.toList ++
      (evento.listaDeEspera (gerenciaInscricao perfil todasAsIgrejas)).toList

end IccvBackend
