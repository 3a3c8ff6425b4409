/-
Module: IccvBackend.Checkin.Panel
Purpose: The list of the reception and the numbers over it (`search` and `stats` of
  `checkin.service.ts`), and the counter among the registrations of its event.
Trusted boundary: human-reviewed spec
Main exports: Balcao.search, Balcao.stats, AcaoDoDia, Balcao.noDia
-/
import IccvBackend.Checkin.Service
import IccvBackend.Event.Waitlist

namespace IccvBackend

open Lib

/-- A line of the list: who, and how far the check-in has come. -/
structure Participante where
  userId : Id
  fullName : Option String
  status : CheckinStatus
  badgeDeliveredAt : Option Instant
  calledAt : Option Instant
  doneAt : Option Instant
  notes : Option String
deriving Repr, DecidableEq

/-- What `stats` answers. -/
structure Estatisticas where
  total : Nat
  queued : Nat
  inProgress : Nat
  done : Nat
  pending : Nat
deriving Repr, DecidableEq

namespace Balcao

variable (textos : TextosDoBalcao) (b : Balcao)

/-- `mapParticipant`: without a check-in, pending. -/
def mapParticipant (registration : EventOnUsers) (checkin : Option CheckinRow) : Participante where
  userId := registration.userId
  fullName := (b.db.catalogue.user? registration.userId).map User.fullName
  status := (checkin.map fun r => r.status).getD .pending
  badgeDeliveredAt := checkin.bind CheckinRow.badgeDeliveredAt
  calledAt := checkin.bind CheckinRow.calledAt
  doneAt := checkin.bind CheckinRow.doneAt
  notes := checkin.bind CheckinRow.notes

/-- The registrations of the event whose person passes the filters of the term, by name. -/
def registrations (eventId : Id) (termo : Option (User → Bool)) : List EventOnUsers :=
  let nome := fun row : EventOnUsers =>
    ((b.db.catalogue.user? row.userId).map User.fullName).getD ""
  (b.db.eventOnUsers.filter fun row =>
    row.eventId = eventId && termo.all fun filtro =>
      (b.db.catalogue.user? row.userId).any filtro).mergeSort
    fun row row' => textos.porNome (nome row) (nome row')

/-- `search`. -/
def search (eventId : Id) (termo : Option (User → Bool)) : List Participante :=
  let registrations := b.registrations textos eventId termo
  let checkins := b.checkins.filter fun r =>
    r.eventId = eventId && registrations.any fun row => row.userId = r.userId
  registrations.map fun row => b.mapParticipant row (checkins.find? fun r => r.userId = row.userId)

/-- One group of `groupBy`. -/
def contagem (eventId : Id) (status : CheckinStatus) : Nat :=
  b.checkins.countP fun r => r.eventId = eventId && r.status = status

/-- `stats`. -/
def stats (eventId : Id) : Estatisticas :=
  let totalInscritos := b.db.eventOnUsers.countP fun row => row.eventId = eventId
  let queued := b.contagem eventId .queued
  let inProgress := b.contagem eventId .inProgress
  let done := b.contagem eventId .done
  { total := totalInscritos
    queued := queued
    inProgress := inProgress
    done := done
    -- a subtraction of naturals stops at zero, as the `Math.max` does
    pending := totalInscritos - queued - inProgress - done }

end Balcao

/-! ### The day of the event -/

/-- What happens to the people of an event: registrations, the waiting list, and the counter. -/
inductive AcaoDoDia where
  | inscricao (acao : AcaoDeInscricao)
  | balcao (acao : Balcao.Acao)

namespace Balcao

variable (quando : Instant → String) (textos : TextosDoBalcao)

/-- Whoever is removed from the event leaves her bed. -/
def camasApos (b : Balcao) : AcaoDeInscricao → List BedroomOnUser
  | .removeUserFromEvent idUser idEvent role =>
      match removeUserFromEvent b.db idUser idEvent role with
      | .ok _ => b.bedroomsOnUsers.filter fun row =>
          !(row.userId = idUser && b.bedrooms.any fun quarto =>
            quarto.id = row.bedroomsId && quarto.eventId = idEvent)
      | .error _ => b.bedroomsOnUsers
  | _ => b.bedroomsOnUsers

/-- One step of the day.  No change of a registration writes a check-in. -/
def noDia (b : Balcao) : AcaoDoDia → Balcao
  | .inscricao acao =>
      { b with db := b.db.inscrevendo quando acao, bedroomsOnUsers := b.camasApos acao }
  | .balcao acao => b.step textos acao

end Balcao

end IccvBackend
