/-
Module: IccvBackend.Event.Waitlist
Purpose: `event/event.service.ts`: the waiting list of an event, and runs of everything that puts a
  person in a group or takes her out.
Trusted boundary: human-reviewed spec
Main exports: movedUserFromWaitlistToEvent, removeUserFromWaitlist, removeUserFromEvent,
  Inscricao, Database.inscricoes, AcaoDeInscricao, Database.inscrevendo
-/
import IccvBackend.Event.Registration
import IccvBackend.Lib.Transitions

namespace IccvBackend

open Lib

/-! ### The waiting list -/

/-- `waitlist.findFirst` by its unique key. -/
def Database.waitlistEntry? (db : Database) (userId eventId roleRegistrationId : Id) :
    Option Waitlist :=
  db.waitlist.find? fun row =>
    row.userId = userId && row.eventId = eventId && row.roleRegistrationId = roleRegistrationId

/-- `waitlist.delete` of an entry. -/
def Database.deleteWaitlistEntry (db : Database) (entry : Waitlist) : Database :=
  { db with waitlist := db.waitlist.filter fun row => row ≠ entry }

/-- The role belongs to the group. -/
def Catalogue.roleInGroup (cat : Catalogue) (groupId roleId : Id) : Bool :=
  cat.roles.any fun pair => pair.2.id = roleId && pair.1.id = groupId

/-- `eventOnUsersRolesRegistration.deleteMany` of the roles a person has in one group of the event.
Their payments go with them (`onDelete: Cascade`). -/
def Database.deleteRolesInGroup (db : Database) (userId eventId groupId : Id) : Database :=
  { db.deletePayments (Database.ticketOf userId eventId
      ((db.rolesOf userId eventId).filter fun held =>
        db.catalogue.roleInGroup groupId held.roleRegistrationId)) with
    eventOnUsers := db.eventOnUsers.map fun row =>
      if row.userId = userId && row.eventId = eventId then
        { row with
          rolesRegistration := row.rolesRegistration.filter fun held =>
            !db.catalogue.roleInGroup groupId held.roleRegistrationId }
      else row }

/-- `eventOnUsers.deleteMany` of the registration of a person that has no role left. -/
def Database.deleteEmptyRegistration (db : Database) (userId eventId : Id) : Database :=
  { db with
    eventOnUsers := db.eventOnUsers.filter fun row =>
      !(row.userId = userId && row.eventId = eventId && row.rolesRegistration.isEmpty) }

/-- The first part of `movedUserFromWaitlistToEvent`: the entry leaves the waiting list, and the
person that gives the place leaves the group. -/
def Database.cederVaga (db : Database) (entry : Waitlist) (userRemovedId groupId : Id) : Database :=
  ((db.deleteWaitlistEntry entry).deleteRolesInGroup userRemovedId entry.eventId
    groupId).deleteEmptyRegistration userRemovedId entry.eventId

/-- `movedUserFromWaitlistToEvent`, one serializable transaction. -/
def movedUserFromWaitlistToEvent (quando : Instant → String) (db : Database)
    (userId userRemovedId : Option Id) (eventId roleRegistrationId : Id) (agora : Instant) :
    Except Failure (Database × List (Id × ResultType)) := do
  let userId ← orFail userId (badRequest "User IDs must be provided!")
  let userRemovedId ← orFail userRemovedId (badRequest "User IDs must be provided!")
  let waitlistEntry ← orFail (db.waitlistEntry? userId eventId roleRegistrationId)
    (notFound "Waitlist entry does not exist!")
  let roleRegistration ← orFail (db.catalogue.roles.find? fun pair =>
      pair.2.id = roleRegistrationId)
    (notFound "Role registration not found!")
  let registration ← registerUserInEvent quando
    (db.cederVaga waitlistEntry userRemovedId roleRegistration.1.id)
    { userId := userId
      eventId := eventId
      registrationRoleIds := [waitlistEntry.roleRegistrationId]
      aceitouTermo := false
      respeitarJanela := false
      agora := agora }
  failIf (registration.2.head?.any fun result => result.2 = .waitlist)
    (badRequest "Não há vagas disponíveis no evento para nesse grupo")
  pure registration

/-- `removeUserFromWaitlist`. -/
def removeUserFromWaitlist (db : Database) (idUser idEvent roleRegistrationId : Id) :
    Except Failure Database := do
  let waitlistEntry ← orFail (db.waitlistEntry? idUser idEvent roleRegistrationId)
    (notFound "Waitlist entry does not exist!")
  pure (db.deleteWaitlistEntry waitlistEntry)

/-- `removeUserFromEvent`, its reads and its transaction in one. -/
def removeUserFromEvent (db : Database) (idUser idEvent roleRegistrationId : Id) :
    Except Failure Database := do
  removeUserFromEventCheck db idUser idEvent roleRegistrationId
  pure (removeUserFromEventTx db idUser idEvent)

/-! ### Role registrations as a table -/

/-- A row of `EventOnUsersRolesRegistration`, without its discount. -/
structure Inscricao where
  userId : Id
  eventId : Id
  roleRegistrationId : Id
deriving DecidableEq

def EventOnUsers.inscricoes (row : EventOnUsers) : List Inscricao :=
  row.rolesRegistration.map fun held => ⟨row.userId, row.eventId, held.roleRegistrationId⟩

def Database.inscricoes (db : Database) : List Inscricao :=
  db.eventOnUsers.flatMap EventOnUsers.inscricoes

/-- The role registration a payment is the ticket of. -/
def Payment.inscricao (p : Payment) : Option Inscricao := do
  let userId ← p.userId
  let eventId ← p.eventId
  let roleRegistrationId ← p.roleRegistrationId
  pure ⟨userId, eventId, roleRegistrationId⟩

/-! ### Runs -/

/-- What moves people in and out of the groups of events. -/
inductive AcaoDeInscricao where
  | registerUserInEvent (request : RegistrationRequest)
  | updateUserFromEvent (userId eventId : Id) (registrationRoleId : List Id) (agora : Instant)
  | movedUserFromWaitlistToEvent (userId userRemovedId : Option Id)
      (eventId roleRegistrationId : Id) (agora : Instant)
  | removeUserFromEvent (idUser idEvent roleRegistrationId : Id)
  | removeUserFromWaitlist (idUser idEvent roleRegistrationId : Id)

/-- What an operation commits, or the exception it throws. -/
def AcaoDeInscricao.executar (quando : Instant → String) (db : Database) :
    AcaoDeInscricao → Except Failure Database
  | .registerUserInEvent request =>
      (IccvBackend.registerUserInEvent quando db request).map Prod.fst
  | .updateUserFromEvent userId eventId roles agora =>
      (IccvBackend.updateUserFromEvent quando db userId eventId roles agora).map Prod.fst
  | .movedUserFromWaitlistToEvent userId userRemovedId eventId role agora =>
      (IccvBackend.movedUserFromWaitlistToEvent quando db userId userRemovedId eventId role
        agora).map Prod.fst
  | .removeUserFromEvent idUser idEvent role =>
      IccvBackend.removeUserFromEvent db idUser idEvent role
  | .removeUserFromWaitlist idUser idEvent role =>
      IccvBackend.removeUserFromWaitlist db idUser idEvent role

/-- One operation of a run: an exception leaves the database as it was. -/
def Database.inscrevendo (quando : Instant → String) (db : Database) (acao : AcaoDeInscricao) :
    Database :=
  match acao.executar quando db with
  | .ok depois => depois
  | .error _ => db

end IccvBackend
