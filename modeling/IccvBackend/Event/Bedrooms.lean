/-
Module: IccvBackend.Event.Bedrooms
Purpose: `bedrooms/bedrooms.service.ts` and the automatic bedroom of `checkin/checkin.service.ts`:
  who sleeps where in an event.
Trusted boundary: human-reviewed spec
Main exports: Hospedagem, Hospedagem.createBedroom, Hospedagem.updateBedroom,
  Hospedagem.deliverBadge, Hospedagem.step
-/
import IccvBackend.Event.Waitlist

namespace IccvBackend

open Lib

/-!
The services of bedrooms open no transaction: what was written before an exception stays.  The note
and the display tags of a bedroom, and who attended a check-in and when, are left out.
-/

/-- A bedroom.  With `groupTags` it is restricted to the groups of those names. -/
structure Bedroom where
  id : Id
  eventId : Id
  name : String
  capacity : Option Int
  groupTags : List String
deriving Repr, DecidableEq

structure BedroomOnUser where
  userId : Id
  bedroomsId : Id
deriving Repr, DecidableEq

inductive CheckinStatus where
  | pending
  | queued
  | inProgress
  | done
deriving Repr, DecidableEq

structure Checkin where
  userId : Id
  eventId : Id
  status : CheckinStatus
  autoBedroomId : Option Id
deriving Repr, DecidableEq

structure BedroomDto where
  name : String
  capacity : Int
  groupTags : Option (List String)
  usersId : List Id
deriving Repr, DecidableEq

/-- Registrations with the bedrooms of their events.  `desligados` are the events whose `data` turns
the bedrooms module off. -/
structure Hospedagem where
  db : Database
  desligados : List Id
  bedrooms : List Bedroom
  bedroomsOnUsers : List BedroomOnUser
  checkins : List Checkin
  proximoQuarto : Id

namespace Hospedagem

variable (s : Hospedagem)

/-! ### Who may enter a bedroom -/

/-- `moduloAtivo(data, 'bedrooms')`. -/
def moduloAtivo (eventId : Id) : Bool := !s.desligados.contains eventId

/-- `assertUsersNoEvento`. -/
def assertUsersNoEvento (eventId : Id) (userIds : List Id) : Except Failure Unit :=
  let ids := userIds.dedup
  let inscritos := s.db.eventOnUsers.countP fun row => row.eventId = eventId && row.userId ∈ ids
  failIf (ids ≠ [] ∧ inscritos ≠ ids.length)
    (badRequest "Há pessoas na lista que não estão inscritas neste evento")

/-- The names of the groups a person has a role of, in the event (`groupsByUser`). -/
def gruposDe (eventId userId : Id) : List String :=
  (s.db.catalogue.roles.filter fun pair =>
    (s.db.rolesOf userId eventId).any fun held => held.roleRegistrationId = pair.2.id).map
      fun pair => pair.1.name

/-- `assertUsersAllowed`. -/
def assertUsersAllowed (eventId : Id) (groupTags : Option (List String)) (userIds : List Id) :
    Except Failure Unit :=
  let tags := (groupTags.getD []).filter fun tag => tag ≠ ""
  let foraDoGrupo := userIds.filter fun userId =>
    !tags.any fun tag => tag ∈ s.gruposDe eventId userId
  let nomes := (s.db.catalogue.users.filter fun user => user.id ∈ foraDoGrupo).map User.fullName
  failIf (tags ≠ [] ∧ foraDoGrupo ≠ [])
    (badRequest ("Quarto restrito a " ++ ", ".intercalate tags ++ ". Fora desse(s) grupo(s): " ++
      ", ".intercalate nomes))

/-! ### Bedrooms by hand -/

/-- `createRelations`.  The rows of one `createMany` all enter or none does: a repeated id breaks
the primary key. -/
def createRelations (usersIds : List Id) (idBedroom : Id) : Option Hospedagem :=
  let filterIds := usersIds.filter fun id =>
    !s.bedroomsOnUsers.any fun row => row.userId = id && row.bedroomsId = idBedroom
  if filterIds.Nodup then
    some { s with
      bedroomsOnUsers := s.bedroomsOnUsers ++ filterIds.map fun id => ⟨id, idBedroom⟩ }
  else none

/-- `create`.  When the occupants do not fit the key, the bedroom is there and the answer is an
error. -/
def createBedroom (idEvent : Id) (createBedroom : BedroomDto) : Except Failure Hospedagem := do
  failIf (¬ s.moduloAtivo idEvent) (badRequest "O módulo Quartos está desligado neste evento")
  s.assertUsersNoEvento idEvent createBedroom.usersId
  s.assertUsersAllowed idEvent createBedroom.groupTags createBedroom.usersId
  let comQuarto : Hospedagem := { s with
    proximoQuarto := s.proximoQuarto + 1
    bedrooms := s.bedrooms ++
      [{ id := s.proximoQuarto
         eventId := idEvent
         name := createBedroom.name
         capacity := some createBedroom.capacity
         groupTags := createBedroom.groupTags.getD [] }] }
  pure ((comQuarto.createRelations createBedroom.usersId s.proximoQuarto).getD comQuarto)

/-- `update`: whoever is not in the list leaves, the bedroom is rewritten, the others enter. -/
def updateBedroom (idEvent idBedroom : Id) (updateBedroomDto : BedroomDto) :
    Except Failure Hospedagem := do
  let _ ← orFail (s.bedrooms.find? fun row => row.id = idBedroom && row.eventId = idEvent)
    (notFound "Bedroom does not exists!")
  s.assertUsersNoEvento idEvent updateBedroomDto.usersId
  s.assertUsersAllowed idEvent updateBedroomDto.groupTags updateBedroomDto.usersId
  let reescrito : Hospedagem := { s with
    bedroomsOnUsers := s.bedroomsOnUsers.filter fun row =>
      !(row.bedroomsId = idBedroom && !updateBedroomDto.usersId.contains row.userId)
    bedrooms := s.bedrooms.map fun row =>
      if row.id = idBedroom then
        { row with
          eventId := idEvent
          name := updateBedroomDto.name
          capacity := some updateBedroomDto.capacity
          groupTags := updateBedroomDto.groupTags.getD [] }
      else row }
  pure ((reescrito.createRelations updateBedroomDto.usersId idBedroom).getD reescrito)

/-! ### The bedroom of the check-in -/

/-- How many people a bedroom has. -/
def ocupantes (idBedroom : Id) : Nat :=
  s.bedroomsOnUsers.countP fun row => row.bedroomsId = idBedroom

/-- `candidateBedrooms`: bedrooms of the person's groups first, then the open ones, each by name.
`porNome` is the order of `localeCompare`. -/
def candidateBedrooms (porNome : String → String → Bool) (eventId : Id) (grupos : List String) :
    List Bedroom :=
  let comVaga := s.bedrooms.filter fun quarto =>
    quarto.eventId = eventId &&
      quarto.capacity.any fun capacity => capacity ≠ 0 && (s.ocupantes quarto.id : Int) < capacity
  let doGrupo := comVaga.filter fun quarto => quarto.groupTags.any fun tag => grupos.contains tag
  let abertos := comVaga.filter fun quarto => quarto.groupTags.isEmpty
  doGrupo.mergeSort (fun a b => porNome a.name b.name) ++
    abertos.mergeSort (fun a b => porNome a.name b.name)

/-- `allocateBedroom`, with nobody else at the counter: the first candidate still has the place it
was chosen for. -/
def allocateBedroom (porNome : String → String → Bool) (eventId userId : Id)
    (grupos : List String) : Option Id :=
  let jaTemQuarto := s.bedroomsOnUsers.any fun row =>
    row.userId = userId && s.bedrooms.any fun quarto =>
      quarto.id = row.bedroomsId && quarto.eventId = eventId
  if !s.moduloAtivo eventId || jaTemQuarto then none
  else (s.candidateBedrooms porNome eventId grupos).head?.map Bedroom.id

/-- `deliverBadge`: the badge is delivered once, and the bedroom is a consequence of it. -/
def deliverBadge (porNome : String → String → Bool) (eventId userId : Id) :
    Except Failure Hospedagem := do
  let _ ← orFail (s.db.registration? userId eventId)
    (notFound "Participante não inscrito neste evento")
  let existente := s.checkins.find? fun row => row.userId = userId && row.eventId = eventId
  failIf (existente.any fun row => row.status ≠ .pending) (conflict "Crachá já entregue")
  let bedroomId := s.allocateBedroom porNome eventId userId (s.gruposDe eventId userId)
  let checkins :=
    match existente with
    | none =>
        s.checkins ++
          [{ userId := userId, eventId := eventId, status := .queued, autoBedroomId := bedroomId }]
    | some _ =>
        s.checkins.map fun row =>
          if row.userId = userId && row.eventId = eventId then
            { row with status := .queued, autoBedroomId := bedroomId.or row.autoBedroomId }
          else row
  pure { s with
    checkins := checkins
    bedroomsOnUsers := s.bedroomsOnUsers ++ bedroomId.toList.map fun id => ⟨userId, id⟩ }

/-! ### Leaving the event -/

/-- `removeUserFromEvent` with the bedrooms: whoever leaves the event leaves her bed. -/
def removeUserFromEvent (idUser idEvent roleRegistrationId : Id) : Except Failure Hospedagem := do
  let depois ← IccvBackend.removeUserFromEvent s.db idUser idEvent roleRegistrationId
  pure { s with
    db := depois
    bedroomsOnUsers := s.bedroomsOnUsers.filter fun row =>
      !(row.userId = idUser && s.bedrooms.any fun quarto =>
        quarto.id = row.bedroomsId && quarto.eventId = idEvent) }

/-! ### Runs -/

/-- What enters or leaves the event and its bedrooms. -/
inductive Acao where
  | registerUserInEvent (request : RegistrationRequest)
  | updateUserFromEvent (userId eventId : Id) (registrationRoleId : List Id) (agora : Instant)
  | movedUserFromWaitlistToEvent (userId userRemovedId : Option Id)
      (eventId roleRegistrationId : Id) (agora : Instant)
  | removeUserFromEvent (idUser idEvent roleRegistrationId : Id)
  | deliverBadge (eventId userId : Id)
  | createBedroom (idEvent : Id) (dto : BedroomDto)
  | updateBedroom (idEvent idBedroom : Id) (dto : BedroomDto)

/-- The texts and the collation the environment decides. -/
structure Ambiente where
  quando : Instant → String
  porNome : String → String → Bool

def executar (amb : Ambiente) : Acao → Except Failure Hospedagem
  | .registerUserInEvent request =>
      (IccvBackend.registerUserInEvent amb.quando s.db request).map fun r => { s with db := r.1 }
  | .updateUserFromEvent userId eventId roles agora =>
      (IccvBackend.updateUserFromEvent amb.quando s.db userId eventId roles agora).map fun r =>
        { s with db := r.1 }
  | .movedUserFromWaitlistToEvent userId userRemovedId eventId role agora =>
      (IccvBackend.movedUserFromWaitlistToEvent amb.quando s.db userId userRemovedId eventId role
        agora).map fun r => { s with db := r.1 }
  | .removeUserFromEvent idUser idEvent role => s.removeUserFromEvent idUser idEvent role
  | .deliverBadge eventId userId => s.deliverBadge amb.porNome eventId userId
  | .createBedroom idEvent dto => s.createBedroom idEvent dto
  | .updateBedroom idEvent idBedroom dto => s.updateBedroom idEvent idBedroom dto

def step (amb : Ambiente) (acao : Acao) : Hospedagem :=
  match s.executar amb acao with
  | .ok depois => depois
  | .error _ => s

end Hospedagem

end IccvBackend
