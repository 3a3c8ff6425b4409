/-
Module: IccvBackend.Bedrooms.Service
Purpose: `create` and `update` of `bedrooms/bedrooms.service.ts`, with every step that the database
  can fail, before or after it wrote.
Trusted boundary: human-reviewed spec
Main exports: BancoDeQuartos, QuartoDto, Desfecho, AmbienteDosQuartos, BancoDeQuartos.create,
  BancoDeQuartos.update
-/
import IccvBackend.Event.Bedrooms

namespace IccvBackend

open Lib

/-!
No transaction is opened: each statement is committed by itself.  Around each write the middleware
reads the rows and stores a line of the log; when that fails, the statement throws though it has
written.  What the database throws comes with the environment, step by step.
-/

/-! ### The form -/

/-- An item of `usersId`: the array is checked, its items are not. -/
inductive IdRecebido where
  | id (u : Id)
  /-- the empty text -/
  | vazio
  /-- null, zero or false -/
  | nulo
  /-- anything else that is no text -/
  | outro
deriving Repr, DecidableEq

/-- The id of somebody. -/
def IdRecebido.id? : IdRecebido → Option Id
  | .id u => some u
  | _ => none

/-- What `filter(Boolean)` keeps. -/
def IdRecebido.presente : IdRecebido → Bool
  | .id _ | .outro => true
  | .vazio | .nulo => false

/-- The client takes the item for the value of a text column. -/
def IdRecebido.texto : IdRecebido → Bool
  | .id _ | .vazio => true
  | .nulo | .outro => false

/-- The body of both requests.  An item of `tags` that is no text is `none`; a note that does not
come is `none`. -/
structure QuartoDto where
  note : Option (Option String)
  name : String
  capacity : ℚ
  tags : List (Option String)
  groupTags : Option (List String)
  usersId : List IdRecebido
deriving DecidableEq

/-- The client and the column take the values: the capacity is a whole number of 32 bits, and every
tag is a text. -/
def QuartoDto.aceito (dto : QuartoDto) : Bool :=
  dto.capacity.den = 1 && -2147483648 ≤ dto.capacity.num && dto.capacity.num ≤ 2147483647 &&
    dto.tags.all Option.isSome

/-! ### The tables -/

/-- A bedroom with all its columns. -/
structure Quarto extends Bedroom where
  note : Option String
  tag : List String
deriving Repr, DecidableEq

/-- The columns that come in the form. -/
def QuartoDto.gravar (dto : QuartoDto) (eventId : Id) (quarto : Quarto) : Quarto :=
  { quarto with
    eventId := eventId
    note := dto.note.getD quarto.note
    name := dto.name
    capacity := some dto.capacity.num
    tag := dto.tags.filterMap id
    groupTags := dto.groupTags.getD [] }

structure BancoDeQuartos where
  db : Database
  /-- the events whose `data` turns the bedrooms module off -/
  desligados : List Id
  quartos : List Quarto
  ocupacoes : List BedroomOnUser
  proximoQuarto : Id

/-- The tables of bedrooms, without the columns that only their edition writes. -/
def BancoDeQuartos.hospedagem (s : BancoDeQuartos) (checkins : List Checkin) : Hospedagem where
  db := s.db
  desligados := s.desligados
  bedrooms := s.quartos.map Quarto.toBedroom
  bedroomsOnUsers := s.ocupacoes
  checkins := checkins
  proximoQuarto := s.proximoQuarto

/-! ### Steps that fail -/

inductive LeituraDeQuartos where
  | evento
  | quarto
  | inscritos
  | grupos
  | nomes
  | ocupantes
deriving DecidableEq

inductive EscritaDeQuartos where
  | quarto
  | saidas
  | entradas
deriving DecidableEq

/-- How a write ends: well, failing with nothing written, or failing once it is written. -/
inductive Desfecho where
  | ok
  | antes (falhou : Failure)
  | depois (falhou : Failure)
deriving DecidableEq

/-- `recusa` is what the client or a constraint throws. -/
structure AmbienteDosQuartos where
  leitura : LeituraDeQuartos → Except Failure Unit
  escrita : EscritaDeQuartos → Desfecho
  recusa : Failure

/-- The write, or its refusal. -/
def AmbienteDosQuartos.desfecho (amb : AmbienteDosQuartos) (passo : EscritaDeQuartos)
    (aceita : Bool) : Desfecho :=
  if aceita then amb.escrita passo else .antes amb.recusa

/-- A statement that writes. -/
def escrever {σ : Type} (desfecho : Desfecho) (s escrito : σ) : σ × Except Failure Unit :=
  match desfecho with
  | .ok => (escrito, pure ())
  | .antes falhou => (s, throw falhou)
  | .depois falhou => (escrito, throw falhou)

/-- One statement after another: what was written stays when a later one throws. -/
def seguir {σ : Type} (feito : σ × Except Failure Unit) (proximo : σ → σ × Except Failure Unit) :
    σ × Except Failure Unit :=
  match feito.2 with
  | .ok _ => proximo feito.1
  | .error falhou => (feito.1, throw falhou)

namespace BancoDeQuartos

variable (amb : AmbienteDosQuartos) (s : BancoDeQuartos)

/-! ### Checks -/

/-- Those of the list who are somebody. -/
def pessoas (usersId : List IdRecebido) : List Id := usersId.filterMap IdRecebido.id?

/-- `assertUsersNoEvento`. -/
def assertUsersNoEvento (eventId : Id) (usersId : List IdRecebido) : Except Failure Unit :=
  let ids := usersId.dedup.filter IdRecebido.presente
  if ids.isEmpty then pure ()
  else do
    failIf (¬ ids.all IdRecebido.texto) amb.recusa
    amb.leitura .inscritos
    (s.hospedagem []).assertUsersNoEvento eventId (pessoas ids)

/-- `assertUsersAllowed`. -/
def assertUsersAllowed (eventId : Id) (groupTags : Option (List String))
    (usersId : List IdRecebido) : Except Failure Unit :=
  let tags := (groupTags.getD []).filter fun tag => tag ≠ ""
  if tags.isEmpty || usersId.isEmpty then pure ()
  else do
    failIf (¬ usersId.all IdRecebido.texto) amb.recusa
    amb.leitura .grupos
    let foraDoGrupo := usersId.filter fun item =>
      !item.id?.any fun userId => tags.any fun tag =>
        tag ∈ (s.hospedagem []).gruposDe eventId userId
    if foraDoGrupo.isEmpty then pure ()
    else
      amb.leitura .nomes
      let nomes := (s.db.catalogue.users.filter fun user => .id user.id ∈ foraDoGrupo).map
        User.fullName
      throw (badRequest ("Quarto restrito a " ++ ", ".intercalate tags ++
        ". Fora desse(s) grupo(s): " ++ ", ".intercalate nomes))

/-! ### Writes -/

/-- Whoever of the list is not in the bedroom yet: `filterIds`. -/
def novos (usersIds : List IdRecebido) (idBedroom : Id) : List IdRecebido :=
  usersIds.filter fun item =>
    !s.ocupacoes.any fun row => .id row.userId = item && row.bedroomsId = idBedroom

/-- `createMany` takes the rows: all are people, who are there by being registered, and no key is
there twice. -/
def cabem (filterIds : List IdRecebido) : Bool :=
  filterIds.Nodup && filterIds.all fun item => item.id?.isSome

/-- The rows of a `createMany`. -/
def incluir (filterIds : List IdRecebido) (idBedroom : Id) : BancoDeQuartos :=
  { s with
    ocupacoes := s.ocupacoes ++ (pessoas filterIds).map fun userId => ⟨userId, idBedroom⟩ }

/-- The read of `createRelations`. -/
def lerOcupantes (usersIds : List IdRecebido) : Except Failure Unit := do
  failIf (¬ usersIds.all IdRecebido.texto) amb.recusa
  amb.leitura .ocupantes

/-- `createRelations`. -/
def createRelations (usersIds : List IdRecebido) (idBedroom : Id) :
    BancoDeQuartos × Except Failure Unit :=
  match lerOcupantes amb usersIds with
  | .error falhou => (s, throw falhou)
  | .ok _ =>
      let filterIds := s.novos usersIds idBedroom
      if filterIds.isEmpty then (s, pure ())
      else escrever (amb.desfecho .entradas (cabem filterIds)) s (s.incluir filterIds idBedroom)

/-! ### The requests -/

/-- `bedrooms.create`. -/
def comQuarto (idEvent : Id) (dto : QuartoDto) : BancoDeQuartos :=
  let novo : Quarto := ⟨⟨s.proximoQuarto, idEvent, "", none, []⟩, none, []⟩
  { s with
    quartos := s.quartos ++ [dto.gravar idEvent novo]
    proximoQuarto := s.proximoQuarto + 1 }

/-- `deleteMany`: whoever is not in the list leaves. -/
def removerAusentes (idBedroom : Id) (usersId : List IdRecebido) : BancoDeQuartos :=
  { s with
    ocupacoes := s.ocupacoes.filter fun row =>
      !(row.bedroomsId = idBedroom && !usersId.contains (.id row.userId)) }

/-- `bedrooms.update`. -/
def gravarQuarto (idEvent idBedroom : Id) (dto : QuartoDto) : BancoDeQuartos :=
  { s with
    quartos := s.quartos.map fun quarto =>
      if quarto.id = idBedroom then dto.gravar idEvent quarto else quarto }

/-- The checks of `create`. -/
def conferirCriacao (idEvent : Id) (dto : QuartoDto) : Except Failure Unit := do
  amb.leitura .evento
  failIf (¬ (s.hospedagem []).moduloAtivo idEvent)
    (badRequest "O módulo Quartos está desligado neste evento")
  s.assertUsersNoEvento amb idEvent dto.usersId
  s.assertUsersAllowed amb idEvent dto.groupTags dto.usersId

/-- `create`. -/
def create (idEvent : Id) (dto : QuartoDto) : BancoDeQuartos × Except Failure Unit :=
  match s.conferirCriacao amb idEvent dto with
  | .error falhou => (s, throw falhou)
  | .ok _ =>
      let feito :=
        seguir (escrever (amb.desfecho .quarto dto.aceito) s (s.comQuarto idEvent dto))
          fun criado => criado.createRelations amb dto.usersId s.proximoQuarto
      (feito.1, feito.2.mapError fun _ => internalServerError "Internal Server Error")

/-- The checks of `update`. -/
def conferirEdicao (idEvent idBedroom : Id) (dto : QuartoDto) : Except Failure Unit := do
  amb.leitura .quarto
  let _ ← orFail (s.quartos.find? fun quarto => quarto.id = idBedroom && quarto.eventId = idEvent)
    (notFound "Bedroom does not exists!")
  s.assertUsersNoEvento amb idEvent dto.usersId
  s.assertUsersAllowed amb idEvent dto.groupTags dto.usersId

/-- `update`. -/
def update (idEvent idBedroom : Id) (dto : QuartoDto) : BancoDeQuartos × Except Failure Unit :=
  match s.conferirEdicao amb idEvent idBedroom dto with
  | .error falhou => (s, throw falhou)
  | .ok _ =>
      seguir (escrever (amb.desfecho .saidas (dto.usersId.all IdRecebido.texto)) s
        (s.removerAusentes idBedroom dto.usersId)) fun semAusentes =>
      seguir (escrever (amb.desfecho .quarto dto.aceito) semAusentes
        (semAusentes.gravarQuarto idEvent idBedroom dto)) fun gravado =>
      gravado.createRelations amb dto.usersId idBedroom

end BancoDeQuartos

end IccvBackend
