/-
Module: IccvBackend.Event.Minors
Purpose: `event/event.service.ts` and `user/user.service.ts`: who needs the signed term of a minor,
  among registrations, edits of the event and edits of birthdays.
Trusted boundary: human-reviewed spec
Main exports: DadosDoEvento, EventOnUsers.reclassificar, updateDadosDoEvento, updateBirthday,
  uploadGuardianTerm, reviewGuardianApproval, AcaoDoTermo, Database.comTermos
-/
import IccvBackend.Event.Edit

namespace IccvBackend

open Lib

/-!
The status of a registration is written when its row is created, when the event is saved with
another age limit, and when the term is sent or reviewed.  The access guards of these operations
and the checks of the uploaded file write nothing and are left out.
-/

/-! ### The form of the event -/

/-- The fields of `EventDto` and of its `data` that are kept in the event.  An absent key of `data`
changes nothing. -/
structure DadosDoEvento where
  name : String
  status : Option EventStatus
  startDate : CalendarDay
  endDate : Instant
  publicStore : Option Bool
  minorAgeLimit : Option Int
deriving DecidableEq

/-- The event as `event.update` writes it. -/
def DadosDoEvento.gravar (dados : DadosDoEvento) (name : String) (event : Event) : Event :=
  { event with
    name := name
    status := dados.status.getD event.status
    startDate := dados.startDate
    endDate := some dados.endDate
    publicStore := dados.publicStore.getD event.publicStore
    minorAgeLimitIs18 :=
      (dados.minorAgeLimit.map fun limite => decide (limite = 18)).getD
        event.minorAgeLimitIs18 }

/-! ### Reclassifying -/

/-- One turn of the loop of `reclassificarMenores`, with what `updateMany` then writes in the
row. -/
def EventOnUsers.reclassificar (birthday inicioDoEvento : CalendarDay) (limite : Int)
    (inscricao : EventOnUsers) : EventOnUsers :=
  let menor := calculateAge birthday inicioDoEvento < limite
  let exige := inscricao.minorApprovalStatus ≠ .notRequired
  if menor ∧ ¬ exige then { inscricao with minorApprovalStatus := .pending }
  else if ¬ menor ∧ exige then
    { inscricao with
      minorApprovalStatus := .notRequired
      minorApprovalReviewedById := none
      minorApprovalReviewedAt := none
      minorApprovalRejectionReason := none }
  else inscricao

namespace Database

/-- `reclassificarMenores`: every registration of the event, with the birthday the person has
now. -/
def reclassificarMenores (db : Database) (eventId : Id) (inicioDoEvento : CalendarDay)
    (limite : Int) : Database :=
  { db with
    eventOnUsers := db.eventOnUsers.map fun inscricao =>
      if inscricao.eventId = eventId then
        match db.catalogue.user? inscricao.userId with
        | some user => inscricao.reclassificar user.birthday inicioDoEvento limite
        | none => inscricao
      else inscricao }

/-- `event.update`. -/
def modifyEvent (db : Database) (id : Id) (f : Event → Event) : Database :=
  { db with
    catalogue :=
      { db.catalogue with
        events := db.catalogue.events.map fun event => if event.id = id then f event else event } }

/-- `user.update`. -/
def modifyUser (db : Database) (id : Id) (f : User → User) : Database :=
  { db with
    catalogue :=
      { db.catalogue with
        users := db.catalogue.users.map fun user => if user.id = id then f user else user } }

end Database

/-! ### Operations -/

/-- `EventService.update` of an event, without its groups and products: another limit reclassifies,
in the same transaction. -/
def updateDadosDoEvento (textos : Textos) (db : Database) (id : Id) (dados : DadosDoEvento) :
    Except Failure Database := do
  let event ← orFail (db.catalogue.event? id) (notFound "Event does not exist")
  let name := textos.trim dados.name
  failIf (name = "") (badRequest "O nome do evento é obrigatório")
  let novo := dados.gravar name event
  let revisto :=
    if idadeDoTermo novo ≠ idadeDoTermo event then
      db.reclassificarMenores id novo.startDate (idadeDoTermo novo)
    else db
  pure (revisto.modifyEvent id (dados.gravar name))

/-- The birthday in `UserService.update`: no registration is read or written. -/
def updateBirthday (db : Database) (userId : Id) (birthday : CalendarDay) : Database :=
  db.modifyUser userId fun user => { user with birthday := birthday }

/-- `uploadGuardianTerm`. -/
def uploadGuardianTerm (db : Database) (userId eventId : Id) (signedTermUrl : String) :
    Except Failure Database := do
  let registration ← orFail (db.registration? userId eventId)
    (notFound "Inscrição não encontrada")
  failIf (registration.minorApprovalStatus = .notRequired)
    (badRequest "Este participante não precisa de autorização de responsável")
  pure (db.modifyRegistration userId eventId fun row =>
    { row with
      signedTermUrl := some signedTermUrl
      minorApprovalStatus := .pending
      minorApprovalRejectionReason := none
      minorApprovalReviewedById := none
      minorApprovalReviewedAt := none })

/-- `GuardianApprovalDto`: approved, or rejected with a reason. -/
structure GuardianApprovalDto where
  approved : Bool
  reason : Option String
deriving DecidableEq

def GuardianApprovalDto.status (body : GuardianApprovalDto) : MinorApprovalStatus :=
  if body.approved then .approved else .rejected

/-- `reviewGuardianApproval`. -/
def reviewGuardianApproval (textos : Textos) (db : Database) (userId eventId : Id)
    (body : GuardianApprovalDto) (requesterId : Option Id) (agora : Instant) :
    Except Failure Database := do
  let registration ← orFail (db.registration? userId eventId)
    (notFound "Inscrição não encontrada")
  failIf (registration.minorApprovalStatus = .notRequired)
    (badRequest "Este participante não precisa de autorização de responsável")
  failIf (body.approved ∧ (registration.signedTermUrl.getD "") = "")
    (badRequest "Anexe o termo assinado antes de aprovar a liberação")
  failIf (¬ body.approved ∧ textos.trim (body.reason.getD "") = "")
    (badRequest "Informe o motivo da recusa")
  pure (db.modifyRegistration userId eventId fun row =>
    { row with
      minorApprovalStatus := body.status
      minorApprovalReviewedById := requesterId
      minorApprovalReviewedAt := some agora
      minorApprovalRejectionReason :=
        if body.approved then none else some (textos.trim (body.reason.getD "")) })

/-! ### Runs -/

inductive AcaoDoTermo where
  | inscricao (acao : AcaoDeInscricao)
  | editarEvento (id : Id) (dados : DadosDoEvento)
  | editarNascimento (userId : Id) (birthday : CalendarDay)
  | enviarTermo (userId eventId : Id) (signedTermUrl : String)
  | revisar (userId eventId : Id) (body : GuardianApprovalDto) (requesterId : Option Id)
      (agora : Instant)

/-- What an operation commits, or the exception it throws. -/
def AcaoDoTermo.executar (amb : Edicoes.Ambiente) (db : Database) :
    AcaoDoTermo → Except Failure Database
  | .inscricao acao => acao.executar amb.quando db
  | .editarEvento id dados => updateDadosDoEvento amb.textos db id dados
  | .editarNascimento userId birthday => pure (updateBirthday db userId birthday)
  | .enviarTermo userId eventId url => uploadGuardianTerm db userId eventId url
  | .revisar userId eventId body requesterId agora =>
      reviewGuardianApproval amb.textos db userId eventId body requesterId agora

/-- One operation of a run: an exception leaves the database as it was. -/
def Database.comTermos (amb : Edicoes.Ambiente) (db : Database) (acao : AcaoDoTermo) : Database :=
  match acao.executar amb db with
  | .ok depois => depois
  | .error _ => db

end IccvBackend
