/-
Module: IccvBackend.Event.TermCalls
Purpose: `uploadGuardianTerm` and `reviewGuardianApproval` of `event/event.service.ts` as the two
  statements they are, several in flight, among registrations and edits.
Trusted boundary: human-reviewed spec
Main exports: ChamadaDoTermo, Menores, Menores.Acao, Menores.agir, uploadGuardianTerm_eq,
  reviewGuardianApproval_eq
-/
import IccvBackend.Event.Minors

namespace IccvBackend

open Lib

/-! ### The two statements -/

/-- The reads and checks of `uploadGuardianTerm`. -/
def lerParaEnviarTermo (db : Database) (userId eventId : Id) : Except Failure Unit := do
  let registration ← orFail (db.registration? userId eventId)
    (notFound "Inscrição não encontrada")
  failIf (registration.minorApprovalStatus = .notRequired)
    (badRequest "Este participante não precisa de autorização de responsável")

/-- What the `update` of `uploadGuardianTerm` writes in a row. -/
def EventOnUsers.comTermo (signedTermUrl : String) (row : EventOnUsers) : EventOnUsers :=
  { row with
    signedTermUrl := some signedTermUrl
    minorApprovalStatus := .pending
    minorApprovalRejectionReason := none
    minorApprovalReviewedById := none
    minorApprovalReviewedAt := none }

/-- The reads and checks of `reviewGuardianApproval`, with the term they saw. -/
def lerParaRevisar (textos : Textos) (db : Database) (userId eventId : Id)
    (body : GuardianApprovalDto) : Except Failure (Option String) := do
  let registration ← orFail (db.registration? userId eventId)
    (notFound "Inscrição não encontrada")
  failIf (registration.minorApprovalStatus = .notRequired)
    (badRequest "Este participante não precisa de autorização de responsável")
  failIf (body.approved ∧ (registration.signedTermUrl.getD "") = "")
    (badRequest "Anexe o termo assinado antes de aprovar a liberação")
  failIf (¬ body.approved ∧ textos.trim (body.reason.getD "") = "")
    (badRequest "Informe o motivo da recusa")
  pure registration.signedTermUrl

/-- What the `update` of `reviewGuardianApproval` writes in a row. -/
def EventOnUsers.revisado (textos : Textos) (body : GuardianApprovalDto) (requesterId : Option Id)
    (agora : Instant) (row : EventOnUsers) : EventOnUsers :=
  { row with
    minorApprovalStatus := body.status
    minorApprovalReviewedById := requesterId
    minorApprovalReviewedAt := some agora
    minorApprovalRejectionReason :=
      if body.approved then none else some (textos.trim (body.reason.getD "")) }

/-- Run in one go, the two statements are the call. -/
theorem uploadGuardianTerm_eq (db : Database) (userId eventId : Id) (signedTermUrl : String) :
    uploadGuardianTerm db userId eventId signedTermUrl =
      (lerParaEnviarTermo db userId eventId).map fun _ =>
        db.modifyRegistration userId eventId (EventOnUsers.comTermo signedTermUrl) := by
  unfold uploadGuardianTerm lerParaEnviarTermo
  cases db.registration? userId eventId with
  | none => rfl
  | some registration =>
      simp only [orFail, bind, Except.bind, failIf]
      split_ifs <;> rfl

theorem reviewGuardianApproval_eq (textos : Textos) (db : Database) (userId eventId : Id)
    (body : GuardianApprovalDto) (requesterId : Option Id) (agora : Instant) :
    reviewGuardianApproval textos db userId eventId body requesterId agora =
      (lerParaRevisar textos db userId eventId body).map fun _ =>
        db.modifyRegistration userId eventId
          (EventOnUsers.revisado textos body requesterId agora) := by
  have writes : EventOnUsers.revisado textos body requesterId agora = fun row =>
      { row with
        minorApprovalStatus := body.status
        minorApprovalReviewedById := requesterId
        minorApprovalReviewedAt := some agora
        minorApprovalRejectionReason :=
          if body.approved then none else some (textos.trim (body.reason.getD "")) } := rfl
  unfold reviewGuardianApproval lerParaRevisar
  rw [writes]
  cases db.registration? userId eventId with
  | none => rfl
  | some registration =>
      simp only [orFail, bind, Except.bind, failIf]
      split_ifs <;> rfl

/-! ### Several calls in flight -/

/-- A call between its read and its write. -/
inductive ChamadaDoTermo where
  | enviando (userId eventId : Id) (signedTermUrl : String)
  /-- with the term that was read -/
  | revisando (userId eventId : Id) (body : GuardianApprovalDto) (requesterId : Option Id)
      (lido : Option String)
  | fim
deriving DecidableEq

structure Menores where
  db : Database
  chamadas : List ChamadaDoTermo

namespace Menores

variable (amb : Edicoes.Ambiente) (t : Menores)

inductive Acao where
  | inscricao (acao : AcaoDeInscricao)
  | editarEvento (id : Id) (dados : DadosDoEvento)
  | editarNascimento (userId : Id) (birthday : CalendarDay)
  | uploadGuardianTerm (userId eventId : Id) (signedTermUrl : String)
  | reviewGuardianApproval (userId eventId : Id) (body : GuardianApprovalDto)
      (requesterId : Option Id)
  /-- the `update` of a call -/
  | gravar (k : Nat) (agora : Instant)

def iniciar (c : ChamadaDoTermo) : Menores := { t with chamadas := t.chamadas ++ [c] }

/-- An operation that is one transaction. -/
def comOperacao (acao : AcaoDoTermo) : Menores := { t with db := t.db.comTermos amb acao }

/-- The `update` of a call.  A registration that is gone fails it, and nothing is written. -/
def gravar (k : Nat) (agora : Instant) : Menores :=
  match t.chamadas[k]? with
  | some (.enviando userId eventId url) =>
      { db := t.db.modifyRegistration userId eventId (EventOnUsers.comTermo url)
        chamadas := t.chamadas.set k .fim }
  | some (.revisando userId eventId body requesterId _) =>
      { db := t.db.modifyRegistration userId eventId
          (EventOnUsers.revisado amb.textos body requesterId agora)
        chamadas := t.chamadas.set k .fim }
  | _ => t

/-- One step of a run. -/
def agir : Acao → Menores
  | .inscricao acao => t.comOperacao amb (.inscricao acao)
  | .editarEvento id dados => t.comOperacao amb (.editarEvento id dados)
  | .editarNascimento userId birthday => t.comOperacao amb (.editarNascimento userId birthday)
  | .uploadGuardianTerm userId eventId url =>
      match lerParaEnviarTermo t.db userId eventId with
      | .ok _ => t.iniciar (.enviando userId eventId url)
      | .error _ => t
  | .reviewGuardianApproval userId eventId body requesterId =>
      match lerParaRevisar amb.textos t.db userId eventId body with
      | .ok lido => t.iniciar (.revisando userId eventId body requesterId lido)
      | .error _ => t
  | .gravar k agora => t.gravar amb k agora

end Menores

end IccvBackend
