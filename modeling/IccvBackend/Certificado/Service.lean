/-
Module: IccvBackend.Certificado.Service
Purpose: Certificates of participation (`certificado.service.ts`): the codes of the registrations,
  the two ways of printing, each in several database steps, and the public verification.
Trusted boundary: human-reviewed spec
Main exports: CodigoSorteado, Emissao, Certificados, Certificados.verificar, Certificados.step
-/
import IccvBackend.Event.Bedrooms
import IccvBackend.Lib.Fallible
import IccvBackend.Lib.Table

namespace IccvBackend

open Lib

/-! ### Codes -/

/-- `ALFABETO`. -/
def alfabeto : List Char := "ABCDEFGHJKMNPQRSTUVWXYZ23456789".toList

/-- What `novoCodigo` may draw. -/
def CodigoSorteado : Type :=
  { letras : List Char // letras.length = 8 ∧ ∀ letra ∈ letras, letra ∈ alfabeto }

/-- `novoCodigo`. -/
def CodigoSorteado.texto (codigo : CodigoSorteado) : String :=
  String.ofList (codigo.val.take 4) ++ "-" ++ String.ofList (codigo.val.drop 4)

/-- `trim`, `toUpperCase`, the collation of names and `periodoPorExtenso`. -/
structure TextosDoCertificado where
  trim : String → String
  toUpperCase : String → String
  antes : String → String → Bool
  periodoPorExtenso : Instant → Instant → String

/-- Capitals, digits and a hyphen have nothing to trim and are upper case already. -/
def TextosDoCertificado.MantemCodigos (textos : TextosDoCertificado) : Prop :=
  ∀ codigo : CodigoSorteado,
    textos.trim codigo.texto = codigo.texto ∧ textos.toUpperCase codigo.texto = codigo.texto

/-! ### Rows, paper and calls -/

structure ConfigDoCertificado where
  enabled : Bool
  workload : Option String
deriving Repr, DecidableEq

structure EventoDoCertificado where
  id : Id
  name : String
  startDate : Instant
  endDate : Instant
  igreja : Option String
  certConfig : Option ConfigDoCertificado
deriving Repr, DecidableEq

/-- `event.certConfig?.enabled`. -/
def EventoDoCertificado.ligado (event : EventoDoCertificado) : Bool :=
  event.certConfig.any ConfigDoCertificado.enabled

/-- A certificate on paper. -/
structure CertificadoImpresso where
  userId : Id
  eventId : Id
  nome : String
  codigo : String
deriving Repr, DecidableEq

/-- What `presentes` selects. -/
structure Presente where
  userId : Id
  certificateCode : Option String
  nome : String
deriving Repr, DecidableEq

structure Verificacao where
  codigo : String
  nome : String
  evento : String
  igreja : String
  periodo : String
  cargaHoraria : Option String
deriving Repr, DecidableEq

/-- Who asks: the panel for those marked, or a person. -/
inductive PedidoDeCertificado where
  | pdfDosCertificados (userIds : List Id)
  | pdfDoMeuCertificado (userId : Id)
deriving Repr, DecidableEq

/-- A call between its statements. -/
inductive Emissao where
  /-- the event was read and may be printed -/
  | lendo (eventId : Id) (pedido : PedidoDeCertificado)
  /-- `codigos` so far, the rows it has left, and its attempt at the first of them -/
  | emitindo (eventId : Id) (presentes : List Presente) (codigos : List (Id × String))
      (restantes : List Presente) (tentativa : Nat)
  | encerrada (resultado : Except Failure Unit)

/-- `eventoTerminou`. -/
def eventoTerminou (fim agora : Instant) : Bool := fim + 24 * 60 * 60 * 1000 ≤ agora

/-- The rows that have a code already need no statement. -/
def adiante (codigos : List (Id × String)) : List Presente → List (Id × String) × List Presente
  | [] => (codigos, [])
  | p :: restantes =>
      let codigo := p.certificateCode.getD ""
      if codigo = "" then (codigos, p :: restantes)
      else adiante (codigos ++ [(p.userId, codigo)]) restantes

/-- The tables, the calls in flight and the paper that is out. -/
structure Certificados where
  inscricoes : List EventOnUsers
  checkins : List Checkin
  eventos : List EventoDoCertificado
  nomes : Id → String
  emissoes : List Emissao
  impressos : List CertificadoImpresso

/-- The row of a registration has the composite key. -/
def chaveDaInscricao (row : EventOnUsers) : Id × Id := (row.userId, row.eventId)

/-- What an update of a code answers. -/
inductive Gravacao where
  | gravou (inscricoes : List EventOnUsers)
  /-- `P2002` -/
  | colisao
  /-- the registration is gone -/
  | ausente

namespace Certificados

variable (textos : TextosDoCertificado) (s : Certificados)

def buscarEvento (eventId : Id) : Except Failure EventoDoCertificado :=
  orFail (lookup EventoDoCertificado.id eventId s.eventos) (notFound "Evento não encontrado")

/-- `PRESENTE`. -/
def fezCheckin (userId eventId : Id) : Bool :=
  s.checkins.any fun c => c.userId = userId && c.eventId = eventId && c.status ≠ .pending

/-- `presentes`. -/
def presentes (eventId : Id) (userIds : List Id) : List Presente :=
  ((s.inscricoes.filter fun row =>
      row.eventId = eventId && userIds.contains row.userId && s.fezCheckin row.userId eventId).map
    fun row => ⟨row.userId, row.certificateCode, s.nomes row.userId⟩).mergeSort
      fun p q => textos.antes p.nome q.nome

/-- The update of one code, under the unique index. -/
def gravarCodigo (userId eventId : Id) (codigo : String) : Gravacao :=
  match lookup chaveDaInscricao (userId, eventId) s.inscricoes with
  | none => .ausente
  | some _ =>
      if s.inscricoes.any fun row =>
          row.certificateCode = some codigo && chaveDaInscricao row ≠ (userId, eventId) then
        .colisao
      else .gravou (updateKey chaveDaInscricao (userId, eventId)
        (fun row => { row with certificateCode := some codigo }) s.inscricoes)

/-- The reads of the event and the checks before the registrations are read. -/
def comecar (eventId : Id) (agora : Instant) (pedido : PedidoDeCertificado) :
    Except Failure Emissao := do
  let event ← s.buscarEvento eventId
  match pedido with
  | .pdfDosCertificados _ =>
      failIf (event.ligado = false) (badRequest "O certificado deste evento não está ligado")
  | .pdfDoMeuCertificado _ =>
      failIf (event.ligado = false) (forbidden "Este evento não emite certificado")
      failIf (eventoTerminou event.endDate agora = false)
        (forbidden "O certificado fica disponível depois que o evento termina")
  return .lendo eventId pedido

/-- The read of the registrations. -/
def lerPresentes (eventId : Id) (pedido : PedidoDeCertificado) : Except Failure Emissao := do
  let presentes ← (match pedido with
    | .pdfDosCertificados userIds => do
        let presentes := s.presentes textos eventId userIds
        failIf (presentes = [])
          (badRequest "Ninguém dos marcados fez check-in: não há certificado a gerar")
        return presentes
    | .pdfDoMeuCertificado userId => do
        let presentes := (s.presentes textos eventId [userId]).take 1
        failIf (presentes = []) (forbidden "O certificado é de quem fez check-in no evento")
        return presentes)
  let (codigos, restantes) := adiante [] presentes
  return .emitindo eventId presentes codigos restantes 1

def erroDaGravacao : Failure := internalServerError "Internal server error"

/-- One attempt of `codigos` at the first row it has left. -/
def sortear (eventId : Id) (presentes : List Presente) (codigos : List (Id × String)) (p : Presente)
    (restantes : List Presente) (tentativa : Nat) (codigo : String) :
    Emissao × List EventOnUsers :=
  match s.gravarCodigo p.userId eventId codigo with
  | .gravou inscricoes =>
      let (codigos, restantes) := adiante (codigos ++ [(p.userId, codigo)]) restantes
      (.emitindo eventId presentes codigos restantes 1, inscricoes)
  | .colisao =>
      if 5 ≤ tentativa then (.encerrada (.error erroDaGravacao), s.inscricoes)
      else (.emitindo eventId presentes codigos (p :: restantes) (tentativa + 1), s.inscricoes)
  | .ausente => (.encerrada (.error erroDaGravacao), s.inscricoes)

/-- The pages. -/
def paginas (eventId : Id) (presentes : List Presente) (codigos : List (Id × String)) :
    List CertificadoImpresso :=
  presentes.map fun p => ⟨p.userId, eventId, p.nome, (codigos.lookup p.userId).getD ""⟩

/-- `verificar`. -/
def verificar (codigo : String) : Except Failure Verificacao := do
  let normalizado := textos.toUpperCase (textos.trim codigo)
  let inscricao ← orFail (s.inscricoes.find? fun row => row.certificateCode = some normalizado)
    (notFound "Certificado não encontrado")
  failIf (s.fezCheckin inscricao.userId inscricao.eventId = false)
    (notFound "Certificado não encontrado")
  let event ← orFail (lookup EventoDoCertificado.id inscricao.eventId s.eventos)
    (notFound "Certificado não encontrado")
  failIf (event.ligado = false) (notFound "Certificado não encontrado")
  return { codigo := normalizado
           nome := s.nomes inscricao.userId
           evento := event.name
           igreja := event.igreja.getD ""
           periodo := textos.periodoPorExtenso event.startDate event.endDate
           cargaHoraria := event.certConfig.bind ConfigDoCertificado.workload }

/-! ### Runs -/

inductive Acao where
  | nova (eventId : Id) (agora : Instant) (pedido : PedidoDeCertificado)
  | presentes (i : Nat)
  | sortear (i : Nat) (codigo : CodigoSorteado)
  | imprimir (i : Nat)
  /-- a registration is removed -/
  | remover (userId eventId : Id)
  /-- check-ins, events and people change elsewhere -/
  | fora (checkins : List Checkin) (eventos : List EventoDoCertificado) (nomes : Id → String)

def emFalha : Except Failure Emissao → Emissao
  | .ok emissao => emissao
  | .error e => .encerrada (.error e)

def step : Acao → Certificados
  | .nova eventId agora pedido =>
      { s with emissoes := s.emissoes ++ [emFalha (s.comecar eventId agora pedido)] }
  | .presentes i =>
      match s.emissoes[i]? with
      | some (.lendo eventId pedido) =>
          { s with emissoes := s.emissoes.set i (emFalha (s.lerPresentes textos eventId pedido)) }
      | _ => s
  | .sortear i codigo =>
      match s.emissoes[i]? with
      | some (.emitindo eventId presentes codigos (p :: restantes) tentativa) =>
          let (emissao, inscricoes) :=
            s.sortear eventId presentes codigos p restantes tentativa codigo.texto
          { s with inscricoes := inscricoes, emissoes := s.emissoes.set i emissao }
      | _ => s
  | .imprimir i =>
      match s.emissoes[i]? with
      | some (.emitindo eventId presentes codigos [] _) =>
          { s with
            emissoes := s.emissoes.set i (.encerrada (.ok ()))
            impressos := s.impressos ++ paginas eventId presentes codigos }
      | _ => s
  | .remover userId eventId =>
      { s with inscricoes := deleteKey chaveDaInscricao (userId, eventId) s.inscricoes }
  | .fora checkins eventos nomes =>
      { s with checkins := checkins, eventos := eventos, nomes := nomes }

end Certificados

end IccvBackend
