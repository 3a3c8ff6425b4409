/-
Module: IccvBackend.PaymentProviders.Calls
Purpose: Saves and rotations of a payment house in flight: each reads the configuration first and
  writes it back later, with other calls in between.
Trusted boundary: human-reviewed spec
Main exports: ChamadaDaCasa, CasasEmCurso, CasasEmCurso.step
-/
import IccvBackend.PaymentProviders.Service

namespace IccvBackend

open Lib

/-- A call after its read: the configuration it has read and what it is about to write. -/
inductive ChamadaDaCasa where
  | salvar (churchId : Id) (provider : PaymentProvider) (makeDefault : Option Bool)
      (existente : Option CasaGravada) (dados : DadosDaCasa)
  | rotacionarSegredo (config : CasaGravada) (dados : DadosDaCasa)
  /-- it has returned, with a result or with the error of its write -/
  | encerrada (gravou : Bool)
deriving DecidableEq

/-- The table and the calls between their read and their write. -/
structure CasasEmCurso where
  casas : CasasDePagamento
  chamadas : List ChamadaDaCasa

namespace CasasEmCurso

variable (cofre : CofreDeSegredos) (textos : TextosDoFormulario) (s : CasasEmCurso)

inductive Acao where
  | lerSalvar (churchId : Id) (provider : PaymentProvider) (dto : UpsertPaymentProviderDto)
      (actorId : Option Id) (sorteado : SegredoSorteado) (iv : Nat)
  | lerRotacao (churchId : Id) (provider : PaymentProvider) (sorteado : SegredoSorteado) (iv : Nat)
  /-- the write of a call -/
  | gravar (i : Nat)

/-- `salvar` up to its transaction. -/
def lerSalvar (churchId : Id) (provider : PaymentProvider) (dto : UpsertPaymentProviderDto)
    (actorId : Option Id) (sorteado : SegredoSorteado) (iv : Nat) :
    Except Failure ChamadaDaCasa := do
  CasasDePagamento.exigirCofre cofre
  s.casas.exigirDevParaSandbox dto.mode actorId
  let existente := s.casas.buscar churchId provider
  let dados ← CasasDePagamento.prepararSalvar cofre textos churchId provider dto existente
      sorteado iv
  return .salvar churchId provider dto.makeDefault existente dados

/-- `rotacionarSegredo` up to its update. -/
def lerRotacao (churchId : Id) (provider : PaymentProvider) (sorteado : SegredoSorteado)
    (iv : Nat) : Except Failure ChamadaDaCasa := do
  CasasDePagamento.exigirCofre cofre
  let config ← s.casas.exigir churchId provider
  let dados ← CasasDePagamento.prepararRotacao cofre churchId provider config sorteado iv
  return .rotacionarSegredo config dados

/-- A call that fails before its write is over. -/
def comecar (chamada : Except Failure ChamadaDaCasa) : CasasEmCurso :=
  match chamada with
  | .ok chamada => { s with chamadas := s.chamadas ++ [chamada] }
  | .error _ => { s with chamadas := s.chamadas ++ [.encerrada false] }

/-- The write of a call, or nothing when it is over. -/
def escrita : ChamadaDaCasa → Except Failure CasasDePagamento
  | .salvar churchId provider makeDefault _ dados =>
      s.casas.gravarSalvar churchId provider makeDefault dados
  | .rotacionarSegredo config dados => s.casas.gravarRotacao config dados
  | .encerrada _ => .ok s.casas

/-- A call returns with its write. -/
def gravar (i : Nat) (chamada : ChamadaDaCasa) : CasasEmCurso :=
  match s.escrita chamada with
  | .ok casas => ⟨casas, s.chamadas.set i (.encerrada true)⟩
  | .error _ => { s with chamadas := s.chamadas.set i (.encerrada false) }

def step : Acao → CasasEmCurso
  | .lerSalvar churchId provider dto actorId sorteado iv =>
      s.comecar (s.lerSalvar cofre textos churchId provider dto actorId sorteado iv)
  | .lerRotacao churchId provider sorteado iv =>
      s.comecar (s.lerRotacao cofre churchId provider sorteado iv)
  | .gravar i =>
      match s.chamadas[i]? with
      | none => s
      | some (.encerrada _) => s
      | some chamada => s.gravar i chamada

end CasasEmCurso

end IccvBackend
