/-
Module: IccvBackend.Whatsapp.Registro
Purpose: `WhatsappService` of `whatsapp/whatsapp.service.ts`: the map from a church to its session,
  and the sessions it forgets, over the sessions await by await.
Trusted boundary: human-reviewed spec
Main exports: SessaoDaIgreja.ociosa, WhatsappService, WhatsappService.Acao, WhatsappService.agir
-/
import IccvBackend.Whatsapp.Service

namespace IccvBackend

/-!
A session that the map forgets goes on living: its sockets, its timer and its calls in flight do not
read the map.  The answers of the calls are left out, and so is what only reads a session.
-/

/-- `ociosa`. -/
def SessaoDaIgreja.ociosa (s : SessaoDaIgreja) : Bool :=
  s.socket.isNone && s.status = .disconnected && s.reconexao = .nenhuma

/-- A call of `cancelPairing` or `disconnect` that waits for the credentials to be cleared, and for
nothing after it. -/
def ChamadaDaSessao.desliga : ChamadaDaSessao → Bool
  | .cancelando | .limpando => true
  | _ => false

structure WhatsappService where
  /-- every session created, with its church -/
  criadas : List (Id × SessaoDaIgreja)
  /-- `this.sessoes` -/
  sessoes : Id → Option Nat

namespace WhatsappService

variable (w : WhatsappService)

inductive Acao where
  /-- `onModuleInit`, for one of its churches: whether the credentials are still there -/
  | retomar (churchId : Id) (tem : Bool)
  | onModuleDestroy
  | connect (churchId : Id)
  | requestPairingCode (churchId : Id) (phoneNumber : String)
  /-- `registered` of the credentials of the socket that the session holds -/
  | cancelPairing (churchId : Id) (registered : Bool)
  | disconnect (churchId : Id)
  /-- what reaches a session by itself -/
  | evento (i origem : Nat) (evento : ConnectionUpdate)
  | dispararReconexao (i : Nat)
  | seguir (i k : Nat) (retorno : Except String String)

/-- A process that has just started. -/
def inicial : WhatsappService := ⟨[], fun _ => none⟩

/-- A session takes a step. -/
def naSessao (i : Nat) (a : SessaoDaIgreja.Acao) : WhatsappService :=
  match w.criadas[i]? with
  | some (churchId, s) => { w with criadas := w.criadas.set i (churchId, s.agir a) }
  | none => w

/-- `sessao`, with the session it returns. -/
def sessao (churchId : Id) : WhatsappService × Nat :=
  match w.sessoes churchId with
  | some existente => (w, existente)
  | none =>
      let nova := w.criadas.length
      (⟨w.criadas ++ [(churchId, .nova)], Function.update w.sessoes churchId (some nova)⟩, nova)

/-- The session of the church, created when there is none, takes a step. -/
def naSessaoDe (churchId : Id) (a : SessaoDaIgreja.Acao) : WhatsappService :=
  let (w, i) := w.sessao churchId
  w.naSessao i a

/-- `descartaSeOciosa`: the church is forgotten, whichever its session is by now. -/
def descartaSeOciosa (i : Nat) : WhatsappService :=
  match w.criadas[i]? with
  | some (churchId, s) =>
      if s.ociosa then { w with sessoes := Function.update w.sessoes churchId none } else w
  | none => w

/-- `cancelPairing`: with a number already paired it has nothing to wait for. -/
def cancelPairing (churchId : Id) (registered : Bool) : WhatsappService :=
  match w.sessoes churchId with
  | none => w
  | some i =>
      let jaPareado := (w.criadas[i]?).any fun c => c.2.socket.isSome && registered
      let cancelada := w.naSessao i (.cancelPairing registered)
      if jaPareado then cancelada.descartaSeOciosa i else cancelada

/-- `disconnect`: without a session only the credentials are cleared. -/
def disconnect (churchId : Id) : WhatsappService :=
  match w.sessoes churchId with
  | none => w
  | some i => w.naSessao i .disconnect

/-- A call of a session goes on; when it was turning the session off and does not throw, the service
goes on too. -/
def seguir (i k : Nat) (retorno : Except String String) : WhatsappService :=
  let desligou := (w.criadas[i]?).any fun c =>
    (c.2.chamadas[k]?).any ChamadaDaSessao.desliga && retorno.isOk
  let seguida := w.naSessao i (.seguir k retorno)
  if desligou then seguida.descartaSeOciosa i else seguida

/-- `onModuleDestroy`: the sessions of the map are ended. -/
def onModuleDestroy : WhatsappService :=
  { w with
    criadas := w.criadas.mapIdx fun i c =>
      if w.sessoes c.1 = some i then (c.1, c.2.encerrar) else c }

/-- One step of a run. -/
def agir : Acao → WhatsappService
  | .retomar churchId tem =>
      if tem then w.naSessaoDe churchId .connect else (w.sessao churchId).1
  | .onModuleDestroy => w.onModuleDestroy
  | .connect churchId => w.naSessaoDe churchId .connect
  | .requestPairingCode churchId phoneNumber =>
      w.naSessaoDe churchId (.requestPairingCode phoneNumber)
  | .cancelPairing churchId registered => w.cancelPairing churchId registered
  | .disconnect churchId => w.disconnect churchId
  | .evento i origem evento => w.naSessao i (.evento origem evento)
  | .dispararReconexao i => w.naSessao i .dispararReconexao
  | .seguir i k retorno => w.seguir i k retorno

end WhatsappService

end IccvBackend
