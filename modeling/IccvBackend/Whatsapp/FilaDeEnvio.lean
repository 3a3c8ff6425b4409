/-
Module: IccvBackend.Whatsapp.FilaDeEnvio
Purpose: The queue of messages of a `SessaoDaIgreja` (`sendToGroup`, `enfileira`,
  `respeitaIntervalo` and `exigeConexao` of `whatsapp/whatsapp.service.ts`), over its session await
  by await.
Trusted boundary: human-reviewed spec
Main exports: Mensagem, FilaDeEnvio, FilaDeEnvio.Acao, FilaDeEnvio.agir
-/
import IccvBackend.Lib.Turns
import IccvBackend.Whatsapp.Service

namespace IccvBackend

open Lib

/-!
`filaDeEnvio` is a chain of promises: the task of a message is called when the one of the message
before it has settled, however it did.  The clock of the process never goes back, and a timer may be
late.
-/

/-- `INTERVALO_MINIMO_MS`. -/
def intervaloMinimo : Nat := 8000

/-- `INTERVALO_MAXIMO_MS`. -/
def intervaloMaximo : Nat := 25000

/-- `intervaloSorteado`, from what was drawn. -/
def intervaloSorteado (sorteio : Fin (intervaloMaximo - intervaloMinimo)) : Nat :=
  intervaloMinimo + sorteio

/-- Where the task of a message is.  `saiu` is when `sendMessage` was called. -/
inductive FaseDaMensagem where
  | naFila
  /-- in the `espera` of `respeitaIntervalo`, with the socket of `exigeConexao` -/
  | esperando (socket : Nat) (ate : Nat)
  | enviando (socket : Nat) (saiu : Nat)
  | enviada (socket : Nat) (saiu chegou : Nat)
  /-- `exigeConexao` threw -/
  | recusada
  | falhou (socket : Nat) (saiu : Nat)
deriving Repr, DecidableEq

structure Mensagem where
  groupId : String
  text : String
  imageUrl : Option String
  fase : FaseDaMensagem
deriving Repr, DecidableEq

namespace Mensagem

def etapa (m : Mensagem) : Stage :=
  match m.fase with
  | .naFila => .waiting
  | .esperando _ _ | .enviando _ _ => .running
  | .enviada _ _ _ | .recusada | .falhou _ _ => .settled

/-- When the message left, and by which socket. -/
def saida (m : Mensagem) : Option (Nat × Nat) :=
  match m.fase with
  | .enviando socket saiu | .enviada socket saiu _ | .falhou socket saiu => some (socket, saiu)
  | _ => none

/-- When its sending was over, if it was sent. -/
def chegada (m : Mensagem) : Option Nat :=
  match m.fase with
  | .enviada _ _ chegou => some chegou
  | _ => none

end Mensagem

structure FilaDeEnvio where
  agora : Nat
  sessao : SessaoDaIgreja
  ultimoEnvioEm : Nat
  /-- every message asked for, in order -/
  mensagens : List Mensagem

namespace FilaDeEnvio

variable (f : FilaDeEnvio)

inductive Acao where
  | passar (ms : Nat)
  | sessao (a : SessaoDaIgreja.Acao)
  | sendToGroup (groupId text : String) (imageUrl : Option String)
  /-- the turn of a message, and the interval it draws -/
  | comecar (k : Nat) (sorteio : Fin (intervaloMaximo - intervaloMinimo))
  /-- the timer of a message -/
  | acordar (k : Nat)
  /-- `sendMessage` answers, or fails -/
  | responder (k : Nat) (enviou : Bool)

def inicial (agora : Nat) : FilaDeEnvio := ⟨agora, .nova, 0, []⟩

def mover (k : Nat) (m : Mensagem) (fase : FaseDaMensagem) : FilaDeEnvio :=
  { f with mensagens := f.mensagens.set k { m with fase := fase } }

/-- `exigeConexao`. -/
def exigeConexao : Option Nat :=
  if f.sessao.status = .connected then f.sessao.socket else none

/-- `enfileira`. -/
def sendToGroup (groupId text : String) (imageUrl : Option String) : FilaDeEnvio :=
  { f with mensagens := f.mensagens ++ [⟨groupId, text, imageUrl, .naFila⟩] }

/-- `respeitaIntervalo`: what is left to wait, if anything is. -/
def restante (sorteio : Fin (intervaloMaximo - intervaloMinimo)) : Nat :=
  if f.ultimoEnvioEm = 0 then 0
  else intervaloSorteado sorteio - (f.agora - f.ultimoEnvioEm)

/-- The task of a message, up to the timer or to `sendMessage`. -/
def tarefa (k : Nat) (m : Mensagem) (sorteio : Fin (intervaloMaximo - intervaloMinimo)) :
    FilaDeEnvio :=
  match f.exigeConexao with
  | none => f.mover k m .recusada
  | some socket =>
      let restante := f.restante sorteio
      if 0 < restante then f.mover k m (.esperando socket (f.agora + restante))
      else f.mover k m (.enviando socket f.agora)

/-- The chain gets to a message when all before it have settled. -/
def vez (k : Nat) : Bool := (f.mensagens.take k).all fun m => m.etapa = .settled

/-- One step of a run. -/
def agir : Acao → FilaDeEnvio
  | .passar ms => { f with agora := f.agora + ms }
  | .sessao a => { f with sessao := f.sessao.agir a }
  | .sendToGroup groupId text imageUrl => f.sendToGroup groupId text imageUrl
  | .comecar k sorteio =>
      match f.mensagens[k]? with
      | some m => if m.fase = .naFila ∧ f.vez k then f.tarefa k m sorteio else f
      | none => f
  | .acordar k =>
      match f.mensagens[k]? with
      | some m =>
          match m.fase with
          | .esperando socket ate =>
              if ate ≤ f.agora then f.mover k m (.enviando socket f.agora) else f
          | _ => f
      | none => f
  | .responder k enviou =>
      match f.mensagens[k]? with
      | some m =>
          match m.fase with
          | .enviando socket saiu =>
              if enviou then
                { f.mover k m (.enviada socket saiu f.agora) with ultimoEnvioEm := f.agora }
              else f.mover k m (.falhou socket saiu)
          | _ => f
      | none => f

end FilaDeEnvio

end IccvBackend
