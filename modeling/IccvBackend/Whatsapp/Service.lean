/-
Module: IccvBackend.Whatsapp.Service
Purpose: `SessaoDaIgreja` of `whatsapp/whatsapp.service.ts`: its calls, the events of its sockets
  and its reconnection timer, await by await.
Trusted boundary: human-reviewed spec
Main exports: ChamadaDaSessao, SessaoDaIgreja, SessaoDaIgreja.Acao, SessaoDaIgreja.agir
-/
import IccvBackend.Lib.Tasks
import IccvBackend.Prisma.Schema

namespace IccvBackend

/-!
A call runs up to its next `await`, and goes on when what it waits for answers or fails.  The queue
of messages, the groups and what `getStatus` reads are left out; so are the delays, which say
nothing of the order in which things happen.
-/

inductive WhatsappStatus where
  | disconnected
  | connecting
  | connected
deriving Repr, DecidableEq

/-- `reconexao`: nothing, a timer that waits, or one that fired and is still held. -/
inductive Reconexao where
  | nenhuma
  | armada
  | disparada
deriving Repr, DecidableEq

/-- The reasons of a close that the session tells apart. -/
inductive DisconnectReason where
  | loggedOut
  | badSession
  | outra
deriving Repr, DecidableEq

/-- Who called `connect`. -/
inductive QuemConecta where
  | pedido
  | temporizador
  | pareamento (numero : String)
deriving Repr, DecidableEq

/-- The awaits of `connect`, before it makes its socket. -/
inductive EsperaDeConnect where
  | loadBaileys
  | useDatabaseAuthState
  | fetchLatestBaileysVersion
deriving Repr, DecidableEq

/-- Where a call in flight waits. -/
inductive ChamadaDaSessao where
  | conectando (quem : QuemConecta) (espera : EsperaDeConnect)
  /-- the `catch` of the timer's `connect` -/
  | reagendando (erro : String)
  /-- the loop of `requestPairingCode` -/
  | esperandoQr (numero : String) (i : Nat)
  | pedindoCodigo
  /-- `cancelPairing`, clearing the credentials -/
  | cancelando
  /-- `disconnect`, in the logout -/
  | saindo
  /-- `disconnect`, clearing the credentials -/
  | limpando
  /-- `aoMudarConexao` of a close, before it lets the socket go -/
  | fechando (codigo : DisconnectReason) (motivo : Option String)
  | limpandoFechada
  | fim
deriving Repr, DecidableEq

inductive Connection where
  | connecting
  | opened
  | close
deriving Repr, DecidableEq

/-- `connection.update`. -/
structure ConnectionUpdate where
  qr : Option String
  connection : Option Connection
  codigo : DisconnectReason
  motivo : Option String
  agora : Instant

structure SessaoDaIgreja where
  /-- every socket created, and whether it is neither ended nor reported closed -/
  sockets : List Bool
  /-- `this.socket` -/
  socket : Option Nat
  status : WhatsappStatus
  qr : Option String
  pairingCode : Option String
  connectedAt : Option Instant
  lastError : Option String
  tentativas : Nat
  encerrando : Bool
  reconexao : Reconexao
  chamadas : List ChamadaDaSessao

namespace SessaoDaIgreja

variable (s : SessaoDaIgreja)

inductive Acao where
  | connect
  | requestPairingCode (phoneNumber : String)
  /-- `registered` of the credentials of the socket that is held -/
  | cancelPairing (registered : Bool)
  | disconnect
  | encerrar
  | evento (origem : Nat) (evento : ConnectionUpdate)
  | dispararReconexao
  /-- what a call waits for answers or fails -/
  | seguir (k : Nat) (retorno : Except String String)

/-- A new session. -/
def nova : SessaoDaIgreja where
  sockets := []
  socket := none
  status := .disconnected
  qr := none
  pairingCode := none
  connectedAt := none
  lastError := none
  tentativas := 0
  encerrando := false
  reconexao := .nenhuma
  chamadas := []

def iniciar (c : ChamadaDaSessao) : SessaoDaIgreja := { s with chamadas := s.chamadas ++ [c] }

def mover (k : Nat) (c : ChamadaDaSessao) : SessaoDaIgreja :=
  { s with chamadas := s.chamadas.set k c }

/-- A socket is ended, or reports that it closed. -/
def fecharSocket (i : Nat) : SessaoDaIgreja := { s with sockets := s.sockets.set i false }

/-- `this.socket?.end(undefined)`. -/
def endSocket : SessaoDaIgreja :=
  match s.socket with
  | some i => s.fecharSocket i
  | none => s

/-- The end of the held socket, and `this.socket = null`. -/
def soltarSocket : SessaoDaIgreja := { s.endSocket with socket := none }

def cancelaReconexao : SessaoDaIgreja := { s with reconexao := .nenhuma }

def agendaReconexao : SessaoDaIgreja :=
  { s with
    tentativas := s.tentativas + 1
    reconexao := .armada }

/-- `connect`, up to its first `await`. -/
def connect (quem : QuemConecta) : SessaoDaIgreja :=
  match s.socket with
  | some _ => s
  | none =>
      { s with
        encerrando := false
        status := .connecting
        lastError := none }.iniciar (.conectando quem .loadBaileys)

/-- The socket is made, and held. -/
def abrirSocket (k : Nat) (quem : QuemConecta) : SessaoDaIgreja :=
  { s with
    sockets := s.sockets ++ [true]
    socket := some s.sockets.length
  }.mover k (match quem with
    | .pareamento numero => .esperandoQr numero 0
    | _ => .fim)

/-- `connect` goes on. -/
def seguirConnect (k : Nat) (quem : QuemConecta) : EsperaDeConnect → SessaoDaIgreja
  | .loadBaileys => s.mover k (.conectando quem .useDatabaseAuthState)
  | .useDatabaseAuthState => s.mover k (.conectando quem .fetchLatestBaileysVersion)
  | .fetchLatestBaileysVersion => s.abrirSocket k quem

/-- One turn of the loop of `requestPairingCode`, and the request after it: without a socket it
throws. -/
def turnoDoPareamento (numero : String) (i : Nat) : ChamadaDaSessao :=
  if i < 20 ∧ s.qr = none then .esperandoQr numero (i + 1)
  else if s.socket = none then .fim
  else .pedindoCodigo

/-- The digits of a telephone number. -/
def digitosDoNumero (phoneNumber : String) : String :=
  String.ofList (phoneNumber.toList.filter Char.isDigit)

/-- `requestPairingCode` accepts the number and there is no number connected. -/
def aceitaPareamento (phoneNumber : String) : Bool :=
  !(digitosDoNumero phoneNumber).length < 12 && s.status ≠ .connected

def requestPairingCode (phoneNumber : String) : SessaoDaIgreja :=
  let numero := digitosDoNumero phoneNumber
  if !s.aceitaPareamento phoneNumber then s
  else if s.socket = none then s.connect (.pareamento numero)
  else s.iniciar (s.turnoDoPareamento numero 0)

/-- The end of `cancelPairing`. -/
def pareamentoCancelado : SessaoDaIgreja :=
  { s with
    status := .disconnected
    qr := none
    pairingCode := none
    tentativas := 0
    lastError := none }

def cancelPairing (registered : Bool) : SessaoDaIgreja :=
  let jaPareado := s.socket.isSome && registered
  let parada := { s with encerrando := true }.cancelaReconexao.soltarSocket
  if jaPareado then parada.pareamentoCancelado.iniciar .fim else parada.iniciar .cancelando

/-- The end of `disconnect`. -/
def desconectada : SessaoDaIgreja :=
  { s with
    status := .disconnected
    qr := none
    pairingCode := none
    connectedAt := none
    tentativas := 0 }

def disconnect : SessaoDaIgreja :=
  let parada := { s with encerrando := true }.cancelaReconexao
  if s.status = .connected then parada.iniciar .saindo else parada.soltarSocket.iniciar .limpando

def encerrar : SessaoDaIgreja := { s with encerrando := true }.cancelaReconexao.endSocket

/-- The QR of an update. -/
def lerQr (qr : Option String) : SessaoDaIgreja :=
  match qr with
  | some qr => if qr = "" then s else { s with qr := some qr, status := .connecting }
  | none => s

/-- What `aoMudarConexao` does of an update of the held socket. -/
def mudarConexao (u : ConnectionUpdate) : SessaoDaIgreja :=
  let lida := s.lerQr u.qr
  match u.connection with
  | some .opened =>
      { lida with
        status := .connected
        qr := none
        pairingCode := none
        connectedAt := some u.agora
        lastError := none
        tentativas := 0 }
  | some .close => lida.iniciar (.fechando u.codigo u.motivo)
  | _ => lida

/-- `aoMudarConexao`, up to its first `await`: a socket that is not held changes nothing. -/
def aoMudarConexao (origem : Nat) (u : ConnectionUpdate) : SessaoDaIgreja :=
  let avisada := if u.connection = some .close then s.fecharSocket origem else s
  if avisada.socket = some origem then avisada.mudarConexao u else avisada

/-- A close goes on: the socket that is held is let go, whichever it is by now. -/
def seguirFechamento (k : Nat) (codigo : DisconnectReason) (motivo : Option String) :
    SessaoDaIgreja :=
  let solta := { s with socket := none, qr := none }
  if codigo = .loggedOut ∨ codigo = .badSession then solta.mover k .limpandoFechada
  else if s.encerrando then { solta with status := .disconnected }.mover k .fim
  else
    { solta with
      status := .connecting
      lastError := some (motivo.getD "Conexão perdida") }.agendaReconexao.mover k .fim

/-- A call goes on with what it waited for. -/
def seguir (k : Nat) : ChamadaDaSessao → Except String String → SessaoDaIgreja
  | .conectando quem espera, .ok _ => s.seguirConnect k quem espera
  | .conectando .temporizador _, .error erro => s.mover k (.reagendando erro)
  | .reagendando erro, _ => { s with lastError := some erro }.agendaReconexao.mover k .fim
  | .esperandoQr numero i, _ => s.mover k (s.turnoDoPareamento numero i)
  | .pedindoCodigo, .ok codigo => { s with pairingCode := some codigo }.mover k .fim
  | .cancelando, .ok _ => s.pareamentoCancelado.mover k .fim
  -- a logout that fails is caught
  | .saindo, _ => s.soltarSocket.mover k .limpando
  | .limpando, .ok _ => s.desconectada.mover k .fim
  | .fechando codigo motivo, .ok _ => s.seguirFechamento k codigo motivo
  | .limpandoFechada, .ok _ =>
      { s with
        status := .disconnected
        lastError := some "Sessão encerrada no WhatsApp. Pareie o número novamente." }.mover k .fim
  | _, _ => s.mover k .fim

/-- One step of a run. -/
def agir : Acao → SessaoDaIgreja
  | .connect => s.connect .pedido
  | .requestPairingCode phoneNumber => s.requestPairingCode phoneNumber
  | .cancelPairing registered => s.cancelPairing registered
  | .disconnect => s.disconnect
  | .encerrar => s.encerrar
  | .evento origem u => s.aoMudarConexao origem u
  | .dispararReconexao =>
      if s.reconexao = .armada then { s with reconexao := .disparada }.connect .temporizador else s
  | .seguir k retorno =>
      match s.chamadas[k]? with
      | some c => s.seguir k c retorno
      | none => s

end SessaoDaIgreja

end IccvBackend
