/-
Module: IccvBackend.Auth.CodesInFlight
Purpose: The calls that send, verify and use codes, statement by statement: several of them in
  flight.
Trusted boundary: human-reviewed spec
Main exports: ChamadaDeCodigo, AcessoEmCurso, AcessoEmCurso.step, RegistroDeCodigos
-/
import IccvBackend.Auth.Google
import IccvBackend.Auth.PasswordReset

namespace IccvBackend

open Lib

/-!
Between two statements of a call the others run: the row that `verifyCode` compares, and the one
that `resetPassword` uses, are as they were when they were read.  The comparison of a code is a step
of its own.  A transaction is one step.  A call that ended stays in the list.
-/

/-- The statement `requestReset` runs next. -/
inductive FaseDePedido where
  | usuario
  | cooldown (userId : Id)
  | gravar (userId : Id)
  | fim
deriving Repr, DecidableEq

/-- The statement `verifyCode` runs next. -/
inductive FaseDeVerificacao where
  | usuario
  | buscar (userId : Id)
  | descartar (token : UserToken)
  | comparar (token : UserToken)
  | contar (token : UserToken)
  | entregar (token : UserToken)
  | fim (resposta : Except Failure String)

/-- The statement `resetPassword` runs next. -/
inductive FaseDeTroca where
  | buscar
  | descartar (token : UserToken)
  | gravar (token : UserToken)
  | fim (resposta : Except Failure Unit)

/-- The statement `confirmarVinculo` runs next. -/
inductive FaseDeVinculo where
  | buscar
  | descartar
  | comparar (token : UserToken)
  | contar (token : UserToken)
  | conferir (token : UserToken)
  | criar (conta : ContaEscolhida)
  | limpar
  | fim (resposta : Except Failure Unit)

inductive ChamadaDeCodigo where
  | requestReset (document codigo : String) (fase : FaseDePedido)
  | verifyCode (document code ticket : String) (fase : FaseDeVerificacao)
  | resetPassword (ticket password : String) (fase : FaseDeTroca)
  | confirmarVinculo (userId : Id) (codigo : String) (fase : FaseDeVinculo)

namespace ChamadaDeCodigo

/-- The tables after a write, and the phase that follows: the one given, or the exception. -/
def escrever {φ : Type} (db : Acesso) (escrita : Except Failure Acesso) (depois : φ)
    (erro : Failure → φ) : Acesso × φ :=
  match escrita with
  | .ok novo => (novo, depois)
  | .error e => (db, erro e)

def avancarPedido (cripto : Cripto) (db : Acesso) (document codigo : String) (agora : Instant) :
    FaseDePedido → Acesso × FaseDePedido
  | .usuario =>
      match db.destinatario document with
      | none => (db, .fim)
      | some user => (db, .cooldown user.id)
  | .cooldown userId => (db, if db.cooldownAtivo userId agora then .fim else .gravar userId)
  | .gravar userId => (db.gravarCodigo userId (cripto.hash codigo) agora, .fim)
  | .fim => (db, .fim)

def avancarVerificacao (cripto : Cripto) (db : Acesso) (document code ticket : String)
    (agora : Instant) : FaseDeVerificacao → Acesso × FaseDeVerificacao
  | .usuario =>
      match db.pessoaPorCpf document with
      | none => (db, .fim (.error codigoInvalido))
      | some user => (db, .buscar user.id)
  | .buscar userId =>
      match db.tokenAtivo userId tokenTypePasswordReset with
      | none => (db, .fim (.error codigoInvalido))
      | some token => (db, if token.morto agora then .descartar token else .comparar token)
  | .descartar token => (db.discard token.id, .fim (.error codigoInvalido))
  | .comparar token =>
      (db, if cripto.compara code token.codeHash then .entregar token else .contar token)
  | .contar token =>
      escrever db (db.contarErro token) (.fim (.error codigoInvalido)) fun e => .fim (.error e)
  | .entregar token =>
      escrever db (db.entregarTicket token.id (cripto.sha256 ticket) agora) (.fim (.ok ticket))
        fun e => .fim (.error e)
  | .fim resposta => (db, .fim resposta)

def avancarTroca (cripto : Cripto) (db : Acesso) (ticket password : String) (agora : Instant) :
    FaseDeTroca → Acesso × FaseDeTroca
  | .buscar =>
      match db.doTicket cripto ticket with
      | none => (db, .fim (.error ticketInvalido))
      | some token => (db, if token.expiresAt ≤ agora then .descartar token else .gravar token)
  | .descartar token => (db.discard token.id, .fim (.error ticketInvalido))
  | .gravar token =>
      escrever db (db.gravarSenha token.userId (cripto.hash password) agora) (.fim (.ok ()))
        fun e => .fim (.error e)
  | .fim resposta => (db, .fim resposta)

def avancarVinculo (cripto : Cripto) (db : Acesso) (userId : Id) (codigo : String)
    (agora : Instant) : FaseDeVinculo → Acesso × FaseDeVinculo
  | .buscar =>
      match db.tokenAtivo userId tokenTypeGoogleLink with
      | none => (db, .fim (.error codigoDoGoogleInvalido))
      | some token => (db, if token.morto agora then .descartar else .comparar token)
  | .descartar => (db.descartarVinculo userId, .fim (.error codigoDoGoogleInvalido))
  | .comparar token =>
      (db, if cripto.compara codigo token.codeHash then .conferir token else .contar token)
  | .contar token =>
      escrever db (db.contarErroDoVinculo userId token)
        (.fim (.error (badRequest "Código incorreto."))) fun e => .fim (.error e)
  | .conferir token =>
      match token.payload with
      | none => (db, .fim (.error (internalServerError "Internal Server Error")))
      | some conta =>
          match db.assertPodeVincular userId conta.subject with
          | .ok _ => (db, .criar conta)
          | .error e => (db, .fim (.error e))
  | .criar conta =>
      escrever db ((db.criarVinculo userId conta agora).map Prod.fst) .limpar fun e =>
        .fim (.error e)
  | .limpar => (db.descartarVinculo userId, .fim (.ok ()))
  | .fim resposta => (db, .fim resposta)

/-- The next statement of a call. -/
def avancar (cripto : Cripto) (db : Acesso) (agora : Instant) :
    ChamadaDeCodigo → Acesso × ChamadaDeCodigo
  | .requestReset document codigo fase =>
      let (db, fase) := avancarPedido cripto db document codigo agora fase
      (db, .requestReset document codigo fase)
  | .verifyCode document code ticket fase =>
      let (db, fase) := avancarVerificacao cripto db document code ticket agora fase
      (db, .verifyCode document code ticket fase)
  | .resetPassword ticket password fase =>
      let (db, fase) := avancarTroca cripto db ticket password agora fase
      (db, .resetPassword ticket password fase)
  | .confirmarVinculo userId codigo fase =>
      let (db, fase) := avancarVinculo cripto db userId codigo agora fase
      (db, .confirmarVinculo userId codigo fase)

end ChamadaDeCodigo

structure AcessoEmCurso where
  db : Acesso
  chamadas : List ChamadaDeCodigo

namespace AcessoEmCurso

inductive Acao where
  | requestReset (document codigo : String)
  | verifyCode (document code ticket : String)
  | resetPassword (ticket password : String)
  | confirmarVinculo (userId : Id) (codigo : String)
  /-- the transaction of `vincular` -/
  | vincular (userId : Id) (conta : ContaEscolhida) (codigo : String) (agora : Instant)
  /-- the next statement of a call -/
  | avancar (chamada : Nat) (agora : Instant)

def iniciar (s : AcessoEmCurso) (c : ChamadaDeCodigo) : AcessoEmCurso :=
  { s with chamadas := s.chamadas ++ [c] }

def step (cripto : Cripto) (s : AcessoEmCurso) : Acao → AcessoEmCurso
  | .requestReset document codigo => s.iniciar (.requestReset document codigo .usuario)
  | .verifyCode document code ticket => s.iniciar (.verifyCode document code ticket .usuario)
  | .resetPassword ticket password => s.iniciar (.resetPassword ticket password .buscar)
  | .confirmarVinculo userId codigo => s.iniciar (.confirmarVinculo userId codigo .buscar)
  | .vincular userId conta codigo agora =>
      { s with
        db := s.db.novoToken userId tokenTypeGoogleLink (some conta) (cripto.hash codigo)
          (agora + validadeDoCodigo) agora }
  | .avancar k agora =>
      match s.chamadas[k]? with
      | some c =>
          { db := (c.avancar cripto s.db agora).1
            chamadas := s.chamadas.set k (c.avancar cripto s.db agora).2 }
      | none => s

end AcessoEmCurso

/-! ### What is remembered of a run -/

/-- The token a call compares its code with next. -/
def ChamadaDeCodigo.comparando : ChamadaDeCodigo → Option (UserToken × String)
  | .verifyCode _ code _ (.comparar token) => some (token, code)
  | .confirmarVinculo _ codigo (.comparar token) => some (token, codigo)
  | _ => none

/-- The token whose ticket a call changes the password with next. -/
def ChamadaDeCodigo.trocando : ChamadaDeCodigo → Option UserToken
  | .resetPassword _ _ (.gravar token) => some token
  | _ => none

/-- The token of the wrong code that a call compares next. -/
def ChamadaDeCodigo.errando (cripto : Cripto) (c : ChamadaDeCodigo) : Option UserToken :=
  (c.comparando.filter fun par => !cripto.compara par.2 par.1.codeHash).map Prod.fst

/-- The token whose ticket has just changed the password. -/
def ChamadaDeCodigo.trocou (antes depois : ChamadaDeCodigo) : Option Id :=
  match antes, depois with
  | .resetPassword _ _ (.gravar token), .resetPassword _ _ (.fim (.ok _)) => some token.id
  | _, _ => none

/-- The tokens that a wrong code was compared with, and those whose ticket changed the password,
once for each time. -/
structure RegistroDeCodigos where
  errados : List Id
  trocas : List Id
deriving Repr, DecidableEq

def RegistroDeCodigos.registrar (cripto : Cripto) (r : RegistroDeCodigos) (s : AcessoEmCurso)
    (acao : AcessoEmCurso.Acao) (_ : AcessoEmCurso) : RegistroDeCodigos :=
  match acao with
  | .avancar k agora =>
      match s.chamadas[k]? with
      | none => r
      | some c =>
          { errados := r.errados ++ ((c.errando cripto).map UserToken.id).toList
            trocas := r.trocas ++ (c.trocou (c.avancar cripto s.db agora).2).toList }
  | _ => r

end IccvBackend
