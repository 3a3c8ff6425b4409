/-
Module: IccvBackend.Auth.PasswordReset
Purpose: `auth/password-reset/password-reset.service.ts`: a code by e-mail, a ticket for the code, a
  new password for the ticket.
Trusted boundary: human-reviewed spec
Main exports: codeTtl, ticketTtl, requestReset, verifyCode, resetPassword, AcaoDeSenha
-/
import IccvBackend.Auth.Accounts

namespace IccvBackend

open Lib

/-! The e-mails are left out: a failure to send one is only logged. -/

/-- `CODE_TTL_MINUTES`. -/
def codeTtl : Nat := 60 * 60_000

/-- `TICKET_TTL_MINUTES`. -/
def ticketTtl : Nat := 15 * 60_000

/-- `RESEND_COOLDOWN_SECONDS`. -/
def resendCooldown : Nat := 60 * 1_000

/-- `INVALID_CODE_MESSAGE`. -/
def codigoInvalido : Failure :=
  badRequest "Código inválido ou expirado. Solicite um novo código."

/-- `INVALID_TICKET_MESSAGE`. -/
def ticketInvalido : Failure :=
  unauthorized "Sessão de redefinição expirada. Comece o processo de novo."

namespace Acesso

variable (db : Acesso)

/-- `findUnique` by CPF. -/
def pessoaPorCpf (document : String) : Option Pessoa :=
  db.painel.pessoas.find? fun p => p.cpf = document

/-! ### The code -/

/-- The person a code may be sent to. -/
def destinatario (document : String) : Option Pessoa :=
  (db.pessoaPorCpf document).filter fun p => p.email ≠ ""

def cooldownAtivo (userId : Id) (agora : Instant) : Bool :=
  (db.tokenAtivo userId tokenTypePasswordReset).any fun active =>
    agora < active.createdAt + resendCooldown

/-- The transaction of `requestReset`. -/
def gravarCodigo (userId : Id) (codeHash : String) (agora : Instant) : Acesso :=
  db.novoToken userId tokenTypePasswordReset none codeHash (agora + codeTtl) agora

/-- `requestReset`, for the code that was drawn: the answer is the same whatever happens. -/
def requestReset (cripto : Cripto) (document codigo : String) (agora : Instant) : Acesso :=
  match db.destinatario document with
  | none => db
  | some user =>
      if db.cooldownAtivo user.id agora then db
      else db.gravarCodigo user.id (cripto.hash codigo) agora

/-! ### The ticket -/

/-- The code in force of the person of a document. -/
def codigoDe (document : String) : Option UserToken := do
  let user ← db.pessoaPorCpf document
  db.tokenAtivo user.id tokenTypePasswordReset

/-- The ticket takes the place of the code: the window is the shorter one of the ticket. -/
def comTicket (ticketHash : String) (agora : Instant) (row : UserToken) : UserToken :=
  { row with ticketHash := some ticketHash, attempts := 0, expiresAt := agora + ticketTtl }

/-- A wrong code is counted, and the fifth one destroys the token. -/
def contarErro (token : UserToken) : Except Failure Acesso :=
  let attempts := token.attempts + 1
  if maxCodeAttempts ≤ attempts then pure (db.discard token.id)
  else db.gravarToken token.id (comErros attempts)

/-- The digest of a ticket is of one row only. -/
def ticketRepetido (id : Id) (ticketHash : String) : Bool :=
  db.tokens.any fun row => row.ticketHash = some ticketHash && row.id ≠ id

/-- The right code gives its ticket. -/
def entregarTicket (id : Id) (ticketHash : String) (agora : Instant) : Except Failure Acesso := do
  failIf (db.ticketRepetido id ticketHash) (internalServerError "P2002")
  db.gravarToken id (comTicket ticketHash agora)

/-- `verifyCode`, for the ticket that was drawn: what it leaves, and its answer. -/
def verifyCode (cripto : Cripto) (document code ticket : String) (agora : Instant) :
    Acesso × Except Failure String :=
  match db.codigoDe document with
  | none => (db, .error codigoInvalido)
  | some token =>
      if token.morto agora then (db.discard token.id, .error codigoInvalido)
      else if !cripto.compara code token.codeHash then
        match db.contarErro token with
        | .ok depois => (depois, .error codigoInvalido)
        | .error e => (db, .error e)
      else
        match db.entregarTicket token.id (cripto.sha256 ticket) agora with
        | .ok depois => (depois, .ok ticket)
        | .error e => (db, .error e)

/-! ### The password -/

/-- The row of a ticket. -/
def doTicket (cripto : Cripto) (ticket : String) : Option UserToken :=
  db.tokens.find? fun token =>
    token.ticketHash = some (cripto.sha256 ticket) && token.type = tokenTypePasswordReset

/-- The transaction of `resetPassword`. -/
def gravarSenha (userId : Id) (senha : String) (agora : Instant) : Except Failure Acesso := do
  let trocada ← db.trocarSenha userId senha agora
  pure (trocada.apagarTokens userId tokenTypePasswordReset)

/-- `resetPassword`: what it leaves, and its answer. -/
def resetPassword (cripto : Cripto) (ticket password : String) (agora : Instant) :
    Acesso × Except Failure Unit :=
  match db.doTicket cripto ticket with
  | none => (db, .error ticketInvalido)
  | some token =>
      if token.expiresAt ≤ agora then (db.discard token.id, .error ticketInvalido)
      else
        match db.gravarSenha token.userId (cripto.hash password) agora with
        | .ok depois => (depois, .ok ())
        | .error e => (db, .error e)

end Acesso

/-! ### Runs -/

/-- The three stages, each with its instant and what was drawn for it. -/
inductive AcaoDeSenha where
  | requestReset (document codigo : String) (agora : Instant)
  | verifyCode (document code ticket : String) (agora : Instant)
  | resetPassword (ticket password : String) (agora : Instant)
deriving Repr, DecidableEq

def Acesso.stepDeSenha (cripto : Cripto) (db : Acesso) : AcaoDeSenha → Acesso
  | .requestReset document codigo agora => db.requestReset cripto document codigo agora
  | .verifyCode document code ticket agora => (db.verifyCode cripto document code ticket agora).1
  | .resetPassword ticket password agora => (db.resetPassword cripto ticket password agora).1

end IccvBackend
