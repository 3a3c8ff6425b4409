/-
Module: IccvBackend.Auth.Accounts
Purpose: The rows behind the doors of an account: codes and tickets, Google accounts, attempts to
  sign in; and the primitives that several services share.
Trusted boundary: human-reviewed spec
Main exports: UserToken, UserIdentity, LoginAttempt, Acesso, Acesso.tokenAtivo, Acesso.apagarTokens,
  Acesso.novoToken, Acesso.gravarToken, Acesso.trocarSenha
-/
import IccvBackend.Auth.Panel
import IccvBackend.Lib.FirstMax

namespace IccvBackend

open Lib

/-! ### Rows -/

/-- The Google account that a link code is for (`UserToken.payload`). -/
structure ContaEscolhida where
  subject : String
  email : String
deriving Repr, DecidableEq

structure UserToken where
  id : Id
  userId : Id
  type : Nat
  payload : Option ContaEscolhida
  codeHash : String
  ticketHash : Option String
  attempts : Nat
  expiresAt : Instant
  createdAt : Instant
deriving Repr, DecidableEq

/-- A Google account of a person: `GOOGLE` is the only provider. -/
structure UserIdentity where
  id : Id
  userId : Id
  subject : String
  email : String
  createdAt : Instant
  lastUsedAt : Option Instant
deriving Repr, DecidableEq

inductive LoginFailureReason where
  | userNotFound
  | wrongPassword
  | blocked
deriving Repr, DecidableEq

inductive LoginMethod where
  | password
  | google
deriving Repr, DecidableEq

/-- From where an attempt came is left out. -/
structure LoginAttempt where
  document : String
  userId : Option Id
  success : Bool
  reason : Option LoginFailureReason
  method : LoginMethod
  createdAt : Instant
deriving Repr, DecidableEq

/-- The tables of the doors, over those of the panel.  `passwordChangedAt` is the column of
`users`. -/
structure Acesso where
  painel : Painel
  passwordChangedAt : Id → Option Instant
  tokens : List UserToken
  identities : List UserIdentity
  tentativas : List LoginAttempt

/-- What hashes and compares.  `sha256` is the digest of a ticket. -/
structure Cripto extends Bcrypt where
  sha256 : String → String

/-! ### Constants -/

/-- `TOKEN_TYPE_PASSWORD_RESET`. -/
def tokenTypePasswordReset : Nat := 0

/-- `TOKEN_TYPE_GOOGLE_LINK`. -/
def tokenTypeGoogleLink : Nat := 1

/-- `MAX_CODE_ATTEMPTS` and `MAXIMO_DE_ERROS`. -/
def maxCodeAttempts : Nat := 5

/-! ### Codes -/

/-- A code is not compared after its validity, nor after its last attempt. -/
def UserToken.morto (token : UserToken) (agora : Instant) : Bool :=
  token.expiresAt ≤ agora || maxCodeAttempts ≤ token.attempts

namespace Acesso

variable (db : Acesso)

/-- The query of the code in force: the newest of the person and the type. -/
def tokenAtivo (userId : Id) (type : Nat) : Option UserToken :=
  firstMax UserToken.createdAt
    (db.tokens.filter fun token => token.userId = userId && token.type = type)

/-- `deleteMany` of the person and the type. -/
def apagarTokens (userId : Id) (type : Nat) : Acesso :=
  { db with tokens := db.tokens.filter fun token => !(token.userId = userId && token.type = type) }

/-- `discard`: a row that is gone already is no error. -/
def discard (id : Id) : Acesso :=
  { db with tokens := deleteKey UserToken.id id db.tokens }

/-- A new code takes the place of those there were. -/
def novoToken (userId : Id) (type : Nat) (payload : Option ContaEscolhida) (codeHash : String)
    (expiresAt agora : Instant) : Acesso :=
  let limpo := db.apagarTokens userId type
  { limpo with
    tokens := limpo.tokens ++ [{
      id := db.painel.nextId
      userId := userId
      type := type
      payload := payload
      codeHash := codeHash
      ticketHash := none
      attempts := 0
      expiresAt := expiresAt
      createdAt := agora }]
    painel := { db.painel with nextId := db.painel.nextId + 1 } }

/-- `update` of a code: an exception when the row is gone. -/
def gravarToken (id : Id) (f : UserToken → UserToken) : Except Failure Acesso := do
  let _ ← orFail (lookup UserToken.id id db.tokens) (internalServerError "P2025")
  pure { db with tokens := updateKey UserToken.id id f db.tokens }

/-- The count of wrong codes. -/
def comErros (attempts : Nat) (row : UserToken) : UserToken := { row with attempts := attempts }

/-- The new password of a person. -/
def trocarSenha (userId : Id) (senha : String) (agora : Instant) : Except Failure Acesso := do
  let _ ← orFail (db.painel.pessoa? userId) (internalServerError "P2025")
  pure { db with
    painel := { db.painel with
      pessoas := updateKey Pessoa.id userId (fun p => { p with password := senha })
        db.painel.pessoas }
    passwordChangedAt := fun id => if id = userId then some agora else db.passwordChangedAt id }

/-- `registrarTentativa`: the row is saved. -/
def registrarTentativa (tentativa : LoginAttempt) : Acesso :=
  { db with tentativas := db.tentativas ++ [tentativa] }

end Acesso

end IccvBackend
