/-
Module: IccvBackend.Auth.Google
Purpose: `auth/google.ts` and `auth/google.service.ts`: signing in with a Google account, and
  linking one to a record.
Trusted boundary: human-reviewed spec
Main exports: TokenPayload, ContaGoogle, conferirTokenDoGoogle, Acesso.entrar, Acesso.vincular,
  Acesso.confirmarVinculo, Acesso.desvincular, AcaoGoogle
-/
import IccvBackend.Auth.Accounts

namespace IccvBackend

open Lib

/-! The e-mails of notice are left out: a failure to send one is only logged.  `payload` is what
`verifyIdToken` says of a credential, and `none` when it throws. -/

/-! ### `google.ts` -/

/-- The fields of `TokenPayload` that are read. -/
structure TokenPayload where
  sub : String
  email : Option String
  name : Option String
  emailVerified : Option Bool
  hd : Option String
deriving Repr, DecidableEq

structure ContaGoogle where
  sub : String
  email : String
  nome : Option String
  emailVerificado : Bool
  googleEhAutoridade : Bool
deriving Repr, DecidableEq

/-- `normalizarEmail`. -/
def normalizarEmail (email : String) : String := toLowerCase (trim email)

/-- `conferirTokenDoGoogle`.  `clientId` is `GOOGLE_CLIENT_ID`. -/
def conferirTokenDoGoogle (clientId : String) (payload : Option TokenPayload) :
    Except Failure ContaGoogle := do
  failIf (clientId = "") (serviceUnavailable "O login com Google não está habilitado.")
  let naoConfirmada := badRequest "Não foi possível confirmar a sua conta Google. Tente de novo."
  let payload ← orFail (payload.filter fun payload => payload.sub ≠ "") naoConfirmada
  let email ← orFail (payload.email.filter fun email => email ≠ "") naoConfirmada
  let email := normalizarEmail email
  pure
    { sub := payload.sub
      email := email
      nome := (payload.name.map trim).filter fun nome => nome ≠ ""
      emailVerificado := payload.emailVerified = some true
      googleEhAutoridade := email.endsWith "@gmail.com" || payload.hd.any fun hd => hd ≠ "" }

/-! ### `google.service.ts` -/

/-- `RECUSA`. -/
def recusaDoGoogle : Failure :=
  notFound "Esta conta Google não pode ser usada para entrar. Entre com CPF e senha."

/-- `VALIDADE_DO_CODIGO_MS`. -/
def validadeDoCodigo : Nat := 15 * 60_000

/-- `REENVIO_MS`. -/
def reenvioMs : Nat := 60_000

/-- `CODIGO_INVALIDO`. -/
def codigoDoGoogleInvalido : Failure :=
  badRequest "Código expirado ou inválido. Escolha a conta Google de novo para receber outro."

/-- What the token of a session says. -/
structure Sessao where
  sub : Id
  username : String
  role : Int
deriving Repr, DecidableEq

namespace Acesso

variable (db : Acesso)

/-- The link of a Google account. -/
def daConta (subject : String) : Option UserIdentity :=
  db.identities.find? fun identity => identity.subject = subject

/-- The Google account of a person. -/
def doCadastro (userId : Id) : Option UserIdentity :=
  db.identities.find? fun identity => identity.userId = userId

/-- `findUnique` by CPF. -/
def findByDocument (document : String) : Option Pessoa :=
  if document = "" then none else db.painel.pessoas.find? fun p => p.cpf = document

/-- `criarVinculo`: the unique indexes are the last lock. -/
def criarVinculo (userId : Id) (conta : ContaEscolhida) (agora : Instant) :
    Except Failure (Acesso × UserIdentity) := do
  failIf ((db.daConta conta.subject).isSome || (db.doCadastro userId).isSome)
    (conflict "Esta conta Google acabou de ser vinculada. Tente entrar de novo.")
  let vinculo : UserIdentity :=
    ⟨db.painel.nextId, userId, conta.subject, conta.email, agora, some agora⟩
  pure ({ db with
    identities := db.identities ++ [vinculo]
    painel := { db.painel with nextId := db.painel.nextId + 1 } }, vinculo)

/-- An attempt to sign in with Google. -/
def tentativaComGoogle (conta : ContaGoogle) (userId : Option Id) (success : Bool)
    (reason : Option LoginFailureReason) (agora : Instant) : Acesso :=
  db.registrarTentativa ⟨conta.email, userId, success, reason, .google, agora⟩

/-- `recusar`, of `vincularPeloEmail`. -/
def recusar (conta : ContaGoogle) (userId : Option Id) (resposta : Failure) (agora : Instant) :
    Acesso × Except Failure UserIdentity :=
  (db.tentativaComGoogle conta userId false (some .userNotFound) agora, .error resposta)

/-- `vincularPeloEmail`: what it leaves, and the link. -/
def vincularPeloEmail (conta : ContaGoogle) (agora : Instant) :
    Acesso × Except Failure UserIdentity :=
  if !conta.emailVerificado then db.recusar conta none recusaDoGoogle agora
  else
    match (db.painel.pessoas.filter fun p => p.email = conta.email).take 2 with
    | [] =>
        db.recusar conta none
          (notFound "Você ainda não tem cadastro. Complete o seu cadastro para continuar.") agora
    | user :: outros =>
        if !conta.googleEhAutoridade then db.recusar conta none recusaDoGoogle agora
        else if !outros.isEmpty then db.recusar conta none recusaDoGoogle agora
        else if (db.doCadastro user.id).isSome then
          db.recusar conta (some user.id) recusaDoGoogle agora
        else
          match db.criarVinculo user.id ⟨conta.sub, conta.email⟩ agora with
          | .ok (depois, vinculo) => (depois, .ok vinculo)
          | .error e => (db, .error e)

/-- The person who enters: the block is asked, and the attempt recorded. -/
def abrirSessao (conta : ContaGoogle) (cpf : String) (agora : Instant) :
    Acesso × Except Failure Sessao :=
  match db.findByDocument cpf with
  | none => (db, .error (internalServerError "Internal Server Error"))
  | some user =>
      if user.id ∈ db.painel.bloqueios then
        (db.tentativaComGoogle conta (some user.id) false (some .blocked) agora,
          .error (forbidden "Sua conta está bloqueada. Fale com a organização."))
      else
        (db.tentativaComGoogle conta (some user.id) true none agora,
          .ok ⟨user.id, user.fullName, perfilEfetivo (db.painel.tenant? user.id)⟩)

/-- What `entrar` does with the link it found or made. -/
def entrarPeloVinculo (conta : ContaGoogle) (vinculo : UserIdentity) (agora : Instant) :
    Acesso × Except Failure Sessao :=
  match db.painel.pessoa? vinculo.userId with
  | none => (db, .error (internalServerError "Internal Server Error"))
  | some dono =>
      let lembrado := { db with
        identities := updateKey UserIdentity.id vinculo.id
          (fun identity => { identity with email := conta.email, lastUsedAt := some agora })
          db.identities }
      lembrado.abrirSessao conta dono.cpf agora

/-- `entrar`: what it leaves, and the session. -/
def entrar (clientId : String) (payload : Option TokenPayload) (agora : Instant) :
    Acesso × Except Failure Sessao :=
  match conferirTokenDoGoogle clientId payload with
  | .error e => (db, .error e)
  | .ok conta =>
      match db.daConta conta.sub with
      | some vinculo => db.entrarPeloVinculo conta vinculo agora
      | none =>
          match db.vincularPeloEmail conta agora with
          | (depois, .ok vinculo) => depois.entrarPeloVinculo conta vinculo agora
          | (depois, .error e) => (depois, .error e)

/-- `assertPodeVincular`. -/
def assertPodeVincular (userId : Id) (subject : String) : Except Failure Unit :=
  match db.daConta subject with
  | some daConta =>
      throw (conflict
        (if daConta.userId = userId then "Esta conta Google já está vinculada ao seu cadastro."
        else "Esta conta Google já está vinculada a outro cadastro."))
  | none =>
      failIf (db.doCadastro userId).isSome
        (conflict ("Seu cadastro já tem uma conta Google vinculada. Desvincule a atual antes de " ++
          "vincular outra."))

/-- What `vincular` asks once the password was checked. -/
def conferirVinculo (clientId : String) (userId : Id) (payload : Option TokenPayload)
    (agora : Instant) : Except Failure ContaGoogle := do
  let conta ← conferirTokenDoGoogle clientId payload
  failIf (!conta.emailVerificado)
    (badRequest "Confirme o e-mail da sua conta Google antes de vinculá-la.")
  db.assertPodeVincular userId conta.sub
  failIf ((db.tokenAtivo userId tokenTypeGoogleLink).any fun pendente =>
      agora < pendente.createdAt + reenvioMs)
    (tooManyRequests "Acabamos de enviar um código. Aguarde um minuto para pedir outro.")
  pure conta

/-- `vincular`, for the code that was drawn: what it leaves, and the Google account the code is
for. -/
def vincular (cripto : Cripto) (clientId : String) (userId : Id) (payload : Option TokenPayload)
    (senhaAtual : Option String) (codigo : String) (agora : Instant) :
    Acesso × Except Failure ContaGoogle :=
  match db.painel.pessoa? userId with
  | none => (db, .error (notFound "Usuário não encontrado"))
  | some user =>
      let (registro, resposta) := conferirSenhaAtual cripto.compara agora
        (db.painel.errosDeSenhaAtual userId) senhaAtual user.password
      let conferido := { db with
        painel := { db.painel with
          errosDeSenhaAtual := fun id =>
            if id = userId then registro else db.painel.errosDeSenhaAtual id } }
      match resposta with
      | .error e => (conferido, .error e)
      | .ok _ =>
          match conferido.conferirVinculo clientId userId payload agora with
          | .error e => (conferido, .error e)
          | .ok conta =>
              (conferido.novoToken userId tokenTypeGoogleLink (some ⟨conta.sub, conta.email⟩)
                (cripto.hash codigo) (agora + validadeDoCodigo) agora, .ok conta)

/-- `descartar`. -/
def descartarVinculo (userId : Id) : Acesso := db.apagarTokens userId tokenTypeGoogleLink

/-- A wrong code is counted, and the fifth one destroys the codes of the person. -/
def contarErroDoVinculo (userId : Id) (token : UserToken) : Except Failure Acesso :=
  let attempts := token.attempts + 1
  if maxCodeAttempts ≤ attempts then pure (db.descartarVinculo userId)
  else db.gravarToken token.id (comErros attempts)

/-- `confirmarVinculo`: what it leaves, and the link. -/
def confirmarVinculo (cripto : Cripto) (userId : Id) (codigo : String) (agora : Instant) :
    Acesso × Except Failure UserIdentity :=
  match db.tokenAtivo userId tokenTypeGoogleLink with
  | none => (db, .error codigoDoGoogleInvalido)
  | some token =>
      if token.morto agora then (db.descartarVinculo userId, .error codigoDoGoogleInvalido)
      else if !cripto.compara codigo token.codeHash then
        match db.contarErroDoVinculo userId token with
        | .ok depois => (depois, .error (badRequest "Código incorreto."))
        | .error e => (db, .error e)
      else
        let vinculado := do
          let conta ← orFail token.payload (internalServerError "Internal Server Error")
          db.assertPodeVincular userId conta.subject
          db.criarVinculo userId conta agora
        match vinculado with
        | .ok (depois, vinculo) => (depois.descartarVinculo userId, .ok vinculo)
        | .error e => (db, .error e)

/-- `desvincular`. -/
def desvincular (userId : Id) : Except Failure Acesso := do
  let vinculo ← orFail (db.doCadastro userId) (notFound "Nenhuma conta Google vinculada.")
  pure { db with identities := deleteKey UserIdentity.id vinculo.id db.identities }

end Acesso

/-! ### Runs -/

/-- The calls about Google accounts, and what may happen between them: a new password, and any
operation on the records and the churches. -/
inductive AcaoGoogle where
  | entrar (payload : Option TokenPayload) (agora : Instant)
  | vincular (userId : Id) (payload : Option TokenPayload) (senhaAtual : Option String)
      (codigo : String) (agora : Instant)
  | confirmarVinculo (userId : Id) (codigo : String) (agora : Instant)
  | desvincular (userId : Id)
  | trocarSenha (userId : Id) (senha : String) (agora : Instant)
  | noPainel (acao : Painel.Acao)

def Acesso.stepGoogle (cripto : Cripto) (clientId : String) (db : Acesso) : AcaoGoogle → Acesso
  | .entrar payload agora => (db.entrar clientId payload agora).1
  | .vincular userId payload senhaAtual codigo agora =>
      (db.vincular cripto clientId userId payload senhaAtual codigo agora).1
  | .confirmarVinculo userId codigo agora => (db.confirmarVinculo cripto userId codigo agora).1
  | .desvincular userId =>
      match db.desvincular userId with
      | .ok depois => depois
      | .error _ => db
  | .trocarSenha userId senha agora =>
      match db.trocarSenha userId (cripto.hash senha) agora with
      | .ok depois => depois
      | .error _ => db
  | .noPainel acao => { db with painel := db.painel.agir cripto.toBcrypt acao }

end IccvBackend
