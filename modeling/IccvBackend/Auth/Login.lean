/-
Module: IccvBackend.Auth.Login
Purpose: `auth/protecao-de-login.ts` and `validateUser` of `auth/auth.service.ts`: signing in with a
  password, and the brake on wrong ones.
Trusted boundary: human-reviewed spec
Main exports: janelaMs, situacaoDoLogin, Acesso.situacao, Acesso.validateUser, AcaoDeLogin,
  RegistroDeLogin
-/
import IccvBackend.Auth.Google

namespace IccvBackend

open Lib

/-! ### `protecao-de-login.ts` -/

/-- `FALHAS_PARA_CAPTCHA`. -/
def falhasParaCaptcha : Nat := 2

/-- `FALHAS_PARA_BLOQUEIO`. -/
def falhasParaBloqueio : Nat := 5

/-- `JANELA_MS`. -/
def janelaMs : Nat := 15 * 60 * 1000

structure SituacaoDoLogin where
  bloqueadoAte : Option Instant
  exigeCaptcha : Bool
deriving Repr, DecidableEq

/-- The failures less than a window before an instant, or after it. -/
def naJanela (falhas : List Instant) (instante : Instant) : Nat :=
  (falhas.filter fun falha => instante < falha + janelaMs).length

/-- `situacaoDoLogin`: the failures come from the newest to the oldest, and the block is measured
from the newest. -/
def situacaoDoLogin (falhas : List Instant) (agora : Instant) : SituacaoDoLogin :=
  let bloqueio :=
    match falhas with
    | [] => none
    | ultima :: _ =>
        let fimDoBloqueio := ultima + janelaMs
        if falhasParaBloqueio ≤ naJanela falhas ultima ∧ agora < fimDoBloqueio then
          some fimDoBloqueio
        else none
  match bloqueio with
  | some fimDoBloqueio => ⟨some fimDoBloqueio, true⟩
  | none => ⟨none, falhasParaCaptcha ≤ naJanela falhas agora⟩

/-! ### `auth.service.ts` -/

/-- `minutosAte`. -/
def minutosAte (data agora : Instant) : String :=
  let minutos := max 1 ((data - agora + 59_999) / 60_000)
  toString minutos ++ " " ++ if minutos = 1 then "minuto" else "minutos"

/-- A refusal, with what its body says of the block and of the captcha. -/
structure RecusaDeLogin where
  falha : Failure
  bloqueadoAte : Option Instant
  captchaRequired : Bool
deriving Repr, DecidableEq

/-- `loginBloqueado`. -/
def loginBloqueado (ate : Instant) (mensagem : String) : RecusaDeLogin :=
  ⟨tooManyRequests mensagem, some ate, false⟩

/-- The person who signed in, without the password. -/
structure UsuarioDoLogin where
  id : Id
  role : Int
deriving Repr, DecidableEq

/-- How far an attempt goes before the password: to a refusal, to nobody, or to the comparison, with
the failures that count. -/
inductive AntesDaSenha where
  | recusa (recusa : RecusaDeLogin)
  | ninguem
  | comparar (user : Pessoa) (falhas : Nat)

namespace Acesso

variable (db : Acesso)

/-- The last success of a document since an instant. -/
def ultimoAcerto (document : String) (desde : Instant) : Option LoginAttempt :=
  firstMax LoginAttempt.createdAt
    (db.tentativas.filter fun t => t.document = document && t.success && desde ≤ t.createdAt)

/-- From when on the failures of a document count. -/
def marco (document : String) (agora : Instant) : Instant :=
  let desde := agora - 2 * janelaMs
  let trocada := (db.findByDocument document).bind fun p => db.passwordChangedAt p.id
  max desde (max (((db.ultimoAcerto document desde).map LoginAttempt.createdAt).getD 0)
    (trocada.getD 0))

/-- The instants of the wrong passwords that count, the newest first. -/
def datasDasFalhas (document : String) (agora : Instant) : List Instant :=
  ((db.tentativas.filter fun t =>
      t.document = document && t.reason = some .wrongPassword &&
        db.marco document agora < t.createdAt).map LoginAttempt.createdAt).insertionSort (· ≥ ·)

/-- `situacao`: of the brake, and the failures of the current window. -/
def situacao (document : String) (agora : Instant) : SituacaoDoLogin × Nat :=
  let datas := db.datasDasFalhas document agora
  (situacaoDoLogin datas agora, naJanela datas agora)

/-- `validateUser`, up to the comparison.  `captcha` is whether the captcha was passed. -/
def antesDaSenha (document : String) (captcha : Bool) (agora : Instant) : AntesDaSenha :=
  let (situacao, falhas) := db.situacao document agora
  match situacao.bloqueadoAte with
  | some ate =>
      .recusa (loginBloqueado ate
        ("Muitas tentativas de login com senha errada. Tente novamente em " ++
          minutosAte ate agora ++ "."))
  | none =>
      if situacao.exigeCaptcha && !captcha then
        .recusa ⟨unauthorized "Confirme que você não é um robô para continuar.", none, true⟩
      else
        match db.findByDocument document with
        | none => .ninguem
        | some user => .comparar user falhas

/-- The answer to a wrong password: the failure of now counts. -/
def respostaDoErro (falhas : Nat) (agora : Instant) : RecusaDeLogin :=
  if falhasParaBloqueio ≤ falhas then
    loginBloqueado (agora + janelaMs)
      ("Você errou a senha " ++ toString falhas ++
        " vezes. Por segurança, o login foi bloqueado por " ++
        toString (janelaMs / 60000) ++ " minutos.")
  else ⟨unauthorized "Credenciais inválidas", none, falhasParaCaptcha ≤ falhas⟩

/-- An attempt with a password. -/
def tentativaComSenha (document : String) (userId : Option Id) (success : Bool)
    (reason : Option LoginFailureReason) (agora : Instant) : Acesso :=
  db.registrarTentativa ⟨document, userId, success, reason, .password, agora⟩

/-- `validateUser`: what it leaves, and its answer. -/
def validateUser (compara : String → String → Bool) (document password : String) (captcha : Bool)
    (agora : Instant) : Acesso × Except RecusaDeLogin UsuarioDoLogin :=
  match db.antesDaSenha document captcha agora with
  | .recusa recusa => (db, .error recusa)
  | .ninguem =>
      (db.tentativaComSenha document none false (some .userNotFound) agora,
        .error ⟨notFound "Usuário não encontrado", none, false⟩)
  | .comparar user falhas =>
      if compara password user.password then
        if user.id ∈ db.painel.bloqueios then
          (db.tentativaComSenha document (some user.id) false (some .blocked) agora,
            .error ⟨forbidden "Sua conta está bloqueada. Fale com a organização.", none, false⟩)
        else
          (db.tentativaComSenha document (some user.id) true none agora,
            .ok ⟨user.id, perfilEfetivo (db.painel.tenant? user.id)⟩)
      else
        (db.tentativaComSenha document (some user.id) false (some .wrongPassword) agora,
          .error (respostaDoErro (falhas + 1) agora))

end Acesso

/-! ### Runs

The attempts on one document, with the captcha passed, and the changes of the password behind it. -/

inductive AcaoDeLogin where
  | tentar (password : String) (agora : Instant)
  | trocarSenha (senha : String) (agora : Instant)
deriving Repr, DecidableEq

def AcaoDeLogin.instante : AcaoDeLogin → Instant
  | .tentar _ agora => agora
  | .trocarSenha _ agora => agora

def Acesso.stepDoLogin (cripto : Cripto) (document : String) (userId : Id) (db : Acesso) :
    AcaoDeLogin → Acesso
  | .tentar password agora => (db.validateUser cripto.compara document password true agora).1
  | .trocarSenha senha agora =>
      match db.trocarSenha userId (cripto.hash senha) agora with
      | .ok depois => depois
      | .error _ => db

/-- What is remembered of a run: the instant of its last action; the instant of the last success or
change of the password; the wrong passwords compared since then, the newest first; the blocks
announced since the last change; and, when the last action was a wrong password, what it
announced. -/
structure RegistroDeLogin where
  relogio : Instant
  marco : Instant
  erradas : List Instant
  anunciados : List Instant
  anterior : Option (Option Instant)
deriving Repr, DecidableEq

/-- The block an answer announces. -/
def anuncio (resposta : Except RecusaDeLogin UsuarioDoLogin) : Option Instant :=
  match resposta with
  | .ok _ => none
  | .error recusa => recusa.bloqueadoAte

def RegistroDeLogin.registrar (cripto : Cripto) (document : String) (r : RegistroDeLogin)
    (db : Acesso) (acao : AcaoDeLogin) (_ : Acesso) : RegistroDeLogin :=
  match acao with
  | .trocarSenha _ agora => ⟨agora, agora, [], [], none⟩
  | .tentar password agora =>
      let anunciado := anuncio (db.validateUser cripto.compara document password true agora).2
      let anunciados := anunciado.toList ++ r.anunciados
      match db.antesDaSenha document true agora with
      | .comparar user _ =>
          if cripto.compara password user.password then ⟨agora, agora, [], anunciados, none⟩
          else ⟨agora, r.marco, agora :: r.erradas, anunciados, some anunciado⟩
      | _ => { r with relogio := agora, anunciados := anunciados, anterior := none }

end IccvBackend
