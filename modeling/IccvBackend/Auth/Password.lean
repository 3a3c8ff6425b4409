/-
Module: IccvBackend.Auth.Password
Purpose: `auth/senha.ts`: the current password of a person, asked before a sensitive action.
Trusted boundary: human-reviewed spec
Main exports: errosTolerados, travaMs, conferirSenhaAtual
-/
import IccvBackend.Auth.Tenant

namespace IccvBackend

/-! `compara` is `bcrypt.compare`: whether a text is the password of a hash. -/

/-- `ERROS_TOLERADOS`. -/
def errosTolerados : Nat := 5

/-- `TRAVA_MS`. -/
def travaMs : Nat := 15 * 60_000

/-- `conferirSenhaAtual`: what it remembers of the account, and its answer. -/
def conferirSenhaAtual (compara : String → String → Bool) (agora : Instant)
    (registro : Option ErrosDeSenha) (senha : Option String) (hash : String) :
    Option ErrosDeSenha × Except Failure Unit :=
  if (registro.bind ErrosDeSenha.travadoAte).any fun travadoAte => agora < travadoAte then
    (registro, .error (tooManyRequests
      "Muitas tentativas com a senha atual errada. Tente de novo em alguns minutos."))
  else if senha.any fun senha => senha ≠ "" && compara senha hash then (none, .ok ())
  else
    -- a lock that is over starts the count again
    let anteriores := match registro with
      | none => 0
      | some registro => if registro.travadoAte.isSome then 0 else registro.quantos
    let quantos := anteriores + 1
    (some ⟨quantos, if errosTolerados ≤ quantos then some (agora + travaMs) else none⟩,
      .error (badRequest "Senha atual incorreta"))

end IccvBackend
