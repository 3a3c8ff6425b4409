/-
Module: IccvBackend.Crypto.SecretCrypto
Purpose: The envelope of a sealed secret and the keys of the server (`secret-crypto.service.ts`).
Trusted boundary: human-reviewed spec; the cipher and the numbers of the language are parameters
Main exports: Numeros, Aead, SecretCryptoService, SecretCryptoService.novo,
  SecretCryptoService.cifrar, SecretCryptoService.decifrar
-/
import IccvBackend.Lib.Base64
import IccvBackend.Lib.Fallible
import IccvBackend.Lib.JsonText
import IccvBackend.Lib.Table
import IccvBackend.Lib.Text
import IccvBackend.Prisma.Schema
import Mathlib.Data.Set.Insert

namespace IccvBackend

open Lib

/-! ### The language -/

/-- The values of `Number`: `Number(text)`, `String(n)`, and `Number.isInteger(n) && n > 0`.  An
integer is read back from its text. -/
structure Numeros (N : Type) where
  number : List Char → N
  texto : N → List Char
  inteiroPositivo : N → Bool
  um : N
  um_positivo : inteiroPositivo um = true
  number_texto : ∀ n, inteiroPositivo n = true → number (texto n) = n

def bytesDe (texto : String) : List UInt8 := texto.toUTF8.data.toList

/-- `toString('utf8')`; `invalido` is what it makes of bytes that are no text. -/
def textoDe (invalido : List UInt8 → String) (bytes : List UInt8) : String :=
  (String.fromUTF8? (ByteArray.mk bytes.toArray)).getD (invalido bytes)

/-! ### Keys -/

/-- `TAMANHO_CHAVE`. -/
def tamanhoChave : Nat := 32

abbrev ChaveDoCofre : Type := { bytes : List UInt8 // bytes.length = tamanhoChave }

def ChaveDoCofre.de (bytes : List UInt8) : Option ChaveDoCofre :=
  if certa : bytes.length = tamanhoChave then some ⟨bytes, certa⟩ else none

/-- `/^[0-9a-fA-F]{64}$/`. -/
def ehHex (limpo : List Char) : Bool :=
  limpo.length = 64 && limpo.all fun c => (JsonValue.hexValue c).isSome

/-- `Buffer.from(limpo, 'hex')`. -/
def bytesDeHex : List Char → List UInt8
  | a :: b :: resto =>
      match JsonValue.hexValue a, JsonValue.hexValue b with
      | some alto, some baixo => UInt8.ofNat (16 * alto + baixo) :: bytesDeHex resto
      | _, _ => []
  | _ => []

/-- `decodificar`: hexadecimal or base64 of 32 bytes exactly. -/
def decodificar (valor : List Char) : Option ChaveDoCofre :=
  let limpo := trimChars valor
  if limpo = [] then none
  else
    (ChaveDoCofre.de (if ehHex limpo then bytesDeHex limpo else [])).or
      (ChaveDoCofre.de (Base64.decode limpo))

/-! ### The cipher -/

/-- AES-256-GCM: from the key, the nonce, the authenticated data and a plain text, the tag and the
cipher text; and the plain text back, when the tag agrees. -/
structure Aead where
  sela : ChaveDoCofre → List UInt8 → List UInt8 → List UInt8 → List UInt8 × List UInt8
  abre : ChaveDoCofre → List UInt8 → List UInt8 → List UInt8 × List UInt8 → Option (List UInt8)

/-- A use of the cipher. -/
structure Uso where
  chave : ChaveDoCofre
  iv : List UInt8
  contexto : List UInt8
  claro : List UInt8

/-- An ideal cipher opens what was sealed, with the same key, nonce and data, and nothing else. -/
def Aead.Ideal (aead : Aead) (usos : Set Uso) : Prop :=
  ∀ chave iv contexto selado claro, aead.abre chave iv contexto selado = some claro ↔
    ⟨chave, iv, contexto, claro⟩ ∈ usos ∧ aead.sela chave iv contexto claro = selado

/-! ### The service -/

structure SecretCryptoService (N : Type) where
  /-- the keys by version, the last one set first -/
  chaves : List (N × ChaveDoCofre)
  versaoAtiva : N

/-- `process.env`, in its order. -/
abbrev AmbienteDoCofre : Type := List (String × String)

def AmbienteDoCofre.get (env : AmbienteDoCofre) (nome : String) : Option String :=
  (lookup Prod.fst nome env).map Prod.snd

def prefixoDaChave : List Char := "PAYMENT_CREDENTIALS_KEY_V".toList

/-- `/^PAYMENT_CREDENTIALS_KEY_V(\d+)$/`. -/
def versaoNoNome (nome : String) : Option (List Char) :=
  if prefixoDaChave.isPrefixOf nome.toList then
    let digitos := nome.toList.drop prefixoDaChave.length
    if digitos ≠ [] ∧ digitos.all Char.isDigit then some digitos else none
  else none

namespace SecretCryptoService

variable {N : Type} [DecidableEq N] (numeros : Numeros N)

def lerVersaoAtiva (env : AmbienteDoCofre) : N :=
  match env.get "PAYMENT_CREDENTIALS_KEY_VERSION" with
  | some texto =>
      if numeros.inteiroPositivo (numeros.number texto.toList) then numeros.number texto.toList
      else numeros.um
  | none => numeros.um

/-- The active key, and then every numbered one, which takes its place when it has its version. -/
def carregarChaves (env : AmbienteDoCofre) : List (N × ChaveDoCofre) :=
  let ativa := ((env.get "PAYMENT_CREDENTIALS_KEY").bind fun valor => decodificar valor.toList).map
    fun chave => (lerVersaoAtiva numeros env, chave)
  env.foldl
    (fun chaves (nome, valor) =>
      match versaoNoNome nome, decodificar valor.toList with
      | some versao, some chave => (numeros.number versao, chave) :: chaves
      | _, _ => chaves)
    ativa.toList

/-- The constructor. -/
def novo (env : AmbienteDoCofre) : SecretCryptoService N where
  chaves := carregarChaves numeros env
  versaoAtiva := lerVersaoAtiva numeros env

/-- `chaves.get`. -/
def chaveDaVersao (cofre : SecretCryptoService N) (versao : N) : Option ChaveDoCofre :=
  (lookup Prod.fst versao cofre.chaves).map Prod.snd

def semChave (versao : N) : Failure :=
  serviceUnavailable ("A chave de criptografia v" ++ String.ofList (numeros.texto versao) ++
    " não está configurada neste ambiente. O pagamento online fica indisponível até ela voltar.")

def chaveObrigatoria (cofre : SecretCryptoService N) (versao : N) : Except Failure ChaveDoCofre :=
  orFail (cofre.chaveDaVersao versao) (semChave numeros versao)

def formatoDesconhecido : Failure :=
  serviceUnavailable "Credencial gravada em formato desconhecido. Cadastre-a novamente."

/-- The message does not say what failed. -/
def naoAbriu : Failure :=
  serviceUnavailable
    "Não foi possível ler a credencial de cobrança desta igreja. Cadastre-a novamente."

/-- `cifrar`, with the nonce it draws. -/
def cifrar {ν : Type} (numerals : Numerals ν) (aead : Aead) (cofre : SecretCryptoService N)
    (valor : JsonValue ν) (contexto : String) (iv : List UInt8) : Except Failure (List Char) := do
  let chave ← chaveObrigatoria numeros cofre cofre.versaoAtiva
  let claro := bytesDe (String.ofList (valor.stringify numerals))
  let (etiqueta, cifrado) := aead.sela chave iv (bytesDe contexto) claro
  pure (['.'].intercalate
    ['v' :: numeros.texto cofre.versaoAtiva, Base64.encode iv, Base64.encode etiqueta,
      Base64.encode cifrado])

/-- The parts of an envelope. -/
structure Envelope (N : Type) where
  versao : N
  iv : List UInt8
  etiqueta : List UInt8
  cifrado : List UInt8

/-- The four parts of a text that starts with `v`, decoded. -/
def partes (envelope : List Char) : Option (Envelope N) :=
  match envelope.splitOn '.' with
  | [versao, iv, etiqueta, cifrado] =>
      match versao with
      | 'v' :: numero =>
          some
            { versao := numeros.number numero
              iv := Base64.decode iv
              etiqueta := Base64.decode etiqueta
              cifrado := Base64.decode cifrado }
      | _ => none
  | _ => none

/-- `decifrar`. -/
def decifrar {ν : Type} (numerals : Numerals ν) (invalido : List UInt8 → String) (aead : Aead)
    (cofre : SecretCryptoService N) (envelope : List Char) (contexto : String) :
    Except Failure (JsonValue ν) := do
  let partes ← orFail (partes numeros envelope) formatoDesconhecido
  let chave ← chaveObrigatoria numeros cofre partes.versao
  let aberto ← orFail
    (aead.abre chave partes.iv (bytesDe contexto) (partes.etiqueta, partes.cifrado)) naoAbriu
  orFail (JsonValue.parse numerals (textoDe invalido aberto).toList) naoAbriu

end SecretCryptoService

end IccvBackend
