/-
Module: IccvBackend.PaymentProviders.Service
Purpose: The payment houses a church has configured (`payment-provider.service.ts`): saving,
  default, rotation of the notification secret and removal.
Trusted boundary: human-reviewed spec
Main exports: CofreDeSegredos, CasaGravada, CasasDePagamento, CasasDePagamento.salvar,
  CasasDePagamento.porSegredoDeWebhook, CasasDePagamento.step
-/
import IccvBackend.Auth.Tenant
import IccvBackend.Gateways.Registry
import IccvBackend.Lib.Fallible
import IccvBackend.Lib.Table

namespace IccvBackend

open Lib

/-! ### The sealed credentials -/

/-- `SecretCryptoService` with the keys of the server.  `cifrar` takes its initialisation vector,
and the secrets it draws are data of the run. -/
structure CofreDeSegredos where
  disponivel : Bool
  cifrar : Json → String → Nat → String
  decifrar : String → String → Except Failure Json
  hashDeWebhook : String → String

/-- What is sealed opens with the context it was sealed with. -/
def CofreDeSegredos.Abre (cofre : CofreDeSegredos) : Prop :=
  ∀ valor contexto iv, cofre.decifrar (cofre.cifrar valor contexto iv) contexto = .ok valor

/-- Different secrets have different hashes. -/
def CofreDeSegredos.SemColisao (cofre : CofreDeSegredos) : Prop :=
  Function.Injective cofre.hashDeWebhook

/-- What `gerarSegredoDeWebhook` may draw: 32 bytes in base64url. -/
def SegredoSorteado : Type := { segredo : String // segredo.length = 43 }
deriving DecidableEq

/-- `CHAVE_DO_WEBHOOK`. -/
def chaveDoWebhook : String := "__webhook"

def contextoDoSelo (churchId : Id) (provider : PaymentProvider) : String :=
  s!"payment-credentials:{churchId}:{provider.name}"

/-! ### Rows and forms -/

inductive PaymentProviderMode where
  | sandbox
  | production
deriving Repr, DecidableEq

/-- A row of `payment_provider_configs`. -/
structure CasaGravada where
  id : Id
  churchId : Id
  provider : PaymentProvider
  mode : PaymentProviderMode
  enabled : Bool
  isDefault : Bool
  credentials : String
  webhookSecretHash : String
deriving Repr, DecidableEq

/-- The unique key. -/
def CasaGravada.chave (c : CasaGravada) : Id × PaymentProvider := (c.churchId, c.provider)

structure CredentialField where
  key : String
  label : String
  required : Bool
  secret : Bool
  allowedHostSuffixes : Option (List String)
deriving Repr, DecidableEq

/-- The fields each adapter declares. -/
def PaymentProvider.fields : PaymentProvider → List CredentialField
  | .pagbank =>
      [⟨"token", "Token da API", true, true, none⟩,
        ⟨"baseUrl", "URL da API (opcional)", false, false,
          some ["pagseguro.com", "pagbank.com.br"]⟩]
  | .mercadoPago =>
      [⟨"accessToken", "Access token", true, true, none⟩,
        ⟨"webhookSecret", "Assinatura secreta do webhook", true, true, none⟩]
  | .infinitepay => [⟨"handle", "InfiniteTag", true, false, none⟩]
  | .ton =>
      [⟨"secretKey", "Chave secreta", true, true, none⟩,
        ⟨"webhookSecret", "Assinatura do webhook (recomendado)", false, true, none⟩,
        ⟨"maxInstallments", "Parcelas no cartão", false, false, none⟩,
        ⟨"baseUrl", "URL da API (opcional)", false, false,
          some ["pagar.me", "stone.com.br", "ton.com.br"]⟩]

/-- A value of the form, which is any JSON. -/
inductive ValorEnviado where
  | texto (valor : String)
  | nulo
  | outro
deriving Repr, DecidableEq

structure UpsertPaymentProviderDto where
  mode : Option PaymentProviderMode
  enabled : Option Bool
  makeDefault : Option Bool
  credentials : List (String × ValorEnviado)
deriving Repr, DecidableEq

/-- `trim`, and `new URL` as protocol and host. -/
structure TextosDoFormulario where
  trim : String → String
  url : String → Option (String × String)

/-- `TAMANHO_MAXIMO`. -/
def tamanhoMaximo : Nat := 2000

/-- `length`, in UTF-16 units. -/
def comprimento (s : String) : Nat :=
  (s.toList.map fun c => if c.toNat < 0x10000 then 1 else 2).sum

/-! ### `validarCampos` -/

section Validacao

variable (textos : TextosDoFormulario)

def validarUrl (campo : CredentialField) (sufixos : List String) (valor : String) :
    Except Failure Unit :=
  match textos.url valor with
  | none => throw (badRequest (campo.label ++ " não é uma URL válida"))
  | some (protocolo, hostname) => do
      failIf (protocolo ≠ "https:") (badRequest (campo.label ++ " precisa começar com https"))
      let host := toLowerCase hostname
      failIf (¬ sufixos.any fun sufixo => host = sufixo || host.endsWith ("." ++ sufixo))
        (badRequest (campo.label ++ " precisa ser um endereço de " ++ " ou ".intercalate sufixos))

/-- The text of a field, trimmed: nothing when it was not sent. -/
def valorDoCampo (campo : CredentialField) (enviados : List (String × ValorEnviado)) :
    Except Failure String :=
  match enviados.lookup campo.key with
  | some (.texto bruto) => pure (textos.trim bruto)
  | some .outro => throw (badRequest (campo.label ++ " precisa ser um texto"))
  | some .nulo | none => pure ""

/-- One turn of the loop: the value the field keeps, if any. -/
def validarCampo (campo : CredentialField) (enviados : List (String × ValorEnviado))
    (atuais : Json) : Except Failure (Option String) := do
  let valor ← valorDoCampo textos campo enviados
  let atual := (atuais.lookup campo.key).getD ""
  if valor = "" && campo.secret && atual ≠ "" then
    -- a blank secret was not touched
    return some atual
  if valor = "" then
    failIf (campo.required = true) (badRequest (campo.label ++ " é obrigatório"))
    return none
  failIf (tamanhoMaximo < comprimento valor) (badRequest (campo.label ++ " é longo demais"))
  match campo.allowedHostSuffixes with
  | some sufixos => validarUrl textos campo sufixos valor
  | none => pure ()
  return some valor

def validarCadaCampo (enviados : List (String × ValorEnviado)) (atuais : Json) :
    List CredentialField → Except Failure Json
  | [] => pure []
  | campo :: campos => do
      let valor ← validarCampo textos campo enviados atuais
      let outros ← validarCadaCampo enviados atuais campos
      return (valor.map fun valor => (campo.key, valor)).toList ++ outros

def validarCampos (campos : List CredentialField) (enviados : List (String × ValorEnviado))
    (atuais : Json) : Except Failure Json := do
  let intrusos := (enviados.map Prod.fst).filter fun chave =>
    !(campos.map CredentialField.key).contains chave
  failIf (intrusos ≠ []) (badRequest
    ("Campos não reconhecidos por esta integração: " ++ ", ".intercalate intrusos))
  validarCadaCampo textos enviados atuais campos

end Validacao

/-! ### The table -/

/-- The configurations, the configuration of each active checkout, and the role of each person. -/
structure CasasDePagamento where
  configs : List CasaGravada
  ativos : List Id
  perfis : Id → Option Int
  nextId : Id

/-- What a save or a rotation has computed from its read and is about to write. -/
structure DadosDaCasa where
  mode : PaymentProviderMode
  enabled : Bool
  credentials : String
  webhookSecretHash : String
deriving Repr, DecidableEq

namespace CasasDePagamento

variable (cofre : CofreDeSegredos) (textos : TextosDoFormulario) (db : CasasDePagamento)

/-- `buscar`. -/
def buscar (churchId : Id) (provider : PaymentProvider) : Option CasaGravada :=
  lookup CasaGravada.chave (churchId, provider) db.configs

def exigir (churchId : Id) (provider : PaymentProvider) : Except Failure CasaGravada :=
  orFail (db.buscar churchId provider) (notFound "Integração não configurada nesta igreja")

def exigirCofre : Except Failure Unit :=
  failIf (cofre.disponivel = false)
    (serviceUnavailable ("A chave de criptografia de credenciais não está configurada neste " ++
      "ambiente (PAYMENT_CREDENTIALS_KEY). Fale com o suporte técnico."))

def exigirDevParaSandbox (mode : Option PaymentProviderMode) (actorId : Option Id) :
    Except Failure Unit :=
  failIf (mode = some .sandbox ∧ actorId.bind db.perfis ≠ some Role.dev)
    (forbidden "Só o perfil dev pode colocar uma integração em sandbox")

def abrirCofre (config : CasaGravada) : Except Failure Json :=
  cofre.decifrar config.credentials (contextoDoSelo config.churchId config.provider)

/-- What `salvar` computes from the configuration it has read. -/
def prepararSalvar (churchId : Id) (provider : PaymentProvider) (dto : UpsertPaymentProviderDto)
    (existente : Option CasaGravada) (sorteado : SegredoSorteado) (iv : Nat) :
    Except Failure DadosDaCasa := do
  let atuais ← (match existente with
    | some config => abrirCofre cofre config
    | none => pure [])
  let credenciais ← validarCampos textos provider.fields dto.credentials atuais
  let guardado := (atuais.lookup chaveDoWebhook).getD ""
  let segredo := if guardado = "" then sorteado.val else guardado
  return { mode := (dto.mode.or (existente.map CasaGravada.mode)).getD .production
           enabled := (dto.enabled.or (existente.map CasaGravada.enabled)).getD false
           credentials := cofre.cifrar (credenciais ++ [(chaveDoWebhook, segredo)])
             (contextoDoSelo churchId provider) iv
           webhookSecretHash := cofre.hashDeWebhook segredo }

/-- `webhookSecretHash` is unique: no other row may have it. -/
def hashLivre (churchId : Id) (provider : PaymentProvider) (hash : String) : Bool :=
  !db.configs.any fun c => c.webhookSecretHash = hash && c.chave ≠ (churchId, provider)

/-- The unique key of the hash breaks. -/
def erroDoBanco : Failure := internalServerError "Internal server error"

/-- The columns a save writes. -/
def escrever (dados : DadosDaCasa) (c : CasaGravada) : CasaGravada :=
  { c with
    mode := dados.mode
    enabled := dados.enabled
    credentials := dados.credentials
    webhookSecretHash := dados.webhookSecretHash }

def upsert (churchId : Id) (provider : PaymentProvider) (dados : DadosDaCasa) :
    Except Failure CasasDePagamento := do
  failIf (db.hashLivre churchId provider dados.webhookSecretHash = false) erroDoBanco
  match db.buscar churchId provider with
  | some _ =>
      return { db with
        configs := updateKey CasaGravada.chave (churchId, provider) (escrever dados) db.configs }
  | none =>
      return { db with
        configs := db.configs ++ [escrever dados
          { id := db.nextId, churchId := churchId, provider := provider, mode := .production,
            enabled := false, isDefault := false, credentials := "", webhookSecretHash := "" }]
        nextId := db.nextId + 1 }

/-- `ajustarPadrao`: the others of the church leave the default when this one takes it. -/
def ajustarPadrao (churchId : Id) (provider : PaymentProvider)
    (viraPadrao : Bool) : CasasDePagamento :=
  { db with
    configs := db.configs.map fun c =>
      if c.churchId ≠ churchId then c
      else if c.provider = provider then { c with isDefault := viraPadrao }
      else if viraPadrao then { c with isDefault := false }
      else c }

/-- The transaction of `salvar`. -/
def gravarSalvar (churchId : Id) (provider : PaymentProvider) (makeDefault : Option Bool)
    (dados : DadosDaCasa) : Except Failure CasasDePagamento := do
  let salvo ← db.upsert churchId provider dados
  let eraPadrao := (salvo.buscar churchId provider).any CasaGravada.isDefault
  let viraPadrao := makeDefault.getD (eraPadrao && dados.enabled)
  return salvo.ajustarPadrao churchId provider (viraPadrao && dados.enabled)

def salvar (churchId : Id) (provider : PaymentProvider) (dto : UpsertPaymentProviderDto)
    (actorId : Option Id) (sorteado : SegredoSorteado)
    (iv : Nat) : Except Failure CasasDePagamento := do
  exigirCofre cofre
  db.exigirDevParaSandbox dto.mode actorId
  let dados ← prepararSalvar cofre textos churchId provider dto (db.buscar churchId provider)
    sorteado iv
  db.gravarSalvar churchId provider dto.makeDefault dados

def definirPadrao (churchId : Id)
    (provider : PaymentProvider) : Except Failure CasasDePagamento := do
  let config ← db.exigir churchId provider
  failIf (config.enabled = false)
    (badRequest "Ligue a integração antes de torná-la a forma de pagamento padrão.")
  return db.ajustarPadrao churchId provider true

/-- The opened credentials with another secret of the notification URL. -/
def trocarSegredo (cofre : Json) (segredo : String) : Json :=
  cofre.filter (fun campo => campo.1 ≠ chaveDoWebhook) ++ [(chaveDoWebhook, segredo)]

/-- What `rotacionarSegredo` computes from the configuration it has read. -/
def prepararRotacao (churchId : Id) (provider : PaymentProvider) (config : CasaGravada)
    (sorteado : SegredoSorteado) (iv : Nat) : Except Failure DadosDaCasa := do
  let aberto ← abrirCofre cofre config
  return { mode := config.mode
           enabled := config.enabled
           credentials := cofre.cifrar (trocarSegredo aberto sorteado.val)
             (contextoDoSelo churchId provider) iv
           webhookSecretHash := cofre.hashDeWebhook sorteado.val }

/-- The update of `rotacionarSegredo`, by the id it has read: only the sealed columns. -/
def gravarRotacao (config : CasaGravada)
    (dados : DadosDaCasa) : Except Failure CasasDePagamento := do
  failIf (db.configs.all fun c => c.id ≠ config.id) erroDoBanco
  failIf (db.configs.any fun c =>
    c.webhookSecretHash = dados.webhookSecretHash && c.id ≠ config.id) erroDoBanco
  return { db with
    configs := updateKey CasaGravada.id config.id (fun c =>
      { c with credentials := dados.credentials, webhookSecretHash := dados.webhookSecretHash })
      db.configs }

def rotacionarSegredo (churchId : Id) (provider : PaymentProvider) (sorteado : SegredoSorteado)
    (iv : Nat) : Except Failure CasasDePagamento := do
  exigirCofre cofre
  let config ← db.exigir churchId provider
  let dados ← prepararRotacao cofre churchId provider config sorteado iv
  db.gravarRotacao config dados

def remover (churchId : Id) (provider : PaymentProvider) : Except Failure CasasDePagamento := do
  let config ← db.exigir churchId provider
  let emAberto := db.ativos.countP fun configId => configId = config.id
  failIf (0 < emAberto)
    (badRequest (s!"Há {emAberto} cobrança(s) em aberto nesta integração. Desligue-a e " ++
      "aguarde os links expirarem antes de remover a credencial."))
  return { db with configs := deleteKey CasaGravada.id config.id db.configs }

/-- `porSegredoDeWebhook` of the registry, up to the opening of what it finds. -/
def porSegredoDeWebhook (provider : PaymentProvider) (segredo : String) : Option CasaGravada :=
  if comprimento segredo < 16 then none
  else db.configs.find? fun c =>
    c.provider = provider && c.webhookSecretHash = cofre.hashDeWebhook segredo

/-! ### Runs -/

inductive Acao where
  | salvar (churchId : Id) (provider : PaymentProvider) (dto : UpsertPaymentProviderDto)
      (actorId : Option Id) (sorteado : SegredoSorteado) (iv : Nat)
  | definirPadrao (churchId : Id) (provider : PaymentProvider)
  | rotacionarSegredo (churchId : Id) (provider : PaymentProvider) (sorteado : SegredoSorteado)
      (iv : Nat)
  | remover (churchId : Id) (provider : PaymentProvider)
  /-- checkouts and people change elsewhere -/
  | fora (ativos : List Id) (perfis : Id → Option Int)

def executar : Acao → Except Failure CasasDePagamento
  | .salvar churchId provider dto actorId sorteado iv =>
      db.salvar cofre textos churchId provider dto actorId sorteado iv
  | .definirPadrao churchId provider => db.definirPadrao churchId provider
  | .rotacionarSegredo churchId provider sorteado iv =>
      db.rotacionarSegredo cofre churchId provider sorteado iv
  | .remover churchId provider => db.remover churchId provider
  | .fora ativos perfis => .ok { db with ativos := ativos, perfis := perfis }

/-- A call that fails leaves the rows as they were. -/
def step (acao : Acao) : CasasDePagamento :=
  match db.executar cofre textos acao with
  | .ok depois => depois
  | .error _ => db

end CasasDePagamento

end IccvBackend
