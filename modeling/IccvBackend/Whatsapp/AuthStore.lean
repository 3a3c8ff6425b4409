/-
Module: IccvBackend.Whatsapp.AuthStore
Purpose: `whatsapp/whatsapp-auth.store.ts`: the credentials and the Signal keys of each church, in
  one table.
Trusted boundary: human-reviewed spec
Main exports: WhatsappAuth, BufferJSON, AuthStore, chaveDe, ler, gravar, apagar, get, saveCreds,
  clearDatabaseAuthState, hasStoredCredentials, churchIdsComSessao, AuthStore.agir
-/
import IccvBackend.Lib.Transitions
import IccvBackend.Lib.Upsert
import IccvBackend.Prisma.Schema

namespace IccvBackend

open Lib

/-!
The values are those of Baileys, which is not read here: `BufferJSON` and `proto` are parameters.  A
call of `set` writes key by key, each an `await`: a run is made of single writes, so that two calls
may be interleaved in any way.
-/

/-- A row of `whatsapp_auth`. -/
structure WhatsappAuth where
  churchId : Id
  id : String
  data : String
deriving Repr, DecidableEq

/-- `@@id([churchId, id])`. -/
def WhatsappAuth.chave (linha : WhatsappAuth) : Id × String := (linha.churchId, linha.id)

/-- What the code uses of Baileys: the text of a value and back, `fromObject`, and the fields and
defaults of the credentials. -/
structure BufferJSON (V : Type*) where
  stringify : V → String
  parse : String → V
  /-- the value counts as true -/
  verdadeiro : V → Bool
  fromObject : V → V
  registered : V → Bool
  initAuthCreds : V

/-- What Baileys promises: a value comes back from its text, which is never empty. -/
structure BufferJSON.Fiel {V : Type*} (json : BufferJSON V) : Prop where
  volta : ∀ valor, json.parse (json.stringify valor) = valor
  escreve : ∀ valor, json.stringify valor ≠ ""

/-- `CHAVE_CREDENCIAIS`. -/
def chaveCredenciais : String := "creds"

/-- `chaveDe`. -/
def chaveDe (par : String × String) : String := par.1 ++ "-" ++ par.2

/-- The rows of `whatsapp_auth`. -/
abbrev AuthStore := List WhatsappAuth

namespace AuthStore

variable {V : Type*} (json : BufferJSON V) (db : AuthStore) (churchId : Id)

def linha? (id : String) : Option WhatsappAuth := lookup WhatsappAuth.chave (churchId, id) db

/-- `ler`. -/
def ler (id : String) : Option V :=
  (linha? db churchId id).map fun linha => json.parse linha.data

/-- `gravar`. -/
def gravar (id : String) (valor : V) : AuthStore :=
  upsert WhatsappAuth.chave ⟨churchId, id, json.stringify valor⟩ db

/-- `apagar`. -/
def apagar (id : String) : AuthStore := deleteKey WhatsappAuth.chave (churchId, id) db

/-- The credentials a session starts with. -/
def creds : V := ((ler json db churchId chaveCredenciais).filter json.verdadeiro).getD
  json.initAuthCreds

/-- The library expects one type unpacked, and the others as they came. -/
def desempacotar (tipo : String) (valor : V) : V :=
  if tipo = "app-state-sync-key" then json.fromObject valor else valor

/-- `keys.get`: one query for all the ids, then one entry for each that has a row. -/
def get (tipo : String) (ids : List String) : List (String × V) :=
  let chaves := ids.map fun id => chaveDe (tipo, id)
  let linhas : List WhatsappAuth := db.filter fun linha : WhatsappAuth =>
    linha.churchId = churchId ∧ linha.id ∈ chaves
  ids.filterMap fun id =>
    ((linhas.find? fun linha => linha.id = chaveDe (tipo, id)).filter fun linha =>
      linha.data ≠ "").map fun linha => (id, desempacotar json tipo (json.parse linha.data))

/-- One turn of the loops of `keys.set`. -/
def set (par : String × String) (valor : V) : AuthStore :=
  if json.verdadeiro valor then gravar json db churchId (chaveDe par) valor
  else apagar db churchId (chaveDe par)

/-- `saveCreds`, with the credentials the session has in memory. -/
def saveCreds (creds : V) : AuthStore := gravar json db churchId chaveCredenciais creds

/-- `clearDatabaseAuthState`. -/
def clearDatabaseAuthState : AuthStore :=
  db.filter fun linha : WhatsappAuth => linha.churchId ≠ churchId

/-- `linhaEstaPareada`. -/
def linhaEstaPareada : Option WhatsappAuth → Bool
  | some linha =>
      let creds := json.parse linha.data
      json.verdadeiro creds && json.registered creds
  | none => false

/-- `hasStoredCredentials`. -/
def hasStoredCredentials : Bool := linhaEstaPareada json (linha? db churchId chaveCredenciais)

/-- `churchIdsComSessao`. -/
def churchIdsComSessao : List Id :=
  ((db.filter fun linha : WhatsappAuth => linha.id = chaveCredenciais).filter fun linha =>
    linhaEstaPareada json (some linha)).map WhatsappAuth.churchId

/-! ### Runs -/

inductive Acao (V : Type*) where
  | set (churchId : Id) (par : String × String) (valor : V)
  | saveCreds (churchId : Id) (creds : V)
  | clear (churchId : Id)

/-- One statement of a run. -/
def agir (db : AuthStore) : Acao V → AuthStore
  | .set churchId par valor => set json db churchId par valor
  | .saveCreds churchId creds => saveCreds json db churchId creds
  | .clear churchId => clearDatabaseAuthState db churchId

end AuthStore

end IccvBackend
