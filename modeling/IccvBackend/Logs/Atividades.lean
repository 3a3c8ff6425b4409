/-
Module: IccvBackend.Logs.Atividades
Purpose: The line of the activity log that the middleware of `prisma/prisma.service.ts` writes for a
  write of any table, and the credentials it keeps out of it.
Trusted boundary: human-reviewed spec; the rows of a snapshot are objects, as the database gave them
Main exports: Atividades.redactedFields, Atividades.redactPair, Atividades.nothingChanged,
  Atividades.extractTargetUserIds, Atividades.Escrita, Atividades.registrar, Atividades.registro
-/
import IccvBackend.Logs.LogDiff

namespace IccvBackend.Atividades

open Lib LogDiff

variable {ν : Type} [DecidableEq ν]

/-! ### Credentials -/

/-- `REDACTED_FIELDS`. -/
def redactedFields : List (String × List String) :=
  [("User", ["password"]), ("UserToken", ["codeHash", "ticketHash"]),
    ("PaymentProviderConfig", ["credentials", "webhookSecretHash"]),
    ("PluggyIntegration", ["credentials"]), ("EventProduct", ["images"])]

/-- `CHANGED_MARKER`. -/
def changedMarker : String := "(alterada)"

/-- A copy of the row without some of its fields.  What is no object is itself. -/
def limpar (fields : List String) (row : JsonValue ν) : JsonValue ν :=
  match espalhado row with
  | some members => .obj (members.filter fun member => !fields.contains member.1)
  | none => row

/-- A copy of each row of a snapshot. -/
def limparTodas (fields : List String) : JsonValue ν → JsonValue ν
  | .arr rows => .arr (rows.map (limpar fields))
  | row => limpar fields row

/-- `redactSnapshot`. -/
def redactSnapshot (model : String) (snapshot : JsonValue ν) : JsonValue ν :=
  match redactedFields.lookup model with
  | none => snapshot
  | some fields => limparTodas fields snapshot

/-- `===` of two members that were read apart: an object or an array is no other one. -/
def estritamenteIgual : Option (JsonValue ν) → Option (JsonValue ν) → Bool
  | none, none => true
  | some .null, some .null => true
  | some (.bool a), some (.bool b) => a = b
  | some (.num a), some (.num b) => a = b
  | some (.str a), some (.str b) => a = b
  | _, _ => false

/-- `first` of `redactPair`. -/
def first : JsonValue ν → Option (JsonValue ν)
  | .arr rows => rows[0]?
  | snapshot => some snapshot

/-- `alterados`: the fields that come in the row after and are not what they were. -/
def alterados (fields : List String) (before after : JsonValue ν) : List String :=
  match asObject (first before), asObject (first after) with
  | some antes, some depois =>
      fields.filter fun field =>
        (depois.lookup field).isSome &&
          !estritamenteIgual (antes.lookup field) (depois.lookup field)
  | _, _ => []

/-- `{ ...limpo, ...alterados }`. -/
def marcar (campos : List String) : JsonValue ν → JsonValue ν
  | .obj members => .obj (members ++ campos.map fun field => (field, .str changedMarker))
  | snapshot => snapshot

/-- `redactPair`. -/
def redactPair (model : String) (before after : JsonValue ν) : JsonValue ν × JsonValue ν :=
  match redactedFields.lookup model with
  | none => (before, after)
  | some fields =>
      (redactSnapshot model before,
        marcar (alterados fields before after) (redactSnapshot model after))

/-- The hash of a password goes, and the mark says that it changed. -/
example : redactPair "User" (.obj [("id", .str "ana"), ("password", .str "$2b$10$a")])
      (.obj [("password", .str "$2b$10$b"), ("id", .str "ana")]) =
    ((.obj [("id", .str "ana")], .obj [("id", .str "ana"), ("password", .str "(alterada)")]) :
      JsonValue Empty × JsonValue Empty) := rfl

/-! ### Writes -/

/-- `TIMESTAMP_FIELDS`. -/
def timestampFields : List String := ["updatedAt", "updateAt", "createdAt"]

/-- `nothingChanged`. -/
def nothingChanged (numerals : Numerals ν) : JsonValue ν → JsonValue ν → Bool
  | .null, _ => false
  | _, .null => false
  | before, after =>
      mesmoTexto numerals (limparTodas timestampFields before) (limparTodas timestampFields after)

/-- A member that is a text. -/
def textoDe (field : String) (row : JsonValue ν) : Option String :=
  match (asObject (some row)).bind fun members => members.lookup field with
  | some (.str s) => some s
  | _ => none

/-- `snapshot?.[0]`. -/
def primeira : JsonValue ν → Option (JsonValue ν)
  | .arr rows => rows[0]?
  | _ => none

/-- `extractTargetUserIds`. -/
def extractTargetUserIds (model : String) (entityId : String) (before after : JsonValue ν) :
    List String :=
  let daLinha := textoDe (if model = "User" then "id" else "userId")
  ((if model = "User" ∧ entityId ≠ "" then [entityId] else []) ++
    (Dinheiro.comoLista before).filterMap daLinha ++
      (Dinheiro.comoLista after).filterMap daLinha).eraseDups

inductive Acao where
  | create
  | update
  | delete
  | createMany
  | updateMany
  | deleteMany
  | upsert
deriving Repr, DecidableEq

/-- The writes whose rows are read before. -/
def Acao.leAntes : Acao → Bool
  | .update | .delete | .updateMany | .deleteMany => true
  | .create | .createMany | .upsert => false

/-- A write the middleware has seen: the rows it found and the ones it left, what the request says
of them (its `where`, the `data` of a `create`, the key of the first row of a `createMany`), and who
asked. -/
structure Escrita (ν : Type) where
  model : String
  action : Acao
  pedido : JsonValue ν
  anterior : JsonValue ν
  posterior : JsonValue ν
  userId : Option String
  requestId : Option String
  operation : Option String

/-- `before`: nothing reads the row that an `upsert` finds. -/
def Escrita.before (w : Escrita ν) : JsonValue ν := if w.action.leAntes then w.anterior else .null

/-- `after`. -/
def Escrita.after (w : Escrita ν) : JsonValue ν :=
  match w.action with
  | .delete | .deleteMany => .null
  | _ => w.posterior

/-- The id of the record the line is about, where a row brings one. -/
def Escrita.id? (w : Escrita ν) : Option String :=
  match w.action with
  | .create | .update | .upsert => textoDe "id" w.after
  | .delete => textoDe "id" w.before
  | .createMany => (primeira w.after).bind (textoDe "id")
  | .deleteMany => (primeira w.before).bind (textoDe "id")
  | .updateMany => ((Dinheiro.comoLista w.before).filterMap (textoDe "id")).find? fun id => id ≠ ""

/-- `entityId`: the id, or else the text of what the request says. -/
def Escrita.entityId (numerals : Numerals ν) (w : Escrita ν) : String :=
  w.id?.getD (String.ofList (JsonValue.stringify numerals w.pedido))

/-- A line of the log. -/
structure Linha (ν : Type) where
  model : String
  action : Acao
  entityId : String
  before : JsonValue ν
  after : JsonValue ν
  userId : Option String
  requestId : Option String
  operation : Option String
  targetUserIds : List String

/-- The tables that are logs themselves, or too busy for one. -/
def foraDaAuditoria : List String :=
  ["Log", "PaymentLog", "WhatsappAuth", "LoginAttempt", "Notification", "NotificationRecipient"]

/-- What the middleware writes in the log. -/
def registrar (numerals : Numerals ν) (w : Escrita ν) : Option (Linha ν) :=
  if foraDaAuditoria.contains w.model || nothingChanged numerals w.before w.after then none
  else
    let redigido := redactPair w.model w.before w.after
    some
      { model := w.model
        action := w.action
        entityId := w.entityId numerals
        before := redigido.1
        after := redigido.2
        userId := w.userId
        requestId := w.requestId
        operation := w.operation
        targetUserIds :=
          extractTargetUserIds w.model (w.entityId numerals) w.before w.after }

/-- The log of a run of writes. -/
def registro (numerals : Numerals ν) (escritas : List (Escrita ν)) : List (Linha ν) :=
  escritas.filterMap (registrar numerals)

end IccvBackend.Atividades
