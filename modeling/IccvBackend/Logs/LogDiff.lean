/-
Module: IccvBackend.Logs.LogDiff
Purpose: `logs/log-diff.ts`: what a line of the log says that changed, field by field.
Trusted boundary: human-reviewed spec
Main exports: LogDiff.Intl, LogDiff.LogChange, LogDiff.formatValue, LogDiff.semCarimbos,
  LogDiff.parComparavel, LogDiff.mudancasDoPar, LogDiff.buildChanges
-/
import IccvBackend.Lib.Fallible
import IccvBackend.Prisma.Schema
import IccvBackend.Prisma.Snapshots

namespace IccvBackend.LogDiff

open Lib

variable {ν : Type} [DecidableEq ν]

/-! ### Labels -/

/-- `HIDDEN_FIELDS`. -/
def hiddenFields : List String := ["createdAt", "updatedAt", "updateAt"]

/-- `FIELD_LABELS`. -/
def fieldLabels : List (String × String) :=
  [("amount", "Valor"), ("badgeName", "Nome no crachá"), ("birthday", "Nascimento"),
    ("capacity", "Capacidade"), ("cellphone", "Celular"), ("city", "Cidade"),
    ("content", "Conteúdo"), ("congregation", "Igreja"), ("codeHash", "Código de redefinição"),
    ("cpf", "CPF"), ("data", "Local e descrição"), ("password", "Senha"),
    ("pastorName", "Nome do pastor"),
    ("sensitiveConsentAt", "Consentimento de dados de saúde e religião"),
    ("description", "Descrição"), ("email", "E-mail"),
    ("emergencyContact", "Contato de emergência"), ("endDate", "Fim"), ("fullName", "Nome"),
    ("image", "Foto"), ("isPublished", "Publicada"), ("leadershipPosition", "Ministério"),
    ("method", "Método"), ("name", "Nome"), ("neighborhood", "Bairro"), ("number", "Número"),
    ("note", "Observação"), ("notes", "Observações"), ("payload", "Dados da transação"),
    ("price", "Preço"), ("profession", "Profissão"),
    ("productsDeliveredAt", "Entrega dos produtos"),
    ("productsDeliveredById", "Entrega registrada por"), ("profilePhotoUrl", "Foto de perfil"),
    ("quantity", "Quantidade"), ("receivedFrom", "Origem"), ("religion", "Religião"),
    ("role", "Permissão"), ("startDate", "Início"), ("state", "Estado"), ("status", "Status"),
    ("stock", "Estoque"), ("street", "Rua"), ("summary", "Resumo"),
    ("ticketHash", "Ticket de redefinição"), ("title", "Título"),
    ("unitPrice", "Preço unitário"), ("worker", "Obreiro"), ("zipCode", "CEP")]

/-- `ENUM_LABELS`. -/
def enumLabels : List (String × List (String × String)) :=
  [("status",
      [("PAID", "Pago"), ("IN_ANALYSIS", "Em análise"), ("DECLINED", "Recusado"),
        ("CANCELED", "Cancelado"), ("WAITING", "Aguardando"), ("REFUNDED", "Reembolsado"),
        ("PENDING", "Não chegou"), ("QUEUED", "Na fila"), ("IN_PROGRESS", "Em atendimento"),
        ("DONE", "Concluído")]),
    ("method",
      [("PIX", "Pix"), ("CREDIT_CARD", "Cartão de Crédito"), ("DEBIT_CARD", "Cartão de Débito"),
        ("CASH", "Dinheiro"), ("BOLETO", "Boleto"), ("OTHER", "Outro")]),
    ("receivedFrom",
      [("PENDING", "Aguardando pagamento"), ("SYSTEM", "Gateway de pagamento"),
        ("EXTERNAL", "Lançamento manual")]),
    ("role", [("MEMBER", "Membro"), ("LEADER", "Líder")])]

/-- `ROLE_LABELS` of `auth/roles.ts`, by the text of the number. -/
def roleLabels : List (String × String) :=
  [("-1", "Dev"), ("1", "Super Admin"), ("2", "Admin"), ("3", "Tesouraria"), ("5", "Usuário")]

/-- `ID_FIELD_LABELS`. -/
def idFieldLabels : List (String × String) :=
  [("autoBedroomId", "Quarto automático"), ("badgeDeliveredById", "Entregue por"),
    ("bedroomsId", "Quarto"), ("calledById", "Chamado por"), ("churchId", "Igreja"),
    ("discountId", "Desconto"), ("doneById", "Concluído por"), ("eventId", "Evento"),
    ("groupId", "Grupo"), ("groupRoleId", "Grupo de inscrição"), ("newsId", "Notícia"),
    ("paymentId", "Pagamento"), ("roleRegistrationId", "Tipo de inscrição"),
    ("teamId", "Equipe"), ("userId", "Pessoa")]

structure LogChange where
  field : String
  label : String
  before : String
  after : String
deriving Repr, DecidableEq

/-! ### Values -/

/-- The formats of the language: of an amount, and of the date a text says.  A text that looks like
a date and is none throws. -/
structure Intl (ν : Type) where
  currency : ν → String
  dateTime : String → Except Failure String

/-- `isIdField`. -/
def isIdField (field : String) : Bool := field = "id" || "Id".toList <:+ field.toList

/-- `idFieldState`. -/
def idFieldState : JsonValue ν → String
  | .null => "—"
  | _ => "definido"

/-- `ISO_DATE`. -/
def isoDate (s : String) : Bool :=
  match s.toList with
  | a :: b :: c :: d :: '-' :: e :: f :: '-' :: g :: h :: 'T' :: _ =>
      [a, b, c, d, e, f, g, h].all Char.isDigit
  | _ => false

inductive Posicao where
  | before
  | after
deriving DecidableEq

variable (intl : Intl ν) (numerals : Numerals ν)

/-- `formatValue`. -/
def formatValue (field : String) (value : JsonValue ν) (position : Posicao) :
    Except Failure String :=
  match value with
  | .null => pure "—"
  | .bool b => pure (if b then "Sim" else "Não")
  | .num n =>
      let texto := String.ofList (numerals.text n)
      if field = "role" then pure ((roleLabels.lookup texto).getD texto)
      else if field = "amount" ∨ field = "price" then pure (intl.currency n)
      else pure texto
  | .str s =>
      if s = "" then pure "—"
      else
        match (enumLabels.lookup field).bind fun labels => labels.lookup s with
        | some label => pure label
        | none => if isoDate s then intl.dateTime s else pure s
  | .arr _ | .obj _ =>
      pure (if position = .before then "conteúdo anterior" else "conteúdo novo")

/-! ### The rows that are compared -/

/-- The members `{ ...row }` has: those of an object, or the items of an array by their places. -/
def espalhado : JsonValue ν → Option (Row ν)
  | .obj members => some members
  | .arr items => some (items.zipIdx.map fun item => (toString item.2, item.1))
  | _ => none

/-- `semCarimbos`.  A row that is no object is itself; past the end of the rows there is none. -/
def semCarimbos : Option (JsonValue ν) → Option (Primitivo ν)
  | none => none
  | some .null => some .null
  | some (.bool b) => some (.bool b)
  | some (.num n) => some (.num n)
  | some (.str s) => some (.str s.toList)
  | some row =>
      let copy := ((espalhado row).getD []).filter fun member => !hiddenFields.contains member.1
      some (.str (JsonValue.stringify numerals (.obj copy)))

/-- `before.findIndex`: the first place where the two are not the same. -/
def primeiroDiferente (before after : List (JsonValue ν)) : Option Nat :=
  before.zipIdx.findIdx? fun linha =>
    semCarimbos numerals (some linha.1) ≠ semCarimbos numerals after[linha.2]?

/-- The row of a snapshot that is no array, or its first. -/
def pick : JsonValue ν → Option (Row ν)
  | .arr items => asObject items[0]?
  | snapshot => asObject (some snapshot)

/-- `parComparavel`. -/
def parComparavel (before after : JsonValue ν) : Option (Row ν) × Option (Row ν) :=
  match before, after with
  | .arr antes, .arr depois =>
      let escolhido := (primeiroDiferente numerals antes depois).getD 0
      (asObject antes[escolhido]?, asObject depois[escolhido]?)
  | _, _ => (pick before, pick after)

/-! ### What changed -/

/-- The loop of `buildChanges`: the fields that changed, and apart from them the ids. -/
def comparar (b a : Option (Row ν)) :
    List String → Except Failure (List LogChange × List LogChange)
  | [] => pure ([], [])
  | field :: fields => do
      let valueBefore := campo b field
      let valueAfter := campo a field
      if hiddenFields.contains field || mesmoTexto numerals valueBefore valueAfter then
        comparar b a fields
      else if isIdField field then
        let (changes, idChanges) ← comparar b a fields
        pure (changes,
          ⟨field, (idFieldLabels.lookup field).getD field, idFieldState valueBefore,
            idFieldState valueAfter⟩ :: idChanges)
      else
        let before ← formatValue intl numerals field valueBefore .before
        let after ← formatValue intl numerals field valueAfter .after
        let (changes, idChanges) ← comparar b a fields
        pure (⟨field, (fieldLabels.lookup field).getD field, before, after⟩ :: changes, idChanges)

/-- The rest of `buildChanges`, once the two rows are picked.  The ids show where nothing else
changed in an edition. -/
def mudancasDoPar (b a : Option (Row ν)) : Except Failure (List LogChange) :=
  if b.isNone && a.isNone then pure []
  else do
    let (changes, idChanges) ← comparar intl numerals b a (camposDe b a)
    let edicao := b.isSome && a.isSome
    pure (if changes.isEmpty && edicao then idChanges else changes)

/-- `buildChanges`. -/
def buildChanges (before after : JsonValue ν) : Except Failure (List LogChange) :=
  let par := parComparavel numerals before after
  mudancasDoPar intl numerals par.1 par.2

end IccvBackend.LogDiff
