/-
Module: IccvBackend.Treasury.Ledger
Purpose: `tesouraria/tesourarias.service.ts`: the treasuries of events and congregations, the bank
  movements brought to them, and the entries reconciled with these movements.
Trusted boundary: human-reviewed spec
Main exports: Treasury, FinancialEntry, TreasuryAllocation, Tesourarias, restanteDe, distribuir,
  devolver, conciliar, desfazer, naoConsta, novoLancamento, lancamentosDe, Tesourarias.agir
-/
import IccvBackend.Lib.Cents
import IccvBackend.Lib.Fallible
import IccvBackend.Lib.Text
import IccvBackend.Lib.Transitions
import IccvBackend.Prisma.Schema
import Mathlib.Data.List.Sort

namespace IccvBackend

open Lib

/-!
The `Decimal(12, 2)` columns are whole cents.  The amount of a payment is a `Float` of the event and
enters in cents where `reais` rounds it.  An id of a line of the screen is the table of the row and
its id.

Who may act (`exigirEquipe`, the treasurers of an event) is left out, and so are who created a row
and when.
-/

/-! ### Rows -/

inductive FinancialEntryType where
  | income
  | expense
deriving Repr, DecidableEq

inductive TreasuryAccount where
  | administrative
  | events
  | congregations
deriving Repr, DecidableEq

inductive TreasuryKind where
  | event
  | congregation
deriving Repr, DecidableEq

structure Treasury where
  id : Id
  churchId : Id
  kind : TreasuryKind
  eventId : Option Id
  closedAt : Option Instant
deriving Repr, DecidableEq

/-- A movement imported from the bank (`source: PLUGGY`). -/
structure FinancialEntry where
  id : Id
  churchId : Id
  type : FinancialEntryType
  amount : Int
  date : Instant
  description : String
  payerName : Option String
  bankAccount : Option String
  account : TreasuryAccount
deriving Repr, DecidableEq

structure TreasuryAllocation where
  id : Id
  treasuryId : Id
  entryId : Id
  amount : Int
  category : Option String
deriving Repr, DecidableEq

structure TreasuryEntry where
  id : Id
  treasuryId : Id
  type : FinancialEntryType
  category : String
  description : String
  amount : Int
  date : Instant
  movementId : Option Id
  notInBankAt : Option Instant
deriving Repr, DecidableEq

structure TreasuryPaymentLink where
  paymentId : Id
  treasuryId : Id
  movementId : Option Id
  notInBankAt : Option Instant
deriving Repr, DecidableEq

/-- What `conciliar` writes in a link: the movement, and no mark that the bank does not show it. -/
def TreasuryPaymentLink.conciliarCom (movimentoId : Id) (link : TreasuryPaymentLink) :
    TreasuryPaymentLink :=
  { link with movementId := some movimentoId, notInBankAt := none }

/-- What `conciliar` writes in a manual entry. -/
def TreasuryEntry.conciliarCom (movimentoId : Id) (entry : TreasuryEntry) : TreasuryEntry :=
  { entry with movementId := some movimentoId, notInBankAt := none }

/-- What `naoConsta` writes in a link. -/
def TreasuryPaymentLink.marcar (quando : Option Instant) (link : TreasuryPaymentLink) :
    TreasuryPaymentLink :=
  { link with notInBankAt := quando }

/-- What `naoConsta` writes in a manual entry. -/
def TreasuryEntry.marcar (quando : Option Instant) (entry : TreasuryEntry) : TreasuryEntry :=
  { entry with notInBankAt := quando }

/-- The bank integration of a church. -/
structure PluggyIntegration where
  splitByTreasury : Bool
  itemAccounts : Id → Option TreasuryAccount
  itemIds : List Id

/-- The tables the treasuries of a church read and write. -/
structure Tesourarias where
  churchId : Id
  integracao : Option PluggyIntegration
  treasuries : List Treasury
  movimentos : List FinancialEntry
  payments : List Payment
  fullName : Id → Option String
  /-- the day of the last change of a payment -/
  diaDoPagamento : Id → Instant
  alocacoes : List TreasuryAllocation
  links : List TreasuryPaymentLink
  entries : List TreasuryEntry
  nextId : Id

/-! ### Vocabulary -/

/-- `comSinal`: income less expense. -/
def comSinal (tipo : FinancialEntryType) (valor : Int) : Int :=
  match tipo with
  | .income => valor
  | .expense => -valor

/-- `CONTA_DO_TIPO`. -/
def contaDoTipo : TreasuryKind → TreasuryAccount
  | .event => .events
  | .congregation => .congregations

/-- `contaDoBanco`. -/
def contaDoBanco (integracao : PluggyIntegration) (itemId : Id) : TreasuryAccount :=
  if integracao.splitByTreasury then (integracao.itemAccounts itemId).getD .administrative
  else .administrative

def semCategoria : String := "Sem categoria"

/-- `CATEGORIAS`. -/
def categorias : TreasuryKind → FinancialEntryType → List String
  | .event, .income => ["Ingressos", "Produtos", "Doações", "Patrocínio", "Outras entradas"]
  | .event, .expense =>
      ["Hospedagem", "Alimentação", "Transporte", "Materiais", "Som e decoração", "Tarifas",
        "Outras saídas"]
  | .congregation, .income => ["Ofertas", "Campanhas", "Doações", "Outras entradas"]
  | .congregation, .expense =>
      ["Aluguel", "Água e luz", "Manutenção", "Limpeza", "Ação social", "Outras saídas"]

/-- `categoriaValida`. -/
def categoriaValida (kind : TreasuryKind) (tipo : FinancialEntryType) (categoria : String) : Bool :=
  categoria ∈ categorias kind tipo

/-- The id of a line: `pagamento:…` or `manual:…`. -/
inductive LancamentoId where
  | pagamento (id : Id)
  | manual (id : Id)
deriving Repr, DecidableEq

/-- `separarIds`. -/
def separarIds (ids : List LancamentoId) : List Id × List Id :=
  (ids.filterMap fun id => match id with | .pagamento id => some id | .manual _ => none,
    ids.filterMap fun id => match id with | .pagamento _ => none | .manual id => some id)

/-- A part to distribute: a movement, and how much of it, or all that is left. -/
structure Parte where
  movimentoId : Id
  valor : Option Int
deriving Repr, DecidableEq

/-- How much of the remainder a part takes, unless nothing is left. -/
def Parte.tomar (parte : Parte) (restante : Int) : Except Failure Int :=
  let valor := min (parte.valor.getD restante) restante
  if valor ≤ 0 then throw (badRequest "Este movimento já foi todo distribuído") else pure valor

namespace Tesourarias

/-! ### Reads -/

def treasury? (db : Tesourarias) (id : Id) : Option Treasury :=
  db.treasuries.find? fun t => t.id = id && t.churchId = db.churchId

/-- The movement of an allocation, as `include` finds it. -/
def entry? (db : Tesourarias) (id : Id) : Option FinancialEntry :=
  db.movimentos.find? fun m => m.id = id

/-- A movement of this church. -/
def movimento? (db : Tesourarias) (id : Id) : Option FinancialEntry :=
  (db.entry? id).filter fun m => m.churchId = db.churchId

def alocacao? (db : Tesourarias) (treasuryId entryId : Id) : Option TreasuryAllocation :=
  db.alocacoes.find? fun a => a.treasuryId = treasuryId && a.entryId = entryId

def link? (db : Tesourarias) (paymentId : Id) : Option TreasuryPaymentLink :=
  db.links.find? fun link => link.paymentId = paymentId

/-- `exigirAberta`. -/
def exigirAberta (db : Tesourarias) (id : Id) : Except Failure Treasury := do
  let t ← orFail (db.treasury? id) (notFound "Tesouraria não encontrada")
  failIf t.closedAt.isSome (badRequest "A tesouraria está fechada: reabra para mudar")
  pure t

/-- `contaDa`: the account a treasury distributes from. -/
def contaDa (db : Tesourarias) (kind : TreasuryKind) : TreasuryAccount :=
  if db.integracao.any fun integracao =>
      integracao.itemIds.any fun itemId => contaDoBanco integracao itemId = contaDoTipo kind
  then contaDoTipo kind else .administrative

/-- What all the treasuries got of a movement. -/
def distribuido (db : Tesourarias) (entryId : Id) : Int :=
  ((db.alocacoes.filter fun a => a.entryId = entryId).map TreasuryAllocation.amount).sum

/-- `restanteDe`. -/
def restanteDe (db : Tesourarias) (account : TreasuryAccount) (movimentoId : Id) :
    Except Failure Int := do
  let m ← orFail ((db.movimento? movimentoId).filter fun m => m.account = account)
    (notFound "Movimento não encontrado na conta desta tesouraria")
  pure (m.amount - db.distribuido movimentoId)

/-! ### Distributing -/

/-- `treasuryAllocation.create`. -/
def criarAlocacao (db : Tesourarias) (treasuryId entryId : Id) (amount : Int)
    (category : Option String) : Tesourarias :=
  { db with
    alocacoes := db.alocacoes ++ [⟨db.nextId, treasuryId, entryId, amount, category⟩]
    nextId := db.nextId + 1 }

/-- `treasuryAllocation.upsert`: bringing again adds to the allocation there is. -/
def somarAlocacao (db : Tesourarias) (treasuryId entryId : Id) (amount : Int)
    (category : Option String) : Tesourarias :=
  match db.alocacao? treasuryId entryId with
  | some _ =>
      { db with
        alocacoes := db.alocacoes.map fun a =>
          if a.treasuryId = treasuryId && a.entryId = entryId then
            { a with amount := a.amount + amount }
          else a }
  | none => db.criarAlocacao treasuryId entryId amount category

/-- One turn of the loop of `distribuir`. -/
def distribuirParte (id : Id) (account : TreasuryAccount) (db : Tesourarias) (parte : Parte) :
    Except Failure Tesourarias := do
  let restante ← db.restanteDe account parte.movimentoId
  let valor ← parte.tomar restante
  pure (db.somarAlocacao id parte.movimentoId valor none)

/-- `distribuir`. -/
def distribuir (db : Tesourarias) (id : Id) (partes : List Parte) : Except Failure Tesourarias := do
  let t ← db.exigirAberta id
  partes.foldlM (distribuirParte id (db.contaDa t.kind)) db

/-- `soltar`: the links of the movement, then the allocation. -/
def soltar (db : Tesourarias) (id movimentoId alocacaoId : Id) : Tesourarias :=
  { db with
    links := db.links.map fun link =>
      if link.treasuryId = id && link.movementId = some movimentoId then
        { link with movementId := none }
      else link
    entries := db.entries.map fun entry =>
      if entry.treasuryId = id && entry.movementId = some movimentoId then
        { entry with movementId := none }
      else entry
    alocacoes := db.alocacoes.filter fun a => a.id ≠ alocacaoId }

/-- `devolver`. -/
def devolver (db : Tesourarias) (id alocacaoId : Id) : Except Failure Tesourarias := do
  let _ ← db.exigirAberta id
  let alocacao ← orFail (db.alocacoes.find? fun a => a.id = alocacaoId && a.treasuryId = id)
    (notFound "Alocação não encontrada")
  pure (db.soltar id alocacao.entryId alocacaoId)

/-- `desfazer`. -/
def desfazer (db : Tesourarias) (id movimentoId : Id) : Except Failure Tesourarias := do
  let _ ← db.exigirAberta id
  let alocacao ← orFail (db.alocacao? id movimentoId) (notFound "Conciliação não encontrada")
  pure (db.soltar id movimentoId alocacao.id)

/-! ### The lines of a treasury -/

end Tesourarias

inductive OrigemDoLancamento where
  | inscricao
  | produto
  | manual
  | banco
deriving Repr, DecidableEq

inductive Situacao where
  | conciliado
  | aConciliar
  | naoConsta
deriving Repr, DecidableEq

structure LancamentoDoSistema where
  id : LancamentoId
  origem : OrigemDoLancamento
  tipo : FinancialEntryType
  categoria : String
  descricao : String
  valor : Int
  data : Instant
deriving Repr, DecidableEq

structure LinhaDoSistema where
  lancamento : LancamentoDoSistema
  situacao : Situacao
  movimentoId : Option Id
deriving Repr, DecidableEq

/-- The value of a line with its sign. -/
def LinhaDoSistema.comSinal (linha : LinhaDoSistema) : Int :=
  IccvBackend.comSinal linha.lancamento.tipo linha.lancamento.valor

/-- The id of a row of the list: a system entry, or an allocation. -/
inductive IdDaLinha where
  | sistema (id : LancamentoId)
  | alocacao (id : Id)
deriving Repr, DecidableEq

/-- A row of the list.  `movimentoId` is the movement it stands for: the code has it in what it maps
and shows only the bank. -/
structure LancamentoDaTesouraria where
  id : IdDaLinha
  tipo : FinancialEntryType
  categoria : String
  descricao : String
  valor : Int
  data : Instant
  origem : OrigemDoLancamento
  banco : Option String
  situacao : Option Situacao
  movimentoId : Option Id
deriving Repr, DecidableEq

def LancamentoDaTesouraria.comSinal (linha : LancamentoDaTesouraria) : Int :=
  IccvBackend.comSinal linha.tipo linha.valor

/-- `bancoDe`. -/
def bancoDe (conta : Option String) : String :=
  let nome := trim (((conta.getD "").splitOn " · ").headD "")
  if nome = "" then "Banco" else nome

/-- The local `situacao` of `carregar`. -/
def situacaoDe (movementId : Option Id) (notInBankAt : Option Instant) : Situacao :=
  if movementId.isSome then .conciliado else if notInBankAt.isSome then .naoConsta else .aConciliar

namespace Tesourarias

/-- The movement a payment is reconciled with. -/
def conciliadoCom (db : Tesourarias) (paymentId : Id) : Option Id :=
  (db.link? paymentId).bind TreasuryPaymentLink.movementId

/-- The payment is a line of the treasury: of its event, paid, and not free. -/
def contaNa (t : Treasury) (p : Payment) : Bool :=
  t.eventId.isSome && p.eventId = t.eventId && p.status = .paid && 0 < p.amount

def linhaDoPagamento (db : Tesourarias) (p : Payment) : LinhaDoSistema :=
  let produto := p.roleRegistrationId.isNone && !p.productItems.isEmpty
  let quem := p.userId.bind db.fullName
  { lancamento :=
      { id := .pagamento p.id
        origem := if produto then .produto else .inscricao
        tipo := .income
        categoria := if produto then "Produtos" else "Ingressos"
        descricao :=
          (if produto then "Produtos" else "Inscrição") ++ (quem.map fun q => " — " ++ q).getD ""
        valor := cents p.amount
        data := db.diaDoPagamento p.id }
    situacao := situacaoDe (db.conciliadoCom p.id)
      ((db.link? p.id).bind TreasuryPaymentLink.notInBankAt)
    movimentoId := db.conciliadoCom p.id }

def linhaDoManual (m : TreasuryEntry) : LinhaDoSistema where
  lancamento :=
    { id := .manual m.id
      origem := .manual
      tipo := m.type
      categoria := m.category
      descricao := m.description
      valor := m.amount
      data := m.date }
  situacao := situacaoDe m.movementId m.notInBankAt
  movimentoId := m.movementId

/-- The system entries of a treasury, as `carregar` groups and sorts them. -/
def sistema (db : Tesourarias) (t : Treasury) : List LinhaDoSistema :=
  ((db.payments.filter (contaNa t)).map db.linhaDoPagamento ++
    (db.entries.filter fun m => m.treasuryId = t.id).map linhaDoManual).insertionSort
      fun a b => b.lancamento.data ≤ a.lancamento.data

/-- The allocations of a treasury with their movements, as `carregar` groups and sorts them. -/
def alocacoesDe (db : Tesourarias) (t : Treasury) : List (TreasuryAllocation × FinancialEntry) :=
  ((db.alocacoes.filter fun a => a.treasuryId = t.id).filterMap fun a =>
    (db.entry? a.entryId).map fun m => (a, m)).insertionSort
      fun a b => b.2.date ≤ a.2.date

/-- `lancamentosDe`: a movement with a reconciled entry is not shown itself. -/
def lancamentosDe (db : Tesourarias) (t : Treasury) : List LancamentoDaTesouraria :=
  let sistema := db.sistema t
  let alocacoes := db.alocacoesDe t
  (sistema.map fun l =>
    { id := .sistema l.lancamento.id
      tipo := l.lancamento.tipo
      categoria := l.lancamento.categoria
      descricao := l.lancamento.descricao
      valor := l.lancamento.valor
      data := l.lancamento.data
      origem := l.lancamento.origem
      banco := l.movimentoId.bind fun movimentoId =>
        (alocacoes.find? fun a => a.2.id = movimentoId).map fun a => bancoDe a.2.bankAccount
      situacao := some l.situacao
      movimentoId := l.movimentoId }) ++
  ((alocacoes.filter fun a => !sistema.any fun l => l.movimentoId = some a.2.id).map fun a =>
    { id := .alocacao a.1.id
      tipo := a.2.type
      categoria := a.1.category.getD semCategoria
      descricao := a.2.description ++ (a.2.payerName.map fun pagador => " — " ++ pagador).getD ""
      valor := a.1.amount
      data := a.2.date
      origem := .banco
      banco := some (bancoDe a.2.bankAccount)
      situacao := none
      movimentoId := some a.2.id })

/-! ### Reconciling -/

/-- `treasuryPaymentLink.upsert`. -/
def upsertLink (db : Tesourarias) (paymentId treasuryId : Id)
    (f : TreasuryPaymentLink → TreasuryPaymentLink) : Tesourarias :=
  match db.link? paymentId with
  | some _ =>
      { db with
        links := db.links.map fun link => if link.paymentId = paymentId then f link else link }
  | none => { db with links := db.links ++ [f ⟨paymentId, treasuryId, none, none⟩] }

/-- `treasuryEntry.updateMany`. -/
def modifyEntries (db : Tesourarias) (p : TreasuryEntry → Bool)
    (f : TreasuryEntry → TreasuryEntry) : Tesourarias :=
  { db with entries := db.entries.map fun entry => if p entry then f entry else entry }

/-- The value of the movement in the treasury: what is allocated, or else all that is left. -/
def doBanco (db : Tesourarias) (t : Treasury) (movimentoId : Id) : Except Failure Int :=
  match db.alocacao? t.id movimentoId with
  | some aqui => pure aqui.amount
  | none => db.restanteDe (db.contaDa t.kind) movimentoId

/-- The transaction of `conciliar`. -/
def gravarConciliacao (db : Tesourarias) (id movimentoId : Id) (doBanco : Int) (categoria : String)
    (lancamentoIds : List LancamentoId) : Tesourarias :=
  let criada :=
    match db.alocacao? id movimentoId with
    | some _ => db
    | none => db.criarAlocacao id movimentoId doBanco (some categoria)
  let ligada := (separarIds lancamentoIds).1.foldl
    (fun db paymentId => db.upsertLink paymentId id (.conciliarCom movimentoId)) criada
  ligada.modifyEntries (fun m => m.id ∈ (separarIds lancamentoIds).2 && m.treasuryId = id)
    (.conciliarCom movimentoId)

/-- `conciliar`.  `brl` prints an amount. -/
def conciliar (brl : Int → String) (db : Tesourarias) (id movimentoId : Id)
    (lancamentoIds : List LancamentoId) : Except Failure Tesourarias := do
  let t ← db.exigirAberta id
  let marcados := (db.sistema t).filter fun l => l.lancamento.id ∈ lancamentoIds
  let primeiro ← orFail marcados.head? (badRequest "Marque o banco e os lançamentos")
  failIf (marcados.length ≠ lancamentoIds.eraseDups.length)
    (badRequest "Marque o banco e os lançamentos")
  failIf (marcados.any fun l => l.situacao = .conciliado)
    (conflict "Um dos lançamentos já está conciliado")
  failIf ((db.sistema t).any fun l => l.movimentoId = some movimentoId)
    (conflict "Este movimento já está conciliado: desfaça antes")
  let movimento ← orFail (db.movimento? movimentoId) (notFound "Movimento não encontrado")
  let doBanco ← db.doBanco t movimentoId
  let soma := (marcados.map LinhaDoSistema.comSinal).sum
  let banco := comSinal movimento.type doBanco
  failIf (soma ≠ banco)
    (badRequest ("O banco tem " ++ brl banco ++ " e os lançamentos somam " ++ brl soma ++
      ". Se a diferença é tarifa, lance-a como saída e marque junto."))
  pure (db.gravarConciliacao id movimentoId doBanco primeiro.lancamento.categoria lancamentoIds)

/-- `naoConsta`: of the payments of the event of the treasury, and the manual entries of it, those
that are not reconciled. -/
def naoConsta (db : Tesourarias) (id : Id) (lancamentoIds : List LancamentoId)
    (quando : Option Instant) : Except Failure Tesourarias := do
  let t ← db.exigirAberta id
  let validos := db.payments.filter fun p =>
    t.eventId.isSome && p.eventId = t.eventId && p.id ∈ (separarIds lancamentoIds).1
  let marcada := validos.foldl
    (fun atual p =>
      if (db.conciliadoCom p.id).isSome then atual
      else atual.upsertLink p.id id (.marcar quando)) db
  pure (marcada.modifyEntries
    (fun m => m.id ∈ (separarIds lancamentoIds).2 && m.treasuryId = id && m.movementId.isNone)
    (.marcar quando))

/-- `LancamentoDaTesourariaDto`. -/
structure LancamentoDto where
  type : FinancialEntryType
  category : String
  description : String
  amount : Int
  date : Instant
deriving DecidableEq

/-- `novoLancamento`. -/
def novoLancamento (db : Tesourarias) (id : Id) (dto : LancamentoDto) :
    Except Failure Tesourarias := do
  let t ← db.exigirAberta id
  failIf (t.kind ≠ .event)
    (badRequest
      "A congregação não tem lançamento manual: o que veio do banco já é o lançamento")
  failIf (!categoriaValida t.kind dto.type dto.category)
    (badRequest "Categoria que não é deste tipo")
  pure { db with
    entries := db.entries ++
      [{ id := db.nextId
         treasuryId := id
         type := dto.type
         category := dto.category
         description := trim dto.description
         amount := dto.amount
         date := dto.date
         movementId := none
         notInBankAt := none }]
    nextId := db.nextId + 1 }

/-- The status of a payment changes outside the treasury, on this day. -/
def mudarStatus (db : Tesourarias) (paymentId : Id) (status : PaymentStatus) (dia : Instant) :
    Tesourarias :=
  { db with
    payments := db.payments.map fun p => if p.id = paymentId then { p with status := status } else p
    diaDoPagamento := fun id => if id = paymentId then dia else db.diaDoPagamento id }

/-! ### Runs -/

inductive Acao where
  | distribuir (id : Id) (partes : List Parte)
  | devolver (id alocacaoId : Id)
  | conciliar (id movimentoId : Id) (lancamentoIds : List LancamentoId)
  | desfazer (id movimentoId : Id)
  | naoConsta (id : Id) (lancamentoIds : List LancamentoId) (quando : Option Instant)
  | novoLancamento (id : Id) (dto : LancamentoDto)
  | mudarStatus (paymentId : Id) (status : PaymentStatus) (dia : Instant)

/-- What an operation commits, or the exception it throws. -/
def executar (brl : Int → String) (db : Tesourarias) : Acao → Except Failure Tesourarias
  | .distribuir id partes => db.distribuir id partes
  | .devolver id alocacaoId => db.devolver id alocacaoId
  | .conciliar id movimentoId lancamentoIds => db.conciliar brl id movimentoId lancamentoIds
  | .desfazer id movimentoId => db.desfazer id movimentoId
  | .naoConsta id lancamentoIds quando => db.naoConsta id lancamentoIds quando
  | .novoLancamento id dto => db.novoLancamento id dto
  | .mudarStatus paymentId status dia => pure (db.mudarStatus paymentId status dia)

/-- One operation of a run: an exception leaves the tables as they were. -/
def agir (brl : Int → String) (db : Tesourarias) (acao : Acao) : Tesourarias :=
  match db.executar brl acao with
  | .ok depois => depois
  | .error _ => db

end Tesourarias

end IccvBackend
