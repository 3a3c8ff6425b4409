/-
Module: IccvBackend.Treasury.CashBook
Purpose: `tesouraria/lancamentos.service.ts`, `conciliacao.service.ts`, `conciliacao.ts` and
  `categorias.ts`: the cash book of the churches, typed and imported, and its reconciliation.
Trusted boundary: human-reviewed spec
Main exports: Lancamento, LivroCaixa, sugerirPares, lancamentoDaTransacao, criar, atualizar,
  remover, importar, listar, conciliar, conciliarSugeridos, desfazer, marcarNaoConsta,
  LivroCaixa.agir, Livros.agir
-/
import IccvBackend.Lib.Table
import IccvBackend.Treasury.Ledger

namespace IccvBackend

open Lib

/-!
The rows of `financial_entries` with the columns these services read.  Amounts are whole cents and a
day (`@db.Date`) is its midnight.  Who wrote a row and when it was reconciled are left out; so is
the period asked of the bank, whose answer is an input of `importar`.
-/

/-! ### Rows -/

inductive FinancialEntrySource where
  | manual
  | pluggy
deriving Repr, DecidableEq

inductive FinancialMethod where
  | pix
  | cash
  | card
  | transfer
  | boleto
  | other
deriving Repr, DecidableEq

inductive FinancialCategory where
  | tithe
  | offering
  | donation
  | eventIncome
  | otherIncome
  | utilities
  | rent
  | maintenance
  | salaries
  | supplies
  | missions
  | eventExpense
  | bankFees
  | otherExpense
deriving Repr, DecidableEq

/-- A row of `financial_entries`. -/
structure Lancamento where
  id : Id
  churchId : Id
  type : FinancialEntryType
  category : FinancialCategory
  amount : Int
  date : Instant
  description : String
  method : Option FinancialMethod
  userId : Option Id
  source : FinancialEntrySource
  externalId : Option String
  bankAccount : Option String
  payerName : Option String
  reconciledWithId : Option Id
  notInBankAt : Option Instant
  account : TreasuryAccount
  bankItemId : Option Id
  createdAt : Instant
deriving Repr, DecidableEq

/-- The columns of a user the cash book reads. -/
structure Membro where
  id : Id
  memberChurchId : Option Id
  cpf : String
  titheAmount : Option Int
deriving Repr, DecidableEq

structure LivroCaixa where
  lancamentos : List Lancamento
  membros : List Membro
  integracoes : Id → Option PluggyIntegration
  /-- what the treasuries got of the movements -/
  alocacoes : List TreasuryAllocation
  nextId : Id

/-! ### Days -/

/-- A day without hour, counted from the epoch. -/
abbrev Dia := Nat

def umDia : Nat := 86_400_000

/-- `paraDia`. -/
def paraDia (dia : Dia) : Instant := dia * umDia

/-- `doDia`. -/
def doDia (data : Instant) : Dia := data / umDia

/-! ### `categorias.ts` -/

/-- `CATEGORIAS_POR_TIPO`. -/
def categoriasPorTipo : FinancialEntryType → List FinancialCategory
  | .income => [.tithe, .offering, .donation, .eventIncome, .otherIncome]
  | .expense =>
      [.utilities, .rent, .maintenance, .salaries, .supplies, .missions, .eventExpense, .bankFees,
        .otherExpense]

def categoriaCabeNoTipo (categoria : FinancialCategory) (tipo : FinancialEntryType) : Bool :=
  categoria ∈ categoriasPorTipo tipo

/-- `SAIDAS_DA_PLUGGY`: the alternatives of each pattern, matched in any case. -/
def saidasDaPluggy : List (List String × FinancialCategory) :=
  [(["fee", "tarif"], .bankFees),
    (["utilit", "electric", "energy", "water", "telecom", "internet", "phone"], .utilities),
    (["rent", "aluguel"], .rent),
    (["salar", "payroll"], .salaries)]

/-- `FORMAS_DA_PLUGGY`. -/
def formasDaPluggy : List (String × FinancialMethod) :=
  [("PIX", .pix), ("TED", .transfer), ("DOC", .transfer), ("TEF", .transfer), ("BOLETO", .boleto)]

/-- A pattern of alternatives found in a text.  The flag `i` folds the case of ASCII letters
only. -/
def casa (padrao : List String) (texto : String) : Bool :=
  padrao.any fun alternativa => 1 < (texto.toLower.splitOn alternativa).length

inductive SentidoDaTransacao where
  | credit
  | debit
deriving Repr, DecidableEq

/-- A transaction of the bank.  `date` is its day in Brasília. -/
structure TransacaoDoBanco where
  id : String
  date : Dia
  description : String
  amount : Int
  type : SentidoDaTransacao
  category : Option String
  paymentMethod : Option String
  payerName : Option String
  payerDocument : Option String
  conta : String
  itemId : Id
deriving Repr, DecidableEq

structure DizimistaDoCpf where
  userId : Id
  valor : Option Int
deriving Repr, DecidableEq

/-- What a transaction says of its entry. -/
structure LancamentoDaTransacao where
  type : FinancialEntryType
  category : FinancialCategory
  amount : Int
  date : Instant
  description : String
  method : Option FinancialMethod
  userId : Option Id
  externalId : String
  bankAccount : String
  payerName : Option String
deriving Repr, DecidableEq

/-- The category of a transaction, and of the tither found by its CPF. -/
def categoriaDaTransacao (t : TransacaoDoBanco) (dizimista : Option DizimistaDoCpf) :
    FinancialCategory :=
  match t.type with
  | .credit =>
      match dizimista with
      | some d =>
          match d.valor with
          | none => .tithe
          | some valor => if t.amount = valor then .tithe else .offering
      | none => .otherIncome
  | .debit =>
      ((saidasDaPluggy.find? fun saida => casa saida.1 (t.category.getD "")).map Prod.snd).getD
        .otherExpense

/-- `lancamentoDaTransacao`. -/
def lancamentoDaTransacao (t : TransacaoDoBanco)
    (dizimistaPorCpf : String → Option DizimistaDoCpf) :
    LancamentoDaTransacao :=
  let dizimista := match t.type with
    | .credit => t.payerDocument.bind dizimistaPorCpf
    | .debit => none
  { type := match t.type with
      | .credit => .income
      | .debit => .expense
    category := categoriaDaTransacao t dizimista
    amount := t.amount
    date := paraDia t.date
    description := t.description
    method := (formasDaPluggy.find? fun forma => forma.1 = t.paymentMethod.getD "").map Prod.snd
    userId := dizimista.map DizimistaDoCpf.userId
    externalId := t.id
    bankAccount := t.conta
    payerName := t.payerName }

/-! ### `conciliacao.ts` -/

/-- `TOLERANCIA_DIAS`. -/
def toleranciaDias : Nat := 3

/-- `diasEntre`. -/
def diasEntre (a b : Dia) : Nat := (a - b) + (b - a)

/-- A candidate pair.  `nota` counts half days. -/
structure Candidato where
  bancoId : Id
  manualId : Id
  nota : Int
deriving Repr, DecidableEq

structure Par where
  bancoId : Id
  manualId : Id
deriving Repr, DecidableEq

/-- The candidate two entries make, if any. -/
def candidato? (b m : Lancamento) : Option Candidato :=
  let dias := diasEntre (doDia b.date) (doDia m.date)
  if b.type ≠ m.type || b.amount ≠ m.amount then none
  else if toleranciaDias < dias then none
  else
    let mesmoDizimista : Int := if b.userId.isSome && b.userId = m.userId then 1 else 0
    some ⟨b.id, m.id, 2 * dias - mesmoDizimista⟩

/-- The pairs taken from the candidates in order: an entry goes into one pair only. -/
def escolher : List Candidato → List Id → List Par
  | [], _ => []
  | c :: candidatos, usados =>
      if c.bancoId ∈ usados || c.manualId ∈ usados then escolher candidatos usados
      else ⟨c.bancoId, c.manualId⟩ :: escolher candidatos (c.manualId :: c.bancoId :: usados)

/-- `sugerirPares`. -/
def sugerirPares (banco manuais : List Lancamento) : List Par :=
  let candidatos := banco.flatMap fun b => manuais.filterMap fun m => candidato? b m
  escolher (candidatos.insertionSort fun x y => x.nota ≤ y.nota) []

/-! ### Requests -/

/-- `CreateEntryDto`. -/
structure CreateEntryDto where
  type : FinancialEntryType
  category : FinancialCategory
  amount : Int
  date : Dia
  description : String
  method : Option FinancialMethod
  userId : Option Id
deriving Repr, DecidableEq

/-- `UpdateEntryDto`: the fields that came.  `method` and `userId` may come as null. -/
structure UpdateEntryDto where
  type : Option FinancialEntryType
  category : Option FinancialCategory
  amount : Option Int
  date : Option Dia
  description : Option String
  method : Option (Option FinancialMethod)
  userId : Option (Option Id)
deriving Repr, DecidableEq

/-- The clock of a list: today, and the first day of this month. -/
structure Relogio where
  hoje : Dia
  inicioDoMes : Dia
deriving Repr, DecidableEq

namespace LivroCaixa

variable (db : LivroCaixa)

/-! ### `lancamentos.service.ts` -/

/-- `financialEntry.update`: of a row that is there. -/
def update (id : Id) (f : Lancamento → Lancamento) : Except Failure LivroCaixa := do
  let _ ← orFail (lookup Lancamento.id id db.lancamentos) (internalServerError "P2025")
  pure { db with lancamentos := updateKey Lancamento.id id f db.lancamentos }

/-- `findFirst` by id and church. -/
def doLivro? (churchId id : Id) : Option Lancamento :=
  (lookup Lancamento.id id db.lancamentos).filter fun l => l.churchId = churchId

/-- `exigir`. -/
def exigir (churchId id : Id) : Except Failure Lancamento :=
  orFail (db.doLivro? churchId id) (notFound "Lançamento não encontrado")

/-- `conferirCategoria`. -/
def conferirCategoria (categoria : FinancialCategory) (tipo : FinancialEntryType) :
    Except Failure Unit :=
  failIf (!categoriaCabeNoTipo categoria tipo)
    (badRequest
      (if tipo = .income then "Esta categoria é de saída, e o lançamento é uma entrada"
      else "Esta categoria é de entrada, e o lançamento é uma saída"))

/-- The person is a member of the church. -/
def ehMembro (churchId userId : Id) : Bool :=
  db.membros.any fun m => m.id = userId && m.memberChurchId = some churchId

/-- `conferirDizimista`. -/
def conferirDizimista (churchId : Id) (userId : Option Id) : Except Failure Unit :=
  failIf (userId.any fun userId => !db.ehMembro churchId userId)
    (badRequest "Esta pessoa não é membro desta igreja")

/-- `criar`. -/
def criar (churchId : Id) (dto : CreateEntryDto) (agora : Instant) : Except Failure LivroCaixa := do
  conferirCategoria dto.category dto.type
  db.conferirDizimista churchId dto.userId
  pure { db with
    lancamentos := db.lancamentos ++
      [{ id := db.nextId
         churchId := churchId
         type := dto.type
         category := dto.category
         amount := dto.amount
         date := paraDia dto.date
         description := trim dto.description
         method := dto.method
         userId := dto.userId
         source := .manual
         externalId := none
         bankAccount := none
         payerName := none
         reconciledWithId := none
         notInBankAt := none
         account := .administrative
         bankItemId := none
         createdAt := agora }]
    nextId := db.nextId + 1 }

/-- `TRAVADOS_NO_IMPORTADO`: the request changes a field that the bank defines. -/
def mexeuNoTravado (atual : Lancamento) (dto : UpdateEntryDto) : Bool :=
  dto.type.any (fun tipo => atual.type ≠ tipo) ||
    dto.amount.any (fun valor => atual.amount ≠ valor) ||
    dto.date.any (fun dia => doDia atual.date ≠ dia) ||
    dto.method.any (fun forma => atual.method ≠ forma)

/-- What `atualizar` writes. -/
def editar (dto : UpdateEntryDto) (atual : Lancamento) : Lancamento :=
  let comOsDaPessoa := match atual.source with
    | .manual =>
        { atual with
          type := dto.type.getD atual.type
          amount := dto.amount.getD atual.amount
          date := (dto.date.map paraDia).getD atual.date
          method := dto.method.getD atual.method }
    | .pluggy => atual
  { comOsDaPessoa with
    category := dto.category.getD atual.category
    description := (dto.description.map trim).getD atual.description
    userId := dto.userId.getD atual.userId }

/-- `atualizar`. -/
def atualizar (churchId id : Id) (dto : UpdateEntryDto) : Except Failure LivroCaixa := do
  let atual ← db.exigir churchId id
  failIf (atual.source = .pluggy ∧ mexeuNoTravado atual dto)
    (badRequest
      "Lançamento importado do banco: valor, data, tipo e forma vêm do extrato e não mudam")
  let tipo := dto.type.getD atual.type
  conferirCategoria (dto.category.getD atual.category) tipo
  db.conferirDizimista churchId dto.userId.join
  db.update id (editar dto)

/-- `remover`. -/
def remover (churchId id : Id) : Except Failure LivroCaixa := do
  let atual ← db.exigir churchId id
  failIf (atual.source = .pluggy)
    (badRequest
      "Lançamento importado do banco não pode ser apagado: ajuste a categoria ou a descrição")
  pure { db with lancamentos := deleteKey Lancamento.id id db.lancamentos }

/-- The tither of a CPF, of the members of the church: the last one in the map. -/
def porCpf (churchId : Id) (documento : String) : Option DizimistaDoCpf :=
  ((db.membros.filter fun m => m.memberChurchId = some churchId).reverse.find? fun m =>
    String.ofList (m.cpf.toList.filter Char.isDigit) = documento).map fun m =>
      ⟨m.id, m.titheAmount⟩

/-- The row `importar` asks for a transaction. -/
def linhaImportada (churchId : Id) (integracao : PluggyIntegration) (agora : Instant)
    (t : TransacaoDoBanco) (id : Id) : Lancamento :=
  let account := contaDoBanco integracao t.itemId
  let lancamento := lancamentoDaTransacao t (db.porCpf churchId)
  { id := id
    churchId := churchId
    type := lancamento.type
    category :=
      if account = .administrative then lancamento.category
      else if lancamento.type = .income then .otherIncome else .otherExpense
    amount := lancamento.amount
    date := lancamento.date
    description := lancamento.description
    method := lancamento.method
    userId := if account = .administrative then lancamento.userId else none
    source := .pluggy
    externalId := some lancamento.externalId
    bankAccount := some lancamento.bankAccount
    payerName := lancamento.payerName
    reconciledWithId := none
    notInBankAt := none
    account := account
    bankItemId := some t.itemId
    createdAt := agora }

/-- One row of `createMany` with `skipDuplicates`: the external id is unique in the church. -/
def inserirNova (nova : Id → Lancamento) : LivroCaixa :=
  if db.lancamentos.any fun l =>
      l.churchId = (nova db.nextId).churchId && l.externalId.isSome &&
        l.externalId = (nova db.nextId).externalId then db
  else { db with lancamentos := db.lancamentos ++ [nova db.nextId], nextId := db.nextId + 1 }

/-- `importar`, with what `pluggy.transacoes` answered. -/
def importar (churchId : Id) (transacoes : Except Failure (List TransacaoDoBanco))
    (agora : Instant) : Except Failure LivroCaixa := do
  let integracao ← orFail (db.integracoes churchId)
    (notFound ("A Pluggy não está configurada nesta igreja. " ++
      "Configure em Configurações › Integrações."))
  let transacoes ← transacoes
  pure (transacoes.foldl
    (fun atual t => atual.inserirNova (db.linhaImportada churchId integracao agora t)) db)

/-! ### `conciliacao.service.ts` -/

/-- `reconciledBy`: the manual entry reconciled with a bank one. -/
def reconciledBy (bancoId : Id) : Option Lancamento :=
  db.lancamentos.find? fun l => l.reconciledWithId = some bancoId

/-- `conciliado` of `paraTela`. -/
def conciliado (l : Lancamento) : Bool :=
  l.reconciledWithId.isSome || (db.reconciledBy l.id).isSome

/-- `conciliadoCom` of `paraTela`. -/
def conciliadoCom (l : Lancamento) : Option Id :=
  l.reconciledWithId <|> (db.reconciledBy l.id).map Lancamento.id

end LivroCaixa

inductive EstadoDaLinha where
  | conciliado
  | sugerido
  | soBanco
  | soManual
  | naoConsta
deriving Repr, DecidableEq

/-- `ORDEM`. -/
def EstadoDaLinha.ordem : EstadoDaLinha → Nat
  | .sugerido => 0
  | .soBanco => 1
  | .soManual => 2
  | .naoConsta => 3
  | .conciliado => 4

structure LinhaDaConciliacao where
  estado : EstadoDaLinha
  banco : Option Lancamento
  manual : Option Lancamento
deriving Repr, DecidableEq

/-- The day a line is sorted by. -/
def LinhaDaConciliacao.data (linha : LinhaDaConciliacao) : Dia :=
  doDia (((linha.banco <|> linha.manual).map Lancamento.date).getD 0)

/-- What asks for action first, and the latest first in each group. -/
def LinhaDaConciliacao.antes (a b : LinhaDaConciliacao) : Prop :=
  a.estado.ordem < b.estado.ordem ∨ (a.estado.ordem = b.estado.ordem ∧ b.data ≤ a.data)

instance : DecidableRel LinhaDaConciliacao.antes := fun _ _ =>
  inferInstanceAs (Decidable (_ ∨ _))

namespace LivroCaixa

variable (db : LivroCaixa)

/-- `periodo`. -/
def periodo (relogio : Relogio) (de ate : Option Dia) : Except Failure (Dia × Dia) := do
  let inicio := de.getD relogio.inicioDoMes
  let fim := ate.getD relogio.hoje
  failIf (fim < inicio) (badRequest "O início do período é depois do fim")
  pure (inicio, fim)

/-- The entries of the period in the account of the Administrativa that no treasury got a part
of. -/
def doPeriodo (churchId : Id) (de ate : Dia) : List Lancamento :=
  (db.lancamentos.filter fun l =>
    l.churchId = churchId && l.account = .administrative &&
      (db.alocacoes.all fun a => a.entryId ≠ l.id) &&
      paraDia de ≤ l.date && l.date ≤ paraDia ate).insertionSort
    fun a b => b.date < a.date ∨ (b.date = a.date ∧ b.createdAt ≤ a.createdAt)

/-- The other side of the pairs of the period. -/
def deFora (churchId : Id) (doPeriodo : List Lancamento) : List Lancamento :=
  db.lancamentos.filter fun l =>
    l.churchId = churchId && (doPeriodo.any fun outro => db.conciliadoCom outro = some l.id) &&
      doPeriodo.all fun outro => outro.id ≠ l.id

/-- The lines of `listar`, before they are sorted. -/
def linhas (todos : List Lancamento) : List LinhaDaConciliacao :=
  let porId := fun id => lookup Lancamento.id id todos
  let banco := todos.filter fun l => l.source = .pluggy
  let manuais := todos.filter fun l => l.source = .manual
  let bancoPendente := banco.filter fun b => !db.conciliado b
  let manualPendente := manuais.filter fun m => !db.conciliado m && m.notInBankAt.isNone
  let sugeridos := sugerirPares bancoPendente manualPendente
  let sugerido := fun id => sugeridos.any fun p => p.bancoId = id || p.manualId = id
  (manuais.filterMap fun m => (db.conciliadoCom m).map fun id => ⟨.conciliado, porId id, some m⟩) ++
  (sugeridos.map fun par => ⟨.sugerido, porId par.bancoId, porId par.manualId⟩) ++
  ((bancoPendente.filter fun b => !sugerido b.id).map fun b => ⟨.soBanco, some b, none⟩) ++
  ((manualPendente.filter fun m => !sugerido m.id).map fun m => ⟨.soManual, none, some m⟩) ++
  ((manuais.filter fun m => !db.conciliado m && m.notInBankAt.isSome).map fun m =>
    ⟨.naoConsta, none, some m⟩)

/-- `listar`. -/
def listar (churchId : Id) (relogio : Relogio) (de ate : Option Dia) :
    Except Failure (List LinhaDaConciliacao) := do
  let (inicio, fim) ← periodo relogio de ate
  let doPeriodo := db.doPeriodo churchId inicio fim
  pure ((db.linhas (doPeriodo ++ db.deFora churchId doPeriodo)).insertionSort
    LinhaDaConciliacao.antes)

/-- The checks of `conciliar` on the two entries read. -/
def conferirPar (banco manual : Option Lancamento) (reconciledBy : Option Lancamento) :
    Except Failure (Lancamento × Lancamento) := do
  let banco ← orFail banco (notFound "Lançamento não encontrado")
  let manual ← orFail manual (notFound "Lançamento não encontrado")
  failIf (banco.source ≠ .pluggy)
    (badRequest "O lado do banco precisa ser um lançamento importado do extrato")
  failIf (manual.source ≠ .manual) (badRequest "O outro lado precisa ser um lançamento manual")
  failIf (banco.type ≠ manual.type)
    (badRequest "Entrada só concilia com entrada, e saída com saída")
  failIf (reconciledBy.isSome || manual.reconciledWithId.isSome)
    (conflict "Um dos dois já está conciliado")
  pure (banco, manual)

/-- The update of the manual entry: `reconciledWithId` is unique in the table. -/
def ligar (manualId bancoId : Id) : Except Failure LivroCaixa := do
  failIf (db.lancamentos.any fun l => l.reconciledWithId = some bancoId && l.id ≠ manualId)
    (conflict "Esta transação do banco já foi conciliada")
  db.update manualId fun m => { m with reconciledWithId := some bancoId, notInBankAt := none }

/-- The update of the bank entry, with the manual and the bank entry as they were read. -/
def herdar (banco manual : Lancamento) : Except Failure LivroCaixa :=
  db.update banco.id fun b =>
    { b with category := manual.category, userId := manual.userId <|> banco.userId }

/-- `conciliar`. -/
def conciliar (churchId bancoId manualId : Id) : Except Failure LivroCaixa := do
  let (banco, manual) ← conferirPar (db.doLivro? churchId bancoId) (db.doLivro? churchId manualId)
    (db.reconciledBy bancoId)
  let ligado ← db.ligar manual.id banco.id
  ligado.herdar banco manual

/-- The loop of `conciliarSugeridos`: an exception ends it, and what was reconciled stays. -/
def conciliarLinhas (churchId : Id) : LivroCaixa → List LinhaDaConciliacao → LivroCaixa
  | db, [] => db
  | db, linha :: linhas =>
      match linha.estado, linha.banco, linha.manual with
      | .sugerido, some banco, some manual =>
          match db.conciliar churchId banco.id manual.id with
          | .ok depois => conciliarLinhas churchId depois linhas
          | .error _ => db
      | _, _, _ => conciliarLinhas churchId db linhas

/-- `conciliarSugeridos`. -/
def conciliarSugeridos (churchId : Id) (relogio : Relogio) (de ate : Option Dia) :
    Except Failure LivroCaixa := do
  let linhas ← db.listar churchId relogio de ate
  pure (db.conciliarLinhas churchId linhas)

/-- The read of `desfazer`. -/
def conciliado? (churchId manualId : Id) : Except Failure Lancamento :=
  orFail ((db.doLivro? churchId manualId).filter fun m => m.reconciledWithId.isSome)
    (notFound "Conciliação não encontrada")

/-- The update of `desfazer`. -/
def desligar (manualId : Id) : Except Failure LivroCaixa :=
  db.update manualId fun m => { m with reconciledWithId := none }

/-- `desfazer`. -/
def desfazer (churchId manualId : Id) : Except Failure LivroCaixa := do
  let _ ← db.conciliado? churchId manualId
  db.desligar manualId

/-- `marcarNaoConsta`. -/
def marcarNaoConsta (churchId manualId : Id) (naoConsta : Bool) (agora : Instant) :
    Except Failure LivroCaixa := do
  let manual ← db.exigir churchId manualId
  failIf (manual.source ≠ .manual) (badRequest "Só o lançamento manual pode não constar no banco")
  failIf manual.reconciledWithId.isSome
    (conflict "Este lançamento está conciliado: desfaça a conciliação antes")
  db.update manualId fun m => { m with notInBankAt := if naoConsta then some agora else none }

/-! ### Runs -/

inductive Acao where
  | criar (churchId : Id) (dto : CreateEntryDto) (agora : Instant)
  | atualizar (churchId id : Id) (dto : UpdateEntryDto)
  | remover (churchId id : Id)
  | importar (churchId : Id) (transacoes : Except Failure (List TransacaoDoBanco)) (agora : Instant)
  | conciliar (churchId bancoId manualId : Id)
  | desfazer (churchId manualId : Id)
  | conciliarSugeridos (churchId : Id) (relogio : Relogio) (de ate : Option Dia)
  | marcarNaoConsta (churchId manualId : Id) (naoConsta : Bool) (agora : Instant)

/-- What an operation leaves in the tables, or the exception it throws before it writes. -/
def executar : Acao → Except Failure LivroCaixa
  | .criar churchId dto agora => db.criar churchId dto agora
  | .atualizar churchId id dto => db.atualizar churchId id dto
  | .remover churchId id => db.remover churchId id
  | .importar churchId transacoes agora => db.importar churchId transacoes agora
  | .conciliar churchId bancoId manualId => db.conciliar churchId bancoId manualId
  | .desfazer churchId manualId => db.desfazer churchId manualId
  | .conciliarSugeridos churchId relogio de ate => db.conciliarSugeridos churchId relogio de ate
  | .marcarNaoConsta churchId manualId naoConsta agora =>
      db.marcarNaoConsta churchId manualId naoConsta agora

/-- One operation of a run. -/
def agir (acao : Acao) : LivroCaixa :=
  match db.executar acao with
  | .ok depois => depois
  | .error _ => db

end LivroCaixa

/-! ### The two books

The Administrativa reconciles entries of the cash book, and the treasuries of the same church
distribute the bank movements of it. -/

/-- The cash book of the churches and the treasuries of one of them.  The movements and the
allocations of the treasuries are those of the cash book. -/
structure Livros where
  caixa : LivroCaixa
  tesourarias : Tesourarias

/-- The movement a row is to the treasuries. -/
def Lancamento.movimento (l : Lancamento) : FinancialEntry where
  id := l.id
  churchId := l.churchId
  type := l.type
  amount := l.amount
  date := l.date
  description := l.description
  payerName := l.payerName
  bankAccount := l.bankAccount
  account := l.account

namespace Livros

variable (s : Livros)

/-- The tables as the treasuries read them. -/
def vistaDasTesourarias : Tesourarias :=
  { s.tesourarias with
    integracao := s.caixa.integracoes s.tesourarias.churchId
    movimentos := (s.caixa.lancamentos.filter fun l => l.source = .pluggy).map Lancamento.movimento
    alocacoes := s.caixa.alocacoes }

inductive Acao where
  | conciliar (churchId bancoId manualId : Id)
  | desfazer (churchId manualId : Id)
  | distribuir (id : Id) (partes : List Parte)
  | devolver (id alocacaoId : Id)
  | conciliarNaTesouraria (id movimentoId : Id) (lancamentoIds : List LancamentoId)
  | desfazerNaTesouraria (id movimentoId : Id)

/-- An operation of the cash book. -/
def noCaixa (caixa : Except Failure LivroCaixa) : Except Failure Livros :=
  caixa.map fun caixa => { s with caixa := caixa }

/-- An operation of the treasuries. -/
def nasTesourarias (tesourarias : Except Failure Tesourarias) : Except Failure Livros :=
  tesourarias.map fun t =>
    { caixa := { s.caixa with alocacoes := t.alocacoes }, tesourarias := t }

def executar (brl : Int → String) (s : Livros) : Acao → Except Failure Livros
  | .conciliar churchId bancoId manualId => s.noCaixa (s.caixa.conciliar churchId bancoId manualId)
  | .desfazer churchId manualId => s.noCaixa (s.caixa.desfazer churchId manualId)
  | .distribuir id partes => s.nasTesourarias (s.vistaDasTesourarias.distribuir id partes)
  | .devolver id alocacaoId => s.nasTesourarias (s.vistaDasTesourarias.devolver id alocacaoId)
  | .conciliarNaTesouraria id movimentoId lancamentoIds =>
      s.nasTesourarias (s.vistaDasTesourarias.conciliar brl id movimentoId lancamentoIds)
  | .desfazerNaTesouraria id movimentoId =>
      s.nasTesourarias (s.vistaDasTesourarias.desfazer id movimentoId)

/-- One operation of a run: an exception leaves the tables as they were. -/
def agir (brl : Int → String) (s : Livros) (acao : Acao) : Livros :=
  match s.executar brl acao with
  | .ok depois => depois
  | .error _ => s

end Livros

end IccvBackend
