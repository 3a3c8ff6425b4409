/-
Module: IccvBackend.Prisma.Audit
Purpose: The audit middleware of `prisma/prisma.service.ts` on `Payment`, inside and outside
  interactive transactions, and the trail of money it writes.
Trusted boundary: human-reviewed spec
Main exports: Retrato, Operacao, applyUpdateData, nothingChanged, parearPorId,
  registrarNaTesouraria, Auditoria.Chamada, Auditoria.Estado, Auditoria.operar, Auditoria.executar,
  Auditoria.step
-/
import IccvBackend.Lib.Transitions
import IccvBackend.Prisma.Schema

namespace IccvBackend

/-!
The middleware takes a snapshot before the operation, lets it run, takes one after it, and writes a
line for each payment found in either.  Its own reads and its log go through the root client: they
see what is committed and nothing of an open transaction.

A table is the row of each id.  An interactive transaction is the rows it wrote and did not commit
yet.  It holds the lock of those rows: an operation of anybody else that addresses one of them waits
for the transaction to end, and then runs.  The snapshot before is older than that: the middleware
takes it when the call begins, and anything may be written before the operation runs.  What the
operation writes, the snapshot after it and the lines of the trail are one step.  Of a `PaymentLog`
row what comes from the request (`source`, `actorId`, `operation`, `requestId`) and the field by
field `changes` are left out.
-/

/-! ### Snapshots -/

/-- A payment as an object in the hands of the middleware.  A field that the object does not have,
or has as `undefined`, is `none`.  `relacoes` is there when the caller asked for relations. -/
structure Retrato where
  id : Option Id
  userId : Option (Option Id)
  eventId : Option (Option Id)
  roleRegistrationId : Option (Option Id)
  amount : Option ℚ
  status : Option PaymentStatus
  method : Option PaymentMethod
  receivedFrom : Option PaymentReceived
  payload : Option (Option Json)
  relacoes : Bool
deriving DecidableEq

/-- The whole row, without its timestamps (`withoutTimestamps`). -/
def Retrato.de (p : Payment) : Retrato where
  id := some p.id
  userId := some p.userId
  eventId := some p.eventId
  roleRegistrationId := some p.roleRegistrationId
  amount := some p.amount
  status := some p.status
  method := some p.method
  receivedFrom := some p.receivedFrom
  payload := some p.payload
  relacoes := false

/-- The columns a `select` names. -/
structure Colunas where
  id : Bool := false
  userId : Bool := false
  eventId : Bool := false
  roleRegistrationId : Bool := false
  amount : Bool := false
  status : Bool := false
  method : Bool := false
  receivedFrom : Bool := false
  payload : Bool := false
deriving DecidableEq

/-- What the caller asks to have returned: the row, the row with relations (`include`), or some
columns of it (`select`). -/
inductive Selecao where
  | inteira
  | comRelacoes
  | select (colunas : Colunas)
deriving DecidableEq

/-- The object a `create` or an `update` returns. -/
def Selecao.recortar : Selecao → Retrato → Retrato
  | .inteira, r => r
  | .comRelacoes, r => { r with relacoes := true }
  | .select c, r =>
      { id := if c.id then r.id else none
        userId := if c.userId then r.userId else none
        eventId := if c.eventId then r.eventId else none
        roleRegistrationId := if c.roleRegistrationId then r.roleRegistrationId else none
        amount := if c.amount then r.amount else none
        status := if c.status then r.status else none
        method := if c.method then r.method else none
        receivedFrom := if c.receivedFrom then r.receivedFrom else none
        payload := if c.payload then r.payload else none
        relacoes := false }

/-! ### Operations -/

/-- What a request asks for one column.  `operador` is a value in the format of a write operator
(`ehOperador`): what gets stored is for the database to compute, as in `{ increment: 1 }`. -/
inductive Escrita (α : Type) where
  | ausente
  | indefinido
  | valor (v : α)
  | operador (f : α → α)

namespace Escrita

variable {α : Type}

/-- What the database stores in the column.  Prisma skips `undefined`. -/
def gravar : Escrita α → α → α
  | .ausente, atual => atual
  | .indefinido, atual => atual
  | .valor v, _ => v
  | .operador f, atual => f atual

/-- `{ ...row, ...data }` at one column. -/
def sobrepor : Escrita α → Option α → Option α
  | .ausente, atual => atual
  | .indefinido, _ => none
  | .valor v, _ => some v
  | .operador _, atual => atual

def ehOperador : Escrita α → Bool
  | .operador _ => true
  | _ => false

def ehIndefinido : Escrita α → Bool
  | .indefinido => true
  | _ => false

end Escrita

/-- The `data` of an update.  No caller writes the id. -/
structure DadosDaCobranca where
  userId : Escrita (Option Id) := .ausente
  eventId : Escrita (Option Id) := .ausente
  roleRegistrationId : Escrita (Option Id) := .ausente
  amount : Escrita ℚ := .ausente
  status : Escrita PaymentStatus := .ausente
  method : Escrita PaymentMethod := .ausente
  receivedFrom : Escrita PaymentReceived := .ausente
  payload : Escrita (Option Json) := .ausente

namespace DadosDaCobranca

/-- The row after the `UPDATE`. -/
def gravar (d : DadosDaCobranca) (p : Payment) : Payment :=
  { p with
    userId := d.userId.gravar p.userId
    eventId := d.eventId.gravar p.eventId
    roleRegistrationId := d.roleRegistrationId.gravar p.roleRegistrationId
    amount := d.amount.gravar p.amount
    status := d.status.gravar p.status
    method := d.method.gravar p.method
    receivedFrom := d.receivedFrom.gravar p.receivedFrom
    payload := d.payload.gravar p.payload }

/-- `{ ...row, ...data }`. -/
def sobrepor (d : DadosDaCobranca) (r : Retrato) : Retrato :=
  { r with
    userId := d.userId.sobrepor r.userId
    eventId := d.eventId.sobrepor r.eventId
    roleRegistrationId := d.roleRegistrationId.sobrepor r.roleRegistrationId
    amount := d.amount.sobrepor r.amount
    status := d.status.sobrepor r.status
    method := d.method.sobrepor r.method
    receivedFrom := d.receivedFrom.sobrepor r.receivedFrom
    payload := d.payload.sobrepor r.payload }

/-- `Object.values(data).some(ehOperador)`. -/
def temOperador (d : DadosDaCobranca) : Bool :=
  d.userId.ehOperador || d.eventId.ehOperador || d.roleRegistrationId.ehOperador ||
    d.amount.ehOperador || d.status.ehOperador || d.method.ehOperador ||
    d.receivedFrom.ehOperador || d.payload.ehOperador

@[simp] theorem gravar_id (d : DadosDaCobranca) (p : Payment) : (d.gravar p).id = p.id := rfl

@[simp] theorem sobrepor_id (d : DadosDaCobranca) (r : Retrato) : (d.sobrepor r).id = r.id := rfl

end DadosDaCobranca

/-- The operations on `Payment`.  A filter is a predicate of the stored row; the one of `update` and
`delete` is of a unique key. -/
inductive Operacao where
  | create (data : Payment) (selecao : Selecao)
  | update (filtro : Payment → Bool) (data : DadosDaCobranca) (selecao : Selecao)
  | updateMany (filtro : Payment → Bool) (data : DadosDaCobranca)
  | delete (filtro : Payment → Bool)
  | deleteMany (filtro : Payment → Bool)

inductive Acao where
  | create
  | update
  | updateMany
  | delete
  | deleteMany
deriving DecidableEq

def Operacao.action : Operacao → Acao
  | .create .. => .create
  | .update .. => .update
  | .updateMany .. => .updateMany
  | .delete .. => .delete
  | .deleteMany .. => .deleteMany

/-! ### What changed -/

/-- `applyUpdateData`: the snapshot after an `updateMany`, computed.  Null when the request has an
operator. -/
def applyUpdateData (before : List Retrato) (data : DadosDaCobranca) : Option (List Retrato) :=
  if data.temOperador then none else some (before.map data.sobrepor)

/-- `nothingChanged`. -/
def nothingChanged (before after : Option (List Retrato)) : Bool :=
  match before, after with
  | some antes, some depois => antes = depois
  | _, _ => false

/-- The key under which `parearPorId` files a row: its id, or its place in the list. -/
inductive Chave where
  | id (i : Id)
  | indice (n : Nat)
deriving DecidableEq

def chave (indice : Nat) (row : Retrato) : Chave :=
  match row.id with
  | some i => .id i
  | none => .indice indice

/-- The rows of a snapshot under their keys. -/
def comChave : Nat → List Retrato → List (Chave × Retrato)
  | _, [] => []
  | indice, row :: rows => (chave indice row, row) :: comChave (indice + 1) rows

/-- What is filed under a key: of two rows with one key, the last. -/
def arquivado (c : Chave) (rows : List (Chave × Retrato)) : Option Retrato :=
  (rows.reverse.find? fun linha => linha.1 = c).map Prod.snd

/-- `parearPorId`. -/
def parearPorId (before after : List Retrato) : List (Option Retrato × Option Retrato) :=
  let antes := comChave 0 before
  let depois := comChave 0 after
  (antes.map Prod.fst ++ depois.map Prod.fst).eraseDups.map fun c =>
    (arquivado c antes, arquivado c depois)

/-- A row of `PaymentLog`. -/
structure Linha where
  paymentId : Option Id
  userId : Option Id
  eventId : Option Id
  action : Acao
  entityId : Option Id
  amountBefore : Option ℚ
  amountAfter : Option ℚ
  statusBefore : Option PaymentStatus
  statusAfter : Option PaymentStatus
deriving DecidableEq

/-- The line of a pair. -/
def linhaDoPar (action : Acao) (par : Option Retrato × Option Retrato) : Linha :=
  let alvo := par.2.or par.1
  { paymentId := alvo.bind Retrato.id
    userId := (alvo.bind Retrato.userId).join
    eventId := (alvo.bind Retrato.eventId).join
    action := action
    entityId := alvo.bind Retrato.id
    amountBefore := par.1.bind Retrato.amount
    amountAfter := par.2.bind Retrato.amount
    statusBefore := par.1.bind Retrato.status
    statusAfter := par.2.bind Retrato.status }

/-- `registrarNaTesouraria`.  `comoLista` of null is the empty list. -/
def registrarNaTesouraria (action : Acao) (before after : Option (List Retrato)) : List Linha :=
  (parearPorId (before.getD []) (after.getD [])).map (linhaDoPar action)

namespace Auditoria

/-! ### The database -/

/-- The row of each id. -/
abbrev Tabela := Id → Option Payment

/-- The number of an interactive transaction. -/
abbrev Transacao := Nat

/-- `findMany`, over the ids handed out so far. -/
def findMany (proximoId : Id) (tabela : Tabela) (filtro : Payment → Bool) : List Payment :=
  ((List.range proximoId).filterMap tabela).filter filtro

/-- A line of the trail and the transaction the operation it tells of ran in. -/
structure Registro where
  transacao : Option Transacao
  linha : Linha
deriving DecidableEq

/-- An operation on its way through the middleware, with the rows that the root client saw
before. -/
structure Chamada where
  autor : Option Transacao
  op : Operacao
  vistos : List Payment

/-- `rascunho` is what each open transaction wrote: the new row of an id, or its removal.
`desfeitas` are the transactions that were rolled back. -/
structure Estado where
  proximoId : Id
  gravado : Tabela
  proximaTransacao : Transacao
  abertas : List Transacao
  rascunho : Transacao → Id → Option (Option Payment)
  desfeitas : List Transacao
  chamadas : List Chamada
  log : List Registro

def Estado.vazio : Estado where
  proximoId := 0
  gravado := fun _ => none
  proximaTransacao := 0
  abertas := []
  rascunho := fun _ _ => none
  desfeitas := []
  chamadas := []
  log := []

/-- The table as a client sees it: the root client, or one inside a transaction. -/
def Estado.visao (s : Estado) : Option Transacao → Tabela
  | none => s.gravado
  | some t => fun i => (s.rascunho t i).getD (s.gravado i)

/-- No other transaction holds the lock of the row. -/
def Estado.livre (s : Estado) (autor : Option Transacao) (i : Id) : Bool :=
  s.abertas.all fun u => some u = autor || (s.rascunho u i).isNone

/-- The rows an operation addresses in a table. -/
def alvos (proximoId : Id) (tabela : Tabela) : Operacao → List Payment
  | .create _ _ => []
  | .update filtro _ _ | .delete filtro => (findMany proximoId tabela filtro).take 1
  | .updateMany filtro _ | .deleteMany filtro => findMany proximoId tabela filtro

/-- `update` and `delete` of a row that does not exist throw. -/
def recusada (op : Operacao) (enderecados : List Payment) : Bool :=
  match op with
  | .update .. | .delete .. => enderecados.isEmpty
  | _ => false

/-- The rows an operation leaves behind, by id. -/
def escritas (proximoId : Id) (enderecados : List Payment) : Operacao → List (Id × Option Payment)
  | .create data _ => [(proximoId, some { data with id := proximoId })]
  | .update _ data _ | .updateMany _ data =>
      enderecados.map fun p => (p.id, some (data.gravar p))
  | .delete _ | .deleteMany _ => enderecados.map fun p => (p.id, none)

/-- A `create` takes a new id, also when its transaction is rolled back later. -/
def proximoIdDepois (proximoId : Id) : Operacao → Id
  | .create .. => proximoId + 1
  | _ => proximoId

/-- Writes in the table, or in what the transaction keeps. -/
def Estado.gravar (s : Estado) (autor : Option Transacao) (novas : List (Id × Option Payment)) :
    Estado :=
  match autor with
  | none => { s with gravado := fun i => (novas.lookup i).getD (s.gravado i) }
  | some t =>
      { s with rascunho := fun u i =>
          if u = t then (novas.lookup i).or (s.rascunho t i) else s.rascunho u i }

/-- No other transaction holds a row the operation addresses. -/
def Estado.destravada (s : Estado) (autor : Option Transacao) (op : Operacao) : Bool :=
  (alvos s.proximoId (s.visao autor) op).all fun p => s.livre autor p.id

/-- The operation runs: its transaction is open, it finds what it needs, and no other transaction
holds a row it addresses. -/
def Estado.aceita (s : Estado) (autor : Option Transacao) (op : Operacao) : Bool :=
  autor.all (fun t => s.abertas.contains t) &&
    !recusada op (alvos s.proximoId (s.visao autor) op) && s.destravada autor op

/-! ### The middleware -/

/-- The snapshot before: `findUnique` gives null when there is no row, `findMany` an empty list. -/
def retratoAntes (op : Operacao) (vistos : List Payment) : Option (List Retrato) :=
  match op with
  | .create .. => none
  | .update .. | .delete .. => if vistos.isEmpty then none else some (vistos.map Retrato.de)
  | .updateMany .. | .deleteMany .. => some (vistos.map Retrato.de)

/-- The snapshot after.  `vistos` are the rows the root client saw before the operation,
`enderecados` those the operation found, and `gravado` is the committed table after it. -/
def retratoDepois (autor : Option Transacao) (op : Operacao) (proximoId : Id)
    (vistos enderecados : List Payment) (gravado : Tabela) : Option (List Retrato) :=
  match op with
  | .create data selecao => some [selecao.recortar (Retrato.de { data with id := proximoId })]
  | .update _ data selecao =>
      some (enderecados.map fun p => selecao.recortar (Retrato.de (data.gravar p)))
  | .delete _ | .deleteMany _ => none
  | .updateMany _ data =>
      let calculado :=
        if autor.isSome then applyUpdateData (vistos.map Retrato.de) data else none
      match calculado with
      | some depois => some depois
      | none =>
          if vistos.isEmpty then none
          else
            some ((findMany proximoId gravado fun p => (vistos.map Payment.id).contains p.id).map
              Retrato.de)

/-- The lines an operation leaves in the trail. -/
def linhas (op : Operacao) (antes depois : Option (List Retrato)) : List Linha :=
  if nothingChanged antes depois then [] else registrarNaTesouraria op.action antes depois

/-- The operation of a call runs, and leaves its lines. -/
def operar (s : Estado) (c : Chamada) : Estado :=
  let enderecados := alvos s.proximoId (s.visao c.autor) c.op
  let depois := s.gravar c.autor (escritas s.proximoId enderecados c.op)
  { depois with
    proximoId := proximoIdDepois s.proximoId c.op
    log := s.log ++ (linhas c.op (retratoAntes c.op c.vistos)
      (retratoDepois c.autor c.op s.proximoId c.vistos enderecados depois.gravado)).map
        fun linha => ⟨c.autor, linha⟩ }

/-- A call is over. -/
def Estado.sair (s : Estado) (k : Nat) : Estado := { s with chamadas := s.chamadas.eraseIdx k }

/-- The operation of call `k` reaches the database: it runs, or throws, or waits for a lock. -/
def executar (s : Estado) (k : Nat) : Estado :=
  match s.chamadas[k]? with
  | none => s
  | some c =>
      if s.aceita c.autor c.op then (operar s c).sair k
      else if s.destravada c.autor c.op then s.sair k
      else s

inductive Passo where
  | abrir
  /-- the middleware reads what an operation will find -/
  | ler (autor : Option Transacao) (op : Operacao)
  | executar (k : Nat)
  | confirmar (t : Transacao)
  | desfazer (t : Transacao)

/-- What a transaction kept is dropped. -/
def Estado.encerrar (s : Estado) (t : Transacao) : Estado :=
  { s with
    abertas := s.abertas.filter fun u => u ≠ t
    rascunho := fun u i => if u = t then none else s.rascunho u i }

def step (s : Estado) : Passo → Estado
  | .abrir =>
      { s with
        proximaTransacao := s.proximaTransacao + 1
        abertas := s.proximaTransacao :: s.abertas }
  | .ler autor op =>
      { s with chamadas := s.chamadas ++ [⟨autor, op, alvos s.proximoId s.gravado op⟩] }
  | .executar k => executar s k
  | .confirmar t =>
      if s.abertas.contains t then { s.encerrar t with gravado := s.visao (some t) } else s
  | .desfazer t =>
      if s.abertas.contains t then { s.encerrar t with desfeitas := t :: s.desfeitas } else s

end Auditoria

end IccvBackend
