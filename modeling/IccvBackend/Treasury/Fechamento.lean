/-
Module: IccvBackend.Treasury.Fechamento
Purpose: The treasuries as they are opened, used, closed and reopened: who may, what each call reads
  before it writes, and several calls in flight while payments come and go.
Trusted boundary: human-reviewed spec
Main exports: Solicitante, OperacaoDaTesouraria, EscritaDaTesouraria, Tesourarias.ler,
  Tesourarias.gravar, TesourariasEmUso, TesourariasEmUso.agir
-/
import IccvBackend.Auth.Tenant
import IccvBackend.Treasury.Ledger
import IccvBackend.Treasury.Nomes

namespace IccvBackend

open Lib

/-! ### Who may -/

/-- `req.user`. -/
structure Solicitante where
  userId : Id
  tenant : TenantRequester
deriving Repr, DecidableEq

/-- `daEquipe`: the team of the church. -/
def Solicitante.daEquipe (quem : Solicitante) (churchId : Id) : Bool :=
  isSuperAdmin (some quem.tenant) ||
    churchId ∈ churchIdsComPerfil (some quem.tenant) Role.adminAreaRoles

/-- `eventosDoTesoureiro`: the events of the church the person is the full treasurer of. -/
def Painel.eventosDoTesoureiro (painel : Painel) (userId churchId : Id) : List Id :=
  (painel.eventTreasurers.filter fun v =>
    v.userId = userId && v.kind = .completo &&
      (painel.evento? v.eventId).any fun e => e.churchId = churchId).map EventTreasurer.eventId

/-- `exigirEquipe`. -/
def exigirEquipe (churchId : Id) (quem : Solicitante) : Except Failure Unit :=
  failIf (!quem.daEquipe churchId) (forbidden "Só o admin e a tesouraria da igreja fazem isto")

namespace Tesourarias

/-- `exigir`: a treasury of the church that the person reaches. -/
def exigir (db : Tesourarias) (painel : Painel) (id : Id) (quem : Solicitante) :
    Except Failure Treasury := do
  let t ← orFail (db.treasury? id) (notFound "Tesouraria não encontrada")
  let meus := painel.eventosDoTesoureiro quem.userId db.churchId
  failIf (!quem.daEquipe db.churchId ∧ ¬ t.eventId.any fun eventId => eventId ∈ meus)
    (forbidden "Você não é tesoureiro(a) deste evento")
  pure t

/-- `exigirAberta`, of somebody. -/
def exigirAbertaPor (db : Tesourarias) (painel : Painel) (id : Id) (quem : Solicitante) :
    Except Failure Treasury := do
  let _ ← db.exigir painel id quem
  db.exigirAberta id

end Tesourarias

/-! ### What a call reads, and what it then writes -/

/-- The requests that change what a treasury holds. -/
inductive OperacaoDaTesouraria where
  | distribuir (partes : List Parte)
  | devolver (alocacaoId : Id)
  | classificar (alocacaoId : Id) (categoria : Option String)
  | conciliar (movimentoId : Id) (lancamentoIds : List LancamentoId)
  | desfazer (movimentoId : Id)
  | naoConsta (lancamentoIds : List LancamentoId) (quando : Option Instant)
  | novoLancamento (dto : Tesourarias.LancamentoDto)

/-- The write a request ends with, and what it had read for it. -/
inductive EscritaDaTesouraria where
  | distribuir (account : TreasuryAccount) (partes : List Parte)
  | soltar (movimentoId alocacaoId : Id)
  | classificar (alocacaoId : Id) (categoria : Option String)
  /-- `aqui`: the movement had an allocation in the treasury -/
  | conciliar (movimentoId : Id) (aqui : Bool) (doBanco : Int) (categoria : String)
      (lancamentoIds : List LancamentoId)
  | naoConsta (eventId : Option Id) (lancamentoIds : List LancamentoId) (quando : Option Instant)
  | lancar (dto : Tesourarias.LancamentoDto)

namespace Tesourarias

variable (brl : Int → String) (db : Tesourarias)

/-- What a request reads and checks after `exigirAberta` has found the treasury. -/
def ler (t : Treasury) : OperacaoDaTesouraria → Except Failure EscritaDaTesouraria
  | .distribuir partes => pure (.distribuir (db.contaDa t.kind) partes)
  | .devolver alocacaoId => do
      let alocacao ← orFail (db.alocacoes.find? fun a => a.id = alocacaoId && a.treasuryId = t.id)
        (notFound "Alocação não encontrada")
      pure (.soltar alocacao.entryId alocacaoId)
  | .classificar alocacaoId categoria => do
      let alocacao ← orFail (db.alocacoes.find? fun a => a.id = alocacaoId && a.treasuryId = t.id)
        (notFound "Alocação não encontrada")
      let movimento ← orFail (db.entry? alocacao.entryId) (notFound "Alocação não encontrada")
      failIf (categoria.any fun c => c ≠ "" && !categoriaValida t.kind movimento.type c)
        (badRequest "Categoria que não é deste tipo")
      pure (.classificar alocacaoId categoria)
  | .conciliar movimentoId lancamentoIds => do
      let marcados := (db.sistema t).filter fun l => l.lancamento.id ∈ lancamentoIds
      let primeiro ← orFail marcados.head? (badRequest "Marque o banco e os lançamentos")
      failIf (marcados.length ≠ lancamentoIds.eraseDups.length)
        (badRequest "Marque o banco e os lançamentos")
      failIf (marcados.any fun l => l.situacao = .conciliado)
        (conflict "Um dos lançamentos já está conciliado")
      failIf ((db.sistema t).any fun l => l.movimentoId = some movimentoId)
        (conflict "Este movimento já está conciliado: desfaça antes")
      let movimento ← orFail (db.movimento? movimentoId) (notFound "Movimento não encontrado")
      let doBanco ← db.doBanco t movimentoId
      let soma := (marcados.map LinhaDoSistema.comSinal).sum
      let banco := IccvBackend.comSinal movimento.type doBanco
      failIf (soma ≠ banco)
        (badRequest ("O banco tem " ++ brl banco ++ " e os lançamentos somam " ++ brl soma ++
          ". Se a diferença é tarifa, lance-a como saída e marque junto."))
      pure (.conciliar movimentoId (db.alocacao? t.id movimentoId).isSome doBanco
        primeiro.lancamento.categoria lancamentoIds)
  | .desfazer movimentoId => do
      let alocacao ← orFail (db.alocacao? t.id movimentoId) (notFound "Conciliação não encontrada")
      pure (.soltar movimentoId alocacao.id)
  | .naoConsta lancamentoIds quando => pure (.naoConsta t.eventId lancamentoIds quando)
  | .novoLancamento dto => do
      failIf (t.kind ≠ .event)
        (badRequest
          "A congregação não tem lançamento manual: o que veio do banco já é o lançamento")
      failIf (!categoriaValida t.kind dto.type dto.category)
        (badRequest "Categoria que não é deste tipo")
      pure (.lancar dto)

/-- The payments and the manual entries of a reconciliation take its movement. -/
def ligarLancamentos (id movimentoId : Id) (lancamentoIds : List LancamentoId) : Tesourarias :=
  ((separarIds lancamentoIds).1.foldl
    (fun db paymentId => db.upsertLink paymentId id (.conciliarCom movimentoId)) db).modifyEntries
      (fun m => m.id ∈ (separarIds lancamentoIds).2 && m.treasuryId = id)
      (.conciliarCom movimentoId)

/-- The payments `naoConsta` finds: of the event of the treasury. -/
def pagamentosDoEvento (eventId : Option Id) (lancamentoIds : List LancamentoId) : List Payment :=
  db.payments.filter fun p =>
    eventId.isSome && p.eventId = eventId && p.id ∈ (separarIds lancamentoIds).1

/-- The transaction of `naoConsta`. -/
def gravarNaoConsta (id : Id) (eventId : Option Id) (lancamentoIds : List LancamentoId)
    (quando : Option Instant) : Tesourarias :=
  ((db.pagamentosDoEvento eventId lancamentoIds).foldl
    (fun atual p =>
      if (db.conciliadoCom p.id).isSome then atual
      else atual.upsertLink p.id id (.marcar quando)) db).modifyEntries
        (fun m => m.id ∈ (separarIds lancamentoIds).2 && m.treasuryId = id && m.movementId.isNone)
        (.marcar quando)

/-- `treasuryEntry.create`. -/
def lancar (id : Id) (dto : LancamentoDto) : Tesourarias :=
  { db with
    entries := db.entries ++
      [{ id := db.nextId
         treasuryId := id
         type := dto.type
         category := dto.category
         description := trim dto.description
         amount := dto.amount
         date := dto.date
         movementId := none
         notInBankAt := none }]
    nextId := db.nextId + 1 }

/-- The row a foreign key names is there. -/
def exigirChave (id : Id) : Except Failure Unit :=
  failIf (db.treasury? id).isNone (internalServerError "P2003")

/-- The transaction a request ends with, in the treasury it names.  A row that is gone, a key that
is taken or names nothing, ends it with an exception. -/
def gravar (id : Id) : EscritaDaTesouraria → Except Failure Tesourarias
  | .distribuir account partes => do
      let depois ← partes.foldlM (distribuirParte id account) db
      db.exigirChave id
      pure depois
  | .soltar movimentoId alocacaoId => do
      let _ ← orFail (lookup TreasuryAllocation.id alocacaoId db.alocacoes)
        (internalServerError "P2025")
      pure (db.soltar id movimentoId alocacaoId)
  | .classificar alocacaoId categoria => do
      let _ ← orFail (lookup TreasuryAllocation.id alocacaoId db.alocacoes)
        (internalServerError "P2025")
      pure { db with
        alocacoes := updateKey TreasuryAllocation.id alocacaoId
          (fun a => { a with category := categoria }) db.alocacoes }
  | .conciliar movimentoId aqui doBanco categoria lancamentoIds => do
      failIf (!aqui ∧ (db.alocacao? id movimentoId).isSome) (internalServerError "P2002")
      db.exigirChave id
      failIf (∃ paymentId ∈ (separarIds lancamentoIds).1,
        (lookup Payment.id paymentId db.payments).isNone) (internalServerError "P2003")
      let criada := if aqui then db else db.criarAlocacao id movimentoId doBanco (some categoria)
      pure (criada.ligarLancamentos id movimentoId lancamentoIds)
  | .naoConsta eventId lancamentoIds quando => do
      failIf ((db.treasury? id).isNone ∧ db.pagamentosDoEvento eventId lancamentoIds ≠ [])
        (internalServerError "P2003")
      pure (db.gravarNaoConsta id eventId lancamentoIds quando)
  | .lancar dto => do
      db.exigirChave id
      pure (db.lancar id dto)

/-! ### Treasuries that begin, close and reopen -/

/-- `CriarTesourariaDto`. -/
structure CriarTesourariaDto where
  kind : TreasuryKind
  eventId : Option Id
  name : Option String

/-- The event of a new treasury. -/
def CriarTesourariaDto.evento (dto : CriarTesourariaDto) : Option Id :=
  if dto.kind = .event then dto.eventId else none

/-- What `criar` checks. -/
def lerParaCriar (painel : Painel) (dto : CriarTesourariaDto) : Except Failure Unit :=
  match dto.evento with
  | some eventId => do
      let _ ← orFail ((painel.evento? eventId).filter fun e => e.churchId = db.churchId)
        (notFound "Evento não encontrado")
      failIf (db.treasuries.any fun t => t.eventId = some eventId)
        (conflict "Este evento já tem tesouraria")
  | none =>
      failIf (trim (dto.name.getD "") = "")
        (badRequest
          (if dto.kind = .event then "Escolha um evento do sistema ou dê o nome do evento"
          else "Dê o nome da congregação"))

/-- `treasury.create`: an event has one treasury. -/
def criarTesouraria (painel : Painel) (dto : CriarTesourariaDto) : Except Failure Tesourarias := do
  failIf (dto.evento.isSome ∧ db.treasuries.any fun t => t.eventId = dto.evento)
    (internalServerError "P2002")
  failIf (dto.evento.any fun eventId => (painel.evento? eventId).isNone)
    (internalServerError "P2003")
  pure { db with
    treasuries := db.treasuries ++
      [{ id := db.nextId
         churchId := db.churchId
         kind := dto.kind
         eventId := dto.evento
         closedAt := none }]
    nextId := db.nextId + 1 }

/-- `treasury.update` of `fechar` and of `reabrir`. -/
def fecharEm (id : Id) (closedAt : Option Instant) : Except Failure Tesourarias := do
  let _ ← orFail (lookup Treasury.id id db.treasuries) (internalServerError "P2025")
  pure { db with
    treasuries := updateKey Treasury.id id (fun t => { t with closedAt }) db.treasuries }

/-! ### What happens outside the treasuries -/

/-- Payments are deleted, with a registration or an event, and their links with them. -/
def apagarPagamentos (p : Payment → Bool) : Tesourarias :=
  { db with
    payments := db.payments.filter fun payment => !p payment
    links := db.links.filter fun link =>
      !db.payments.any fun payment => payment.id = link.paymentId && p payment }

/-- The transaction of `EventService.remove`, as far as the treasuries go: the payments of the
event, and its treasury with all it holds. -/
def apagarEvento (eventId : Id) : Tesourarias :=
  let db := db.apagarPagamentos fun p => p.eventId = some eventId
  let dele := fun id => db.treasuries.any fun t => t.id = id && t.eventId = some eventId
  { db with
    treasuries := db.treasuries.filter fun t => t.eventId ≠ some eventId
    alocacoes := db.alocacoes.filter fun a => !dele a.treasuryId
    links := db.links.filter fun link => !dele link.treasuryId
    entries := db.entries.filter fun entry => !dele entry.treasuryId }

/-- A payment is created. -/
def nascerPagamento (p : Payment) : Tesourarias :=
  { db with payments := db.payments ++ [{ p with id := db.nextId }], nextId := db.nextId + 1 }

end Tesourarias

/-! ### Calls in flight -/

/-- What a call does next. -/
inductive ChamadaDaTesouraria where
  /-- the reads of a request whose treasury was found open -/
  | ler (t : Treasury) (op : OperacaoDaTesouraria)
  | gravar (id : Id) (escrita : EscritaDaTesouraria)
  | fechar (id : Id)
  | reabrir (id : Id)
  | criar (dto : Tesourarias.CriarTesourariaDto)

/-- The treasury whose money a call is about to change. -/
def ChamadaDaTesouraria.escreveEm : ChamadaDaTesouraria → Option Id
  | .ler t _ => some t.id
  | .gravar id _ => some id
  | _ => none

structure TesourariasEmUso where
  painel : Painel
  db : Tesourarias
  chamadas : List ChamadaDaTesouraria

namespace TesourariasEmUso

variable (brl : Int → String) (s : TesourariasEmUso)

inductive Acao where
  | pedir (quem : Solicitante) (id : Id) (op : OperacaoDaTesouraria)
  | fechar (quem : Solicitante) (id : Id)
  | reabrir (quem : Solicitante) (id : Id)
  | criar (quem : Solicitante) (dto : Tesourarias.CriarTesourariaDto)
  /-- a call goes on: its reads, or its write -/
  | avancar (chamada : Nat) (agora : Instant)
  /-- the process of a call stops -/
  | desistir (chamada : Nat)
  /-- people, churches and events change -/
  | mudarPainel (painel : Painel)
  /-- the bank: an import, or another division of the accounts -/
  | mudarBanco (integracao : Option PluggyIntegration) (movimentos : List FinancialEntry)
  | nascerPagamento (p : Payment)
  | mudarStatus (paymentId : Id) (status : PaymentStatus) (dia : Instant)
  | apagarPagamentos (p : Payment → Bool)
  | apagarEvento (eventId : Id)

/-- A call begins when its first checks pass. -/
def iniciar (chamada : Except Failure ChamadaDaTesouraria) : TesourariasEmUso :=
  match chamada with
  | .ok c => { s with chamadas := s.chamadas ++ [c] }
  | .error _ => s

/-- A call ends: its transaction went through, or an exception undid it. -/
def encerrar (k : Nat) (depois : Except Failure Tesourarias) : TesourariasEmUso :=
  match depois with
  | .ok db => { s with db, chamadas := s.chamadas.eraseIdx k }
  | .error _ => { s with chamadas := s.chamadas.eraseIdx k }

def avancar (k : Nat) (agora : Instant) : ChamadaDaTesouraria → TesourariasEmUso
  | .ler t op =>
      match s.db.ler brl t op with
      | .ok escrita => { s with chamadas := s.chamadas.set k (.gravar t.id escrita) }
      | .error _ => { s with chamadas := s.chamadas.eraseIdx k }
  | .gravar id escrita => s.encerrar k (s.db.gravar id escrita)
  | .fechar id => s.encerrar k (s.db.fecharEm id (some agora))
  | .reabrir id => s.encerrar k (s.db.fecharEm id none)
  | .criar dto => s.encerrar k (s.db.criarTesouraria s.painel dto)

def agir : Acao → TesourariasEmUso
  | .pedir quem id op => s.iniciar do
      let t ← s.db.exigirAbertaPor s.painel id quem
      pure (.ler t op)
  | .fechar quem id => s.iniciar do
      exigirEquipe s.db.churchId quem
      let _ ← s.db.exigirAbertaPor s.painel id quem
      pure (.fechar id)
  | .reabrir quem id => s.iniciar do
      exigirEquipe s.db.churchId quem
      let _ ← s.db.exigir s.painel id quem
      pure (.reabrir id)
  | .criar quem dto => s.iniciar do
      exigirEquipe s.db.churchId quem
      s.db.lerParaCriar s.painel dto
      pure (.criar dto)
  | .avancar k agora =>
      match s.chamadas[k]? with
      | some c => s.avancar brl k agora c
      | none => s
  | .desistir k => { s with chamadas := s.chamadas.eraseIdx k }
  | .mudarPainel painel => { s with painel }
  | .mudarBanco integracao movimentos => { s with db := { s.db with integracao, movimentos } }
  | .nascerPagamento p => { s with db := s.db.nascerPagamento p }
  | .mudarStatus paymentId status dia => { s with db := s.db.mudarStatus paymentId status dia }
  | .apagarPagamentos p => { s with db := s.db.apagarPagamentos p }
  | .apagarEvento eventId => { s with db := s.db.apagarEvento eventId }

/-- The calls about to change what a treasury holds. -/
def emVoo (id : Id) : Nat := s.chamadas.countP fun c => c.escreveEm = some id

end TesourariasEmUso

end IccvBackend
