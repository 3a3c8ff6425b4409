/-
Module: IccvBackend.Solicitacoes.Service
Purpose: The purchase requests of a church (`solicitacoes.service.ts`): created by a member, moved
  by hand before any decision, decided by the pastor and the treasury.
Trusted boundary: human-reviewed spec
Main exports: ChurchRequest, ChurchRequest.decidir, ChurchRequest.mudarStatus, Solicitacoes,
  Solicitacoes.step
-/
import IccvBackend.Auth.Tenant
import IccvBackend.Lib.Fallible
import IccvBackend.Lib.Table

namespace IccvBackend

open Lib

/-! ### Rows -/

inductive ChurchRequestStatus where
  | requested
  | inReview
  | awaitingTreasury
  | awaitingPastor
  | rejected
  | accepted
  | partiallyAccepted
deriving Repr, DecidableEq

/-- A product of a request.  `accepted` is null until the end. -/
structure ChurchRequestItem where
  id : Id
  name : String
  quantity : Nat
  link : Option String
  accepted : Option Bool
  pastorAccepted : Option Bool
  treasuryAccepted : Option Bool
  position : Nat
deriving Repr, DecidableEq

structure ChurchRequest where
  id : Id
  churchId : Id
  requesterId : Id
  ministry : String
  title : String
  description : String
  status : ChurchRequestStatus
  response : Option String
  pastorDecision : Option Bool
  pastorId : Option Id
  pastorAt : Option Instant
  treasuryDecision : Option Bool
  treasurerId : Option Id
  treasuryAt : Option Instant
  createdAt : Instant
  items : List ChurchRequestItem
deriving Repr, DecidableEq

/-- `ANTES_DA_DECISAO`, which are also the `SITUACOES_DO_ADMIN`. -/
def antesDaDecisao : List ChurchRequestStatus := [.requested, .inReview]

/-- `DECIDIDA`. -/
def decidida : List ChurchRequestStatus := [.accepted, .partiallyAccepted, .rejected]

/-! ### Bodies of the requests, as the validation lets them through -/

structure ProdutoDaSolicitacaoDto where
  nome : String
  quantidade : Nat
  link : Option String
deriving Repr, DecidableEq

structure CriarSolicitacaoDto where
  ministerio : String
  titulo : String
  descricao : String
  produtos : List ProdutoDaSolicitacaoDto
  /-- `ArrayMinSize(1)` -/
  comProduto : produtos ≠ []
deriving DecidableEq

structure MudarStatusDto where
  status : Option { status : ChurchRequestStatus // status ∈ antesDaDecisao }
  resposta : Option String
deriving DecidableEq

structure DecidirDto where
  aprova : Bool
  produtosAceitos : Option (List Id)
  resposta : Option String
deriving Repr, DecidableEq

inductive LadoDaDecisao where
  | pastor
  | tesouraria
deriving Repr, DecidableEq

/-! ### One request -/

section Pedido

variable (trim : String → String)

/-- `dto.resposta.trim() || null`, when the body has a response. -/
def responder (resposta : Option String) (antes : Option String) : Option String :=
  match resposta with
  | none => antes
  | some resposta => if trim resposta = "" then none else some (trim resposta)

/-- What a side says of a product. -/
def ChurchRequestItem.aprovadoPor (item : ChurchRequestItem) : LadoDaDecisao → Option Bool
  | .pastor => item.pastorAccepted
  | .tesouraria => item.treasuryAccepted

/-- The update of a product in a decision. -/
def ChurchRequestItem.marcar (lado : LadoDaDecisao) (aprovado : Bool) (accepted : Option Bool)
    (item : ChurchRequestItem) : ChurchRequestItem :=
  match lado with
  | .pastor => { item with pastorAccepted := some aprovado, accepted := accepted }
  | .tesouraria => { item with treasuryAccepted := some aprovado, accepted := accepted }

def LadoDaDecisao.outro : LadoDaDecisao → LadoDaDecisao
  | .pastor => .tesouraria
  | .tesouraria => .pastor

/-- The status that waits for the other side. -/
def LadoDaDecisao.aguardaOutro : LadoDaDecisao → ChurchRequestStatus
  | .pastor => .awaitingTreasury
  | .tesouraria => .awaitingPastor

def LadoDaDecisao.jaDecidiu : LadoDaDecisao → String
  | .pastor => "O pastor já decidiu esta solicitação"
  | .tesouraria => "A tesouraria já decidiu esta solicitação"

namespace ChurchRequest

def decisao (p : ChurchRequest) : LadoDaDecisao → Option Bool
  | .pastor => p.pastorDecision
  | .tesouraria => p.treasuryDecision

/-- The decision of a side, with who decided and when. -/
def registrar (lado : LadoDaDecisao) (aprova : Bool) (userId : Id) (agora : Instant)
    (p : ChurchRequest) : ChurchRequest :=
  match lado with
  | .pastor =>
      { p with pastorDecision := some aprova, pastorId := some userId, pastorAt := some agora }
  | .tesouraria =>
      { p with treasuryDecision := some aprova, treasurerId := some userId,
               treasuryAt := some agora }

/-- `meus`: what this side approves. -/
def marcados (p : ChurchRequest) (dto : DecidirDto) : List Id :=
  if dto.aprova then dto.produtosAceitos.getD (p.items.map ChurchRequestItem.id) else []

/-- `final`: the outcome of a product, at the end only. -/
def final (p : ChurchRequest) (lado : LadoDaDecisao) (dto : DecidirDto)
    (item : ChurchRequestItem) : Option Bool :=
  if !dto.aprova then some false
  else if p.decisao lado.outro = some true then
    some (decide (item.id ∈ p.marcados dto) && decide (item.aprovadoPor lado.outro = some true))
  else none

/-- The status a decision leaves. -/
def statusDaDecisao (p : ChurchRequest) (lado : LadoDaDecisao) (dto : DecidirDto) :
    ChurchRequestStatus :=
  let emComum := (p.items.filter fun item => p.final lado dto item = some true).length
  if !dto.aprova then .rejected
  else if p.decisao lado.outro ≠ some true then lado.aguardaOutro
  else if emComum = 0 then .rejected
  else if emComum = p.items.length then .accepted
  else .partiallyAccepted

/-- The transaction of `decidir` on the row it holds. -/
def decidir (p : ChurchRequest) (lado : LadoDaDecisao) (userId : Id) (dto : DecidirDto)
    (agora : Instant) : Except Failure ChurchRequest := do
  failIf (p.status ∈ decidida) (conflict "Esta solicitação já foi decidida")
  failIf (p.decisao lado ≠ none) (conflict lado.jaDecidiu)
  failIf (∃ produto ∈ p.marcados dto, produto ∉ p.items.map ChurchRequestItem.id)
    (badRequest "Produto não é desta solicitação")
  failIf (dto.aprova ∧ p.marcados dto = [])
    (badRequest "Marque ao menos um produto; para não aceitar nenhum, recuse")
  return { p.registrar lado dto.aprova userId agora with
    items := p.items.map fun item =>
      item.marcar lado (decide (item.id ∈ p.marcados dto)) (p.final lado dto item)
    status := p.statusDaDecisao lado dto
    response := responder trim dto.resposta p.response }

/-- `mudaSituacao`, for the status `mudarStatus` has read. -/
def mudaSituacao (dto : MudarStatusDto) (lido : ChurchRequestStatus) : Bool :=
  dto.status.any fun status => status.val ≠ lido

/-- The check of `mudarStatus` on the status it has read. -/
def podeMudar (dto : MudarStatusDto) (lido : ChurchRequestStatus) : Except Failure Unit :=
  failIf (mudaSituacao dto lido ∧ lido ∉ antesDaDecisao)
    (conflict ("A solicitação já está com o pastor e a tesouraria: a situação muda pela " ++
      "decisão deles"))

/-- The update of `mudarStatus`, which decides what to write by the status it has read. -/
def gravarSituacao (dto : MudarStatusDto) (lido : ChurchRequestStatus) (p : ChurchRequest) :
    ChurchRequest :=
  { p with
    status := if mudaSituacao dto lido then (dto.status.map Subtype.val).getD p.status else p.status
    response := responder trim dto.resposta p.response }

/-- `mudarStatus`, with nothing between its read and its write. -/
def mudarStatus (p : ChurchRequest) (dto : MudarStatusDto) : Except Failure ChurchRequest := do
  podeMudar dto p.status
  return p.gravarSituacao trim dto p.status

end ChurchRequest

end Pedido

/-! ### The table -/

structure Solicitacoes where
  painel : Painel
  /-- `modulosDa` the plan of a church -/
  modulos : Id → List ChurchModule
  requests : List ChurchRequest
  nextId : Id

/-- `papel`: how a person decides in a church, and whether it has a pastor. -/
structure Papel where
  lado : Option LadoDaDecisao
  temPastor : Bool
deriving Repr, DecidableEq

namespace Solicitacoes

variable (trim : String → String) (db : Solicitacoes)

def papel (churchId userId : Id) : Papel :=
  let lider := (db.painel.igreja? churchId).bind Igreja.spiritualLeaderId
  let tesouraria := db.painel.churchRoles.any fun vinculo =>
    vinculo.churchId = churchId && vinculo.userId = userId && vinculo.role = Role.tesouraria
  { lado := if lider = some userId then some .pastor
      else if tesouraria then some .tesouraria else none
    temPastor := lider.isSome }

/-- `findFirst` by id and church. -/
def pedido? (churchId id : Id) : Option ChurchRequest :=
  (lookup ChurchRequest.id id db.requests).filter fun p => p.churchId = churchId

/-- The products of a new request, in the order the person gave. -/
def criarItens (primeiro : Id) (produtos : List ProdutoDaSolicitacaoDto) :
    List ChurchRequestItem :=
  produtos.mapIdx fun posicao produto =>
    { id := primeiro + posicao
      name := trim produto.nome
      quantity := produto.quantidade
      link := produto.link.bind fun link => if trim link = "" then none else some (trim link)
      accepted := none
      pastorAccepted := none
      treasuryAccepted := none
      position := posicao }

def criar (userId : Id) (dto : CriarSolicitacaoDto) (agora : Instant) :
    Except Failure Solicitacoes := do
  let igreja ← orFail
    ((((db.painel.pessoa? userId).bind Pessoa.memberChurchId).bind db.painel.igreja?).filter
      fun igreja => igreja.status ≠ .inactive)
    (forbidden "Só quem é membro de uma igreja faz solicitações a ela")
  failIf (ChurchModule.requests ∉ db.modulos igreja.id)
    (forbidden s!"O plano de {igreja.name} não inclui o módulo Solicitações")
  return { db with
    requests := db.requests ++ [
      { id := db.nextId
        churchId := igreja.id
        requesterId := userId
        ministry := dto.ministerio
        title := trim dto.titulo
        description := trim dto.descricao
        status := .requested
        response := none
        pastorDecision := none
        pastorId := none
        pastorAt := none
        treasuryDecision := none
        treasurerId := none
        treasuryAt := none
        createdAt := agora
        items := criarItens trim (db.nextId + 1) dto.produtos }]
    nextId := db.nextId + 1 + dto.produtos.length }

/-- The table after the write of one row. -/
def gravar (p : ChurchRequest) : Solicitacoes :=
  { db with requests := updateKey ChurchRequest.id p.id (fun _ => p) db.requests }

def mudarStatus (churchId id : Id) (dto : MudarStatusDto) : Except Failure Solicitacoes := do
  let atual ← orFail (db.pedido? churchId id) (notFound "Solicitação não encontrada")
  let salva ← atual.mudarStatus trim dto
  return db.gravar salva

def decidir (churchId id userId : Id) (dto : DecidirDto) (agora : Instant) :
    Except Failure Solicitacoes := do
  let lado ← orFail (db.papel churchId userId).lado
    (forbidden "Só o pastor e a tesouraria da igreja aprovam ou recusam")
  let atual ← orFail (db.pedido? churchId id) (notFound "Solicitação não encontrada")
  let salva ← atual.decidir trim lado userId dto agora
  return db.gravar salva

/-! ### Runs -/

inductive Acao where
  | criar (userId : Id) (dto : CriarSolicitacaoDto) (agora : Instant)
  | mudarStatus (churchId id : Id) (dto : MudarStatusDto)
  | decidir (churchId id userId : Id) (dto : DecidirDto) (agora : Instant)
  /-- another module changes people, churches, links or plans -/
  | cadastro (painel : Painel) (modulos : Id → List ChurchModule)

def executar : Acao → Except Failure Solicitacoes
  | .criar userId dto agora => db.criar trim userId dto agora
  | .mudarStatus churchId id dto => db.mudarStatus trim churchId id dto
  | .decidir churchId id userId dto agora => db.decidir trim churchId id userId dto agora
  | .cadastro painel modulos => .ok { db with painel := painel, modulos := modulos }

/-- A call that fails leaves the rows as they were. -/
def step (acao : Acao) : Solicitacoes :=
  match db.executar trim acao with
  | .ok depois => depois
  | .error _ => db

end Solicitacoes

/-! ### Calls in flight on one request

`mudarStatus` reads the status without a lock and writes later.  `decidir` holds the row from its
read to its commit, so a write of `mudarStatus` falls before or after it. -/

/-- A `mudarStatus` that has read the status and passed its check. -/
structure MudancaAberta where
  dto : MudarStatusDto
  lido : ChurchRequestStatus
deriving DecidableEq

structure PedidoEmCurso where
  pedido : ChurchRequest
  abertas : List MudancaAberta

namespace PedidoEmCurso

inductive Passo where
  /-- a `mudarStatus` reads and checks -/
  | ler (dto : MudarStatusDto)
  /-- the open `mudarStatus` at this place writes -/
  | gravar (i : Nat)
  /-- a transaction of `decidir`, for the side its caller had at `papel` -/
  | decidir (lado : LadoDaDecisao) (userId : Id) (dto : DecidirDto) (agora : Instant)

def step (trim : String → String) (s : PedidoEmCurso) : Passo → PedidoEmCurso
  | .ler dto =>
      match ChurchRequest.podeMudar dto s.pedido.status with
      | .ok _ => { s with abertas := s.abertas ++ [⟨dto, s.pedido.status⟩] }
      | .error _ => s
  | .gravar i =>
      match s.abertas[i]? with
      | some m =>
          { pedido := s.pedido.gravarSituacao trim m.dto m.lido, abertas := s.abertas.eraseIdx i }
      | none => s
  | .decidir lado userId dto agora =>
      match s.pedido.decidir trim lado userId dto agora with
      | .ok q => { s with pedido := q }
      | .error _ => s

end PedidoEmCurso

end IccvBackend
