/-
Module: IccvBackend.Membros.Service
Purpose: `membros/membros.service.ts` and `excluir` of `user/user.service.ts`: members and families
  of the churches.
Trusted boundary: human-reviewed spec
Main exports: Membresia, Membresia.Pessoa, Familia, adicionar, aceitar, recusar, remover,
  criarFamilia, atualizarFamilia, desfazerFamilia, tirarDaFamilia, tornarMembro, excluir,
  Membresia.agir
-/
import IccvBackend.Lib.Table
import IccvBackend.Lib.Fallible
import IccvBackend.Lib.Text
import IccvBackend.Lib.Transitions
import IccvBackend.Prisma.Schema
import Mathlib.Data.List.Dedup

namespace IccvBackend

open Lib

/-!
The columns of `users` that say of which church and family a person is, and the table of families.
Who may call and the notifications are left out.  The services write statement by statement, and no
check follows a write.
-/

/-! ### Rows -/

/-- `HistoricoDaConta`. -/
structure HistoricoDaConta where
  events : Nat
  waitlists : Nat
  pagamentos : Nat
  checkins : Nat
  bedrooms : Nat
  transports : Nat
  TeamOnUsers : Nat
  news : Nat
deriving Repr, DecidableEq

/-- `NOMES`, with what each counts. -/
def HistoricoDaConta.nomes (contagem : HistoricoDaConta) : List (Nat × String × String) :=
  [(contagem.events, "inscrição", "inscrições"),
    (contagem.waitlists, "lugar na lista de espera", "lugares na lista de espera"),
    (contagem.pagamentos, "pagamento", "pagamentos"),
    (contagem.checkins, "check-in", "check-ins"),
    (contagem.bedrooms, "quarto", "quartos"),
    (contagem.transports, "transporte", "transportes"),
    (contagem.TeamOnUsers, "equipe", "equipes"),
    (contagem.news, "notícia publicada", "notícias publicadas")]

/-- `historicoDaConta`. -/
def historicoDaConta (contagem : HistoricoDaConta) : List String :=
  (contagem.nomes.filter fun linha => 0 < linha.1).map fun (n, um, varios) =>
    toString n ++ " " ++ (if n = 1 then um else varios)

/-- What these services read and write of a user. -/
structure Membresia.Pessoa where
  id : Id
  memberChurchId : Option Id
  memberSince : Option Instant
  requestedChurchId : Option Id
  otherChurchName : Option String
  familyId : Option Id
  titheAmount : Option Int
  historico : HistoricoDaConta
deriving Repr, DecidableEq

/-- A row of `families`. -/
structure Familia where
  id : Id
  churchId : Id
  name : String
deriving Repr, DecidableEq

/-- The row with the name that came, if one came. -/
def Familia.comNome (nome : Option String) (f : Familia) : Familia :=
  { f with name := ((nome.filter fun nome => nome ≠ "").map trim).getD f.name }

structure Membresia where
  pessoas : List Membresia.Pessoa
  families : List Familia
  /-- the names of the churches -/
  igrejas : Id → String
  nextId : Id

structure CriarFamiliaDto where
  nome : String
  userIds : List Id
deriving Repr, DecidableEq

structure AtualizarFamiliaDto where
  nome : Option String
  adicionar : Option (List Id)
deriving Repr, DecidableEq

namespace Membresia

variable (db : Membresia)

/-! ### Reads -/

/-- `exigirMembro`. -/
def exigirMembro (churchId userId : Id) : Except Failure Pessoa :=
  orFail (db.pessoas.find? fun p => p.id = userId && p.memberChurchId = some churchId)
    (notFound "Membro não encontrado")

/-- The members of the church among the ids. -/
def membrosEntre (churchId : Id) (userIds : List Id) : List Pessoa :=
  db.pessoas.filter fun p => p.id ∈ userIds && p.memberChurchId = some churchId

/-- `exigirMembros`: the families they leave. -/
def exigirMembros (churchId : Id) (userIds : List Id) : Except Failure (List Id) := do
  let membros := db.membrosEntre churchId userIds
  failIf (membros.length ≠ userIds.dedup.length)
    (badRequest "Só membros desta igreja entram na família")
  pure (membros.filterMap Pessoa.familyId).dedup

/-- `exigirPedido`. -/
def exigirPedido (churchId userId : Id) : Except Failure Pessoa :=
  orFail (db.pessoas.find? fun p => p.id = userId && p.requestedChurchId = some churchId)
    (notFound "Pedido não encontrado")

/-- `exigirFamilia`. -/
def exigirFamilia (churchId id : Id) : Except Failure Familia :=
  orFail (db.families.find? fun f => f.id = id && f.churchId = churchId)
    (notFound "Família não encontrada")

/-! ### Writes -/

/-- `updateMany` of the people a test picks. -/
def updatePessoas (quem : Pessoa → Bool) (f : Pessoa → Pessoa) : Membresia :=
  { db with pessoas := db.pessoas.map fun p => if quem p then f p else p }

/-- `apagarSeVazia` of a family: nobody is left in it. -/
def apagarSeVazia (familyId : Id) : Membresia :=
  if db.pessoas.any fun p => p.familyId = some familyId then db
  else { db with families := deleteKey Familia.id familyId db.families }

/-- `apagarVazias`. -/
def apagarVazias (familyIds : List Id) : Membresia := familyIds.foldl apagarSeVazia db

/-- `tornarMembro`: only who is a member of no church enters. -/
def tornarMembro (churchId userId : Id) (agora : Instant) : Except Failure Membresia := do
  let podeEntrar := fun p : Pessoa => decide (p.id = userId) && p.memberChurchId.isNone
  failIf (!db.pessoas.any podeEntrar) (conflict "Esta pessoa já é membro de uma igreja")
  pure (db.updatePessoas podeEntrar fun p =>
    { p with
      memberChurchId := some churchId
      memberSince := some agora
      requestedChurchId := none
      otherChurchName := none })

/-! ### The operations -/

/-- `adicionar`. -/
def adicionar (churchId userId : Id) (agora : Instant) : Except Failure Membresia := do
  let pessoa ← orFail (lookup Pessoa.id userId db.pessoas) (notFound "Pessoa não encontrada")
  failIf (pessoa.memberChurchId = some churchId)
    (conflict "Esta pessoa já é membro desta igreja")
  failIf pessoa.memberChurchId.isSome
    (conflict ("Esta pessoa é membro de " ++
      ((pessoa.memberChurchId.map db.igrejas).getD "undefined") ++
      ". Quem administra lá precisa tirá-la antes."))
  db.tornarMembro churchId userId agora

/-- `aceitar`. -/
def aceitar (churchId userId : Id) (agora : Instant) : Except Failure Membresia := do
  let pessoa ← db.exigirPedido churchId userId
  failIf pessoa.memberChurchId.isSome (conflict "Esta pessoa já é membro de uma igreja")
  db.tornarMembro churchId userId agora

/-- `recusar`. -/
def recusar (churchId userId : Id) : Except Failure Membresia := do
  let _ ← db.exigirPedido churchId userId
  pure (db.updatePessoas (fun p => p.id = userId) fun p => { p with requestedChurchId := none })

/-- `remover`. -/
def remover (churchId userId : Id) : Except Failure Membresia := do
  let membro ← db.exigirMembro churchId userId
  let depois := db.updatePessoas (fun p => p.id = userId) fun p =>
    { p with memberChurchId := none, memberSince := none, familyId := none, titheAmount := none }
  pure (depois.apagarVazias membro.familyId.toList)

/-- `tirarDaFamilia`. -/
def tirarDaFamilia (churchId userId : Id) : Except Failure Membresia := do
  let membro ← db.exigirMembro churchId userId
  match membro.familyId with
  | none => pure db
  | some familyId =>
      let depois := db.updatePessoas (fun p => p.id = userId) fun p => { p with familyId := none }
      pure (depois.apagarSeVazia familyId)

/-- `updateMany` of `familyId`. -/
def porNaFamilia (userIds : List Id) (familyId : Id) : Membresia :=
  db.updatePessoas (fun p => p.id ∈ userIds) fun p => { p with familyId := some familyId }

/-- `criarFamilia`. -/
def criarFamilia (churchId : Id) (dto : CriarFamiliaDto) : Except Failure Membresia := do
  let anteriores ← db.exigirMembros churchId dto.userIds
  let criada : Membresia :=
    { db with
      families := db.families ++ [⟨db.nextId, churchId, trim dto.nome⟩]
      nextId := db.nextId + 1 }
  pure ((criada.porNaFamilia dto.userIds db.nextId).apagarVazias anteriores)

/-- The members that `atualizarFamilia` brings in, if any came. -/
def adicionarNaFamilia (churchId id : Id) (userIds : List Id) : Except Failure Membresia :=
  if userIds = [] then pure db
  else do
    let anteriores ← db.exigirMembros churchId userIds
    pure ((db.porNaFamilia userIds id).apagarVazias (anteriores.filter fun f => f ≠ id))

/-- The update that ends `atualizarFamilia`. -/
def renomear (id : Id) (nome : Option String) : Membresia :=
  { db with families := updateKey Familia.id id (Familia.comNome nome) db.families }

/-- `atualizarFamilia`. -/
def atualizarFamilia (churchId id : Id) (dto : AtualizarFamiliaDto) : Except Failure Membresia := do
  let _ ← db.exigirFamilia churchId id
  let depois ← db.adicionarNaFamilia churchId id (dto.adicionar.getD [])
  pure (depois.renomear id dto.nome)

/-- `desfazerFamilia`. -/
def desfazerFamilia (churchId id : Id) : Except Failure Membresia := do
  let _ ← db.exigirFamilia churchId id
  let soltos := db.updatePessoas (fun p => p.familyId = some id) fun p =>
    { p with familyId := none }
  pure { soltos with families := deleteKey Familia.id id soltos.families }

/-- `UserService.excluir`. -/
def excluir (alvoId requesterId : Id) : Except Failure Membresia := do
  failIf (alvoId = requesterId) (forbidden "Você não pode excluir a própria conta")
  let alvo ← orFail (lookup Pessoa.id alvoId db.pessoas) (notFound "Usuário não encontrado")
  let historico := historicoDaConta alvo.historico
  failIf (historico ≠ [])
    (conflict ("Esta conta tem histórico e não pode ser excluída: " ++ ", ".intercalate historico ++
      "."))
  pure { db with pessoas := deleteKey Pessoa.id alvoId db.pessoas }

/-! ### Runs -/

/-- The operations.  `cadastrar`, `pedir` and `viver` are the rest of the system: an account opened,
a church asked for, and the history an account gathers. -/
inductive Acao where
  | adicionar (churchId userId : Id) (agora : Instant)
  | aceitar (churchId userId : Id) (agora : Instant)
  | recusar (churchId userId : Id)
  | remover (churchId userId : Id)
  | tornarMembro (churchId userId : Id) (agora : Instant)
  | criarFamilia (churchId : Id) (dto : CriarFamiliaDto)
  | atualizarFamilia (churchId id : Id) (dto : AtualizarFamiliaDto)
  | desfazerFamilia (churchId id : Id)
  | tirarDaFamilia (churchId userId : Id)
  | excluir (alvoId requesterId : Id)
  | cadastrar (requestedChurchId : Option Id) (otherChurchName : Option String)
  | pedir (userId : Id) (requestedChurchId : Option Id) (otherChurchName : Option String)
  | viver (userId : Id) (historico : HistoricoDaConta)

def semHistorico : HistoricoDaConta := ⟨0, 0, 0, 0, 0, 0, 0, 0⟩

def executar : Acao → Except Failure Membresia
  | .adicionar churchId userId agora => db.adicionar churchId userId agora
  | .aceitar churchId userId agora => db.aceitar churchId userId agora
  | .recusar churchId userId => db.recusar churchId userId
  | .remover churchId userId => db.remover churchId userId
  | .tornarMembro churchId userId agora => db.tornarMembro churchId userId agora
  | .criarFamilia churchId dto => do
      failIf (dto.userIds = []) (badRequest "Escolha ao menos uma pessoa")
      db.criarFamilia churchId dto
  | .atualizarFamilia churchId id dto => db.atualizarFamilia churchId id dto
  | .desfazerFamilia churchId id => db.desfazerFamilia churchId id
  | .tirarDaFamilia churchId userId => db.tirarDaFamilia churchId userId
  | .excluir alvoId requesterId => db.excluir alvoId requesterId
  | .cadastrar requestedChurchId otherChurchName =>
      pure { db with
        pessoas := db.pessoas ++
          [⟨db.nextId, none, none, requestedChurchId, otherChurchName, none, none, semHistorico⟩]
        nextId := db.nextId + 1 }
  | .pedir userId requestedChurchId otherChurchName =>
      pure (db.updatePessoas (fun p => p.id = userId) fun p =>
        { p with requestedChurchId := requestedChurchId, otherChurchName := otherChurchName })
  | .viver userId historico =>
      pure (db.updatePessoas (fun p => p.id = userId) fun p => { p with historico := historico })

/-- One operation of a run. -/
def agir (acao : Acao) : Membresia :=
  match db.executar acao with
  | .ok depois => depois
  | .error _ => db

end Membresia

end IccvBackend
