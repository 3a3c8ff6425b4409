/-
Module: IccvBackend.Treasury.Pluggy
Purpose: `salvar` and `recontarContas` of `pluggy/pluggy.service.ts` and `importar` of
  `tesouraria/lancamentos.service.ts`, statement by statement, with several calls in flight.
Trusted boundary: human-reviewed spec
Main exports: SavePluggyDto, dadosDaDivisao, contasDaTesouraria, PontoDeSalvar, PontoDeImportar,
  Sincronia, Sincronia.agir
-/
import IccvBackend.Lib.Tasks
import IccvBackend.Treasury.CashBook
import Mathlib.Data.List.Dedup

namespace IccvBackend

open Lib

/-!
The credentials are left out but for the refusal of a call without them; so are the last reading and
who asked.  The members are read where the rows are inserted: no call of these writes them.
-/

/-- `SavePluggyDto`, less the credentials: what is absent keeps what is stored. -/
structure SavePluggyDto where
  itemIds : List Id
  splitByTreasury : Option Bool
  itemAccounts : Option (Id → Option TreasuryAccount)
  enabled : Option Bool

/-- The row that `salvar` stores, with the one it read. -/
def dadosDaDivisao (dto : SavePluggyDto) (existente : Option PluggyIntegration) :
    PluggyIntegration :=
  let itemIds := dto.itemIds.dedup
  let itemAccounts :=
    (dto.itemAccounts <|> existente.map PluggyIntegration.itemAccounts).getD fun _ => none
  { splitByTreasury :=
      (dto.splitByTreasury <|> existente.map PluggyIntegration.splitByTreasury).getD false
    itemAccounts := fun itemId => if itemId ∈ itemIds then itemAccounts itemId else none
    itemIds := itemIds }

/-- `Object.values(TreasuryAccount)`. -/
def contasDaTesouraria : List TreasuryAccount := [.administrative, .events, .congregations]

/-- The statement a call of `salvar` runs next. -/
inductive PontoDeSalvar where
  | ler
  | gravar (existente : Option PluggyIntegration) (enabled : Option Bool)
  /-- the `updateMany` of each account that is left, with the row that was stored -/
  | recontar (salvo : PluggyIntegration) (contas : List TreasuryAccount)
  | fim

structure SalvarEmCurso where
  churchId : Id
  dto : SavePluggyDto
  ponto : PontoDeSalvar

/-- The statement a call of `importar` runs next. -/
inductive PontoDeImportar where
  | ler
  /-- `abrir` of the fetch, with the division already read -/
  | abrir (integracao : PluggyIntegration)
  | buscar (integracao : PluggyIntegration) (itemIds : List Id)
  | inserir (integracao : PluggyIntegration) (transacoes : List TransacaoDoBanco)
  | fim

structure ImportarEmCurso where
  churchId : Id
  ponto : PontoDeImportar

structure Sincronia where
  db : LivroCaixa
  /-- the column `enabled` of the integrations -/
  enabled : Id → Option Bool
  salvando : List SalvarEmCurso
  importando : List ImportarEmCurso

namespace Sincronia

variable (s : Sincronia)

inductive Acao where
  | salvar (churchId : Id) (dto : SavePluggyDto)
  /-- the read of `salvar`, and whether it has the credentials -/
  | lerSalvo (k : Nat) (credenciais : Bool)
  | gravar (k : Nat)
  | recontar (k : Nat)
  | importar (churchId : Id)
  | lerDivisao (k : Nat)
  | abrir (k : Nat)
  /-- the answer of the bank for each item, or its failure -/
  | buscar (k : Nat) (extrato : Option (Id → List TransacaoDoBanco))
  | inserir (k : Nat) (agora : Instant)

/-- A call of `salvar` moves. -/
def moverSalvar (k : Nat) (c : SalvarEmCurso) (ponto : PontoDeSalvar) : Sincronia :=
  { s with salvando := s.salvando.set k { c with ponto := ponto } }

/-- A call of `importar` moves. -/
def moverImportar (k : Nat) (c : ImportarEmCurso) (ponto : PontoDeImportar) : Sincronia :=
  { s with importando := s.importando.set k { c with ponto := ponto } }

/-- The read of `salvar`. -/
def lerSalvo (k : Nat) (c : SalvarEmCurso) (credenciais : Bool) : Sincronia :=
  if credenciais then
    s.moverSalvar k c (.gravar (s.db.integracoes c.churchId) (s.enabled c.churchId))
  else s.moverSalvar k c .fim

/-- The upsert of `salvar`. -/
def gravar (k : Nat) (c : SalvarEmCurso) (existente : Option PluggyIntegration)
    (enabled : Option Bool) : Sincronia :=
  let salvo := dadosDaDivisao c.dto existente
  { s with
    db := { s.db with integracoes := Function.update s.db.integracoes c.churchId (some salvo) }
    enabled := Function.update s.enabled c.churchId (some ((c.dto.enabled <|> enabled).getD true))
  }.moverSalvar k c (.recontar salvo contasDaTesouraria)

/-- The banks of an account. -/
def bancosDaConta (integracao : PluggyIntegration) (conta : TreasuryAccount) : List Id :=
  integracao.itemIds.filter fun itemId => contaDoBanco integracao itemId = conta

/-- The `updateMany` of one account.  Without a bank it is skipped, which writes the same. -/
def recontarConta (lancamentos : List Lancamento) (churchId : Id) (salvo : PluggyIntegration)
    (conta : TreasuryAccount) : List Lancamento :=
  lancamentos.map fun l =>
    if l.churchId = churchId && (l.bankItemId.any fun itemId =>
      itemId ∈ bancosDaConta salvo conta) &&
        l.account ≠ conta then
      { l with account := conta }
    else l

/-- One turn of the loop of `recontarContas`. -/
def recontar (k : Nat) (c : SalvarEmCurso) (salvo : PluggyIntegration) :
    List TreasuryAccount → Sincronia
  | [] => s.moverSalvar k c .fim
  | conta :: contas =>
      { s with
        db := { s.db with lancamentos := recontarConta s.db.lancamentos c.churchId salvo conta }
      }.moverSalvar k c (.recontar salvo contas)

/-- The read of the division by `importar`. -/
def lerDivisao (k : Nat) (c : ImportarEmCurso) : Sincronia :=
  match s.db.integracoes c.churchId with
  | some integracao => s.moverImportar k c (.abrir integracao)
  | none => s.moverImportar k c .fim

/-- The read of the fetch: it has to be there and on. -/
def abrir (k : Nat) (c : ImportarEmCurso) (integracao : PluggyIntegration) : Sincronia :=
  match s.db.integracoes c.churchId with
  | some atual =>
      if s.enabled c.churchId = some true then
        s.moverImportar k c (.buscar integracao atual.itemIds)
      else s.moverImportar k c .fim
  | none => s.moverImportar k c .fim

/-- The fetch: every transaction carries the item it was asked of. -/
def buscar (k : Nat) (c : ImportarEmCurso) (integracao : PluggyIntegration) (itemIds : List Id)
    (extrato : Option (Id → List TransacaoDoBanco)) : Sincronia :=
  match extrato with
  | some extrato =>
      s.moverImportar k c (.inserir integracao (itemIds.flatMap fun itemId =>
        (extrato itemId).map fun t => { t with itemId := itemId }))
  | none => s.moverImportar k c .fim

/-- The `createMany`. -/
def inserir (k : Nat) (c : ImportarEmCurso) (integracao : PluggyIntegration)
    (transacoes : List TransacaoDoBanco) (agora : Instant) : Sincronia :=
  { s with
    db := transacoes.foldl
      (fun atual t => atual.inserirNova (s.db.linhaImportada c.churchId integracao agora t)) s.db
  }.moverImportar k c .fim

/-- One step of a run. -/
def agir : Acao → Sincronia
  | .salvar churchId dto => { s with salvando := s.salvando ++ [⟨churchId, dto, .ler⟩] }
  | .lerSalvo k credenciais =>
      match s.salvando[k]? with
      | some ⟨churchId, dto, .ler⟩ => s.lerSalvo k ⟨churchId, dto, .ler⟩ credenciais
      | _ => s
  | .gravar k =>
      match s.salvando[k]? with
      | some ⟨churchId, dto, .gravar existente enabled⟩ =>
          s.gravar k ⟨churchId, dto, .gravar existente enabled⟩ existente enabled
      | _ => s
  | .recontar k =>
      match s.salvando[k]? with
      | some ⟨churchId, dto, .recontar salvo contas⟩ =>
          s.recontar k ⟨churchId, dto, .recontar salvo contas⟩ salvo contas
      | _ => s
  | .importar churchId => { s with importando := s.importando ++ [⟨churchId, .ler⟩] }
  | .lerDivisao k =>
      match s.importando[k]? with
      | some ⟨churchId, .ler⟩ => s.lerDivisao k ⟨churchId, .ler⟩
      | _ => s
  | .abrir k =>
      match s.importando[k]? with
      | some ⟨churchId, .abrir integracao⟩ => s.abrir k ⟨churchId, .abrir integracao⟩ integracao
      | _ => s
  | .buscar k extrato =>
      match s.importando[k]? with
      | some ⟨churchId, .buscar integracao itemIds⟩ =>
          s.buscar k ⟨churchId, .buscar integracao itemIds⟩ integracao itemIds extrato
      | _ => s
  | .inserir k agora =>
      match s.importando[k]? with
      | some ⟨churchId, .inserir integracao transacoes⟩ =>
          s.inserir k ⟨churchId, .inserir integracao transacoes⟩ integracao transacoes agora
      | _ => s

/-- Every call has returned. -/
def TodasTerminaram : Prop :=
  (∀ c ∈ s.salvando, c.ponto = .fim) ∧ ∀ c ∈ s.importando, c.ponto = .fim

end Sincronia

end IccvBackend
