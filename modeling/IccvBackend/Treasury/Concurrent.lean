/-
Module: IccvBackend.Treasury.Concurrent
Purpose: The calls that write allocations, statement by statement: several of them in flight over
  the treasuries of a church, each in a read-committed transaction.
Trusted boundary: human-reviewed spec
Main exports: EscritaAberta, Ponto, ChamadaAberta, EmCurso, EmCurso.step
-/
import IccvBackend.Treasury.Ledger

namespace IccvBackend

open Lib

/-!
A statement of an open transaction reads the committed rows and its own writes, and others see its
writes at the commit.  A write waits while another open transaction has written the same allocation.
The three statements of `soltar` read nothing and are one step, at their commit.

The writes of `conciliar` on links and manual entries touch no allocation and are left out.  What
its checks refuse, and any other exception, is the action `desistir`: the transaction rolls back.
-/

/-! ### Calls in flight -/

/-- A write on an allocation in an open transaction, with the remainder of the movement the call had
read for it.  `visto` is what the committed allocations of the movement added up to at that read: no
step looks at it. -/
structure EscritaAberta where
  movimentoId : Id
  visto : Int
  restante : Int
  valor : Int
  category : Option String
deriving Repr, DecidableEq

/-- The statement a call runs next. -/
inductive Ponto where
  /-- the remainder of the first part left, or the commit after the last -/
  | distribuir (partes : List Parte)
  /-- the upsert of the part just read -/
  | somar (escrita : EscritaAberta) (partes : List Parte)
  /-- the allocation of the movement in the treasury -/
  | conciliar (movimentoId : Id) (category : String)
  /-- the remainder of a movement that has none -/
  | conciliarInteiro (movimentoId : Id) (category : String)
  /-- the create of an allocation with this remainder -/
  | criar (escrita : EscritaAberta)
  | devolver (alocacaoId : Id)
  | desfazer (movimentoId : Id)
  /-- the transaction of `soltar` -/
  | soltar (movimentoId alocacaoId : Id)
  | confirmar
deriving Repr, DecidableEq

/-- A call: its treasury and account, the statement that comes next, and the writes of its open
transaction, the last one first. -/
structure ChamadaAberta where
  tesouraria : Id
  account : TreasuryAccount
  ponto : Ponto
  escritas : List EscritaAberta
deriving Repr, DecidableEq

structure EmCurso where
  db : Tesourarias
  chamadas : List ChamadaAberta

/-- The rows as the transaction of a call sees them, and as its commit leaves them. -/
def ChamadaAberta.ver (c : ChamadaAberta) (db : Tesourarias) : Tesourarias :=
  c.escritas.foldr
    (fun e db => db.somarAlocacao c.tesouraria e.movimentoId e.valor e.category) db

namespace EmCurso

inductive Acao where
  | distribuir (id : Id) (partes : List Parte)
  | conciliar (id movimentoId : Id) (category : String)
  | devolver (id alocacaoId : Id)
  | desfazer (id movimentoId : Id)
  /-- the next statement of a call -/
  | avancar (chamada : Nat)
  /-- an exception ends a call -/
  | desistir (chamada : Nat)

/-- A call begins: `exigirAberta` and `contaDa`. -/
def iniciar (s : EmCurso) (id : Id) (ponto : Ponto) : EmCurso :=
  match s.db.exigirAberta id with
  | .ok t => { s with chamadas := s.chamadas ++ [⟨id, s.db.contaDa t.kind, ponto, []⟩] }
  | .error _ => s

/-- A call that ended. -/
def encerrar (s : EmCurso) (chamada : Nat) : EmCurso :=
  { s with chamadas := s.chamadas.eraseIdx chamada }

/-- Another open transaction has written this allocation. -/
def ocupada (s : EmCurso) (chamada : Nat) (treasuryId entryId : Id) : Bool :=
  (s.chamadas.eraseIdx chamada).any fun c =>
    c.tesouraria = treasuryId && c.escritas.any fun e => e.movimentoId = entryId

def avancar (s : EmCurso) (k : Nat) (c : ChamadaAberta) : EmCurso :=
  match c.ponto with
  | .distribuir [] => encerrar { s with db := c.ver s.db } k
  | .distribuir (parte :: partes) =>
      match (c.ver s.db).restanteDe c.account parte.movimentoId with
      | .ok restante =>
          match parte.tomar restante with
          | .ok valor =>
              let escrita :=
                ⟨parte.movimentoId, s.db.distribuido parte.movimentoId, restante, valor, none⟩
              { s with chamadas := s.chamadas.set k { c with ponto := .somar escrita partes } }
          | .error _ => encerrar s k
      | .error _ => encerrar s k
  | .somar escrita partes =>
      if s.ocupada k c.tesouraria escrita.movimentoId then s
      else
        { s with
          chamadas := s.chamadas.set k
            { c with ponto := .distribuir partes, escritas := escrita :: c.escritas } }
  | .conciliar movimentoId category =>
      match s.db.movimento? movimentoId with
      | none => encerrar s k
      | some _ =>
          match s.db.alocacao? c.tesouraria movimentoId with
          | some _ => { s with chamadas := s.chamadas.set k { c with ponto := .confirmar } }
          | none =>
              { s with
                chamadas := s.chamadas.set k
                  { c with ponto := .conciliarInteiro movimentoId category } }
  | .conciliarInteiro movimentoId category =>
      match s.db.restanteDe c.account movimentoId with
      | .ok restante =>
          let escrita :=
            ⟨movimentoId, s.db.distribuido movimentoId, restante, restante, some category⟩
          { s with chamadas := s.chamadas.set k { c with ponto := .criar escrita } }
      | .error _ => encerrar s k
  | .criar escrita =>
      if s.ocupada k c.tesouraria escrita.movimentoId then s
      else
        match s.db.alocacao? c.tesouraria escrita.movimentoId with
        | some _ => encerrar s k
        | none =>
            { s with
              chamadas := s.chamadas.set k
                { c with ponto := .confirmar, escritas := escrita :: c.escritas } }
  | .devolver alocacaoId =>
      match s.db.alocacoes.find? fun a => a.id = alocacaoId && a.treasuryId = c.tesouraria with
      | some a =>
          { s with chamadas := s.chamadas.set k { c with ponto := .soltar a.entryId alocacaoId } }
      | none => encerrar s k
  | .desfazer movimentoId =>
      match s.db.alocacao? c.tesouraria movimentoId with
      | some a =>
          { s with chamadas := s.chamadas.set k { c with ponto := .soltar movimentoId a.id } }
      | none => encerrar s k
  | .soltar movimentoId alocacaoId =>
      if s.ocupada k c.tesouraria movimentoId then s
      else if s.db.alocacoes.any fun a => a.id = alocacaoId then
        encerrar { s with db := s.db.soltar c.tesouraria movimentoId alocacaoId } k
      else encerrar s k
  | .confirmar => encerrar { s with db := c.ver s.db } k

def step (s : EmCurso) : Acao → EmCurso
  | .distribuir id partes => s.iniciar id (.distribuir partes)
  | .conciliar id movimentoId category => s.iniciar id (.conciliar movimentoId category)
  | .devolver id alocacaoId => s.iniciar id (.devolver alocacaoId)
  | .desfazer id movimentoId => s.iniciar id (.desfazer movimentoId)
  | .avancar k =>
      match s.chamadas[k]? with
      | some c => s.avancar k c
      | none => s
  | .desistir k => s.encerrar k

end EmCurso

end IccvBackend
