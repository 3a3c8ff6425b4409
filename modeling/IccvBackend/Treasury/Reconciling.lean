/-
Module: IccvBackend.Treasury.Reconciling
Purpose: The calls that reconcile, undo and remove entries of the cash book, statement by statement:
  several of them in flight.
Trusted boundary: human-reviewed spec
Main exports: FaseConciliar, ChamadaDoCaixa, CaixaEmCurso, CaixaEmCurso.step, RegistroDoCaixa
-/
import IccvBackend.Treasury.CashBook

namespace IccvBackend

open Lib

/-!
No call opens a transaction: each statement reads or writes the tables as they are then.  The two
reads of `conciliar` are sent together, and the entry reconciled with the bank one is read after it.
A call that ended stays in the list with its outcome.
-/

/-- What `conciliar` has read so far. -/
structure LeiturasDoPar where
  banco : Option (Option Lancamento)
  reconciledBy : Option (Option Lancamento)
  manual : Option (Option Lancamento)
deriving DecidableEq

inductive LeituraDoPar where
  | banco
  | reconciledBy
  | manual
deriving Repr, DecidableEq

/-- The statement `conciliar` runs next. -/
inductive FaseConciliar where
  | lendo (lido : LeiturasDoPar)
  | ligar (banco manual : Lancamento)
  | herdar (banco manual : Lancamento)
  | fim (erro : Option Failure)
deriving DecidableEq

/-- The statement `desfazer` and `remover` run next. -/
inductive FaseCurta where
  | ler
  | escrever
  | fim (erro : Option Failure)
deriving DecidableEq

inductive ChamadaDoCaixa where
  | conciliar (churchId bancoId manualId : Id) (fase : FaseConciliar)
  | desfazer (churchId manualId : Id) (fase : FaseCurta)
  | remover (churchId id : Id) (fase : FaseCurta)
deriving DecidableEq

namespace ChamadaDoCaixa

/-- A read of `conciliar`. -/
def ler (db : LivroCaixa) (qual : LeituraDoPar) : ChamadaDoCaixa → ChamadaDoCaixa
  | .conciliar churchId bancoId manualId (.lendo lido) =>
      match qual with
      | .banco =>
          .conciliar churchId bancoId manualId
            (.lendo { lido with banco := some (db.doLivro? churchId bancoId) })
      | .reconciledBy =>
          match lido.banco with
          | none => .conciliar churchId bancoId manualId (.lendo lido)
          | some banco =>
              .conciliar churchId bancoId manualId
                (.lendo { lido with
                  reconciledBy := some (banco.bind fun banco => db.reconciledBy banco.id) })
      | .manual =>
          .conciliar churchId bancoId manualId
            (.lendo { lido with manual := some (db.doLivro? churchId manualId) })
  | c => c

/-- The rows after a write, and the phase that follows: the one given, or the exception. -/
def escrever {φ : Type} (db : LivroCaixa) (escrita : Except Failure LivroCaixa) (depois : φ)
    (erro : Failure → φ) : LivroCaixa × φ :=
  match escrita with
  | .ok novo => (novo, depois)
  | .error e => (db, erro e)

/-- The checks and the writes of `conciliar`. -/
def avancarConciliar (db : LivroCaixa) : FaseConciliar → LivroCaixa × FaseConciliar
  | .lendo lido =>
      match lido.banco, lido.reconciledBy, lido.manual with
      | some banco, some reconciledBy, some manual =>
          match LivroCaixa.conferirPar banco manual reconciledBy with
          | .ok (banco, manual) => (db, .ligar banco manual)
          | .error e => (db, .fim (some e))
      | _, _, _ => (db, .lendo lido)
  | .ligar banco manual =>
      escrever db (db.ligar manual.id banco.id) (.herdar banco manual) fun e => .fim (some e)
  | .herdar banco manual =>
      escrever db (db.herdar banco manual) (.fim none) fun e => .fim (some e)
  | .fim erro => (db, .fim erro)

def avancarDesfazer (db : LivroCaixa) (churchId manualId : Id) :
    FaseCurta → LivroCaixa × FaseCurta
  | .ler =>
      match db.conciliado? churchId manualId with
      | .ok _ => (db, .escrever)
      | .error e => (db, .fim (some e))
  | .escrever => escrever db (db.desligar manualId) (.fim none) fun e => .fim (some e)
  | .fim erro => (db, .fim erro)

/-- `remover`: the entry is read and checked, and then deleted. -/
def avancarRemover (db : LivroCaixa) (churchId id : Id) : FaseCurta → LivroCaixa × FaseCurta
  | .ler =>
      match db.remover churchId id with
      | .ok _ => (db, .escrever)
      | .error e => (db, .fim (some e))
  | .escrever =>
      escrever db
        (do
          let _ ← orFail (lookup Lancamento.id id db.lancamentos) (internalServerError "P2025")
          pure { db with lancamentos := deleteKey Lancamento.id id db.lancamentos })
        (.fim none) fun e => .fim (some e)
  | .fim erro => (db, .fim erro)

/-- The next statement of a call. -/
def avancar (db : LivroCaixa) : ChamadaDoCaixa → LivroCaixa × ChamadaDoCaixa
  | .conciliar churchId bancoId manualId fase =>
      let (db, fase) := avancarConciliar db fase
      (db, .conciliar churchId bancoId manualId fase)
  | .desfazer churchId manualId fase =>
      let (db, fase) := avancarDesfazer db churchId manualId fase
      (db, .desfazer churchId manualId fase)
  | .remover churchId id fase =>
      let (db, fase) := avancarRemover db churchId id fase
      (db, .remover churchId id fase)

end ChamadaDoCaixa

structure CaixaEmCurso where
  db : LivroCaixa
  chamadas : List ChamadaDoCaixa

namespace CaixaEmCurso

inductive Acao where
  | conciliar (churchId bancoId manualId : Id)
  | desfazer (churchId manualId : Id)
  | remover (churchId id : Id)
  /-- one of the reads of `conciliar` -/
  | ler (chamada : Nat) (qual : LeituraDoPar)
  /-- the next statement of a call -/
  | avancar (chamada : Nat)

def iniciar (s : CaixaEmCurso) (c : ChamadaDoCaixa) : CaixaEmCurso :=
  { s with chamadas := s.chamadas ++ [c] }

def step (s : CaixaEmCurso) : Acao → CaixaEmCurso
  | .conciliar churchId bancoId manualId =>
      s.iniciar (.conciliar churchId bancoId manualId (.lendo ⟨none, none, none⟩))
  | .desfazer churchId manualId => s.iniciar (.desfazer churchId manualId .ler)
  | .remover churchId id => s.iniciar (.remover churchId id .ler)
  | .ler k qual =>
      match s.chamadas[k]? with
      | some c => { s with chamadas := s.chamadas.set k (c.ler s.db qual) }
      | none => s
  | .avancar k =>
      match s.chamadas[k]? with
      | some c =>
          { db := (c.avancar s.db).1, chamadas := s.chamadas.set k (c.avancar s.db).2 }
      | none => s

end CaixaEmCurso

/-! ### What is remembered of a run -/

/-- The call has written its pair. -/
def ChamadaDoCaixa.escreveu : ChamadaDoCaixa → Option (Id × Id)
  | .conciliar _ bancoId manualId (.herdar _ _) => some (bancoId, manualId)
  | .conciliar _ bancoId manualId (.fim none) => some (bancoId, manualId)
  | _ => none

/-- The call returned without error. -/
def ChamadaDoCaixa.conciliou : ChamadaDoCaixa → Option (Id × Id)
  | .conciliar _ bancoId manualId (.fim none) => some (bancoId, manualId)
  | _ => none

/-- The call ended with an exception. -/
def ChamadaDoCaixa.recusada : ChamadaDoCaixa → Bool
  | .conciliar _ _ _ (.fim (some _)) => true
  | _ => false

/-- The manual entry a call is about to undo or remove, when it ends well. -/
def ChamadaDoCaixa.desfez (antes depois : ChamadaDoCaixa) : Option Id :=
  match antes, depois with
  | .desfazer _ manualId .escrever, .desfazer _ _ (.fim none) => some manualId
  | .remover _ id .escrever, .remover _ _ (.fim none) => some id
  | _, _ => none

/-- The calls whose pair an undoing or a removal of the manual entry took away after they wrote it,
and the calls that changed an entry. -/
structure RegistroDoCaixa where
  desfeitas : List Nat
  mudaram : List Nat
deriving Repr, DecidableEq

/-- The calls that have written a pair with this manual entry. -/
def CaixaEmCurso.escritasEm (s : CaixaEmCurso) (manualId : Id) : List Nat :=
  (List.range s.chamadas.length).filter fun k =>
    (s.chamadas[k]?.bind ChamadaDoCaixa.escreveu).any fun par => par.2 = manualId

def RegistroDoCaixa.registrar (r : RegistroDoCaixa) (antes : CaixaEmCurso)
    (acao : CaixaEmCurso.Acao) (depois : CaixaEmCurso) : RegistroDoCaixa :=
  match acao with
  | .avancar k =>
      match antes.chamadas[k]?, depois.chamadas[k]? with
      | some c, some c' =>
          { desfeitas := ((c.desfez c').map antes.escritasEm).getD [] ++ r.desfeitas
            mudaram :=
              if depois.db.lancamentos = antes.db.lancamentos then r.mudaram else k :: r.mudaram }
      | _, _ => r
  | _ => r

end IccvBackend
