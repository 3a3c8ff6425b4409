/-
Module: IccvBackend.Treasury.Planilha
Purpose: `tesouraria/planilha.service.ts`: the import of the spreadsheet of tithes into the cash
  book.
Trusted boundary: human-reviewed spec
Main exports: LinhaDaPlanilha, Dizimo, LivroCaixa.tornarMembro, LivroCaixa.importarPlanilha,
  Escritor, LivroCaixa.escrever
-/
import IccvBackend.Lib.Binary64
import IccvBackend.Treasury.CashBook

namespace IccvBackend

open Lib

/-! ### Days of the months -/

def bissexto (ano : Nat) : Bool := ano % 4 = 0 && (ano % 100 ≠ 0 || ano % 400 = 0)

/-- The lengths of the months of a year. -/
def diasDosMeses (ano : Nat) : List Nat :=
  [31, if bissexto ano then 29 else 28, 31, 30, 31, 30, 31, 31, 30, 31, 30, 31]

/-- The day `ano-mes-01`, with the months counted from 0. -/
def primeiroDoMes (ano mes : Nat) : Dia :=
  365 * (ano - 1) + (ano - 1) / 4 - (ano - 1) / 100 + (ano - 1) / 400 - 719_162 +
    ((diasDosMeses ano).take mes).sum

example : primeiroDoMes 2026 9 = 20727 := by decide

/-- `String(i + 1).padStart(2, '0')`. -/
def numeroDoMes (mes : Nat) : String :=
  if mes < 9 then "0" ++ toString (mes + 1) else toString (mes + 1)

/-! ### The spreadsheet -/

/-- `LinhaDaPlanilhaDto`: the values of January to December, in reais, as the doubles they are. -/
structure LinhaDaPlanilha where
  nome : String
  userId : Option Id
  valores : List ℚ
deriving Repr, DecidableEq

/-- One row of `porChave`: the tithe of a person in a month. -/
structure Dizimo where
  chave : String
  amount : ℚ
  date : Instant
  description : String
  userId : Option Id
  payerName : String
deriving Repr, DecidableEq

structure Ignorado where
  nome : String
  motivo : String
deriving Repr, DecidableEq

/-- What `importar` answers. -/
structure ResultadoDaPlanilha where
  lancamentos : Nat
  jaExistiam : Nat
  novosMembros : Nat
  ignorados : List Ignorado
deriving Repr, DecidableEq

/-- The spreadsheet half read: `pessoas` is the map of who was read, to the church each is a member
of. -/
structure LeituraDaPlanilha where
  db : LivroCaixa
  pessoas : Id → Option (Option Id)
  porChave : List Dizimo
  novosMembros : Nat
  ignorados : List Ignorado

/-- The row of a tithe: the column keeps two decimals. -/
def Dizimo.lancamento (churchId : Id) (agora : Instant) (d : Dizimo) (id : Id) : Lancamento where
  id := id
  churchId := churchId
  type := .income
  category := .tithe
  amount := cents d.amount
  date := d.date
  description := d.description
  method := none
  userId := d.userId
  source := .manual
  externalId := some d.chave
  bankAccount := none
  payerName := some d.payerName
  reconciledWithId := none
  notInBankAt := none
  account := .administrative
  bankItemId := none
  createdAt := agora

/-- One month of a line: the same person in two lines adds up in the month. -/
def juntarDizimo (porChave : List Dizimo) (novo : Dizimo) : List Dizimo :=
  if porChave.any fun d => d.chave = novo.chave then
    porChave.map fun d =>
      if d.chave = novo.chave then { d with amount := Binary64.addHundredths d.amount novo.amount }
      else d
  else porChave ++ [novo]

/-- The tithes of a line, one for each month with a value.  `quem` is the person or the name. -/
def LinhaDaPlanilha.dizimos (linha : LinhaDaPlanilha) (quem : String) (userId : Option Id)
    (ano : Nat) : List Dizimo :=
  (linha.valores.zipIdx.filter fun mes => mes.1 ≠ 0).map fun (valor, i) =>
    { chave := s!"planilha:{quem}:{ano}-{numeroDoMes i}"
      amount := valor
      date := paraDia (primeiroDoMes ano i)
      description := s!"Dízimo {numeroDoMes i}/{ano} — {linha.nome} (planilha)"
      userId := userId
      payerName := linha.nome }

namespace LeituraDaPlanilha

variable (s : LeituraDaPlanilha)

def somarMeses (linha : LinhaDaPlanilha) (quem : String) (userId : Option Id) (ano : Nat) :
    LeituraDaPlanilha :=
  { s with porChave := (linha.dizimos quem userId ano).foldl juntarDizimo s.porChave }

def ignorar (linha : LinhaDaPlanilha) (motivo : String) : LeituraDaPlanilha :=
  { s with ignorados := s.ignorados ++ [⟨linha.nome, motivo⟩] }

end LeituraDaPlanilha

namespace LivroCaixa

variable (db : LivroCaixa)

/-- `MembrosService.tornarMembro`: only who is a member of no church enters. -/
def tornarMembro (churchId userId : Id) : Except Failure LivroCaixa := do
  failIf (db.membros.all fun m => m.id ≠ userId || m.memberChurchId.isSome)
    (conflict "Esta pessoa já é membro de uma igreja")
  pure { db with
    membros := db.membros.map fun m =>
      if m.id = userId && m.memberChurchId.isNone then { m with memberChurchId := some churchId }
      else m }

end LivroCaixa

section Planilha

variable (normalizar : String → String)

/-- One line of the spreadsheet.  The exception of `tornarMembro` is the conflict, which is
caught. -/
def LeituraDaPlanilha.lerLinha (churchId : Id) (ano : Nat) (s : LeituraDaPlanilha)
    (linha : LinhaDaPlanilha) : LeituraDaPlanilha :=
  match linha.userId with
  | none => s.somarMeses linha s!"anonimo:{normalizar linha.nome}" none ano
  | some userId =>
      match s.pessoas userId with
      | none => s.ignorar linha "Pessoa não encontrada"
      | some memberChurchId =>
          if memberChurchId = some churchId then
            s.somarMeses linha (toString userId) (some userId) ano
          else if memberChurchId.isSome then s.ignorar linha "Já é membro de outra igreja"
          else
            match s.db.tornarMembro churchId userId with
            | .error _ => s.ignorar linha "Já é membro de outra igreja"
            | .ok db =>
                let entrou : LeituraDaPlanilha :=
                  { s with
                    db := db
                    pessoas := Function.update s.pessoas userId (some (some churchId))
                    novosMembros := s.novosMembros + 1 }
                entrou.somarMeses linha (toString userId) (some userId) ano

namespace LivroCaixa

variable (db : LivroCaixa)

/-- The largest amount of the column, `Decimal(12, 2)`, in cents. -/
def valorMaximo : Int := 999_999_999_999

/-- `importar` of the spreadsheet.  An amount that does not fit its column fails the insertion, and
who became a member stays one. -/
def importarPlanilha (churchId : Id) (ano : Nat) (linhas : List LinhaDaPlanilha) (agora : Instant) :
    LivroCaixa × Except Failure ResultadoDaPlanilha :=
  let inicio : LeituraDaPlanilha :=
    { db := db
      pessoas := fun id => (lookup Membro.id id db.membros).map Membro.memberChurchId
      porChave := []
      novosMembros := 0
      ignorados := [] }
  let lida := linhas.foldl (LeituraDaPlanilha.lerLinha normalizar churchId ano) inicio
  if lida.porChave.any fun d => valorMaximo < cents d.amount then
    (lida.db, .error (internalServerError "numeric field overflow"))
  else
    let depois := lida.porChave.foldl
      (fun atual d => atual.inserirNova (d.lancamento churchId agora)) lida.db
    let count := depois.lancamentos.length - lida.db.lancamentos.length
    (depois, .ok
      { lancamentos := count
        jaExistiam := lida.porChave.length - count
        novosMembros := lida.novosMembros
        ignorados := lida.ignorados })

/-! ### The writers of the cash book -/

/-- Who writes entries: the services of the cash book, and the spreadsheet.  People and integrations
change by other services. -/
inductive Escritor where
  | livro (acao : Acao)
  | planilha (churchId : Id) (ano : Nat) (linhas : List LinhaDaPlanilha) (agora : Instant)
  | cadastros (membros : List Membro) (integracoes : Id → Option PluggyIntegration)

/-- One call of a run. -/
def escrever (db : LivroCaixa) : Escritor → LivroCaixa
  | .livro acao => db.agir acao
  | .planilha churchId ano linhas agora =>
      (db.importarPlanilha normalizar churchId ano linhas agora).1
  | .cadastros membros integracoes => { db with membros := membros, integracoes := integracoes }

end LivroCaixa

end Planilha

end IccvBackend
