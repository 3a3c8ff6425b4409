/-
Module: IccvBackend.Treasury.Nomes
Purpose: `tesouraria/planilha.ts`: the words of a name, the words two names share, and the person a
  row of the spreadsheet is taken for.
Trusted boundary: human-reviewed spec
Main exports: Unicode, Planilha.normalizar, Planilha.palavrasDoNome, Planilha.mesmaPalavra,
  Planilha.emComum, Planilha.escolher
-/
import IccvBackend.Lib.Text
import IccvBackend.Prisma.Schema
import IccvBackend.Lib.FirstMax

namespace IccvBackend

open Lib

/-- What the Unicode tables of the language do to a text: `normalize('NFD')` and `toLowerCase`. -/
structure Unicode where
  nfd : List Char → List Char
  toLowerCase : List Char → List Char

namespace Planilha

/-! ### Words -/

/-- `replace(/\s+/g, ' ')`: the last blank of a run leaves the space. -/
def umEspaco : List Char → List Char
  | [] => []
  | c :: resto =>
      if isBlank c then
        if resto.head?.any isBlank then umEspaco resto else ' ' :: umEspaco resto
      else c :: umEspaco resto

/-- `[̀-ͯ]`: a combining mark. -/
def marca (c : Char) : Bool := 0x300 ≤ c.toNat && c.toNat ≤ 0x36f

/-- `normalizar`. -/
def normalizar (unicode : Unicode) (texto : List Char) : List Char :=
  trimChars (umEspaco (unicode.toLowerCase ((unicode.nfd texto).filter fun c => !marca c)))

/-- `nomeDaLinha`: a couple keeps the first name. -/
def nomeDaLinha (nome : List Char) : List Char :=
  trimChars ((nome.splitOn '/').headD [])

/-- `CONECTIVOS`. -/
def conectivos : List (List Char) :=
  ["de".toList, "da".toList, "do".toList, "das".toList, "dos".toList, "e".toList]

/-- `[a-z0-9]`. -/
def letraOuDigito (c : Char) : Bool := ('a' ≤ c && c ≤ 'z') || ('0' ≤ c && c ≤ '9')

/-- `palavrasDoNome`: the words that identify a person. -/
def palavrasDoNome (unicode : Unicode) (nome : String) : List (List Char) :=
  (((normalizar unicode (nomeDaLinha nome.toList)).splitOn ' ').map fun p =>
    p.filter letraOuDigito).filter fun p => 2 ≤ p.length && !conectivos.contains p

/-! ### Words in common -/

section Palavras

variable {α : Type*} [DecidableEq α]

/-- `while (a[i] === b[i]) i++`, of two texts that are not the same. -/
def primeiraDiferenca : List α → List α → Nat
  | x :: a, y :: b => if x = y then primeiraDiferenca a b + 1 else 0
  | _, _ => 0

/-- One turn of that loop.  Past its end a text has nothing, at any place. -/
def girar (a b : List α) (i : Nat) : Option Nat := if a[i]? = b[i]? then some (i + 1) else none

/-- The loop from a place, for so many turns at most: the place where it stops. -/
def varrer (a b : List α) : Nat → Nat → Option Nat
  | 0, _ => none
  | voltas + 1, i =>
      match girar a b i with
      | some proximo => varrer a b voltas proximo
      | none => some i

/-- `mesmaPalavra`: the same word, or one letter away when both are long. -/
def mesmaPalavra (a b : List α) : Bool :=
  if a = b then true
  else if min a.length b.length < 4 || 1 < (a.length - b.length) + (b.length - a.length) then false
  else
    let i := primeiraDiferenca a b
    a.drop (i + 1) = b.drop (i + 1) || a.drop (i + 1) = b.drop i || a.drop i = b.drop (i + 1)

/-- The loop of `emComum`: each word takes the first like it that is left of the other name. -/
def casar : List (List α) → List (List α) → Nat
  | [], _ => 0
  | p :: palavras, deB =>
      match deB.findIdx? fun q => mesmaPalavra p q with
      | none => casar palavras deB
      | some i => casar palavras (deB.eraseIdx i) + 1

end Palavras

/-- `emComum`.  A `Set` keeps the first of each word. -/
def emComum (unicode : Unicode) (a b : String) : Nat :=
  casar (palavrasDoNome unicode a).eraseDups (palavrasDoNome unicode b)

/-! ### The person of a row -/

/-- `Candidato`. -/
structure Candidato where
  id : Id
  fullName : String
  memberChurchId : Option Id
deriving Repr, DecidableEq

/-- What `escolher` answers. -/
structure Escolha where
  escolhido : Option Id
  exato : Bool
deriving Repr, DecidableEq

/-- A candidate with its words in common with the row. -/
structure Nota where
  c : Candidato
  comuns : Nat
  palavras : List (List Char)
deriving Repr, DecidableEq

section Escolher

variable (unicode : Unicode) (nome : String) (candidatos : List Candidato) (churchId : Id)

def podem : List Candidato :=
  candidatos.filter fun c => c.memberChurchId.isNone || c.memberChurchId = some churchId

/-- `join(' ')`. -/
def juntas (palavras : List (List Char)) : List Char := [' '].intercalate palavras

/-- Those whose name is the same. -/
def iguais : List Candidato :=
  (podem candidatos churchId).filter fun c =>
    juntas (palavrasDoNome unicode c.fullName) = juntas (palavrasDoNome unicode nome)

def daqui : List Candidato :=
  (iguais unicode nome candidatos churchId).filter fun c => c.memberChurchId = some churchId

def notas : List Nota :=
  (podem candidatos churchId).map fun c =>
    ⟨c, emComum unicode nome c.fullName, palavrasDoNome unicode c.fullName⟩

/-- Those whose name fits in the other, or the other in it. -/
def cabem : List Nota :=
  (notas unicode nome candidatos churchId).filter fun n =>
    2 ≤ n.comuns && n.comuns = min (palavrasDoNome unicode nome).length n.palavras.length

/-- The same first name, and three words in common. -/
def favoritos : List Nota :=
  (notas unicode nome candidatos churchId).filter fun n =>
    3 ≤ n.comuns &&
      mesmaPalavra ((palavrasDoNome unicode nome).headD []) (n.palavras.headD [])

/-- `escolher`. -/
def escolher : Escolha :=
  let iguais := iguais unicode nome candidatos churchId
  let daqui := daqui unicode nome candidatos churchId
  let cabem := cabem unicode nome candidatos churchId
  if daqui.length = 1 then ⟨daqui.head?.map Candidato.id, true⟩
  else if iguais.length = 1 then ⟨iguais.head?.map Candidato.id, true⟩
  else if iguais ≠ [] then ⟨none, false⟩
  else if cabem.length = 1 then ⟨cabem.head?.map fun n => n.c.id, false⟩
  else if cabem ≠ [] then ⟨none, false⟩
  else
    -- the first of the sorted list, when it has more words than the second
    ⟨(clearMax Nota.comuns (favoritos unicode nome candidatos churchId)).map fun n => n.c.id, false⟩

end Escolher

end Planilha

end IccvBackend
