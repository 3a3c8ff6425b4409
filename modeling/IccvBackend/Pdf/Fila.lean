/-
Module: IccvBackend.Pdf.Fila
Purpose: `pdf/fila.ts`: the queue of the PDFs, one at a time.
Trusted boundary: human-reviewed spec
Main exports: Fila, naFilaDePdf, retomar, terminar, desistir, situacaoNaFila, Fila.agir
-/
import IccvBackend.Lib.Tasks
import IccvBackend.Lib.Transitions
import Mathlib.Order.Nat

namespace IccvBackend

open Lib

/-!
The module state of the queue and the calls of `naFilaDePdf`, each at one of its awaits.  A call is
the place of its arrival.  Between two awaits nothing else runs: a call that finds the slot free
starts its task at once, one that waits starts when its promise resumes, after it was released.  The
signal is raised while the call waits or later.
-/

/-- `SIMULTANEAS`. -/
def simultaneas : Nat := 1

/-- `MAXIMO_NA_FILA`. -/
def maximoNaFila : Nat := 20

/-- Where a call is. -/
inductive Fase where
  | esperando
  /-- `liberar` was called and the call has not resumed -/
  | liberado
  | gerando
  | terminou (ok : Bool)
  /-- `DesistiuDaFila` -/
  | desistiu
  /-- 429 -/
  | recusado
deriving Repr, DecidableEq

structure PedidoDePdf where
  codigo : String
  fase : Fase
deriving Repr, DecidableEq

structure Fila where
  vagasOcupadas : Nat
  esperando : List Nat
  gerando : List String
  pedidos : List PedidoDePdf
  /-- the calls whose task was started, in order -/
  iniciados : List Nat
deriving Repr, DecidableEq

inductive SituacaoNaFila where
  | fila (posicao : Nat)
  | gerando
  | desconhecido
deriving Repr, DecidableEq

namespace Fila

def vazia : Fila := ⟨0, [], [], [], []⟩

variable (s : Fila)

/-- The call moves. -/
def mover (i : Nat) (fase : Fase) : Fila :=
  { s with pedidos := s.pedidos.modify i fun p => { p with fase := fase } }

/-- The task starts. -/
def iniciar (i : Nat) (codigo : String) : Fila :=
  { s with gerando := s.gerando.insert codigo, iniciados := s.iniciados ++ [i] }

/-- A call of `naFilaDePdf`, up to its first await. -/
def naFilaDePdf (codigo : String) : Fila :=
  let chegou := fun fase => s.pedidos ++ [⟨codigo, fase⟩]
  if s.vagasOcupadas < simultaneas then
    ({ s with vagasOcupadas := s.vagasOcupadas + 1, pedidos := chegou .gerando } : Fila).iniciar
      s.pedidos.length codigo
  else if maximoNaFila ≤ s.esperando.length then { s with pedidos := chegou .recusado }
  else
    { s with pedidos := chegou .esperando, esperando := s.esperando ++ [s.pedidos.length] }

/-- The promise of a released call resumes. -/
def retomar (i : Nat) : Fila :=
  match s.pedidos[i]? with
  | some ⟨codigo, .liberado⟩ => (s.mover i .gerando).iniciar i codigo
  | _ => s

/-- The `finally`: the slot goes to the next in line, or is free. -/
def passarAVez : Fila :=
  match s.esperando with
  | proximo :: resto => ({ s with esperando := resto } : Fila).mover proximo .liberado
  | [] => { s with vagasOcupadas := s.vagasOcupadas - 1 }

/-- The task of a call ends, well or with an error. -/
def terminar (i : Nat) (ok : Bool) : Fila :=
  match s.pedidos[i]? with
  | some ⟨codigo, .gerando⟩ =>
      ({ s.mover i (.terminou ok) with
        gerando := s.gerando.filter fun c => c ≠ codigo } : Fila).passarAVez
  | _ => s

/-- The `abort` listener of a call. -/
def desistir (i : Nat) : Fila :=
  if i ∈ s.esperando then
    ({ s with esperando := s.esperando.erase i } : Fila).mover i .desistiu
  else s

/-- `situacaoNaFila`. -/
def situacaoNaFila (codigo : String) : SituacaoNaFila :=
  let indice := s.esperando.findIdx? fun i => (s.pedidos[i]?).any fun p => p.codigo = codigo
  match indice with
  | some indice => .fila (indice + 1)
  | none => if codigo ∈ s.gerando then .gerando else .desconhecido

/-! ### Runs -/

inductive Acao where
  | chegar (codigo : String)
  | retomar (i : Nat)
  | terminar (i : Nat) (ok : Bool)
  | desistir (i : Nat)
deriving Repr, DecidableEq

/-- One event of a run. -/
def agir : Acao → Fila
  | .chegar codigo => s.naFilaDePdf codigo
  | .retomar i => s.retomar i
  | .terminar i ok => s.terminar i ok
  | .desistir i => s.desistir i

end Fila

end IccvBackend
