/-
Module: IccvBackend.Pdf.Navegador
Purpose: `pdf/navegador.ts`: the Chrome the generations share, its open pages and its idle clock.
Trusted boundary: human-reviewed spec
Main exports: Chrome, Navegador, Geracao, Compartilhado, prepararNavegador, novaPagina, lancou,
  naoLancou, desconectou, fechouPagina, tocou, Compartilhado.agir
-/
import IccvBackend.Lib.Transitions
import Mathlib.Data.List.Basic

namespace IccvBackend

open Lib

/-!
The module state and the calls of `novaPagina`, each at one of its awaits.  A browser is the place
of its launch, which is also its promise; a clock is the place of its `setTimeout`.  Chrome chooses
when a launch ends, when a page opens or closes and when the browser is gone: each of these is an
event of the run.  The calls that await a launch go on, in order of arrival, before anything else
runs.
-/

/-- Where a browser is. -/
inductive Chrome where
  | lancando
  | aberto
  /-- it crashed or was closed, and its `disconnected` came -/
  | desconectado
  | naoAbriu
deriving Repr, DecidableEq

structure Navegador where
  chrome : Chrome
  /-- the idle clock took it to close -/
  fechando : Bool
deriving Repr, DecidableEq

/-- Where a call of `novaPagina` is, with the browser it uses. -/
inductive Geracao where
  /-- awaits `prepararNavegador` -/
  | esperando (n : Nat)
  /-- awaits `newPage` -/
  | abrindo (n : Nat)
  | aberta (n : Nat)
  | fechada
  | falhou (erro : String)
deriving Repr, DecidableEq

namespace Geracao

/-- The call counts in `paginasAbertas`. -/
def emUso : Geracao → Bool
  | .abrindo _ | .aberta _ => true
  | _ => false

/-- The browser the call still needs. -/
def navegador : Geracao → Option Nat
  | .esperando n | .abrindo n | .aberta n => some n
  | _ => none

end Geracao

/-- The module state of `navegador.ts`, with the calls made so far. -/
structure Compartilhado where
  navegadores : List Navegador
  compartilhado : Option Nat
  paginasAbertas : Int
  ocioso : Option Nat
  /-- the clocks that will still ring -/
  armados : List Nat
  /-- the clocks created so far -/
  relogios : Nat
  /-- the browsers killed at the `exit` of the process -/
  aoSair : List Nat
  geracoes : List Geracao
deriving Repr, DecidableEq

namespace Compartilhado

def inicial : Compartilhado := ⟨[], none, 0, none, [], 0, [], []⟩

variable (s : Compartilhado)

/-- The message of the `catch` of `lancar`. -/
def naoFoiPossivelAbrir (mensagem : String) : String :=
  s!"Não foi possível abrir o navegador para gerar o PDF ({mensagem}). " ++
    "Instale o Google Chrome ou defina PUPPETEER_EXECUTABLE_PATH no .env."

/-- The promise of the shared browser, launched if there is none. -/
def prepararNavegador : Compartilhado × Nat :=
  match s.compartilhado with
  | some n => (s, n)
  | none =>
      ({ s with
          navegadores := s.navegadores ++ [⟨.lancando, false⟩]
          compartilhado := some s.navegadores.length },
        s.navegadores.length)

/-- `clearTimeout(ocioso)`. -/
def limparRelogio : Compartilhado :=
  { s with armados := s.armados.filter fun r => some r ≠ s.ocioso }

/-- What call `i` does once it has its browser, up to `newPage`. -/
def pedirPagina (i n : Nat) : Compartilhado :=
  let s := s.limparRelogio
  { s with
    paginasAbertas := s.paginasAbertas + 1
    geracoes := s.geracoes.set i (.abrindo n) }

/-- The launch the promise stands for was a success, even if the browser is gone since. -/
def resolvido (n : Nat) : Bool :=
  match s.navegadores[n]? with
  | some ⟨.aberto, _⟩ | some ⟨.desconectado, _⟩ => true
  | _ => false

/-- A call of `novaPagina`, up to its first await that waits for something. -/
def novaPagina : Compartilhado :=
  let (s', n) := s.prepararNavegador
  let chegou := { s' with geracoes := s'.geracoes ++ [.esperando n] }
  if s'.resolvido n then chegou.pedirPagina s'.geracoes.length n else chegou

/-- Call `i` goes on if it awaits browser `n`. -/
def retomar (n : Nat) (i : Nat) : Compartilhado :=
  if s.geracoes[i]? = some (.esperando n) then s.pedirPagina i n else s

/-- The launch of browser `n` ends well. -/
def lancou (n : Nat) : Compartilhado :=
  match s.navegadores[n]? with
  | some ⟨.lancando, fechando⟩ =>
      (List.range s.geracoes.length).foldl (fun s i => s.retomar n i)
        { s with
          navegadores := s.navegadores.set n ⟨.aberto, fechando⟩
          aoSair := s.aoSair ++ [n] }
  | _ => s

/-- The launch of browser `n` fails, and with it the calls that await it. -/
def naoLancou (n : Nat) (mensagem : String) : Compartilhado :=
  match s.navegadores[n]? with
  | some ⟨.lancando, fechando⟩ =>
      { s with
        navegadores := s.navegadores.set n ⟨.naoAbriu, fechando⟩
        compartilhado := none
        geracoes := s.geracoes.map fun g =>
          if g = .esperando n then .falhou (naoFoiPossivelAbrir mensagem) else g }
  | _ => s

/-- The `disconnected` of browser `n`: it crashed, or it was closed. -/
def desconectou (n : Nat) : Compartilhado :=
  match s.navegadores[n]? with
  | some ⟨.aberto, fechando⟩ =>
      { s with
        navegadores := s.navegadores.set n ⟨.desconectado, fechando⟩
        aoSair := s.aoSair.filter fun m => m ≠ n
        compartilhado := none }
  | _ => s

/-- `newPage` gives call `i` its page. -/
def abriuPagina (i : Nat) : Compartilhado :=
  match s.geracoes[i]? with
  | some (.abrindo n) => { s with geracoes := s.geracoes.set i (.aberta n) }
  | _ => s

/-- `newPage` fails: the `catch` of call `i`. -/
def naoAbriuPagina (i : Nat) (erro : String) : Compartilhado :=
  match s.geracoes[i]? with
  | some (.abrindo _) =>
      { s with
        paginasAbertas := s.paginasAbertas - 1
        geracoes := s.geracoes.set i (.falhou erro) }
  | _ => s

/-- `ocioso = setTimeout(…, OCIOSO_MS)`. -/
def armarRelogio : Compartilhado :=
  { s with
    ocioso := some s.relogios
    armados := s.armados ++ [s.relogios]
    relogios := s.relogios + 1 }

/-- The `close` of the page of call `i`. -/
def fechouPagina (i : Nat) : Compartilhado :=
  match s.geracoes[i]? with
  | some (.aberta _) =>
      let s := { s with
        paginasAbertas := s.paginasAbertas - 1
        geracoes := s.geracoes.set i .fechada }
      if 0 < s.paginasAbertas then s else s.armarRelogio
  | _ => s

/-- Clock `r` rings: the shared browser is let go, and closed as soon as it is open. -/
def tocou (r : Nat) : Compartilhado :=
  if r ∈ s.armados then
    { s with
      armados := s.armados.erase r
      compartilhado := none
      navegadores :=
        match s.compartilhado with
        | some n => s.navegadores.modify n fun navegador => { navegador with fechando := true }
        | none => s.navegadores }
  else s

/-! ### Runs -/

inductive Acao where
  | preparar
  | novaPagina
  | lancou (n : Nat)
  | naoLancou (n : Nat) (mensagem : String)
  | desconectou (n : Nat)
  | abriuPagina (i : Nat)
  | naoAbriuPagina (i : Nat) (erro : String)
  | fechouPagina (i : Nat)
  | tocou (r : Nat)
deriving Repr, DecidableEq

/-- One event of a run. -/
def agir : Acao → Compartilhado
  | .preparar => s.prepararNavegador.1
  | .novaPagina => s.novaPagina
  | .lancou n => s.lancou n
  | .naoLancou n mensagem => s.naoLancou n mensagem
  | .desconectou n => s.desconectou n
  | .abriuPagina i => s.abriuPagina i
  | .naoAbriuPagina i erro => s.naoAbriuPagina i erro
  | .fechouPagina i => s.fechouPagina i
  | .tocou r => s.tocou r

end Compartilhado

end IccvBackend
