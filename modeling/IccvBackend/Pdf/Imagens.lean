/-
Module: IccvBackend.Pdf.Imagens
Purpose: `pdf/imagens.ts`: the images of the PDFs, downloaded by a few workers a call over one cache
  of promises.
Trusted boundary: human-reviewed spec
Main exports: FormatoDeImagem, PedidoDeImagem, Imagens, guardar, baixarReduzida, prepararImagens,
  Imagens.agir
-/
import IccvBackend.Lib.Transitions
import IccvBackend.Lib.WorkerPool

namespace IccvBackend

open Lib

/-!
A download is a promise, known by its place among those ever started.  It ends with a data URI or
with nothing, whatever `fetch` and `sharp` did: `baixar` never throws.  A worker goes on some time
after the promise it awaits is settled, in any order among the workers.
-/

inductive FormatoDeImagem where
  | foto
  | capa
  | logo
  | cabecalho
  | crachaFundo
  | crachaLogo
  | crachaPapel
deriving Repr, DecidableEq

def FormatoDeImagem.nome : FormatoDeImagem → String
  | .foto => "foto"
  | .capa => "capa"
  | .logo => "logo"
  | .cabecalho => "cabecalho"
  | .crachaFundo => "crachaFundo"
  | .crachaLogo => "crachaLogo"
  | .crachaPapel => "crachaPapel"

structure PedidoDeImagem where
  url : String
  formato : FormatoDeImagem
deriving Repr, DecidableEq

/-- The key of the cache, of the distinct requests and of the result. -/
def PedidoDeImagem.chave (pedido : PedidoDeImagem) : String :=
  pedido.formato.nome ++ ":" ++ pedido.url

/-- A download, and what came of it once it is settled. -/
structure Download where
  pedido : PedidoDeImagem
  valor : Option (Option String)
deriving Repr, DecidableEq

/-- A call of `prepararImagens`: a worker waits for the download in its hands. -/
structure Preparo where
  unicos : List PedidoDeImagem
  trabalhadores : WorkerPool Nat
  resultado : List (String × String)
deriving Repr, DecidableEq

structure Imagens where
  /-- in order of insertion -/
  cache : List (String × Nat)
  downloads : List Download
  preparos : List Preparo
deriving Repr, DecidableEq

namespace Imagens

def concorrencia : Nat := 32

def limiteDoCache : Nat := 3000

variable (s : Imagens)

/-- `cache.get`. -/
def emCache (chave : String) : Option Nat :=
  (s.cache.find? fun entry => entry.1 = chave).map Prod.snd

/-- `guardar`: a full cache loses its oldest key first. -/
def guardar (chave : String) (download : Nat) : Imagens :=
  let cache := if limiteDoCache ≤ s.cache.length then s.cache.tail else s.cache
  { s with cache := cache ++ [(chave, download)] }

/-- `baixarReduzida`: the download in the cache, or another that starts. -/
def baixarReduzida (pedido : PedidoDeImagem) : Imagens × Nat :=
  match s.emCache pedido.chave with
  | some download => (s, download)
  | none =>
      (({ s with downloads := s.downloads ++ [⟨pedido, none⟩] } : Imagens).guardar pedido.chave
        s.downloads.length, s.downloads.length)

/-- Call `c` moves. -/
def comPreparo (c : Nat) (preparo : Preparo) : Imagens :=
  { s with preparos := s.preparos.set c preparo }

/-- Worker `w` of call `c` goes round the loop, up to its `await`. -/
def pegar (c w : Nat) : Imagens :=
  match s.preparos[c]? with
  | none => s
  | some preparo =>
      match preparo.unicos[preparo.trabalhadores.next]? with
      | some pedido =>
          let (s, download) := s.baixarReduzida pedido
          s.comPreparo c
            { preparo with trabalhadores := preparo.trabalhadores.take w download }
      | none =>
          s.comPreparo c { preparo with trabalhadores := preparo.trabalhadores.rest w }

/-- A call of `prepararImagens`, up to the first `await` of each worker. -/
def prepararImagens (pedidos : List PedidoDeImagem) : Imagens :=
  let unicos := pedidos.eraseDups
  let quantos := min concorrencia unicos.length
  let chegou := { s with preparos := s.preparos ++ [⟨unicos, WorkerPool.start quantos, []⟩] }
  let c := s.preparos.length
  (List.range quantos).foldl (fun s w => s.pegar c w) chegou

/-- Download `p` is settled: a failure does not stay in the cache. -/
def resolver (p : Nat) (valor : Option String) : Imagens :=
  match s.downloads[p]? with
  | some ⟨pedido, none⟩ =>
      { s with
        downloads := s.downloads.set p ⟨pedido, some valor⟩
        cache := match valor with
          | some _ => s.cache
          | none => s.cache.filter fun entry => entry.1 ≠ pedido.chave }
  | _ => s

/-- `resultado.set`. -/
def anotar (resultado : List (String × String)) (chave dataUri : String) :
    List (String × String) :=
  if resultado.any fun entry => entry.1 = chave then
    resultado.map fun entry => if entry.1 = chave then (chave, dataUri) else entry
  else resultado ++ [(chave, dataUri)]

/-- The result with what a download gave. -/
def anotarSe (resultado : List (String × String)) (chave : String) :
    Option String → List (String × String)
  | some dataUri => anotar resultado chave dataUri
  | none => resultado

/-- Worker `w` of call `c` goes on, if the download it awaits is settled. -/
def continuar (c w : Nat) : Imagens :=
  match s.preparos[c]? with
  | none => s
  | some preparo =>
      match preparo.trabalhadores.workers[w]? with
      | some (.busy i p) =>
          match s.downloads[p]?.bind Download.valor, preparo.unicos[i]? with
          | some valor, some pedido =>
              (s.comPreparo c
                { preparo with
                  trabalhadores := preparo.trabalhadores.finish w i p
                  resultado := anotarSe preparo.resultado pedido.chave valor }).pegar c w
          | _, _ => s
      | _ => s

/-! ### Runs -/

inductive Acao where
  | preparar (pedidos : List PedidoDeImagem)
  | resolver (p : Nat) (valor : Option String)
  | continuar (c w : Nat)
deriving Repr, DecidableEq

/-- One event of a run. -/
def agir : Acao → Imagens
  | .preparar pedidos => s.prepararImagens pedidos
  | .resolver p valor => s.resolver p valor
  | .continuar c w => s.continuar c w

def vazio : Imagens := ⟨[], [], []⟩

end Imagens

end IccvBackend
