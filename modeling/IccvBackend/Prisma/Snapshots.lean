/-
Module: IccvBackend.Prisma.Snapshots
Purpose: The rows of a snapshot as JSON objects, as the log keeps them, and what
  `prisma/prisma.service.ts` says of the money from them: which row is which, and what changed in
  it.
Trusted boundary: human-reviewed spec
Main exports: Row, Primitivo, campo, Dinheiro.parearPorId, Dinheiro.financeChanges
-/
import IccvBackend.Lib.JsonText

namespace IccvBackend

open Lib

variable {ν : Type} [DecidableEq ν] (numerals : Numerals ν)

/-- A row: the members of its object. -/
abbrev Row (ν : Type) := List (String × JsonValue ν)

/-- A value that `===` and the keys of a `Map` compare by what it is. -/
inductive Primitivo (ν : Type) where
  | null
  | bool (b : Bool)
  | num (n : ν)
  | str (cs : List Char)
deriving DecidableEq

/-- `row?.[field] ?? null`. -/
def campo (row : Option (Row ν)) (field : String) : JsonValue ν :=
  (row.bind fun members => members.lookup field).getD .null

/-- `row && typeof row === 'object' && !Array.isArray(row) ? row : null`. -/
def asObject : Option (JsonValue ν) → Option (Row ν)
  | some (.obj members) => some members
  | _ => none

/-- `JSON.stringify(before) === JSON.stringify(after)`. -/
def mesmoTexto (before after : JsonValue ν) : Bool :=
  JsonValue.stringify numerals before = JsonValue.stringify numerals after

/-- `new Set([...Object.keys(before ?? {}), ...Object.keys(after ?? {})])`. -/
def camposDe (before after : Option (Row ν)) : List String :=
  ((before.getD []).map Prod.fst ++ (after.getD []).map Prod.fst).eraseDups

namespace Dinheiro

/-! ### The rows of a batch -/

/-- `comoLista`. -/
def comoLista : JsonValue ν → List (JsonValue ν)
  | .null => []
  | .arr items => items
  | row => [row]

/-- `row?.id`, where it is not null.  No id is an object or an array. -/
def idDe (row : JsonValue ν) : Option (Primitivo ν) :=
  match campo (asObject (some row)) "id" with
  | .bool b => some (.bool b)
  | .num n => some (.num n)
  | .str s => some (.str s.toList)
  | _ => none

/-- The key of a row: its id, or its place. -/
def chaveDe (indice : Nat) (row : JsonValue ν) : Primitivo ν :=
  (idDe row).getD (.str ('#' :: (toString indice).toList))

/-- The rows under their keys. -/
def comChave (rows : List (JsonValue ν)) : List (Primitivo ν × JsonValue ν) :=
  rows.zipIdx.map fun linha => (chaveDe linha.2 linha.1, linha.1)

/-- What a `Map` has under a key: the last that was put there. -/
def guardado (chave : Primitivo ν) (rows : List (Primitivo ν × JsonValue ν)) :
    Option (JsonValue ν) :=
  rows.reverse.lookup chave

/-- `parearPorId`. -/
def parearPorId (before after : JsonValue ν) :
    List (Option (JsonValue ν) × Option (JsonValue ν)) :=
  let antes := comChave (comoLista before)
  let depois := comChave (comoLista after)
  (antes.map Prod.fst ++ depois.map Prod.fst).eraseDups.map fun chave =>
    (guardado chave antes, guardado chave depois)

/-! ### What changed in a row -/

/-- `FINANCE_NOISE`. -/
def financeNoise : List String := ["createdAt", "updatedAt", "updateAt"]

/-- `BULKY_FIELDS`. -/
def bulkyFields : List String := ["payload"]

/-- `BULKY_MARKER`, in the place of what is there. -/
def bulky : JsonValue ν → JsonValue ν
  | .null => .null
  | _ => .str "(atualizado)"

/-- A field that changed. -/
structure Diferenca (ν : Type) where
  campo : String
  before : JsonValue ν
  after : JsonValue ν

/-- The field as it is kept. -/
def diferencaDe (before after : Option (Row ν)) (nome : String) : Diferenca ν :=
  if bulkyFields.contains nome then
    ⟨nome, bulky (campo before nome), bulky (campo after nome)⟩
  else ⟨nome, campo before nome, campo after nome⟩

/-- `financeChanges`. -/
def financeChanges (before after : Option (Row ν)) : Option (List (Diferenca ν)) :=
  let mudaram := (camposDe before after).filter fun nome =>
    !financeNoise.contains nome && !mesmoTexto numerals (campo before nome) (campo after nome)
  if mudaram.isEmpty then none else some (mudaram.map (diferencaDe before after))

end Dinheiro

end IccvBackend
