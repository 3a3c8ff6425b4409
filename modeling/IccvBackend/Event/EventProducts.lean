/-
Module: IccvBackend.Event.EventProducts
Purpose: `event/event-products.ts`: the order of a purchase, the stock check and the reactivation
  of canceled purchases.
Trusted boundary: human-reviewed spec
Main exports: montarPedido, disponivel, conferirEstoque, podeComprarNaLoja, reativarCompras,
  Database.vendidos
-/
import IccvBackend.Lib.Cents
import IccvBackend.Lib.Fallible
import IccvBackend.Prisma.Database
import Mathlib.Logic.Function.Basic

namespace IccvBackend

open Lib

/-!
There is no counter of sold units.  What is sold is the sum over the items of the payments whose
status holds stock, so a unit is sold or given back by a change of status alone.
-/

/-- `STATUS_QUE_LIBERAM_ESTOQUE`. -/
def statusQueLiberamEstoque : List PaymentStatus := [.canceled, .refunded]

def PaymentStatus.liberaEstoque (status : PaymentStatus) : Bool :=
  status ∈ statusQueLiberamEstoque

/-- `QUANTIDADE_MAXIMA_POR_ITEM`. -/
def quantidadeMaximaPorItem : Nat := 20

/-! ### The order of a purchase -/

/-- The units of one line of an order, as `montarPedido` accepts them. -/
abbrev Quantidade : Type := { units : Nat // 1 ≤ units ∧ units ≤ quantidadeMaximaPorItem }

/-- An order: units by variant, each variant once. -/
structure Pedido where
  linhas : List (Id × Quantidade)
  distinct : (linhas.map Prod.fst).Nodup

def Pedido.vazio : Pedido := ⟨[], by simp⟩

/-- `pedido.get(variantId)`. -/
def Pedido.get? (pedido : Pedido) (variantId : Id) : Option Quantidade :=
  (pedido.linhas.find? fun linha => linha.1 = variantId).map Prod.snd

/-- The units the order has of a variant, none when it does not list it. -/
def Pedido.unidades (pedido : Pedido) (variantId : Id) : Nat :=
  ((pedido.get? variantId).map Subtype.val).getD 0

/-- `[...pedido.keys()]`. -/
def Pedido.variantIds (pedido : Pedido) : List Id := pedido.linhas.map Prod.fst

/-- One turn of the loop of `montarPedido`. -/
def Pedido.incluir (pedido : Pedido) (item : Id × Int) : Except Failure Pedido :=
  if quantity : 1 ≤ item.2 ∧ item.2 ≤ quantidadeMaximaPorItem then
    if repeated : item.1 ∈ pedido.variantIds then
      throw (badRequest "O mesmo item foi enviado duas vezes")
    else
      pure
        { linhas := pedido.linhas ++ [(item.1, ⟨item.2.toNat, by omega⟩)]
          distinct := by
            rw [List.map_append, List.nodup_append]
            refine ⟨pedido.distinct, by simp, ?_⟩
            intro a mem b new same
            obtain rfl : b = item.1 := by simpa using new
            exact repeated (same ▸ mem) }
  else throw (badRequest "A quantidade de cada item deve ficar entre 1 e 20")

/-- `montarPedido`: a repeated variant is refused, not added up. -/
def montarPedido (itens : List (Id × Int)) : Except Failure Pedido :=
  if itens = [] then throw (badRequest "Escolha pelo menos um produto")
  else itens.foldlM Pedido.incluir Pedido.vazio

/-- An order that was built has a line. -/
theorem montarPedido_linhas {itens : List (Id × Int)} {pedido : Pedido}
    (built : montarPedido itens = .ok pedido) : pedido.linhas ≠ [] := by
  have grows : ∀ (pedido pedido' : Pedido) (item : Id × Int),
      pedido.incluir item = .ok pedido' → pedido'.linhas ≠ [] := by
    intro pedido pedido' item ok
    unfold Pedido.incluir at ok
    split at ok
    · split at ok
      · exact absurd ok throw_ne_ok
      · rw [← pure_eq_ok_iff.mp ok]
        simp
    · exact absurd ok throw_ne_ok
  unfold montarPedido at built
  cases itens with
  | nil => exact absurd built throw_ne_ok
  | cons item itens =>
      rw [if_neg (List.cons_ne_nil _ _), List.foldlM_cons, bind_eq_ok_iff] at built
      obtain ⟨first, included, rest⟩ := built
      exact foldlM_eq_ok_invariant (fun _ pedido => pedido.linhas ≠ [])
        (grows _ _ _ included) (fun _ _ _ _ _ _ turn => grows _ _ _ turn) rest

/-! ### Stock -/

structure VarianteComEstoque where
  id : Id
  name : String
  stock : Option Nat
  productName : String
deriving Repr, DecidableEq

/-- How much can still be sold; `none` is without limit. -/
def disponivel (stock : Option Nat) (vendidos : Nat) : Option Nat :=
  stock.map fun stock => stock - vendidos

/-- A variant with its product, as the stock check reads it. -/
def comEstoque (pair : EventProduct × EventProductVariant) : VarianteComEstoque where
  id := pair.2.id
  name := pair.2.name
  stock := pair.2.stock
  productName := pair.1.name

def faltaDeEstoque (variante : VarianteComEstoque) (restante : Nat) : String :=
  let item := variante.productName ++ " (" ++ variante.name ++ ")"
  if restante = 0 then item ++ " esgotou"
  else item ++ ": restam só " ++ toString restante ++ " unidade" ++
    (if restante = 1 then "" else "s")

/-- The order against the stock, variant by variant. -/
def conferirEstoque (vendidos : Id → Nat) (pedido : Pedido) :
    List VarianteComEstoque → Except Failure Unit
  | [] => pure ()
  | variante :: variantes =>
      let quero := pedido.unidades variante.id
      match disponivel variante.stock (vendidos variante.id) with
      | none => conferirEstoque vendidos pedido variantes
      | some restante =>
          if quero ≤ restante then conferirEstoque vendidos pedido variantes
          else throw (badRequest (faltaDeEstoque variante restante))

/-- Who may buy in the shop. -/
def podeComprarNaLoja (inscrito publicStore porOutraPessoa : Bool) : Bool :=
  inscrito || (!porOutraPessoa && publicStore)

/-- The units of a variant in a list of items. -/
def unidadesDe (variantId : Id) (itens : List PaymentProductItem) : Nat :=
  ((itens.filter fun item => item.variantId = variantId).map PaymentProductItem.quantity).sum

/-- The units of a variant in one payment. -/
def Payment.unidades (variantId : Id) (p : Payment) : Nat :=
  unidadesDe variantId p.productItems

/-- The units of a variant sold: those of the payments whose status holds stock. -/
def Database.vendidos (db : Database) (variantId : Id) : Nat :=
  ((db.payments.filter fun p => !p.status.liberaEstoque).map (Payment.unidades variantId)).sum

/-- `item.variant` with the product it belongs to. -/
def Catalogue.varianteDoItem (cat : Catalogue) (variantId : Id) : Option VarianteComEstoque :=
  (cat.variant? variantId).map comEstoque

/-- The stock of a variant; `none` is without limit. -/
def Catalogue.estoque (cat : Catalogue) (variantId : Id) : Option Nat :=
  (cat.varianteDoItem variantId).bind VarianteComEstoque.stock

/-- A price edit leaves the stock alone. -/
theorem Catalogue.estoque_setProductPrice (cat : Catalogue) (productId : Id)
    (price : { price : ℚ // 0 ≤ price }) (variantId : Id) :
    (cat.setProductPrice productId price).estoque variantId = cat.estoque variantId := by
  let edit := fun product : EventProduct =>
    if product.id = productId then
      { product with price := price.val, price_nonneg := price.property }
    else product
  have edited : (cat.setProductPrice productId price).variants =
      cat.variants.map fun pair => (edit pair.1, pair.2) := by
    have same_variants : ∀ product, (edit product).variants = product.variants := by
      intro product
      simp only [edit]
      split <;> rfl
    simp only [Catalogue.variants, Catalogue.setProductPrice, List.flatMap_map, List.map_flatMap,
      List.map_map]
    refine List.flatMap_congr fun product _ => ?_
    change (edit product).variants.map _ = _
    rw [same_variants]
    rfl
  have by_variant : ∀ cat : Catalogue, cat.estoque variantId =
      (cat.variants.find? fun pair => pair.2.id = variantId).bind fun pair => pair.2.stock := by
    intro cat
    unfold Catalogue.estoque Catalogue.varianteDoItem Catalogue.variant?
    cases cat.variants.find? fun pair => pair.2.id = variantId <;> rfl
  rw [by_variant, by_variant, edited, List.find?_map]
  simp only [Function.comp_def]
  cases cat.variants.find? fun pair => pair.2.id = variantId <;> rfl

/-! ### Reactivation -/

/-- What a line of a purchase costs, in cents. -/
def PaymentProductItem.centavos (item : PaymentProductItem) : Int :=
  cents item.unitPrice * item.quantity

structure Reativacao where
  reativados : List Id
  itensRemovidos : List Id
  recusa : Option String
deriving Repr, DecidableEq

/-- The accumulators of the inner loop, over the items of one payment. -/
structure Corte where
  restantes : Id → Option Nat
  fora : List PaymentProductItem
  pegos : Id → Nat

/-- One turn of the inner loop: the item takes its units or stays out. -/
def Corte.pegar (corte : Corte) (item : PaymentProductItem) : Corte :=
  match corte.restantes item.variantId with
  | none => corte
  | some resta =>
      if item.quantity > resta then { corte with fora := corte.fora ++ [item] }
      else
        { corte with
          restantes := Function.update corte.restantes item.variantId (some (resta - item.quantity))
          pegos := Function.update corte.pegos item.variantId
            (corte.pegos item.variantId + item.quantity) }

def pegarItens (restantes : Id → Option Nat) (itens : List PaymentProductItem) : Corte :=
  itens.foldl Corte.pegar { restantes := restantes, fora := [], pegos := fun _ => 0 }

/-- `orderBy: { createdAt: 'asc' }`. -/
def Payment.itensPorData (p : Payment) : List PaymentProductItem :=
  p.productItems.insertionSort fun a b => a.createdAt ≤ b.createdAt

/-- The writes on a payment some of whose items no longer fit. -/
def Database.tirarItens (db : Database) (pagamento : Payment) (fora : List PaymentProductItem) :
    Database :=
  let semEmCentavos := (fora.map PaymentProductItem.centavos).sum
  (db.deleteManyItems (fora.map PaymentProductItem.id)).updateManyPayments
    (fun p => p.id = pagamento.id)
    { amount := some (((cents pagamento.amount - semEmCentavos : Int) : ℚ) / 100) }

/-- The state of the outer loop. -/
structure EstadoDaReativacao where
  db : Database
  restantes : Id → Option Nat
  reativacao : Reativacao

/-- One turn of the outer loop: one payment comes back with what still fits, or stays out. -/
def reativarPagamento (estado : EstadoDaReativacao) (pagamento : Payment) :
    Except Failure EstadoDaReativacao :=
  let itens := pagamento.itensPorData
  let corte := pegarItens estado.restantes itens
  let sobrou := itens.length > corte.fora.length
  if pagamento.roleRegistrationId = none ∧ ¬ sobrou then
    -- without a reason yet, `fora[0]` of a payment without items is `undefined` and throws
    if estado.reativacao.recusa = none ∧ corte.fora = [] then
      throw (internalServerError "Internal server error")
    else
      let recusa := corte.fora.head?.bind fun item =>
        (estado.db.catalogue.varianteDoItem item.variantId).map fun variante =>
          faltaDeEstoque variante ((corte.restantes item.variantId).getD 0)
      pure
        { estado with
          restantes := fun variantId =>
            (corte.restantes variantId).map fun resta => resta + corte.pegos variantId
          reativacao :=
            { estado.reativacao with recusa := estado.reativacao.recusa.or recusa } }
  else
    pure
      { db := if corte.fora = [] then estado.db else estado.db.tirarItens pagamento corte.fora
        restantes := corte.restantes
        reativacao :=
          { estado.reativacao with
            reativados := estado.reativacao.reativados ++ [pagamento.id]
            itensRemovidos :=
              estado.reativacao.itensRemovidos ++ corte.fora.map PaymentProductItem.id } }

/-- The payments `reativarCompras` reads. -/
def Database.aReativar (db : Database) (paymentIds : List Id) : List Payment :=
  db.payments.filter fun p => p.id ∈ paymentIds && p.status.liberaEstoque

/-- `reativarCompras`: the database after it and what it reports.  The status is left to the
caller. -/
def reativarCompras (db : Database) (paymentIds : List Id) :
    Except Failure (Database × Reativacao) := do
  let estado ← (db.aReativar paymentIds).foldlM reativarPagamento
    { db := db
      restantes := fun variantId =>
        disponivel (db.catalogue.estoque variantId) (db.vendidos variantId)
      reativacao := { reativados := [], itensRemovidos := [], recusa := none } }
  pure (estado.db, estado.reativacao)

end IccvBackend
