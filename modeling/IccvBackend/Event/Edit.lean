/-
Module: IccvBackend.Event.Edit
Purpose: `EventService.update`: the groups, roles and products of an event form, from the first read
  to the final transaction, among registrations and purchases.
Trusted boundary: human-reviewed spec
Main exports: EventDto, GrupoLido, OperacaoDeEdicao, operacoesDeGrupos, operacoesDeProdutos,
  Database.aplicar, Edicoes, Edicoes.step
-/
import IccvBackend.Event.Waitlist
import IccvBackend.Event.Purchase

namespace IccvBackend

open Lib

/-!
The edit reads the groups of the event with the number of registrations of each role, then checks
and uploads files, then builds the writes, and at last runs them in one transaction that reads
nothing again.  What the checks and uploads between the reads refuse ends the edit and is one
action, `desistir`.  Dates, data, links, certificate and team of the event are left out.

The id of a new row is a uuid the database makes up: it comes with the form, as `uuid`.
-/

/-! ### The form -/

structure RoleDto where
  id : Option Id
  price : ℚ
  description : String
  uuid : Id
deriving DecidableEq

/-- A group of the form.  An absent window field changes nothing. -/
structure GroupRoleDto where
  id : Option Id
  name : String
  capacity : Int
  active : Option Bool
  opensAt : Option (Option Instant)
  closesAt : Option (Option Instant)
  roles : List RoleDto
  uuid : Id
deriving DecidableEq

structure ProductVariantDto where
  id : Option Id
  name : String
  stock : Option Int
  uuid : Id
deriving DecidableEq

/-- A product of the form.  Absent images change nothing; `null` takes all away. -/
structure ProductDto where
  id : Option Id
  name : String
  description : Option String
  price : ℚ
  images : Option (Option (List String))
  variants : List ProductVariantDto
  uuid : Id
deriving DecidableEq

/-- The part of the form that is modelled.  No products means a client that does not know them. -/
structure EventDto where
  groupRoles : List GroupRoleDto
  products : Option (List ProductDto)
deriving DecidableEq

/-- `trim` and `toLocaleLowerCase('pt-BR')`. -/
structure Textos where
  trim : String → String
  minusculas : String → String

/-! ### The reads -/

/-- A role as the first read returns it, with `_count.EventOnUsers`. -/
structure RoleLido where
  id : Id
  description : String
  inscritos : Nat
deriving DecidableEq

structure GrupoLido where
  id : Id
  name : String
  roles : List RoleLido
deriving DecidableEq

/-- How many role registrations a role has. -/
def Database.inscritosNaRole (db : Database) (roleId : Id) : Nat :=
  db.inscricoes.countP fun i => i.roleRegistrationId = roleId

/-- The groups of the event with their counts, as the first read of `update` has them. -/
def Database.lerGrupos (db : Database) (eventId : Id) : List GrupoLido :=
  (db.catalogue.groups.filter fun group => group.eventId = eventId).map fun group =>
    { id := group.id
      name := group.name
      roles := group.roles.map fun role =>
        { id := role.id
          description := role.description
          inscritos := db.inscritosNaRole role.id } }

/-- How many items point at a variant, of any payment. -/
def Database.itensDaVariante (db : Database) (variantId : Id) : Nat :=
  (db.payments.flatMap Payment.productItems).countP fun item => item.variantId = variantId

/-! ### The writes -/

/-- `janelaRecebida`. -/
structure Janela where
  active : Option Bool
  opensAt : Option (Option Instant)
  closesAt : Option (Option Instant)
deriving DecidableEq

def janelaRecebida (grupo : GroupRoleDto) : Except Failure Janela :=
  match grupo.opensAt.join, grupo.closesAt.join with
  | some opensAt, some closesAt =>
      if closesAt ≤ opensAt then
        throw (badRequest ("No grupo \"" ++ grupo.name ++
          "\", o encerramento das inscrições precisa vir depois da abertura"))
      else pure ⟨grupo.active, grupo.opensAt, grupo.closesAt⟩
  | _, _ => pure ⟨grupo.active, grupo.opensAt, grupo.closesAt⟩

/-- One operation of the final transaction. -/
inductive OperacaoDeEdicao where
  | deleteGroup (id : Id)
  | updateGroup (id : Id) (name : String) (capacity : Int) (janela : Janela)
  | deleteRole (id : Id)
  | updateRole (id : Id) (description : String) (price : ℚ)
  | createRole (uuid groupId : Id) (description : String) (price : ℚ)
  | deleteProduct (id : Id)
  | createProduct (eventId : Id) (produto : ProductDto) (images : List String)
  | updateProduct (id : Id) (produto : ProductDto) (images : Option (List String))
  | deleteVariant (id : Id)
  | createVariant (productId : Id) (variante : ProductVariantDto)
  | updateVariant (variante : ProductVariantDto)
deriving DecidableEq

/-- "REMOVER GRUPOS AUSENTES": a group that is not in the form goes, unless the first read saw a
registration in it. -/
def removerGrupos (lidos : List GrupoLido) (recebidos : List GroupRoleDto) :
    Except Failure (List OperacaoDeEdicao) :=
  let ausentes := lidos.filter fun group => !recebidos.any fun g => g.id = some group.id
  match ausentes.find? fun group => group.roles.any fun role => role.inscritos > 0 with
  | some group =>
      throw (badRequest ("Group \"" ++ group.name ++
        "\" has registered users and cannot be removed"))
  | none => pure (ausentes.map fun group => .deleteGroup group.id)

/-- "REMOVER ROLES AUSENTES". -/
def removerRoles (lidos : List RoleLido) (recebidos : List RoleDto) :
    Except Failure (List OperacaoDeEdicao) :=
  let ausentes := lidos.filter fun role => !recebidos.any fun r => r.id = some role.id
  match ausentes.find? fun role => role.inscritos > 0 with
  | some role =>
      throw (badRequest ("Role \"" ++ role.description ++
        "\" already has users and cannot be removed"))
  | none => pure (ausentes.map fun role => .deleteRole role.id)

/-- "CRIAR / ATUALIZAR ROLES" of one group. -/
def gravarRoles (lidos : List RoleLido) (groupId : Id) (recebidos : List RoleDto) :
    Except Failure (List OperacaoDeEdicao) :=
  recebidos.mapM fun role =>
    match role.id with
    | some id =>
        if lidos.any fun lido => lido.id = id then
          pure (.updateRole id role.description role.price)
        else throw (badRequest "Regra de inscrição não pertence a este evento")
    | none => pure (.createRole role.uuid groupId role.description role.price)

/-- A new group is created at once, outside the final transaction. -/
def Database.createGroup (db : Database) (eventId : Id) (grupo : GroupRoleDto) (janela : Janela) :
    Database :=
  { db with
    catalogue :=
      { db.catalogue with
        groups := db.catalogue.groups ++
          [{ id := grupo.uuid
             eventId := eventId
             name := grupo.name
             capacity := some grupo.capacity
             active := janela.active.getD true
             opensAt := janela.opensAt.join
             closesAt := janela.closesAt.join
             roles := [] }]
        roles_nodup := by simpa using db.catalogue.roles_nodup } }

/-- "CRIAR / ATUALIZAR GRUPOS E ROLES".  The groups created stay when a later group is refused. -/
def gravarGrupos (eventId : Id) (lidos : List GrupoLido) :
    List GroupRoleDto → Database → List OperacaoDeEdicao →
      Database × Except Failure (List OperacaoDeEdicao)
  | [], db, ops => (db, pure ops)
  | grupo :: resto, db, ops =>
      match janelaRecebida grupo with
      | .error falha => (db, throw falha)
      | .ok janela =>
          let lido := grupo.id.bind fun id => lidos.find? fun g => g.id = id
          let groupId := (lido.map GrupoLido.id).getD grupo.uuid
          let db := if lido.isSome then db else db.createGroup eventId grupo janela
          let atualiza :=
            if lido.isSome then [.updateGroup groupId grupo.name grupo.capacity janela] else []
          let dbRoles := (lido.map GrupoLido.roles).getD []
          match removerRoles dbRoles grupo.roles, gravarRoles dbRoles groupId grupo.roles with
          | .ok removidas, .ok gravadas =>
              gravarGrupos eventId lidos resto db (ops ++ atualiza ++ removidas ++ gravadas)
          | .error falha, _ => (db, throw falha)
          | .ok _, .error falha => (db, throw falha)

/-- The group part of `update`: nothing when the form has no groups. -/
def operacoesDeGrupos (eventId : Id) (lidos : List GrupoLido) (recebidos : List GroupRoleDto)
    (db : Database) : Database × Except Failure (List OperacaoDeEdicao) :=
  if recebidos.isEmpty then (db, pure [])
  else
    match removerGrupos lidos recebidos with
    | .error falha => (db, throw falha)
    | .ok removidos => gravarGrupos eventId lidos recebidos db removidos

/-! ### Products -/

/-- `TAMANHO_MAXIMO_DA_FOTO`. -/
def tamanhoMaximoDaFoto : Nat := 700_000

/-- `MAXIMO_DE_FOTOS`. -/
def maximoDeFotos : Nat := 5

def letraDeBase64 (c : Char) : Bool := c.isAlphanum || c = '+' || c = '/'

/-- `FORMATO_DA_FOTO`. -/
def formatoDaFoto (image : String) : Bool :=
  ["data:image/png;base64,", "data:image/jpeg;base64,", "data:image/webp;base64,"].any fun inicio =>
    let corpo := image.toList.drop inicio.length
    inicio.toList.isPrefixOf image.toList && (corpo.takeWhile letraDeBase64) ≠ [] &&
      corpo.dropWhile letraDeBase64 ∈ [[], ['='], ['=', '=']]

/-- `validarFoto`, of a text: the empty one is no photo. -/
def validarFoto (image : String) : Except Failure (Option String) := do
  if image = "" then pure none
  else
    failIf (tamanhoMaximoDaFoto < image.length)
      (badRequest "A foto do produto é grande demais. Envie uma imagem menor.")
    failIf (!formatoDaFoto image) (badRequest "A foto do produto precisa ser PNG, JPG ou WebP")
    pure (some image)

/-- `validarFotos`. -/
def validarFotos : Option (Option (List String)) → Except Failure (Option (List String))
  | none => pure none
  | some none => pure (some [])
  | some (some images) => do
      failIf (maximoDeFotos < images.length) (badRequest "Um produto pode ter até 5 fotos")
      let fotos ← images.mapM validarFoto
      pure (some (fotos.filterMap id))

/-- The checks of one variant, given the names before it. -/
def validarVariante (textos : Textos) (nome : String) (nomes : List String)
    (variante : ProductVariantDto) : Except Failure (List String) := do
  let nomeDaVariante := textos.trim variante.name
  failIf (nomeDaVariante = "")
    (badRequest ("Toda variante do produto \"" ++ nome ++ "\" precisa de um nome"))
  let chave := textos.minusculas nomeDaVariante
  failIf (chave ∈ nomes)
    (badRequest ("A variante \"" ++ nomeDaVariante ++ "\" aparece duas vezes no produto \"" ++
      nome ++ "\""))
  failIf (variante.stock.any fun stock => stock < 0)
    (badRequest ("Estoque inválido na variante \"" ++ nomeDaVariante ++ "\" do produto \"" ++
      nome ++ "\""))
  pure (chave :: nomes)

/-- `validarProdutos`. -/
def validarProdutos (textos : Textos) (produtos : List ProductDto) : Except Failure Unit :=
  produtos.forM fun produto => do
    let nome := textos.trim produto.name
    failIf (nome = "") (badRequest "Todo produto precisa de um nome")
    failIf (produto.price < 0) (badRequest ("Preço inválido no produto \"" ++ nome ++ "\""))
    failIf (produto.variants = [])
      (badRequest ("O produto \"" ++ nome ++ "\" precisa de pelo menos uma variante"))
    let _ ← produto.variants.foldlM (validarVariante textos nome) []
    pure ()

/-- The products that are not in the form, unless one of their variants has an item. -/
def removerProdutos (db : Database) (atuais : List EventProduct) (recebidos : List ProductDto) :
    Except Failure (List OperacaoDeEdicao) :=
  let ausentes := atuais.filter fun produto => !recebidos.any fun r => r.id = some produto.id
  match ausentes.find? fun produto =>
      produto.variants.any fun variante => db.itensDaVariante variante.id > 0 with
  | some produto =>
      throw (badRequest ("O produto \"" ++ produto.name ++
        "\" já foi comprado e não pode ser removido"))
  | none => pure (ausentes.map fun produto => .deleteProduct produto.id)

/-- The variants of one product that are not in the form, unless one has an item. -/
def removerVariantes (db : Database) (atual : EventProduct) (recebidas : List ProductVariantDto) :
    Except Failure (List OperacaoDeEdicao) :=
  let ausentes := atual.variants.filter fun v => !recebidas.any fun r => r.id = some v.id
  match ausentes.find? fun variante => db.itensDaVariante variante.id > 0 with
  | some variante =>
      throw (badRequest ("A variante \"" ++ variante.name ++ "\" de \"" ++ atual.name ++
        "\" já foi comprada e não pode ser removida"))
  | none => pure (ausentes.map fun variante => .deleteVariant variante.id)

def gravarVariantes (textos : Textos) (atual : EventProduct) (recebidas : List ProductVariantDto) :
    Except Failure (List OperacaoDeEdicao) :=
  recebidas.mapM fun variante =>
    let aparada := { variante with name := textos.trim variante.name }
    match variante.id with
    | none => pure (.createVariant atual.id aparada)
    | some id =>
        if atual.variants.any fun v => v.id = id then pure (.updateVariant aparada)
        else throw (badRequest "Variante não pertence a este produto")

/-- The texts of a product as they are written. -/
def ProductDto.aparado (textos : Textos) (produto : ProductDto) : ProductDto :=
  { produto with
    name := textos.trim produto.name
    description := (produto.description.map textos.trim).filter fun texto => texto ≠ ""
    variants := produto.variants.map fun v => { v with name := textos.trim v.name } }

/-- The operations of one product of the form. -/
def gravarProduto (textos : Textos) (db : Database) (eventId : Id) (atuais : List EventProduct)
    (produto : ProductDto) : Except Failure (List OperacaoDeEdicao) :=
  match produto.id with
  | none => do
      let fotos ← validarFotos produto.images
      pure [.createProduct eventId (produto.aparado textos) (fotos.getD [])]
  | some id => do
      let atual ← orFail (atuais.find? fun p => p.id = id)
        (badRequest "Produto não pertence a este evento")
      let fotos ← validarFotos produto.images
      let removidas ← removerVariantes db atual produto.variants
      let gravadas ← gravarVariantes textos atual produto.variants
      pure (.updateProduct atual.id (produto.aparado textos) fotos :: (removidas ++ gravadas))

/-- `operacoesDeProdutos`. -/
def operacoesDeProdutos (textos : Textos) (db : Database) (eventId : Id)
    (recebidos : List ProductDto) : Except Failure (List OperacaoDeEdicao) := do
  validarProdutos textos recebidos
  let atuais := db.catalogue.products.filter fun produto => produto.eventId = eventId
  let removidos ← removerProdutos db atuais recebidos
  let gravados ← recebidos.mapM (gravarProduto textos db eventId atuais)
  pure (removidos ++ gravados.flatten)

/-! ### The final transaction -/

/-- What Prisma makes of a write that a missing row or a constraint refuses. -/
def escritaRecusada : Failure := internalServerError "Internal server error"

/-- The groups of a catalogue replaced, while the primary key of the roles holds. -/
def Catalogue.comGrupos (cat : Catalogue) (groups : List GroupRoles) : Except Failure Catalogue :=
  if nodup : (groups.flatMap fun group => group.roles.map RolesRegistration.id).Nodup then
    pure { cat with groups := groups, roles_nodup := nodup }
  else throw escritaRecusada

/-- The products of a catalogue replaced, while the primary key of the variants holds. -/
def Catalogue.comProdutos (cat : Catalogue) (products : List EventProduct) :
    Except Failure Catalogue :=
  if nodup : (products.flatMap fun product =>
      product.variants.map EventProductVariant.id).Nodup then
    pure { cat with products := products, variants_nodup := nodup }
  else throw escritaRecusada

def GroupRoles.gravar (name : String) (capacity : Int) (janela : Janela) (group : GroupRoles) :
    GroupRoles :=
  { group with
    name := name
    capacity := some capacity
    active := janela.active.getD group.active
    opensAt := janela.opensAt.getD group.opensAt
    closesAt := janela.closesAt.getD group.closesAt }

/-- The roles of a group rewritten. -/
def GroupRoles.comRoles (f : List RolesRegistration → List RolesRegistration) (group : GroupRoles) :
    GroupRoles :=
  { group with roles := f group.roles }

namespace Database

/-- What goes when roles are deleted (`onDelete: Cascade`): their role registrations, and with these
their payments with items and checkouts.  An entry of the waiting list loses its role
(`onDelete: SetNull`), and nothing finds it any more. -/
def cascataDeRoles (db : Database) (sai : Id → Bool) : Database :=
  { db.deletePayments fun p =>
      p.inscricao.any fun i => sai i.roleRegistrationId && db.inscricoes.contains i with
    eventOnUsers := db.eventOnUsers.map fun row =>
      { row with
        rolesRegistration := row.rolesRegistration.filter fun held =>
          !sai held.roleRegistrationId }
    waitlist := db.waitlist.filter fun row => !sai row.roleRegistrationId }

/-- Some item of some payment points at a variant selected (`onDelete: Restrict`). -/
def variantePresa (db : Database) (selected : Id → Bool) : Bool :=
  (db.payments.flatMap Payment.productItems).any fun item => selected item.variantId

/-- Rewrite one group. -/
def modifyGroup (db : Database) (groupId : Id) (f : GroupRoles → GroupRoles) :
    Except Failure Database := do
  failIf (¬ db.catalogue.groups.any fun group => group.id = groupId) escritaRecusada
  let catalogue ← db.catalogue.comGrupos
    (db.catalogue.groups.map fun group => if group.id = groupId then f group else group)
  pure { db with catalogue := catalogue }

/-- Rewrite the roles of the group of one role. -/
def modifyRoles (db : Database) (roleId : Id)
    (f : List RolesRegistration → List RolesRegistration) :
    Except Failure Database := do
  failIf (¬ db.catalogue.roles.any fun pair => pair.2.id = roleId) escritaRecusada
  let catalogue ← db.catalogue.comGrupos (db.catalogue.groups.map fun group => group.comRoles f)
  pure { db with catalogue := catalogue }

/-- Rewrite one product. -/
def modifyProduct (db : Database) (productId : Id) (f : EventProduct → EventProduct) :
    Except Failure Database := do
  failIf (¬ db.catalogue.products.any fun product => product.id = productId) escritaRecusada
  let catalogue ← db.catalogue.comProdutos
    (db.catalogue.products.map fun product => if product.id = productId then f product else product)
  pure { db with catalogue := catalogue }

/-- Rewrite the variants of the product of one variant. -/
def modifyVariants (db : Database) (variantId : Id)
    (f : List EventProductVariant → List EventProductVariant) : Except Failure Database := do
  failIf (¬ db.catalogue.variants.any fun pair => pair.2.id = variantId) escritaRecusada
  let catalogue ← db.catalogue.comProdutos (db.catalogue.products.map fun product =>
    { product with variants := f product.variants })
  pure { db with catalogue := catalogue }

end Database

/-- The row of a variant of the form. -/
def ProductVariantDto.row (variante : ProductVariantDto) (id : Id) : EventProductVariant where
  id := id
  name := variante.name
  stock := variante.stock.map Int.toNat

/-- One operation of the transaction.  A new row has a uuid that nothing refers to. -/
def Database.aplicar (db : Database) : OperacaoDeEdicao → Except Failure Database
  | .deleteGroup id => do
      failIf (¬ db.catalogue.groups.any fun group => group.id = id) escritaRecusada
      let catalogue ← db.catalogue.comGrupos (db.catalogue.groups.filter fun group => group.id ≠ id)
      pure { db.cascataDeRoles (db.catalogue.roleInGroup id) with catalogue := catalogue }
  | .updateGroup id name capacity janela =>
      db.modifyGroup id (GroupRoles.gravar name capacity janela)
  | .deleteRole id => do
      let depois ← db.modifyRoles id fun roles => roles.filter fun role => role.id ≠ id
      pure { db.cascataDeRoles (· = id) with catalogue := depois.catalogue }
  | .updateRole id description price =>
      db.modifyRoles id fun roles => roles.map fun role =>
        if role.id = id then { role with description := description, price := price } else role
  | .createRole uuid groupId description price => do
      failIf (db.inscricoes.any fun i => i.roleRegistrationId = uuid) escritaRecusada
      db.modifyGroup groupId (GroupRoles.comRoles fun roles =>
        roles ++ [⟨uuid, price, description⟩])
  | .deleteProduct id => do
      let catalogue ← db.catalogue.comProdutos
        (db.catalogue.products.filter fun product => product.id ≠ id)
      failIf (¬ db.catalogue.products.any fun product => product.id = id) escritaRecusada
      failIf (db.variantePresa fun variantId => db.catalogue.variants.any fun pair =>
        pair.1.id = id && pair.2.id = variantId) escritaRecusada
      pure { db with catalogue := catalogue }
  | .createProduct eventId produto images =>
      if valido : 0 ≤ produto.price then do
        let catalogue ← db.catalogue.comProdutos (db.catalogue.products ++
          [{ id := produto.uuid
             eventId := eventId
             name := produto.name
             description := produto.description
             price := produto.price
             price_nonneg := valido
             images := images
             variants := produto.variants.map fun v => v.row v.uuid }])
        pure { db with catalogue := catalogue }
      else throw escritaRecusada
  | .updateProduct id produto images =>
      if valido : 0 ≤ produto.price then
        db.modifyProduct id fun product =>
          { product with
            name := produto.name
            description := produto.description
            price := produto.price
            price_nonneg := valido
            images := images.getD product.images }
      else throw escritaRecusada
  | .deleteVariant id => do
      failIf (db.variantePresa (· = id)) escritaRecusada
      db.modifyVariants id fun variants => variants.filter fun v => v.id ≠ id
  | .createVariant productId variante =>
      db.modifyProduct productId fun product =>
        { product with variants := product.variants ++ [variante.row variante.uuid] }
  | .updateVariant variante => do
      let id ← orFail variante.id escritaRecusada
      db.modifyVariants id fun variants => variants.map fun v =>
        if v.id = id then variante.row id else v

/-- `$transaction(ops)`: all of them or none. -/
def Database.gravarEdicao (db : Database) (ops : List OperacaoDeEdicao) : Except Failure Database :=
  ops.foldlM Database.aplicar db

/-! ### Edits among registrations and purchases -/

/-- How far an edit has come: it read the groups, built their writes, read the products. -/
inductive Edicao where
  | leu (eventId : Id) (form : EventDto) (lidos : List GrupoLido)
  | montou (eventId : Id) (form : EventDto) (ops : List OperacaoDeEdicao)
  | pronta (ops : List OperacaoDeEdicao)
deriving DecidableEq

structure Edicoes where
  db : Database
  abertas : List Edicao

namespace Edicoes

inductive Acao where
  | iniciar (eventId : Id) (form : EventDto)
  | montar (edicao : Nat)
  | lerProdutos (edicao : Nat)
  | gravar (edicao : Nat)
  | desistir (edicao : Nat)
  | inscricao (acao : AcaoDeInscricao)
  | comprar (request : PurchaseRequest) (items : List (Id × Int))

structure Ambiente where
  quando : Instant → String
  textos : Textos

/-- An edit that ended. -/
def encerrar (s : Edicoes) (edicao : Nat) : Edicoes :=
  { s with abertas := s.abertas.eraseIdx edicao }

/-- The writes an edit is about to commit, when its transaction comes next. -/
def aGravar (s : Edicoes) (edicao : Nat) : Option (List OperacaoDeEdicao) :=
  match s.abertas[edicao]? with
  | some (.pronta ops) => some ops
  | _ => none

def step (amb : Ambiente) (s : Edicoes) : Acao → Edicoes
  | .iniciar eventId form =>
      match s.db.catalogue.event? eventId with
      | none => s
      | some _ => { s with abertas := s.abertas ++ [.leu eventId form (s.db.lerGrupos eventId)] }
  | .montar edicao =>
      match s.abertas[edicao]? with
      | some (.leu eventId form lidos) =>
          match operacoesDeGrupos eventId lidos form.groupRoles s.db with
          | (db, .ok ops) =>
              { db := db, abertas := s.abertas.set edicao (.montou eventId form ops) }
          | (db, .error _) => encerrar { s with db := db } edicao
      | _ => s
  | .lerProdutos edicao =>
      match s.abertas[edicao]? with
      | some (.montou eventId form ops) =>
          let produtos : Except Failure (List OperacaoDeEdicao) :=
            match form.products with
            | none => pure []
            | some recebidos => operacoesDeProdutos amb.textos s.db eventId recebidos
          match produtos with
          | .ok mais => { s with abertas := s.abertas.set edicao (.pronta (ops ++ mais)) }
          | .error _ => encerrar s edicao
      | _ => s
  | .gravar edicao =>
      match s.aGravar edicao with
      | some ops =>
          match s.db.gravarEdicao ops with
          | .ok db => encerrar { s with db := db } edicao
          | .error _ => encerrar s edicao
      | none => s
  | .desistir edicao => encerrar s edicao
  | .inscricao acao => { s with db := s.db.inscrevendo amb.quando acao }
  | .comprar request items =>
      match comprarProdutos s.db request items with
      | .ok db => { s with db := db }
      | .error _ => s

end Edicoes

end IccvBackend
