/-
Module: IccvBackend.Prisma.Database
Purpose: The tables of one database and the writes the modelled services make on them.
Trusted boundary: human-reviewed spec
Main exports: Database, Database.modifyPayments, Database.updateManyPayments,
  Database.updateManyCheckouts, Database.createPayment, Database.createItem,
  Database.deleteManyItems, Database.deletePayments, Database.reorderPayments,
  Database.eventUserRole
-/
import IccvBackend.Lib.Keyed
import IccvBackend.Prisma.Schema
import Mathlib.Data.List.Pairwise
import Mathlib.Data.List.Perm.Subperm

namespace IccvBackend

open Lib

/-!
`nextId` is the uuid generator.  The proofs the structures carry are what the primary keys of the
tables guarantee; every write below keeps them, so no value of `Database` breaks them.

PostgreSQL returns the rows of a query without `ORDER BY` in an order of its own.  That order is the
order of the lists here, and `Database.reorderPayments` lets it change at any time.
-/

/-- The tables that registrations, purchases and payments only read. -/
structure Catalogue where
  churches : List Church
  configs : List PaymentProviderConfig
  users : List User
  events : List Event
  groups : List GroupRoles
  discounts : List Discounts
  products : List EventProduct
  roles_nodup : (groups.flatMap fun group => group.roles.map RolesRegistration.id).Nodup
  variants_nodup :
    (products.flatMap fun product => product.variants.map EventProductVariant.id).Nodup

structure Database where
  catalogue : Catalogue
  eventOnUsers : List EventOnUsers
  waitlist : List Waitlist
  payments : List Payment
  nextId : Id
  payments_keyed : Keyed Payment.id nextId payments
  items_keyed : Keyed PaymentProductItem.id nextId (payments.flatMap Payment.productItems)

/-! ### Reads -/

namespace Catalogue

def church? (cat : Catalogue) (id : Id) : Option Church :=
  cat.churches.find? fun church => church.id = id

def event? (cat : Catalogue) (id : Id) : Option Event :=
  cat.events.find? fun event => event.id = id

def user? (cat : Catalogue) (id : Id) : Option User :=
  cat.users.find? fun user => user.id = id

def config? (cat : Catalogue) (id : Id) : Option PaymentProviderConfig :=
  cat.configs.find? fun config => config.id = id

def discount? (cat : Catalogue) (id : Id) : Option Discounts :=
  cat.discounts.find? fun discount => discount.id = id

/-- Every role with its group, as `include: { group: true }` pairs them. -/
def roles (cat : Catalogue) : List (GroupRoles × RolesRegistration) :=
  cat.groups.flatMap fun group => group.roles.map fun role => (group, role)

def role? (cat : Catalogue) (id : Id) : Option RolesRegistration :=
  (cat.roles.find? fun pair => pair.2.id = id).map Prod.snd

/-- Every variant with its product, as `include: { product: true }` pairs them. -/
def variants (cat : Catalogue) : List (EventProduct × EventProductVariant) :=
  cat.products.flatMap fun product => product.variants.map fun variant => (product, variant)

def variant? (cat : Catalogue) (id : Id) : Option (EventProduct × EventProductVariant) :=
  cat.variants.find? fun pair => pair.2.id = id

theorem map_id_roles (cat : Catalogue) :
    cat.roles.map (fun pair => pair.2.id) =
      cat.groups.flatMap fun group => group.roles.map RolesRegistration.id := by
  simp [roles, List.map_flatMap, Function.comp_def]

theorem map_id_variants (cat : Catalogue) :
    cat.variants.map (fun pair => pair.2.id) =
      cat.products.flatMap fun product => product.variants.map EventProductVariant.id := by
  simp [variants, List.map_flatMap, Function.comp_def]

/-- A variant of the catalogue is the one its id finds. -/
theorem variant?_of_mem {cat : Catalogue} {pair : EventProduct × EventProductVariant}
    (mem : pair ∈ cat.variants) : cat.variant? pair.2.id = some pair := by
  cases found : cat.variant? pair.2.id with
  | none => simpa using List.find?_eq_none.mp found pair mem
  | some other =>
      have other_mem : other ∈ cat.variants := List.mem_of_find?_eq_some found
      have same : other.2.id = pair.2.id := by simpa using List.find?_some found
      have nodup := cat.variants_nodup
      rw [← map_id_variants] at nodup
      rw [List.inj_on_of_nodup_map nodup other_mem mem same]

theorem role?_of_mem {cat : Catalogue} {pair : GroupRoles × RolesRegistration}
    (mem : pair ∈ cat.roles) : cat.role? pair.2.id = some pair.2 := by
  unfold role?
  cases found : cat.roles.find? fun other => other.2.id = pair.2.id with
  | none => simpa using List.find?_eq_none.mp found pair mem
  | some other =>
      have other_mem : other ∈ cat.roles := List.mem_of_find?_eq_some found
      have same : other.2.id = pair.2.id := by simpa using List.find?_some found
      have nodup := cat.roles_nodup
      rw [← map_id_roles] at nodup
      rw [List.inj_on_of_nodup_map nodup other_mem mem same]
      rfl

/-- An edit of the event form that changes prices of roles. -/
def setRolePrice (cat : Catalogue) (roleId : Id) (price : ℚ) : Catalogue :=
  { cat with
    groups := cat.groups.map fun group =>
      { group with
        roles := group.roles.map fun role =>
          if role.id = roleId then { role with price := price } else role }
    roles_nodup := by
      have same_id : ∀ role : RolesRegistration,
          (if role.id = roleId then { role with price := price } else role).id = role.id := by
        intro role; split <;> rfl
      simpa [List.flatMap_map, List.map_map, Function.comp_def, same_id] using cat.roles_nodup }

/-- An edit of the event form that changes the price of a product; `validarProdutos` refuses a
negative one. -/
def setProductPrice (cat : Catalogue) (productId : Id) (price : { price : ℚ // 0 ≤ price }) :
    Catalogue :=
  { cat with
    products := cat.products.map fun product =>
      if product.id = productId then
        { product with price := price.val, price_nonneg := price.property }
      else product
    variants_nodup := by
      have same_variants : ∀ product : EventProduct,
          (if product.id = productId then
            { product with price := price.val, price_nonneg := price.property }
          else product).variants = product.variants := by
        intro product; split <;> rfl
      simpa [List.flatMap_map, same_variants] using cat.variants_nodup }

end Catalogue

namespace Database

def payment? (db : Database) (id : Id) : Option Payment :=
  db.payments.find? fun payment => payment.id = id

/-- The registration of a person in an event. -/
def registration? (db : Database) (userId eventId : Id) : Option EventOnUsers :=
  db.eventOnUsers.find? fun row => row.userId = userId && row.eventId = eventId

/-- `payment.eventUserRole` with its `role` and `discount`: the role registration this payment is
the ticket of. -/
def eventUserRole (db : Database) (payment : Payment) :
    Option (RolesRegistration × Option Discounts) := do
  let userId ← payment.userId
  let eventId ← payment.eventId
  let roleId ← payment.roleRegistrationId
  let registration ← db.registration? userId eventId
  let held ← registration.rolesRegistration.find? fun row => row.roleRegistrationId = roleId
  let role ← db.catalogue.role? roleId
  pure (role, held.discountId.bind db.catalogue.discount?)

/-- `payment.eventUserRole.eventOnUsers.event.churchId`. -/
def churchOfTicket (db : Database) (payment : Payment) : Option Id := do
  let userId ← payment.userId
  let eventId ← payment.eventId
  let roleId ← payment.roleRegistrationId
  let registration ← db.registration? userId eventId
  let _ ← registration.rolesRegistration.find? fun row => row.roleRegistrationId = roleId
  let event ← db.catalogue.event? eventId
  pure event.churchId

theorem payment?_mem {db : Database} {id : Id} {payment : Payment}
    (found : db.payment? id = some payment) : payment ∈ db.payments ∧ payment.id = id :=
  ⟨List.mem_of_find?_eq_some found, by simpa using List.find?_some found⟩

theorem payment?_of_mem {db : Database} {payment : Payment} (mem : payment ∈ db.payments) :
    db.payment? payment.id = some payment := by
  cases found : db.payment? payment.id with
  | none => simpa using List.find?_eq_none.mp found payment mem
  | some other =>
      obtain ⟨other_mem, same⟩ := payment?_mem found
      rw [db.payments_keyed.eq_of_key_eq other_mem mem same]

theorem eq_of_id_eq {db : Database} {p q : Payment} (hp : p ∈ db.payments) (hq : q ∈ db.payments)
    (same : p.id = q.id) : p = q :=
  db.payments_keyed.eq_of_key_eq hp hq same

/-- An item belongs to one payment. -/
theorem owner_unique {db : Database} {p q : Payment} {a b : PaymentProductItem}
    (hp : p ∈ db.payments) (hq : q ∈ db.payments) (ha : a ∈ p.productItems)
    (hb : b ∈ q.productItems) (same : a.id = b.id) : p = q := by
  by_contra different
  have nodup := db.items_keyed.nodup
  rw [List.map_flatMap, List.nodup_flatMap] at nodup
  have symmetric : Std.Symm (Function.onFun List.Disjoint fun p : Payment =>
      p.productItems.map PaymentProductItem.id) :=
        ⟨fun _ _ disjoint a left right => disjoint right left⟩
  exact nodup.2.forall hp hq different (List.mem_map.mpr ⟨a, ha, rfl⟩)
    (List.mem_map.mpr ⟨b, hb, same.symm⟩)

theorem items_nodup {db : Database} {p : Payment} (hp : p ∈ db.payments) :
    (p.productItems.map PaymentProductItem.id).Nodup := by
  have nodup := db.items_keyed.nodup
  rw [List.map_flatMap, List.nodup_flatMap] at nodup
  exact nodup.1 p hp

/-! ### Writes on payments -/

/-- Rewrite every payment row.  No write of the services changes an id, and items are only ever
dropped this way (`createItem` adds them). -/
def modifyPayments (db : Database) (f : Payment → Payment)
    (same_id : ∀ p, (f p).id = p.id)
    (fewer_items : ∀ p, (f p).productItems.Sublist p.productItems) : Database :=
  { db with
    payments := db.payments.map f
    payments_keyed := db.payments_keyed.map same_id
    items_keyed := by
      refine db.items_keyed.sublist ?_
      rw [List.flatMap_map]
      exact List.Sublist.flatMap_right _ fun p _ => fewer_items p }

/-- The `data` of a Prisma update: an absent field is left as it is. -/
structure PaymentUpdate where
  amount : Option ℚ := none
  status : Option PaymentStatus := none
  method : Option PaymentMethod := none
  receivedFrom : Option PaymentReceived := none
  payload : Option Json := none

def PaymentUpdate.apply (data : PaymentUpdate) (p : Payment) : Payment :=
  { p with
    amount := data.amount.getD p.amount
    status := data.status.getD p.status
    method := data.method.getD p.method
    receivedFrom := data.receivedFrom.getD p.receivedFrom
    payload := data.payload.or p.payload }

/-- `payment.updateMany`. -/
def updateManyPayments (db : Database) (selected : Payment → Bool) (data : PaymentUpdate) :
    Database :=
  db.modifyPayments (fun p => if selected p then data.apply p else p)
    (fun p => by cases selected p <;> rfl)
    (fun p => by cases selected p <;> exact List.Sublist.refl _)

/-- `paymentCheckout.updateMany` with `data: { status }`; the filter may read the payment. -/
def updateManyCheckouts (db : Database) (selected : Payment → PaymentCheckout → Bool)
    (status : CheckoutStatus) : Database :=
  db.modifyPayments
    (fun p => { p with
      checkouts := p.checkouts.map fun c =>
        if selected p c then { c with status := status } else c })
    (fun _ => rfl) (fun _ => List.Sublist.refl _)

/-- `paymentCheckout.createMany`: one row like `row` for each payment. -/
def createManyCheckouts (db : Database) (paymentIds : List Id) (row : PaymentCheckout) : Database :=
  db.modifyPayments
    (fun p => if p.id ∈ paymentIds then { p with checkouts := p.checkouts ++ [row] } else p)
    (fun p => by split <;> rfl) (fun p => by split <;> exact List.Sublist.refl _)

/-- `paymentProductItem.deleteMany` by id. -/
def deleteManyItems (db : Database) (ids : List Id) : Database :=
  db.modifyPayments
    (fun p => { p with productItems := p.productItems.filter fun item => item.id ∉ ids })
    (fun _ => rfl) (fun _ => List.filter_sublist)

/-- Delete payments, and with them their items and checkouts. -/
def deletePayments (db : Database) (selected : Payment → Bool) : Database :=
  { db with
    payments := db.payments.filter fun p => !selected p
    payments_keyed := db.payments_keyed.filter _
    items_keyed := db.items_keyed.sublist (List.filter_sublist.flatMap _) }

/-- The `data` of `payment.create`. -/
structure PaymentCreate where
  userId : Id
  eventId : Id
  roleRegistrationId : Option Id
  amount : ℚ
  status : PaymentStatus
  method : PaymentMethod
  receivedFrom : PaymentReceived
  createdAt : Instant

def PaymentCreate.row (data : PaymentCreate) (id : Id) : Payment :=
  { id
    userId := some data.userId
    eventId := some data.eventId
    roleRegistrationId := data.roleRegistrationId
    amount := data.amount
    status := data.status
    method := data.method
    receivedFrom := data.receivedFrom
    payload := none
    createdAt := data.createdAt
    productItems := []
    checkouts := [] }

/-- `payment.create`: the new row has the next id. -/
def createPayment (db : Database) (data : PaymentCreate) : Database :=
  { db with
    payments := db.payments ++ [data.row db.nextId]
    nextId := db.nextId + 1
    payments_keyed := db.payments_keyed.append_fresh rfl
    items_keyed := by
      simpa [PaymentCreate.row] using db.items_keyed.mono (Nat.le_succ _) }

/-- One line of `_comprarProdutosTx`'s purchase, before it has an id. -/
structure ItemCreate where
  variantId : Id
  quantity : Nat
  quantity_pos : 0 < quantity
  unitPrice : ℚ
  unitPrice_nonneg : 0 ≤ unitPrice
  createdAt : Instant

def ItemCreate.row (data : ItemCreate) (id : Id) : PaymentProductItem :=
  { id
    variantId := data.variantId
    quantity := data.quantity
    quantity_pos := data.quantity_pos
    unitPrice := data.unitPrice
    unitPrice_nonneg := data.unitPrice_nonneg
    createdAt := data.createdAt }

/-- Hang one item on the payment `paymentId`. -/
def addItem (paymentId : Id) (item : PaymentProductItem) (p : Payment) : Payment :=
  if p.id = paymentId then { p with productItems := p.productItems ++ [item] } else p

@[simp] theorem addItem_id (paymentId : Id) (item : PaymentProductItem) (p : Payment) :
    (addItem paymentId item p).id = p.id := by
  unfold addItem; split <;> rfl

theorem addItem_of_ne {paymentId : Id} {item : PaymentProductItem} {p : Payment}
    (ne : p.id ≠ paymentId) : addItem paymentId item p = p := if_neg ne

/-- All items after one more is hung on a payment: at most the old ones and the new one. -/
theorem addItem_flatMap_subperm {paymentId : Id} {item : PaymentProductItem} :
    ∀ {rows : List Payment}, (rows.map Payment.id).Nodup →
      ((rows.map (addItem paymentId item)).flatMap Payment.productItems).Subperm
        (rows.flatMap Payment.productItems ++ [item])
  | [], _ => by simp
  | row :: rows, nodup => by
      simp only [List.map_cons, List.nodup_cons] at nodup
      by_cases here : row.id = paymentId
      · -- the other ids differ, so the rest of the table is left alone
        have rest : rows.map (addItem paymentId item) = rows := by
          refine (List.map_congr_left ?_).trans (List.map_id rows)
          intro other mem
          refine addItem_of_ne fun same => nodup.1 ?_
          exact List.mem_map.mpr ⟨other, mem, same.trans here.symm⟩
        have new : addItem paymentId item row =
            { row with productItems := row.productItems ++ [item] } := if_pos here
        rw [List.map_cons, rest, new, List.flatMap_cons, List.flatMap_cons, List.append_assoc,
          List.append_assoc]
        exact (List.perm_append_comm.append_left _).subperm
      · rw [List.map_cons, addItem_of_ne here, List.flatMap_cons, List.flatMap_cons,
          List.append_assoc]
        exact (List.subperm_append_left _).mpr (addItem_flatMap_subperm nodup.2)

/-- `paymentProductItem.create`: the new row has the next id. -/
def createItem (db : Database) (paymentId : Id) (data : ItemCreate) : Database :=
  { db with
    payments := db.payments.map (addItem paymentId (data.row db.nextId))
    nextId := db.nextId + 1
    payments_keyed := (db.payments_keyed.map (addItem_id _ _)).mono (Nat.le_succ _)
    items_keyed := (db.items_keyed.append_fresh rfl).subperm
      (addItem_flatMap_subperm db.payments_keyed.nodup) }

/-- The rows of `payments` in another order: any order is that of some rank. -/
def reorderPayments (db : Database) (rank : Id → Nat) : Database :=
  { db with
    payments := db.payments.insertionSort fun p q => rank p.id ≤ rank q.id
    payments_keyed := db.payments_keyed.perm (List.perm_insertionSort _ _)
    items_keyed := db.items_keyed.perm ((List.perm_insertionSort _ _).flatMap_right _) }

/-- A uuid for something that is not a row. -/
def freshId (db : Database) : Database :=
  { db with
    nextId := db.nextId + 1
    payments_keyed := db.payments_keyed.mono (Nat.le_succ _)
    items_keyed := db.items_keyed.mono (Nat.le_succ _) }

/-! ### What the writes leave alone -/

section Frame

variable (db : Database)

@[simp] theorem modifyPayments_payments (f : Payment → Payment) (h : ∀ p, (f p).id = p.id)
    (h' : ∀ p, (f p).productItems.Sublist p.productItems) :
    (db.modifyPayments f h h').payments = db.payments.map f := rfl

@[simp] theorem modifyPayments_catalogue (f : Payment → Payment) (h : ∀ p, (f p).id = p.id)
    (h' : ∀ p, (f p).productItems.Sublist p.productItems) :
    (db.modifyPayments f h h').catalogue = db.catalogue := rfl

@[simp] theorem modifyPayments_eventOnUsers (f : Payment → Payment) (h : ∀ p, (f p).id = p.id)
    (h' : ∀ p, (f p).productItems.Sublist p.productItems) :
    (db.modifyPayments f h h').eventOnUsers = db.eventOnUsers := rfl

@[simp] theorem updateManyPayments_payments (selected : Payment → Bool) (data : PaymentUpdate) :
    (db.updateManyPayments selected data).payments =
      db.payments.map fun p => if selected p then data.apply p else p := rfl

@[simp] theorem updateManyPayments_catalogue (selected : Payment → Bool) (data : PaymentUpdate) :
    (db.updateManyPayments selected data).catalogue = db.catalogue := rfl

@[simp] theorem updateManyPayments_eventOnUsers (selected : Payment → Bool)
    (data : PaymentUpdate) :
    (db.updateManyPayments selected data).eventOnUsers = db.eventOnUsers := rfl

@[simp] theorem updateManyCheckouts_catalogue (selected : Payment → PaymentCheckout → Bool)
    (status : CheckoutStatus) :
    (db.updateManyCheckouts selected status).catalogue = db.catalogue := rfl

@[simp] theorem updateManyCheckouts_eventOnUsers (selected : Payment → PaymentCheckout → Bool)
    (status : CheckoutStatus) :
    (db.updateManyCheckouts selected status).eventOnUsers = db.eventOnUsers := rfl

@[simp] theorem createManyCheckouts_catalogue (paymentIds : List Id) (row : PaymentCheckout) :
    (db.createManyCheckouts paymentIds row).catalogue = db.catalogue := rfl

@[simp] theorem createManyCheckouts_eventOnUsers (paymentIds : List Id) (row : PaymentCheckout) :
    (db.createManyCheckouts paymentIds row).eventOnUsers = db.eventOnUsers := rfl

@[simp] theorem deleteManyItems_catalogue (ids : List Id) :
    (db.deleteManyItems ids).catalogue = db.catalogue := rfl

@[simp] theorem deleteManyItems_eventOnUsers (ids : List Id) :
    (db.deleteManyItems ids).eventOnUsers = db.eventOnUsers := rfl

@[simp] theorem createPayment_catalogue (data : PaymentCreate) :
    (db.createPayment data).catalogue = db.catalogue := rfl

@[simp] theorem createPayment_eventOnUsers (data : PaymentCreate) :
    (db.createPayment data).eventOnUsers = db.eventOnUsers := rfl

@[simp] theorem createPayment_payments (data : PaymentCreate) :
    (db.createPayment data).payments = db.payments ++ [data.row db.nextId] := rfl

@[simp] theorem createItem_catalogue (paymentId : Id) (data : ItemCreate) :
    (db.createItem paymentId data).catalogue = db.catalogue := rfl

@[simp] theorem createItem_eventOnUsers (paymentId : Id) (data : ItemCreate) :
    (db.createItem paymentId data).eventOnUsers = db.eventOnUsers := rfl

end Frame

end Database

end IccvBackend
