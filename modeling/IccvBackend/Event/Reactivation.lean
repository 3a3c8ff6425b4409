/-
Module: IccvBackend.Event.Reactivation
Purpose: What `reativarCompras` leaves behind: which items go, what it does to the amounts and how
  many units come back.
Trusted boundary: none
Main exports: Payment.semItens, Reativou, restanteNaVez, Decididos, reativarCompras_spec
-/
import IccvBackend.Event.EventProducts
import IccvBackend.Lib.Fallible

namespace IccvBackend

open Lib

/-!
Reactivation removes items and lowers amounts, payment by payment.  Its effect on the whole table
has a closed form: every row loses the items whose ids are reported as removed, and their cents.
`reativarCompras_spec` proves that form by the invariant of the outer loop, together with what the
callers rely on: only listed payments that had given their units back are touched, and the units
they take again fit into what was left of each stock.
-/

/-! ### A payment without some of its items -/

/-- The cents of the items of a payment. -/
def Payment.centavosDosItens (p : Payment) : Int :=
  (p.productItems.map PaymentProductItem.centavos).sum

theorem centavos_nonneg (item : PaymentProductItem) : 0 ≤ item.centavos :=
  mul_nonneg (cents_nonneg item.unitPrice_nonneg) (Int.natCast_nonneg _)

theorem centavosDosItens_nonneg (p : Payment) : 0 ≤ p.centavosDosItens := by
  refine List.sum_nonneg fun x mem => ?_
  obtain ⟨item, _, rfl⟩ := List.mem_map.mp mem
  exact centavos_nonneg item

/-- The payment without the items with these ids, and without their cents. -/
def Payment.semItens (ids : List Id) (p : Payment) : Payment :=
  let fora := p.productItems.filter fun item => item.id ∈ ids
  { p with
    productItems := p.productItems.filter fun item => item.id ∉ ids
    amount :=
      if fora = [] then p.amount
      else ((cents p.amount - (fora.map PaymentProductItem.centavos).sum : Int) : ℚ) / 100 }

section SemItens

variable (ids : List Id) (p : Payment)

@[simp] theorem semItens_id : (p.semItens ids).id = p.id := rfl
@[simp] theorem semItens_userId : (p.semItens ids).userId = p.userId := rfl
@[simp] theorem semItens_eventId : (p.semItens ids).eventId = p.eventId := rfl
@[simp] theorem semItens_roleRegistrationId :
    (p.semItens ids).roleRegistrationId = p.roleRegistrationId := rfl
@[simp] theorem semItens_status : (p.semItens ids).status = p.status := rfl
@[simp] theorem semItens_checkouts : (p.semItens ids).checkouts = p.checkouts := rfl

theorem semItens_items : (p.semItens ids).productItems =
    p.productItems.filter fun item => item.id ∉ ids := rfl

end SemItens

theorem semItens_of_disjoint {ids : List Id} {p : Payment}
    (disjoint : ∀ item ∈ p.productItems, item.id ∉ ids) : p.semItens ids = p := by
  have none_out : (p.productItems.filter fun item => item.id ∈ ids) = [] := by
    simpa [List.filter_eq_nil_iff] using disjoint
  have all_in : (p.productItems.filter fun item => item.id ∉ ids) = p.productItems := by
    simpa [List.filter_eq_self] using disjoint
  simp only [Payment.semItens, none_out, all_in, if_true]

@[simp] theorem semItens_nil (p : Payment) : p.semItens [] = p :=
  semItens_of_disjoint (by simp)

/-- Removing items in two steps is removing them in one. -/
theorem semItens_semItens (first second : List Id) (p : Payment) :
    (p.semItens first).semItens second = p.semItens (first ++ second) := by
  have kept : ((p.productItems.filter fun item => item.id ∉ first).filter
      fun item => item.id ∉ second) = p.productItems.filter fun item =>
        item.id ∉ first ++ second := by
    rw [List.filter_filter]
    exact List.filter_congr fun item _ => by
      simp only [List.mem_append, not_or, Bool.decide_and, Bool.and_comm]
  -- the items out are those out first and, of the rest, those out second
  have out_nil : (p.productItems.filter fun item => item.id ∈ first ++ second) = [] ↔
      (p.productItems.filter fun item => item.id ∈ first) = [] ∧
        ((p.productItems.filter fun item => item.id ∉ first).filter
          fun item => item.id ∈ second) = [] := by
    simp only [List.filter_eq_nil_iff, List.mem_filter, List.mem_append, decide_eq_true_eq]
    grind
  have out_sum : ((p.productItems.filter fun item => item.id ∈ first ++ second).map
        PaymentProductItem.centavos).sum =
      ((p.productItems.filter fun item => item.id ∈ first).map PaymentProductItem.centavos).sum +
        (((p.productItems.filter fun item => item.id ∉ first).filter
          fun item => item.id ∈ second).map PaymentProductItem.centavos).sum := by
    induction p.productItems with
    | nil => simp
    | cons item items ih =>
        by_cases in_first : item.id ∈ first <;> by_cases in_second : item.id ∈ second <;>
          simp_all <;> omega
  simp only [Payment.semItens, kept, out_nil, out_sum]
  congr 1
  by_cases none_first : (p.productItems.filter fun item => item.id ∈ first) = [] <;>
    by_cases none_second : ((p.productItems.filter fun item => item.id ∉ first).filter
      fun item => item.id ∈ second) = []
  · simp only [none_first, none_second, and_self, if_true]
  · simp only [none_first, none_second, and_false, if_true, if_false, List.map_nil, List.sum_nil,
      zero_add]
  · simp only [none_first, none_second, false_and, if_true, if_false, List.map_nil, List.sum_nil,
      add_zero]
  · simp only [none_first, none_second, false_and, if_false, cents_intCast_div, sub_sub]

/-- Amount and items go down by the same cents. -/
theorem semItens_cents (ids : List Id) (p : Payment) :
    cents (p.semItens ids).amount - (p.semItens ids).centavosDosItens =
      cents p.amount - p.centavosDosItens := by
  have parts := sum_map_filter_add (g := PaymentProductItem.centavos) p.productItems
    fun item => decide (item.id ∈ ids)
  simp only [Payment.centavosDosItens, Payment.semItens]
  simp only [← decide_not] at parts
  split
  · next none_out =>
      simp only [none_out, List.map_nil, List.sum_nil] at parts
      omega
  · rw [cents_intCast_div]
    omega

/-! ### Units -/

theorem unidadesDe_perm {variantId : Id} {xs ys : List PaymentProductItem} (perm : xs.Perm ys) :
    unidadesDe variantId xs = unidadesDe variantId ys :=
  ((perm.filter _).map _).sum_eq

@[simp] theorem unidadesDe_nil (variantId : Id) : unidadesDe variantId [] = 0 := rfl

theorem unidadesDe_append (variantId : Id) (xs ys : List PaymentProductItem) :
    unidadesDe variantId (xs ++ ys) = unidadesDe variantId xs + unidadesDe variantId ys := by
  simp [unidadesDe]

theorem unidadesDe_singleton (variantId : Id) (item : PaymentProductItem) :
    unidadesDe variantId [item] = if item.variantId = variantId then item.quantity else 0 := by
  by_cases same : item.variantId = variantId <;> simp [unidadesDe, same]

/-- The units inside and outside a set of ids. -/
theorem unidadesDe_filter_add (variantId : Id) (itens : List PaymentProductItem) (ids : List Id) :
    unidadesDe variantId (itens.filter fun item => item.id ∈ ids) +
      unidadesDe variantId (itens.filter fun item => item.id ∉ ids) =
      unidadesDe variantId itens := by
  have parts := sum_map_filter_add (g := PaymentProductItem.quantity)
    (itens.filter fun item => item.variantId = variantId) fun item => decide (item.id ∈ ids)
  simp only [← decide_not, List.filter_filter] at parts
  simp only [unidadesDe, List.filter_filter]
  simpa only [Bool.and_comm] using parts

/-! ### The inner loop -/

/-- What the inner loop did to the items it has seen: of a variant with a limit, the units taken
are those of the items not left out, and they came out of what remained. -/
structure Pegou (antes : Id → Option Nat) (vistos : List PaymentProductItem) (corte : Corte) :
    Prop where
  sublist : corte.fora.Sublist vistos
  foraLimited : ∀ item ∈ corte.fora, antes item.variantId ≠ none
  unlimited : ∀ v, antes v = none → corte.restantes v = none
  limited : ∀ v r, antes v = some r →
    corte.restantes v = some (r - corte.pegos v) ∧ corte.pegos v ≤ r ∧
      corte.pegos v + unidadesDe v corte.fora = unidadesDe v vistos

private theorem pegou_pegar {antes : Id → Option Nat} {vistos : List PaymentProductItem}
    {corte : Corte} (pegou : Pegou antes vistos corte) (item : PaymentProductItem) :
    Pegou antes (vistos ++ [item]) (corte.pegar item) := by
  unfold Corte.pegar
  cases left : corte.restantes item.variantId with
  | none =>
      refine ⟨pegou.sublist.trans (List.sublist_append_left _ _), pegou.foraLimited,
        pegou.unlimited, ?_⟩
      intro v r limit
      have old := pegou.limited v r limit
      have other : item.variantId ≠ v := by
        rintro rfl
        rw [left] at old
        exact nomatch old.1
      rw [unidadesDe_append, unidadesDe_singleton, if_neg other]
      exact old
  | some resta =>
      by_cases too_many : item.quantity > resta
      · simp only [if_pos too_many]
        refine ⟨pegou.sublist.append (List.Sublist.refl _), ?_, pegou.unlimited, ?_⟩
        · intro out mem no_limit
          rcases List.mem_append.mp mem with old | new
          · exact pegou.foraLimited out old no_limit
          · obtain rfl : out = item := by simpa using new
            rw [pegou.unlimited _ no_limit] at left
            exact nomatch left
        intro v r limit
        obtain ⟨rest, within, units⟩ := pegou.limited v r limit
        exact ⟨rest, within, by rw [unidadesDe_append, unidadesDe_append, ← units, add_assoc]⟩
      · simp only [if_neg too_many]
        refine ⟨pegou.sublist.trans (List.sublist_append_left _ _), pegou.foraLimited, ?_, ?_⟩
        · intro v no_limit
          have other : v ≠ item.variantId := by
            rintro rfl
            rw [pegou.unlimited _ no_limit] at left
            exact nomatch left
          simpa [Function.update_of_ne other] using pegou.unlimited v no_limit
        · intro v r limit
          obtain ⟨rest, within, units⟩ := pegou.limited v r limit
          rw [unidadesDe_append, unidadesDe_singleton]
          by_cases same : item.variantId = v
          · subst same
            rw [left] at rest
            have resta_eq : resta = r - corte.pegos item.variantId := by simpa using rest
            simp only [Function.update_self, if_true, Option.some.injEq]
            omega
          · simp only [Function.update_of_ne (Ne.symm same), if_neg same]
            exact ⟨rest, within, units⟩

theorem pegou_pegarItens (antes : Id → Option Nat) (itens : List PaymentProductItem) :
    Pegou antes itens (pegarItens antes itens) := by
  have general : ∀ (rest vistos : List PaymentProductItem) (corte : Corte),
      Pegou antes vistos corte → Pegou antes (vistos ++ rest) (rest.foldl Corte.pegar corte) := by
    intro rest
    induction rest with
    | nil => intro vistos corte pegou; simpa using pegou
    | cons item rest ih =>
        intro vistos corte pegou
        simpa using ih (vistos ++ [item]) (corte.pegar item) (pegou_pegar pegou item)
  refine general itens [] _ ⟨List.Sublist.refl _, by simp, fun v none => none, fun v r some => ?_⟩
  simpa using some

/-- The item fits in what remains of its variant. -/
def PaymentProductItem.CabeEm (item : PaymentProductItem) (restantes : Id → Option Nat) : Prop :=
  ∀ resta, restantes item.variantId = some resta → item.quantity ≤ resta

/-- Every item stays out exactly when none fits in what remained before the first. -/
theorem foldl_pegar_length (itens : List PaymentProductItem) :
    ∀ corte : Corte,
      (itens.foldl Corte.pegar corte).fora.length ≤ corte.fora.length + itens.length ∧
        ((itens.foldl Corte.pegar corte).fora.length < corte.fora.length + itens.length ↔
          ∃ item ∈ itens, item.CabeEm corte.restantes) := by
  induction itens with
  | nil => intro corte; simp
  | cons item itens ih =>
      intro corte
      obtain ⟨atMost, short⟩ := ih (corte.pegar item)
      rw [List.foldl_cons, List.length_cons]
      by_cases fits : item.CabeEm corte.restantes
      · have taken : (corte.pegar item).fora = corte.fora := by
          unfold Corte.pegar
          split
          · rfl
          · next resta left =>
              rw [if_neg (Nat.not_lt.mpr (fits resta left))]
        rw [taken] at atMost
        exact ⟨by omega, iff_of_true (by omega) ⟨item, List.mem_cons_self, fits⟩⟩
      · have out : corte.pegar item = { corte with fora := corte.fora ++ [item] } := by
          unfold Corte.pegar
          split
          · next left => exact absurd (fun resta some => by rw [left] at some; cases some) fits
          · next resta left =>
              refine if_pos (Nat.lt_of_not_le fun small => fits fun other some => ?_)
              obtain rfl := Option.some.inj (left.symm.trans some)
              exact small
        rw [out] at atMost short ⊢
        simp only [List.length_append, List.length_singleton] at atMost short
        refine ⟨by omega, ?_⟩
        rw [show corte.fora.length + (itens.length + 1) = corte.fora.length + 1 + itens.length by
          omega, short]
        simp [fits]

/-- A payment comes out of the inner loop with an item exactly when one of them fits. -/
theorem pegarItens_sobra_iff {antes : Id → Option Nat} {itens : List PaymentProductItem} :
    itens.length > (pegarItens antes itens).fora.length ↔ ∃ item ∈ itens, item.CabeEm antes := by
  have short := (foldl_pegar_length itens ⟨antes, [], fun _ => 0⟩).2
  rw [List.length_nil, Nat.zero_add] at short
  exact short

/-! ### The writes on one payment -/

theorem itensPorData_perm (p : Payment) : p.itensPorData.Perm p.productItems :=
  List.perm_insertionSort _ _

/-- The writes on a payment whose items `fora` go: every other row is left alone, because item ids
belong to one payment. -/
theorem tirarItens_payments {db : Database} {pagamento : Payment} {fora : List PaymentProductItem}
    (mem : pagamento ∈ db.payments) (some_out : fora ≠ [])
    (sub : fora.Subperm pagamento.productItems) :
    (db.tirarItens pagamento fora).payments =
      db.payments.map (Payment.semItens (fora.map PaymentProductItem.id)) := by
  have out_perm := filter_key_mem_perm (db.items_nodup mem) sub
  simp only [Database.tirarItens, Database.updateManyPayments_payments, Database.deleteManyItems,
    Database.modifyPayments_payments, List.map_map]
  refine List.map_congr_left fun p p_mem => ?_
  by_cases this : p.id = pagamento.id
  · obtain rfl := db.eq_of_id_eq p_mem mem this
    have not_nil : (p.productItems.filter fun item =>
        item.id ∈ fora.map PaymentProductItem.id) ≠ [] := by
      intro nil
      rw [nil] at out_perm
      exact some_out (List.nil_perm.mp out_perm)
    have sum := (out_perm.map PaymentProductItem.centavos).sum_eq
    simp only [Function.comp_apply, decide_true, if_true, Database.PaymentUpdate.apply,
      Option.getD_some, Option.getD_none, Option.none_or, Payment.semItens, if_neg not_nil, sum]
  · have disjoint : ∀ item ∈ p.productItems, item.id ∉ fora.map PaymentProductItem.id := by
      intro item item_mem out
      obtain ⟨other, other_mem, same⟩ := List.mem_map.mp out
      exact this (congrArg Payment.id
        (db.owner_unique p_mem mem item_mem (sub.subset other_mem) same.symm))
    have all_in : (p.productItems.filter fun item =>
        item.id ∉ fora.map PaymentProductItem.id) = p.productItems := by
      simpa only [List.filter_eq_self, decide_eq_true_eq] using disjoint
    rw [semItens_of_disjoint disjoint]
    simp only [Function.comp_apply, this, decide_false, Bool.false_eq_true, if_false, all_in]

/-! ### The outer loop -/

/-- What `reativarCompras` did. -/
structure Reativou (db : Database) (paymentIds : List Id) (depois : Database) (r : Reativacao) :
    Prop where
  payments : depois.payments = db.payments.map (Payment.semItens r.itensRemovidos)
  catalogue : depois.catalogue = db.catalogue
  eventOnUsers : depois.eventOnUsers = db.eventOnUsers
  waitlist : depois.waitlist = db.waitlist
  nextId : depois.nextId = db.nextId
  /-- only listed payments that had given their units back come back -/
  reativados : ∀ id ∈ r.reativados, ∃ p ∈ db.aReativar paymentIds, p.id = id
  /-- only payments that come back lose items -/
  removidos : ∀ p ∈ db.payments, p.id ∉ r.reativados →
    ∀ item ∈ p.productItems, item.id ∉ r.itensRemovidos
  /-- a purchase without ticket comes back with an item -/
  sobrou : ∀ p ∈ db.payments, p.id ∈ r.reativados → p.roleRegistrationId = none →
    (p.semItens r.itensRemovidos).productItems ≠ []
  /-- a payment that had given its units back and stays out leaves a reason -/
  recusa : ∀ p ∈ db.aReativar paymentIds, p.id ∉ r.reativados → r.recusa.isSome
  /-- what comes back fits in the stock -/
  cabe : ∀ v stock, db.catalogue.estoque v = some stock →
    ((db.payments.filter fun p => p.id ∈ r.reativados).map
      fun p => (p.semItens r.itensRemovidos).unidades v).sum ≤ stock - db.vendidos v

/-- What remains of each variant after the payments before, of which only those that come back take
units. -/
def restanteNaVez (antes : Id → Option Nat) (anteriores : List Payment) (r : Reativacao) :
    Id → Option Nat := fun v =>
  (antes v).map fun resta =>
    resta - ((anteriores.filter fun q => q.id ∈ r.reativados).map
      fun q => (q.semItens r.itensRemovidos).unidades v).sum

theorem restanteNaVez_congr {antes : Id → Option Nat} {anteriores : List Payment}
    {r r' : Reativacao}
    (same : ∀ q ∈ anteriores, (q.id ∈ r'.reativados ↔ q.id ∈ r.reativados) ∧
      q.semItens r'.itensRemovidos = q.semItens r.itensRemovidos) :
    restanteNaVez antes anteriores r' = restanteNaVez antes anteriores r := by
  funext v
  have rows : anteriores.filter (fun q => q.id ∈ r'.reativados) =
      anteriores.filter fun q => q.id ∈ r.reativados :=
    List.filter_congr fun q mem => decide_eq_decide.mpr (same q mem).1
  have units : ((anteriores.filter fun q => q.id ∈ r.reativados).map
        fun q => (q.semItens r'.itensRemovidos).unidades v) =
      (anteriores.filter fun q => q.id ∈ r.reativados).map
        fun q => (q.semItens r.itensRemovidos).unidades v :=
    List.map_congr_left fun q mem => by rw [(same q (List.mem_of_mem_filter mem)).2]
  rw [restanteNaVez, restanteNaVez, rows, units]

/-- Each payment came back when it has a ticket, or an item that fit in what remained at its
turn. -/
def Decididos (antes : Id → Option Nat) (feitos : List Payment) (r : Reativacao) : Prop :=
  ∀ anteriores p posteriores, feitos = anteriores ++ p :: posteriores →
    (p.id ∈ r.reativados ↔ p.roleRegistrationId ≠ none ∨
      ∃ item ∈ p.productItems, item.CabeEm (restanteNaVez antes anteriores r))

theorem decididos_nil (antes : Id → Option Nat) (r : Reativacao) : Decididos antes [] r := by
  intro anteriores p posteriores whole
  exact absurd whole (List.append_ne_nil_of_right_ne_nil anteriores (List.cons_ne_nil p _)).symm

/-- One payment more is decided, and those before it keep what they had. -/
theorem Decididos.append {antes : Id → Option Nat} {feitos : List Payment} {p : Payment}
    {r r' : Reativacao} (decididos : Decididos antes feitos r)
    (same : ∀ q ∈ feitos, (q.id ∈ r'.reativados ↔ q.id ∈ r.reativados) ∧
      q.semItens r'.itensRemovidos = q.semItens r.itensRemovidos)
    (turn : p.id ∈ r'.reativados ↔ p.roleRegistrationId ≠ none ∨
      ∃ item ∈ p.productItems, item.CabeEm (restanteNaVez antes feitos r)) :
    Decididos antes (feitos ++ [p]) r' := by
  intro anteriores q posteriores whole
  rcases List.eq_nil_or_concat posteriores with rfl | ⟨early, last, rfl⟩
  · obtain ⟨rfl, rfl⟩ := List.append_inj' whole rfl |>.imp_right List.singleton_inj.mp
    rw [restanteNaVez_congr same]
    exact turn
  · have split : feitos = anteriores ++ q :: early := by
      rw [List.concat_eq_append, ← List.cons_append, ← List.append_assoc] at whole
      exact (List.append_inj' whole rfl).1
    have inside : ∀ o ∈ anteriores, o ∈ feitos := fun o mem =>
      split ▸ List.mem_append_left _ mem
    have q_mem : q ∈ feitos := split ▸ List.mem_append_right _ List.mem_cons_self
    rw [(same q q_mem).1, restanteNaVez_congr fun o mem => same o (inside o mem)]
    exact decididos anteriores q early split

/-- The invariant of the outer loop, over the payments already decided. -/
private structure Laco (db : Database) (antes : Id → Option Nat) (feitos : List Payment)
    (e : EstadoDaReativacao) : Prop where
  payments : e.db.payments = db.payments.map (Payment.semItens e.reativacao.itensRemovidos)
  catalogue : e.db.catalogue = db.catalogue
  eventOnUsers : e.db.eventOnUsers = db.eventOnUsers
  waitlist : e.db.waitlist = db.waitlist
  nextId : e.db.nextId = db.nextId
  reativados : ∀ id ∈ e.reativacao.reativados, ∃ p ∈ feitos, p.id = id
  removidos : ∀ i ∈ e.reativacao.itensRemovidos, ∃ p ∈ feitos,
    p.id ∈ e.reativacao.reativados ∧ ∃ item ∈ p.productItems, item.id = i
  sobrou : ∀ p ∈ feitos, p.id ∈ e.reativacao.reativados → p.roleRegistrationId = none →
    (p.semItens e.reativacao.itensRemovidos).productItems ≠ []
  recusa : ∀ p ∈ feitos, p.id ∉ e.reativacao.reativados → e.reativacao.recusa.isSome
  unlimited : ∀ v, antes v = none → e.restantes v = none
  limited : ∀ v r, antes v = some r → ∃ resta, e.restantes v = some resta ∧
    resta + ((feitos.filter fun p => p.id ∈ e.reativacao.reativados).map
      fun p => (p.semItens e.reativacao.itensRemovidos).unidades v).sum = r
  decididos : Decididos antes feitos e.reativacao

/-- What the loop has left is what remains at the turn of the next payment. -/
private theorem Laco.restantes_eq {db : Database} {antes : Id → Option Nat} {feitos : List Payment}
    {e : EstadoDaReativacao} (laco : Laco db antes feitos e) :
    e.restantes = restanteNaVez antes feitos e.reativacao := by
  funext v
  cases limit : antes v with
  | none => rw [laco.unlimited v limit, restanteNaVez, limit, Option.map_none]
  | some r =>
      obtain ⟨resta, rest, budget⟩ := laco.limited v r limit
      rw [rest, restanteNaVez, limit, Option.map_some, ← budget, Nat.add_sub_cancel_right]

/-- Items owned by other payments than `p` may be removed without `p` noticing. -/
private theorem semItens_append_of_other {db : Database} {p q : Payment} {ids : List Id}
    {fora : List PaymentProductItem} (p_mem : p ∈ db.payments) (q_mem : q ∈ db.payments)
    (sub : ∀ item ∈ fora, item ∈ q.productItems) (other : p.id ≠ q.id) :
    p.semItens (ids ++ fora.map PaymentProductItem.id) = p.semItens ids := by
  rw [← semItens_semItens]
  refine semItens_of_disjoint fun item mem out => ?_
  obtain ⟨o, o_mem, same⟩ := List.mem_map.mp out
  have item_mem : item ∈ p.productItems := List.mem_of_mem_filter mem
  exact other (congrArg Payment.id (db.owner_unique p_mem q_mem item_mem (sub o o_mem) same.symm))

section Turno

variable {db : Database} {antes : Id → Option Nat} {feitos : List Payment} {p : Payment}
  {e : EstadoDaReativacao} {corte : Corte}

/-- A payment that stays out gives back what it took, and leaves a reason. -/
private theorem laco_ficaFora (laco : Laco db antes feitos e)
    (fresh : p.id ∉ e.reativacao.reativados)
    (known : ∀ v, antes v ≠ none → (db.catalogue.varianteDoItem v).isSome)
    (pegou : Pegou e.restantes p.itensPorData corte)
    (reason : ¬ (e.reativacao.recusa = none ∧ corte.fora = []))
    (out : ¬ (p.roleRegistrationId ≠ none ∨ ∃ item ∈ p.productItems, item.CabeEm e.restantes))
    (motivo : PaymentProductItem → VarianteComEstoque → String) :
    Laco db antes (feitos ++ [p])
      { e with
        restantes := fun variantId =>
          (corte.restantes variantId).map fun resta => resta + corte.pegos variantId
        reativacao :=
          { e.reativacao with
            recusa := e.reativacao.recusa.or (corte.fora.head?.bind fun item =>
              (e.db.catalogue.varianteDoItem item.variantId).map (motivo item)) } } := by
  have same_rows : (feitos ++ [p]).filter (fun q => q.id ∈ e.reativacao.reativados) =
      feitos.filter fun q => q.id ∈ e.reativacao.reativados := by
    simp [fresh]
  refine ⟨laco.payments, laco.catalogue, laco.eventOnUsers, laco.waitlist, laco.nextId,
    ?_, ?_, ?_, ?_, ?_, ?_, ?_⟩
  · intro id mem
    obtain ⟨q, q_mem, same⟩ := laco.reativados id mem
    exact ⟨q, by simp [q_mem], same⟩
  · intro i mem
    obtain ⟨q, q_mem, rest⟩ := laco.removidos i mem
    exact ⟨q, by simp [q_mem], rest⟩
  · intro q q_mem back
    rcases List.mem_append.mp q_mem with old | new
    · exact laco.sobrou q old back
    · obtain rfl : q = p := by simpa using new
      exact absurd back fresh
  · intro q _ _
    cases first : corte.fora with
    | nil =>
        have before : e.reativacao.recusa ≠ none := fun none => reason ⟨none, first⟩
        rw [Option.isSome_or, Option.isSome_iff_ne_none.mpr before, Bool.true_or]
    | cons item others =>
        have out_known : (db.catalogue.varianteDoItem item.variantId).isSome := by
          refine known _ fun no_limit => ?_
          exact pegou.foraLimited item (first ▸ List.mem_cons_self) (laco.unlimited _ no_limit)
        rw [List.head?_cons, Option.bind_some, Option.isSome_or, Option.isSome_map, laco.catalogue,
          out_known, Bool.or_true]
  · intro v no_limit
    simp [pegou.unlimited v (laco.unlimited v no_limit)]
  · intro v r limit
    obtain ⟨resta, rest, budget⟩ := laco.limited v r limit
    obtain ⟨left, within, _⟩ := pegou.limited v resta rest
    refine ⟨resta, ?_, by rw [same_rows]; exact budget⟩
    simp only [left, Option.map_some, Option.some.injEq]
    omega
  · refine laco.decididos.append (fun q _ => ⟨Iff.rfl, rfl⟩) ?_
    rw [laco.restantes_eq] at out
    exact iff_of_false fresh out

/-- The units of a payment without the items left out are those it took. -/
private theorem unidades_semFora {v : Id} {r : Nat}
    (pegou : Pegou e.restantes p.itensPorData corte) (limit : e.restantes v = some r)
    (out_perm : (p.productItems.filter fun item =>
      item.id ∈ corte.fora.map PaymentProductItem.id).Perm corte.fora) :
    (p.semItens (corte.fora.map PaymentProductItem.id)).unidades v = corte.pegos v := by
  obtain ⟨_, _, taken⟩ := pegou.limited v r limit
  have units : unidadesDe v p.itensPorData = p.unidades v := unidadesDe_perm (itensPorData_perm p)
  have parts := unidadesDe_filter_add v p.productItems (corte.fora.map PaymentProductItem.id)
  rw [unidadesDe_perm out_perm] at parts
  rw [units] at taken
  simp only [Payment.unidades, semItens_items] at taken ⊢
  omega

/-- What the turn of a payment that comes back writes. -/
private theorem laco_escrita (laco : Laco db antes feitos e) (p_here : p ∈ e.db.payments)
    (sub : corte.fora.Subperm p.productItems) :
    let depois := if corte.fora = [] then e.db else e.db.tirarItens p corte.fora
    depois.payments = db.payments.map (Payment.semItens
        (e.reativacao.itensRemovidos ++ corte.fora.map PaymentProductItem.id)) ∧
      depois.catalogue = db.catalogue ∧ depois.eventOnUsers = db.eventOnUsers ∧
        depois.waitlist = db.waitlist ∧ depois.nextId = db.nextId := by
  dsimp only
  split
  · next none_out =>
      rw [none_out, List.map_nil, List.append_nil]
      exact ⟨laco.payments, laco.catalogue, laco.eventOnUsers, laco.waitlist, laco.nextId⟩
  · next some_out =>
      refine ⟨?_, laco.catalogue, laco.eventOnUsers, laco.waitlist, laco.nextId⟩
      rw [tirarItens_payments p_here some_out sub, laco.payments, List.map_map]
      exact List.map_congr_left fun q _ => semItens_semItens _ _ _

/-- A payment that comes back loses the items left out, which are its own, and keeps one if it has
no ticket. -/
private theorem laco_volta (p_mem : p ∈ db.payments) (in_db : ∀ q ∈ feitos, q ∈ db.payments)
    (other : ∀ q ∈ feitos, q.id ≠ p.id) (laco : Laco db antes feitos e)
    (untouched : p.semItens e.reativacao.itensRemovidos = p)
    (pegou : Pegou e.restantes p.itensPorData corte)
    (stays : p.roleRegistrationId = none → corte.fora.length < p.itensPorData.length)
    (back : p.roleRegistrationId ≠ none ∨ ∃ item ∈ p.productItems, item.CabeEm e.restantes) :
    Laco db antes (feitos ++ [p])
      { db := if corte.fora = [] then e.db else e.db.tirarItens p corte.fora
        restantes := corte.restantes
        reativacao :=
          { e.reativacao with
            reativados := e.reativacao.reativados ++ [p.id]
            itensRemovidos :=
              e.reativacao.itensRemovidos ++ corte.fora.map PaymentProductItem.id } } := by
  have sub : corte.fora.Subperm p.productItems :=
    pegou.sublist.subperm.trans (itensPorData_perm p).subperm
  have out_perm := filter_key_mem_perm (db.items_nodup p_mem) sub
  have p_here : p ∈ e.db.payments := by
    rw [laco.payments]
    exact List.mem_map.mpr ⟨p, p_mem, untouched⟩
  have p_after : p.semItens (e.reativacao.itensRemovidos ++
      corte.fora.map PaymentProductItem.id) =
        p.semItens (corte.fora.map PaymentProductItem.id) := by
    rw [← semItens_semItens, untouched]
  have others_after : ∀ q ∈ feitos, q.semItens (e.reativacao.itensRemovidos ++
      corte.fora.map PaymentProductItem.id) = q.semItens e.reativacao.itensRemovidos :=
    fun q q_mem => semItens_append_of_other (in_db q q_mem) p_mem
      (fun item mem => sub.subset mem) (other q q_mem)
  have rows : ∀ f : Payment → Nat,
      (((feitos ++ [p]).filter fun q => q.id ∈ e.reativacao.reativados ++ [p.id]).map f).sum =
        ((feitos.filter fun q => q.id ∈ e.reativacao.reativados).map f).sum + f p := by
    intro f
    have old : feitos.filter (fun q => q.id ∈ e.reativacao.reativados ++ [p.id]) =
        feitos.filter fun q => q.id ∈ e.reativacao.reativados :=
      List.filter_congr fun q q_mem => by simp [other q q_mem]
    rw [List.filter_append, old]
    simp
  obtain ⟨payments, catalogue, eventOnUsers, waitlist, nextId⟩ := laco_escrita laco p_here sub
  refine ⟨payments, catalogue, eventOnUsers, waitlist, nextId, ?_, ?_, ?_, ?_, ?_, ?_, ?_⟩
  · intro id mem
    rcases List.mem_append.mp mem with old | new
    · obtain ⟨q, q_mem, same⟩ := laco.reativados id old
      exact ⟨q, by simp [q_mem], same⟩
    · exact ⟨p, by simp, by simpa [eq_comm] using new⟩
  · intro i mem
    rcases List.mem_append.mp mem with old | new
    · obtain ⟨q, q_mem, back, item⟩ := laco.removidos i old
      exact ⟨q, by simp [q_mem], by simp [back], item⟩
    · obtain ⟨item, item_mem, same⟩ := List.mem_map.mp new
      exact ⟨p, by simp, by simp, item, sub.subset item_mem, same⟩
  · intro q q_mem back ticketless
    rcases List.mem_append.mp q_mem with old | new
    · rw [others_after q old]
      refine laco.sobrou q old ?_ ticketless
      simpa [other q old] using back
    · obtain rfl : q = p := by simpa using new
      rw [p_after]
      intro none_left
      have all_out : (q.productItems.filter fun item =>
          item.id ∈ corte.fora.map PaymentProductItem.id) = q.productItems := by
        simpa [semItens_items, List.filter_eq_nil_iff, List.filter_eq_self] using none_left
      have lengths := out_perm.length_eq
      rw [all_out, ← (itensPorData_perm q).length_eq] at lengths
      exact absurd lengths (stays ticketless).ne'
  · intro q q_mem out
    rcases List.mem_append.mp q_mem with old | new
    · exact laco.recusa q old fun back => out (by simp [back])
    · obtain rfl : q = p := by simpa using new
      exact absurd (by simp) out
  · intro v no_limit
    exact pegou.unlimited v (laco.unlimited v no_limit)
  · intro v r limit
    obtain ⟨resta, rest, budget⟩ := laco.limited v r limit
    obtain ⟨left, within, _⟩ := pegou.limited v resta rest
    have p_units := unidades_semFora pegou rest out_perm
    refine ⟨resta - corte.pegos v, left, ?_⟩
    have old_units : ((feitos.filter fun q => q.id ∈ e.reativacao.reativados).map fun q =>
          (q.semItens (e.reativacao.itensRemovidos ++
            corte.fora.map PaymentProductItem.id)).unidades v) =
        (feitos.filter fun q => q.id ∈ e.reativacao.reativados).map fun q =>
          (q.semItens e.reativacao.itensRemovidos).unidades v :=
      List.map_congr_left fun q q_mem => by rw [others_after q (List.mem_of_mem_filter q_mem)]
    rw [rows, p_after, p_units, old_units]
    omega
  · refine laco.decididos.append (fun q q_mem => ⟨?_, others_after q q_mem⟩) ?_
    · simp [other q q_mem]
    · rw [laco.restantes_eq] at back
      exact iff_of_true (by simp) back

end Turno

private theorem laco_reativarPagamento {db : Database} {antes : Id → Option Nat}
    {feitos : List Payment} {p : Payment} {e e' : EstadoDaReativacao}
    (in_db : ∀ q ∈ feitos ++ [p], q ∈ db.payments)
    (distinct : ((feitos ++ [p]).map Payment.id).Nodup)
    (known : ∀ v, antes v ≠ none → (db.catalogue.varianteDoItem v).isSome)
    (laco : Laco db antes feitos e) (turn : reativarPagamento e p = .ok e') :
    Laco db antes (feitos ++ [p]) e' := by
  have p_mem : p ∈ db.payments := in_db p (by simp)
  have other : ∀ q ∈ feitos, q.id ≠ p.id := by
    intro q q_mem same
    rw [List.map_append, List.nodup_append] at distinct
    exact distinct.2.2 q.id (List.mem_map_of_mem q_mem) p.id (by simp) same
  have fresh : p.id ∉ e.reativacao.reativados := by
    intro mem
    obtain ⟨q, q_mem, same⟩ := laco.reativados p.id mem
    exact other q q_mem same
  -- no item of `p` was removed before its turn
  have untouched : p.semItens e.reativacao.itensRemovidos = p := by
    refine semItens_of_disjoint fun item mem out => ?_
    obtain ⟨q, q_mem, _, o, o_mem, same⟩ := laco.removidos item.id out
    exact other q q_mem (congrArg Payment.id
      (db.owner_unique (in_db q (by simp [q_mem])) p_mem o_mem mem same))
  have pegou := pegou_pegarItens e.restantes p.itensPorData
  have fits : p.itensPorData.length > (pegarItens e.restantes p.itensPorData).fora.length ↔
      ∃ item ∈ p.productItems, item.CabeEm e.restantes :=
    pegarItens_sobra_iff.trans
      (exists_congr fun item => and_congr_left fun _ => (itensPorData_perm p).mem_iff)
  rw [reativarPagamento] at turn
  split at turn
  · next out =>
      split at turn
      · exact absurd turn throw_ne_ok
      · next reason =>
          obtain rfl := pure_eq_ok_iff.mp turn
          rw [fits] at out
          exact laco_ficaFora laco fresh known pegou reason
            (fun back => back.elim (absurd out.1) out.2) _
  · next stays =>
      obtain rfl := pure_eq_ok_iff.mp turn
      have left : p.roleRegistrationId = none →
          (pegarItens e.restantes p.itensPorData).fora.length < p.itensPorData.length := by
        intro ticketless
        by_contra none_left
        exact stays ⟨ticketless, none_left⟩
      refine laco_volta p_mem (fun q q_mem => in_db q (by simp [q_mem])) other laco untouched pegou
        left ?_
      by_cases ticketless : p.roleRegistrationId = none
      · exact .inr (fits.mp (left ticketless))
      · exact .inl ticketless

theorem mem_aReativar {db : Database} {paymentIds : List Id} {p : Payment} :
    p ∈ db.aReativar paymentIds ↔
      p ∈ db.payments ∧ p.id ∈ paymentIds ∧ p.status.liberaEstoque = true := by
  simp [Database.aReativar]

private theorem laco_reativarCompras {db depois : Database} {paymentIds : List Id} {r : Reativacao}
    (ok : reativarCompras db paymentIds = .ok (depois, r)) :
    ∃ e : EstadoDaReativacao, e.db = depois ∧ e.reativacao = r ∧
      Laco db (fun v => disponivel (db.catalogue.estoque v) (db.vendidos v))
        (db.aReativar paymentIds) e := by
  unfold reativarCompras at ok
  rw [bind_eq_ok_iff] at ok
  obtain ⟨e, loop, done⟩ := ok
  obtain ⟨rfl, rfl⟩ : e.db = depois ∧ e.reativacao = r := by simpa using done
  have sublist : (db.aReativar paymentIds).Sublist db.payments := List.filter_sublist
  refine ⟨e, rfl, rfl, foldlM_eq_ok_invariant _ ?_ ?_ loop⟩
  · exact ⟨(List.map_id'' semItens_nil db.payments).symm, rfl, rfl, rfl, rfl, by simp, by simp,
      by simp, by simp, fun v no_limit => no_limit,
      fun v left limit => ⟨left, limit, by simp⟩, decididos_nil _ _⟩
  · intro feitos p e e' pre laco turn
    refine laco_reativarPagamento (fun q mem => sublist.subset (pre.subset mem)) ?_ ?_ laco turn
    · exact db.payments_keyed.nodup.sublist ((pre.sublist.trans sublist).map _)
    · intro v limited
      simp only [disponivel, Catalogue.estoque, ne_eq, Option.map_eq_none_iff] at limited
      cases found : db.catalogue.varianteDoItem v with
      | none => simp [found] at limited
      | some variante => rfl

/-- Each payment comes back by what remains at its turn. -/
theorem decididos_reativarCompras {db depois : Database} {paymentIds : List Id} {r : Reativacao}
    (ok : reativarCompras db paymentIds = .ok (depois, r)) :
    Decididos (fun v => disponivel (db.catalogue.estoque v) (db.vendidos v))
      (db.aReativar paymentIds) r := by
  obtain ⟨e, _, rfl, laco⟩ := laco_reativarCompras ok
  exact laco.decididos

/-- It fails only on a payment without ticket and without items. -/
theorem reativarCompras_error {db : Database} {paymentIds : List Id} {e : Failure}
    (failed : reativarCompras db paymentIds = .error e) :
    ∃ p ∈ db.aReativar paymentIds, p.roleRegistrationId = none ∧ p.productItems = [] := by
  have loop : ∃ inicio, (db.aReativar paymentIds).foldlM reativarPagamento inicio = .error e := by
    unfold reativarCompras at failed
    rw [bind_eq_error_iff] at failed
    rcases failed with loop | ⟨_, _, done⟩
    · exact ⟨_, loop⟩
    · cases done
  obtain ⟨inicio, loop⟩ := loop
  obtain ⟨p, mem, estado, turn⟩ := foldlM_eq_error loop
  refine ⟨p, mem, ?_⟩
  rw [reativarPagamento] at turn
  split at turn
  · next out =>
      split at turn
      · next empty =>
          refine ⟨out.1, List.eq_nil_of_length_eq_zero ?_⟩
          rw [← (itensPorData_perm p).length_eq, ← Nat.le_zero]
          simpa [empty.2] using out.2
      · cases turn
  · cases turn

/-- What `reativarCompras` does whenever it returns. -/
theorem reativarCompras_spec {db depois : Database} {paymentIds : List Id} {r : Reativacao}
    (ok : reativarCompras db paymentIds = .ok (depois, r)) : Reativou db paymentIds depois r := by
  obtain ⟨e, rfl, rfl, laco⟩ := laco_reativarCompras ok
  have sublist : (db.aReativar paymentIds).Sublist db.payments := List.filter_sublist
  refine ⟨laco.payments, laco.catalogue, laco.eventOnUsers, laco.waitlist, laco.nextId,
    laco.reativados, ?_, ?_, laco.recusa, ?_⟩
  · intro p p_mem stays item item_mem out
    obtain ⟨q, q_mem, back, o, o_mem, same⟩ := laco.removidos item.id out
    obtain rfl := db.owner_unique p_mem (sublist.subset q_mem) item_mem o_mem same.symm
    exact stays back
  · intro p p_mem back ticketless
    obtain ⟨q, q_mem, same⟩ := laco.reativados p.id back
    obtain rfl := db.eq_of_id_eq (sublist.subset q_mem) p_mem same
    exact laco.sobrou q q_mem back ticketless
  · intro v stock limited
    obtain ⟨left, _, budget⟩ :=
        laco.limited v (stock - db.vendidos v) (by simp [disponivel, limited])
    have same_rows : (db.payments.filter fun p => p.id ∈ e.reativacao.reativados) =
        (db.aReativar paymentIds).filter fun p => p.id ∈ e.reativacao.reativados := by
      rw [Database.aReativar, List.filter_filter]
      refine List.filter_congr fun p p_mem => ?_
      by_cases back : p.id ∈ e.reativacao.reativados
      · obtain ⟨q, q_mem, same⟩ := laco.reativados p.id back
        obtain rfl := db.eq_of_id_eq (sublist.subset q_mem) p_mem same
        obtain ⟨_, listed, frees⟩ := mem_aReativar.mp q_mem
        simp [back, listed, frees]
      · simp [back]
    rw [same_rows]
    omega

/-! ### The stock check -/

/-- A purchase that passes the check fits in what is left of each variant's stock. -/
theorem conferirEstoque_ok {vendidos : Id → Nat} {pedido : Pedido} :
    ∀ {variantes : List VarianteComEstoque}, conferirEstoque vendidos pedido variantes = .ok () →
      ∀ variante ∈ variantes, ∀ stock, variante.stock = some stock →
        pedido.unidades variante.id ≤ stock - vendidos variante.id
  | [], _, variante, mem, _, _ => absurd mem (by simp)
  | primeira :: variantes, ok, variante, mem, stock, limited => by
      rw [conferirEstoque] at ok
      cases left : disponivel primeira.stock (vendidos primeira.id) with
      | none =>
          simp only [left] at ok
          rcases List.mem_cons.mp mem with rfl | mem
          · simp [disponivel, limited] at left
          · exact conferirEstoque_ok ok variante mem stock limited
      | some restante =>
          simp only [left] at ok
          split at ok
          · next fits =>
              rcases List.mem_cons.mp mem with rfl | mem
              · obtain rfl : stock - vendidos variante.id = restante := by
                  simpa [disponivel, limited] using left
                exact fits
              · exact conferirEstoque_ok ok variante mem stock limited
          · exact absurd ok throw_ne_ok

end IccvBackend
