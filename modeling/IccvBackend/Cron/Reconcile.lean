/-
Module: IccvBackend.Cron.Reconcile
Purpose: `cron/cron.service.ts`: the reconciliation of pending payments with the houses.
Trusted boundary: human-reviewed spec
Main exports: pendentes, aReconciliar, casaDa, conferirCobranca, gravarCobranca, reconciliar,
  Payment.tem, gravarCobranca_payments
-/
import IccvBackend.Gateways.Registry
import IccvBackend.Payment.Service

namespace IccvBackend

open Lib

/-!
A round reads the pending payments once.  For each of them it asks the house, reads one payment of
the reference and may write the status on all of them; the reads and the write are separate, and
other requests run in between.  `reconciliar` is a round nobody interrupts.
-/

/-- A pending charge and the house to ask. -/
structure CobrancaPendente where
  referenceId : Id
  provider : PaymentProvider
  configId : Option Id
  chargedAmountCents : Option Int
  eventId : Option Id
deriving Repr, DecidableEq

/-- `orderBy: { createdAt: 'desc' }, take: 1`. -/
def Payment.checkoutMaisNovo (p : Payment) : Option PaymentCheckout :=
  firstMax PaymentCheckout.createdAt p.checkouts

/-- The newest checkout of a payment, as a charge to ask about. -/
def Payment.cobranca (p : Payment) : Option CobrancaPendente :=
  p.checkoutMaisNovo.map fun checkout =>
    { referenceId := checkout.referenceId
      provider := checkout.provider
      configId := checkout.configId
      chargedAmountCents := checkout.chargedAmountCents
      eventId := p.eventId }

/-- A payment the routine looks at. -/
def Payment.pendente (p : Payment) : Bool := p.status = .waiting || p.status = .inAnalysis

/-- The pending charges; `filtro` limits the round to one event. -/
def pendentes (db : Database) (filtro : Option Id) : List CobrancaPendente :=
  (db.payments.filter fun p => p.pendente && filtro.all fun eventId => p.eventId = some eventId)
    |>.filterMap Payment.cobranca

/-- An event whose church does not charge online. -/
def moduloDesligado (cat : Catalogue) (eventId : Id) : Bool :=
  (cat.event? eventId).any fun event => !(cat.church? event.churchId).any cobraOnline

/-- The charges of churches with the module on; a charge without event stays in. -/
def aReconciliar (db : Database) (filtro : Option Id) : List CobrancaPendente :=
  (pendentes db filtro).filter fun cobranca => !cobranca.eventId.any (moduloDesligado db.catalogue)

/-- The key of the cache of credentials. -/
inductive ChaveDaCasa where
  | config (configId : Id)
  | legado (eventId : Option Id)
deriving Repr, DecidableEq

def CobrancaPendente.chave (cobranca : CobrancaPendente) : ChaveDaCasa :=
  match cobranca.configId with
  | some configId => .config configId
  | none => .legado cobranca.eventId

/-- `resolver`: every error becomes an absent house. -/
def resolver (cat : Catalogue) (cobranca : CobrancaPendente) : Option PaymentProviderConfig :=
  match cobranca.configId with
  | some configId => (porConfigId cat configId).toOption
  | none => do
      let eventId ← cobranca.eventId
      let event ← cat.event? eventId
      (porIgrejaEProvider cat event.churchId cobranca.provider).toOption.join

/-- The cache of a round; an absent house is kept too. -/
abbrev Casas := List (ChaveDaCasa × Option PaymentProviderConfig)

/-- `casaDa`: the house of a charge and the cache after asking for it. -/
def casaDa (cat : Catalogue) (cobranca : CobrancaPendente) (casas : Casas) :
    Option PaymentProviderConfig × Casas :=
  match casas.lookup cobranca.chave with
  | some casa => (casa, casas)
  | none =>
      let resolvido := resolver cat cobranca
      (resolvido, casas ++ [(cobranca.chave, resolvido)])

/-- `charges.reduce(...)`, after the test for the empty list: the charge that decides. -/
def cobrancaDaRodada (charges : List GatewayCharge) : Option GatewayCharge :=
  chargeMaisRecente charges

/-- `payment.findFirst` by reference. -/
def Database.pagamentoNoBanco (db : Database) (referenceId : Id) : Option Payment :=
  db.payments.find? fun p => p.checkouts.any fun c => c.referenceId = referenceId

/-- The status to write for a charge, if any, from the answer of its house and the first payment of
its reference. -/
def conferirCobranca (db : Database) (cobranca : CobrancaPendente)
    (reply : Except GatewayError (List GatewayCharge)) :
    Option (PaymentStatus × GatewayCharge) := do
  let charge ← reply.toOption.bind cobrancaDaRodada
  let pagamentoNoBanco ← db.pagamentoNoBanco cobranca.referenceId
  let statusConferido :=
    conferirValorPago charge.status charge.paidAmountCents cobranca.chargedAmountCents
  if pagamentoNoBanco.status = statusConferido then none else some (statusConferido, charge)

/-- The transaction that writes the status on every payment of the reference. -/
def gravarCobranca (db : Database) (cobranca : CobrancaPendente) (status : PaymentStatus)
    (charge : GatewayCharge) : Database :=
  let written := db.updateManyPayments
    (fun p => p.checkouts.any fun c => c.referenceId = cobranca.referenceId)
    (gatewayUpdate status charge.method charge.payload)
  if status = .paid then
    written.updateManyCheckouts (fun _ c => c.referenceId = cobranca.referenceId) .inactive
  else written

/-- One charge of a round nobody interrupts. -/
def reconciliarCobranca
    (reply : PaymentProviderConfig → Id → Except GatewayError (List GatewayCharge))
    (state : Database × Casas) (cobranca : CobrancaPendente) : Database × Casas :=
  let casa := casaDa state.1.catalogue cobranca state.2
  match casa.1 with
  | none => (state.1, casa.2)
  | some config =>
      match conferirCobranca state.1 cobranca (reply config cobranca.referenceId) with
      | none => (state.1, casa.2)
      | some (status, charge) => (gravarCobranca state.1 cobranca status charge, casa.2)

/-- `reconciliar`, a round nobody interrupts. -/
def reconciliar (db : Database) (filtro : Option Id)
    (reply : PaymentProviderConfig → Id → Except GatewayError (List GatewayCharge)) : Database :=
  ((aReconciliar db filtro).foldl (reconciliarCobranca reply) (db, [])).1

/-! ### What a round reads and writes -/

/-- The payment was sent to a house under this reference. -/
def Payment.tem (p : Payment) (referenceId : Id) : Bool :=
  p.checkouts.any fun c => c.referenceId = referenceId

theorem tem_eq_true_iff {p : Payment} {referenceId : Id} :
    p.tem referenceId = true ↔ referenceId ∈ p.checkouts.map PaymentCheckout.referenceId := by
  simp [Payment.tem]

/-- The references of a row decide what it was sent under. -/
theorem tem_congr {p q : Payment} (same : q.checkouts.map PaymentCheckout.referenceId =
    p.checkouts.map PaymentCheckout.referenceId) (referenceId : Id) :
    q.tem referenceId = p.tem referenceId := by
  rw [Bool.eq_iff_iff, tem_eq_true_iff, tem_eq_true_iff, same]

/-- The charge of a payment is about one of its own references. -/
theorem tem_of_cobranca {p : Payment} {cobranca : CobrancaPendente}
    (newest : p.cobranca = some cobranca) : p.tem cobranca.referenceId = true := by
  obtain ⟨checkout, chosen, rfl⟩ := Option.map_eq_some_iff.mp newest
  exact tem_eq_true_iff.mpr (List.mem_map.mpr ⟨checkout, firstMax_mem chosen, rfl⟩)

/-- The rows a notification is about have its reference. -/
theorem tem_of_checkoutsWhere {db : Database} {notice : PaymentNotice}
    {row : Payment × PaymentCheckout} (mem : row ∈ db.checkoutsWhere (notice.selects db)) :
    row.1 ∈ db.payments ∧ row.2 ∈ row.1.checkouts ∧
      row.2.referenceId = notice.referenceId ∧ row.1.tem notice.referenceId = true := by
  obtain ⟨p, p_mem, row_mem⟩ := List.mem_flatMap.mp mem
  obtain ⟨c, c_mem, rfl⟩ := List.mem_map.mp row_mem
  obtain ⟨c_in, selected⟩ := List.mem_filter.mp c_mem
  simp only [PaymentNotice.selects, Bool.and_eq_true, decide_eq_true_eq] at selected
  exact ⟨p_mem, c_in, selected.1, tem_eq_true_iff.mpr (List.mem_map.mpr ⟨c, c_in, selected.1⟩)⟩

/-- The first payment of a reference is a payment of the reference. -/
theorem pagamentoNoBanco_spec {db : Database} {referenceId : Id} {first : Payment}
    (found : db.pagamentoNoBanco referenceId = some first) :
    first ∈ db.payments ∧ first.tem referenceId = true :=
  ⟨List.mem_of_find?_eq_some found,
    List.find?_some (p := fun p : Payment => p.tem referenceId) found⟩

/-- What the status write of a round does to one row. -/
def CobrancaPendente.escrita (cobranca : CobrancaPendente) (status : PaymentStatus)
    (charge : GatewayCharge) (p : Payment) : Payment :=
  if p.tem cobranca.referenceId then
    (gatewayUpdate status charge.method charge.payload).apply p
  else p

section Escrita

variable (cobranca : CobrancaPendente) (status : PaymentStatus) (charge : GatewayCharge)
  (p : Payment)

@[simp] theorem escrita_id : (cobranca.escrita status charge p).id = p.id := by
  unfold CobrancaPendente.escrita; split <;> rfl

@[simp] theorem escrita_checkouts :
    (cobranca.escrita status charge p).checkouts = p.checkouts := by
  unfold CobrancaPendente.escrita; split <;> rfl

@[simp] theorem escrita_status : (cobranca.escrita status charge p).status =
    if p.tem cobranca.referenceId then status else p.status := by
  unfold CobrancaPendente.escrita; split <;> rfl

end Escrita

/-- The write of a round keeps the rows, their order and their references, and gives the status to
the payments of the reference. -/
theorem gravarCobranca_payments (db : Database) (cobranca : CobrancaPendente)
    (status : PaymentStatus) (charge : GatewayCharge) :
    ∃ g : Payment → Payment,
      (gravarCobranca db cobranca status charge).payments = db.payments.map g ∧
      (∀ p, (g p).id = p.id) ∧
      (∀ p, (g p).checkouts.map PaymentCheckout.referenceId =
        p.checkouts.map PaymentCheckout.referenceId) ∧
      ∀ p, (g p).status = if p.tem cobranca.referenceId then status else p.status := by
  unfold gravarCobranca
  dsimp only
  split
  · refine ⟨fun p => { cobranca.escrita status charge p with
      checkouts := (cobranca.escrita status charge p).checkouts.map fun c =>
        if c.referenceId = cobranca.referenceId then { c with status := .inactive } else c },
      ?_, escrita_id cobranca status charge, fun p => ?_, escrita_status cobranca status charge⟩
    · simp only [Database.updateManyCheckouts, Database.modifyPayments_payments,
        Database.updateManyPayments_payments, List.map_map, decide_eq_true_eq]
      rfl
    · dsimp only
      rw [escrita_checkouts, List.map_map]
      refine List.map_congr_left fun c _ => ?_
      rw [Function.comp_apply]
      split <;> rfl
  · exact ⟨cobranca.escrita status charge, rfl, escrita_id cobranca status charge,
      fun p => by rw [escrita_checkouts], escrita_status cobranca status charge⟩

theorem gravarCobranca_catalogue (db : Database) (cobranca : CobrancaPendente)
    (status : PaymentStatus) (charge : GatewayCharge) :
    (gravarCobranca db cobranca status charge).catalogue = db.catalogue := by
  unfold gravarCobranca
  dsimp only
  split <;> rfl

end IccvBackend
