/-
Module: IccvBackend.Proofs.ChargeChoice
Purpose: When the four places that choose one charge of a reference decide the same status.
Trusted boundary: none
Main exports: StatusEsperado, PagaEhMaisRecente, MesmaEscolha, mesmaEscolha_iff
-/
import IccvBackend.Cron.Reconcile
import IccvBackend.Gateways.Pagbank
import IccvBackend.Gateways.Ton
import IccvBackend.Payment.Checkout

namespace IccvBackend

open Lib

/-!
The readings of a notification look for a paid charge first, PagBank by the mapped status and Ton by
the word of the house.  The reconciliation and the check of an active checkout take the most recent
charge.  All four reduce to one question about the list, in any order: is the most recent charge a
paid one?
-/

/-- What the charges of a reference say: paid if one of them is, else what the most recent says. -/
def StatusEsperado (charges : List GatewayCharge) (status : PaymentStatus) : Prop :=
  (∃ c ∈ charges, c.status = .paid) ∧ status = .paid ∨
    (∀ c ∈ charges, c.status ≠ .paid) ∧
      ∃ c ∈ charges, c.status = status ∧ ∀ d ∈ charges, d.createdAt ≤ c.createdAt

/-- No attempt comes after a paid one. -/
def PagaEhMaisRecente (charges : List GatewayCharge) : Prop :=
  (∃ c ∈ charges, c.status = .paid) →
    ∃ c ∈ charges, c.status = .paid ∧ ∀ d ∈ charges, d.createdAt ≤ c.createdAt

/-- The two paths that read `listCharges` decide `status`. -/
def DecideNasLeituras (charges : List GatewayCharge) (status : PaymentStatus) : Prop :=
  (cobrancaDaRodada charges).map GatewayCharge.status = some status ∧
    (cobrancaDoCheckoutAtivo charges).map GatewayCharge.status = some status

/-! ### The two choices -/

/-- The most recent charge decides what is expected, unless a paid charge comes before it. -/
theorem statusEsperado_of_maisRecente {charges : List GatewayCharge} {recent : GatewayCharge}
    (chosen : chargeMaisRecente charges = some recent) (paid : PagaEhMaisRecente charges)
    (distinct : (charges.map GatewayCharge.createdAt).Nodup) :
    StatusEsperado charges recent.status := by
  have mem := firstMax_mem chosen
  have latest := le_firstMax chosen
  by_cases some_paid : ∃ c ∈ charges, c.status = .paid
  · obtain ⟨c, c_mem, c_paid, c_latest⟩ := paid some_paid
    have same : c.createdAt = recent.createdAt :=
      le_antisymm (latest c c_mem) (c_latest recent mem)
    obtain rfl := List.inj_on_of_nodup_map distinct c_mem mem same
    exact .inl ⟨some_paid, c_paid⟩
  · exact .inr ⟨fun c c_mem is_paid => some_paid ⟨c, c_mem, is_paid⟩, recent, mem, rfl, latest⟩

/-- A list read in any order has the same most recent charge. -/
theorem chargeMaisRecente_perm {xs ys : List GatewayCharge} (perm : xs.Perm ys)
    (distinct : (xs.map GatewayCharge.createdAt).Nodup) :
    chargeMaisRecente xs = chargeMaisRecente ys := firstMax_perm perm distinct

/-- If the most recent charge decides what is expected, no attempt comes after a paid one. -/
theorem pagaEhMaisRecente_of_decide {charges : List GatewayCharge} {status : PaymentStatus}
    (expected : StatusEsperado charges status)
    (decided : (chargeMaisRecente charges).map GatewayCharge.status = some status) :
    PagaEhMaisRecente charges := by
  rintro ⟨c, c_mem, c_paid⟩
  obtain ⟨recent, chosen, same⟩ := Option.map_eq_some_iff.mp decided
  rcases expected with ⟨_, rfl⟩ | ⟨no_paid, _⟩
  · exact ⟨recent, firstMax_mem chosen, same, le_firstMax chosen⟩
  · exact absurd c_paid (no_paid c c_mem)

/-- A search for a paid charge, with the most recent as fallback, decides like the most recent when
no attempt comes after a paid one.  `para` translates a charge of the house. -/
theorem status_find?_or_maisRecente {γ : Type} {para : γ → GatewayCharge} {paid? : γ → Bool}
    (sound : ∀ c, paid? c = true → (para c).status = .paid) {charges : List γ}
    {recent : GatewayCharge} (chosen : chargeMaisRecente (charges.map para) = some recent)
    (paid : PagaEhMaisRecente (charges.map para))
    (distinct : ((charges.map para).map GatewayCharge.createdAt).Nodup) :
    ((charges.find? paid?).or (firstMax (fun c => (para c).createdAt) charges)).map
      (fun c => (para c).status) = some recent.status := by
  cases found : charges.find? paid? with
  | some c =>
      have c_paid := sound c (List.find?_some found)
      have c_mem : para c ∈ charges.map para :=
        List.mem_map_of_mem (List.mem_of_find?_eq_some found)
      rcases statusEsperado_of_maisRecente chosen paid distinct with ⟨_, same⟩ | ⟨no_paid, _⟩
      · simp [c_paid, same]
      · exact absurd c_paid (no_paid _ c_mem)
  | none =>
      rw [chargeMaisRecente, firstMax_map] at chosen
      obtain ⟨c, c_chosen, rfl⟩ := Option.map_eq_some_iff.mp chosen
      simp [c_chosen]

/-- In whatever order a house lists these charges, every path decides the status expected.  `para`
translates a charge of the house, and `DecideNoAviso` is what its notifications are read as. -/
def MesmaEscolha {γ : Type} (para : γ → GatewayCharge)
    (DecideNoAviso : List γ → PaymentStatus → Prop) (charges : List γ) : Prop :=
  ∃ status, StatusEsperado (charges.map para) status ∧
    ∀ listed, listed.Perm charges →
      DecideNoAviso listed status ∧ DecideNasLeituras (listed.map para) status

/-- A house whose notifications decide by a sound search, with the most recent as fallback. -/
theorem mesmaEscolha_iff_of_search {γ : Type} {para : γ → GatewayCharge} (paid? : γ → Bool)
    {DecideNoAviso : List γ → PaymentStatus → Prop}
    (sound : ∀ c, paid? c = true → (para c).status = .paid)
    (reads : ∀ listed status,
      ((listed.find? paid?).or (firstMax (fun c => (para c).createdAt) listed)).map
        (fun c => (para c).status) = some status → DecideNoAviso listed status)
    {charges : List γ} (some_charge : charges ≠ [])
    (distinct : (charges.map fun c => (para c).createdAt).Nodup) :
    MesmaEscolha para DecideNoAviso charges ↔ PagaEhMaisRecente (charges.map para) := by
  have distinct : ((charges.map para).map GatewayCharge.createdAt).Nodup := by
    rwa [List.map_map]
  constructor
  · rintro ⟨status, expected, decided⟩
    exact pagaEhMaisRecente_of_decide expected (decided charges (.refl _)).2.1
  · intro paid
    obtain ⟨recent, chosen⟩ : ∃ recent, chargeMaisRecente (charges.map para) = some recent := by
      refine Option.ne_none_iff_exists'.mp fun none => some_charge ?_
      exact List.map_eq_nil_iff.mp (firstMax_eq_none_iff.mp none)
    refine ⟨recent.status, statusEsperado_of_maisRecente chosen paid distinct, ?_⟩
    intro listed perm
    have mapped := perm.map para
    have listed_distinct := (mapped.map GatewayCharge.createdAt).nodup_iff.mpr distinct
    have listed_chosen : chargeMaisRecente (listed.map para) = some recent :=
      (chargeMaisRecente_perm mapped listed_distinct).trans chosen
    have listed_paid : PagaEhMaisRecente (listed.map para) := by
      simpa only [PagaEhMaisRecente, mapped.mem_iff] using paid
    refine ⟨reads listed recent.status ?_, ?_, ?_⟩
    · exact status_find?_or_maisRecente sound listed_chosen listed_paid listed_distinct
    · simp [cobrancaDaRodada, listed_chosen]
    · simp [cobrancaDoCheckoutAtivo, listed_chosen]

/-! ### PagBank -/

namespace Pagbank

/-- Every notification of the reference is read as `status`. -/
def DecideNoAviso (charges : List Charge) (status : PaymentStatus) : Prop :=
  ∀ assinatura getCharges body referenceId, Notification.referencia body = some referenceId →
    getCharges referenceId = .ok charges →
      ∃ method paid payload, parseWebhook assinatura getCharges body =
        .ok (.payment referenceId status method paid payload)

/-- A notification that points at a reference is answered from its charges. -/
theorem parseWebhook_of_referencia (assinatura : Bool)
    (getCharges : Id → Except GatewayError (List Charge)) {body : Notification} {referenceId : Id}
    (points : body.referencia = some referenceId) :
    parseWebhook assinatura getCharges body =
      (listCharges getCharges referenceId).map (eventoDaReferencia referenceId) := by
  obtain ⟨charges, status, id, reference⟩ := body
  cases charges with
  | some charges =>
      simp only [Notification.referencia] at points
      simp only [parseWebhook, points]
  | none =>
      cases status with
      | none =>
          simp only [Notification.referencia] at points
          simp only [parseWebhook, points]
      | some status =>
          cases id with
          | none =>
              simp only [Notification.referencia] at points
              simp only [parseWebhook, points]
          | some id => exact nomatch points

/-- A notification is read as the status of the charge chosen for it. -/
theorem decideNoAviso_of_escolha {charges : List Charge} {status : PaymentStatus}
    (chosen : (escolherCobranca (charges.map paraCharge)).map GatewayCharge.status = some status) :
    DecideNoAviso charges status := by
  intro assinatura getCharges body referenceId points listed
  obtain ⟨escolhida, found, rfl⟩ := Option.map_eq_some_iff.mp chosen
  refine ⟨escolhida.method, escolhida.paidAmountCents,
    escolhida.payload ++ [("confirmadoNaFonte", "true")], ?_⟩
  rw [parseWebhook_of_referencia assinatura getCharges points]
  unfold listCharges
  rw [listed]
  simp only [Except.map, eventoDaReferencia, found]

/-- The choice among translated charges is one among the charges of the house. -/
theorem escolherCobranca_map (charges : List Charge) :
    escolherCobranca (charges.map paraCharge) =
      ((charges.find? fun c => (paraCharge c).status = .paid).or
        (firstMax (fun c => (paraCharge c).createdAt) charges)).map paraCharge := by
  rw [escolherCobranca, head?_insertionSort_eq_firstMax, firstMax_map, List.find?_map,
    Option.map_or]
  rfl

theorem mesmaEscolha_iff_paga {charges : List Charge} (some_charge : charges ≠ [])
    (distinct : (charges.map Charge.createdAt).Nodup) :
    MesmaEscolha paraCharge DecideNoAviso charges ↔
      PagaEhMaisRecente (charges.map paraCharge) := by
  refine mesmaEscolha_iff_of_search (fun c => (paraCharge c).status = .paid) (by simp) ?_
    some_charge distinct
  intro listed status chosen
  refine decideNoAviso_of_escolha ?_
  rw [escolherCobranca_map, Option.map_map]
  exact chosen

end Pagbank

/-! ### Ton -/

namespace Ton

/-- The order a notification leads to: by its id when it carries one, else by its code. -/
def Notification.Alcanca (body : Notification)
    (getOrder : Id → Except GatewayError (Option Order))
    (findOrdersByCode : Id → Except GatewayError (List Order)) (pedido : Order) : Prop :=
  (∃ orderId, body.orderId.or body.id = some orderId ∧ getOrder orderId = .ok (some pedido)) ∨
    body.orderId.or body.id = none ∧ ∃ code others,
      body.code.or body.orderCode = some code ∧ findOrdersByCode code = .ok (pedido :: others)

/-- Every notification that leads to an order with these charges is read as `status`. -/
def DecideNoAviso (charges : List Charge) (status : PaymentStatus) : Prop :=
  ∀ getOrder findOrdersByCode body pedido referenceId,
    ("order.".isPrefixOf body.type || "charge.".isPrefixOf body.type) = true →
    Notification.Alcanca body getOrder findOrdersByCode pedido → pedido.charges = some charges →
    pedido.code.or (body.code.or body.orderCode) = some referenceId →
      ∃ method paid payload, parseWebhook getOrder findOrdersByCode body =
        .ok (.payment referenceId status method paid payload)

/-- A notification is read as the status of the charge chosen for it. -/
theorem decideNoAviso_of_escolha {charges : List Charge} {status : PaymentStatus}
    (chosen : (escolherCobranca charges).map (fun c => (paraCharge c).status) = some status) :
    DecideNoAviso charges status := by
  intro getOrder findOrdersByCode body pedido referenceId type reached listed points
  obtain ⟨escolhida, found, rfl⟩ := Option.map_eq_some_iff.mp chosen
  refine ⟨(paraCharge escolhida).method, (paraCharge escolhida).paidAmountCents,
    (paraCharge escolhida).payload, ?_⟩
  unfold parseWebhook
  rw [type]
  rcases reached with ⟨orderId, by_id, order⟩ | ⟨no_id, code, others, by_code, orders⟩
  · simp [by_id, order, points, listed, found, bind, Except.bind, pure, Except.pure]
  · rw [by_code] at points
    simp [no_id, by_code, orders, points, listed, found, bind, Except.bind, pure, Except.pure]

theorem mesmaEscolha_iff_paga {charges : List Charge} (some_charge : charges ≠ [])
    (distinct : (charges.map Charge.createdAt).Nodup) :
    MesmaEscolha paraCharge DecideNoAviso charges ↔
      PagaEhMaisRecente (charges.map paraCharge) := by
  refine mesmaEscolha_iff_of_search (fun c => c.status = some "paid") ?_ ?_
    some_charge distinct
  · intro c paid
    simp [paraCharge, of_decide_eq_true paid, mapearStatus]
  · intro listed status chosen
    refine decideNoAviso_of_escolha ?_
    rw [escolherCobranca, head?_insertionSort_eq_firstMax]
    exact chosen

end Ton

/-! ### Both houses -/

/-- **One choice.**  For every list of charges with distinct instants, at either house, all paths
decide the same expected status exactly when no attempt comes after a paid one. -/
theorem mesmaEscolha_iff {pagbank : List Pagbank.Charge} {ton : List Ton.Charge}
    (some_pagbank : pagbank ≠ []) (some_ton : ton ≠ [])
    (distinct_pagbank : (pagbank.map Pagbank.Charge.createdAt).Nodup)
    (distinct_ton : (ton.map Ton.Charge.createdAt).Nodup) :
    (MesmaEscolha Pagbank.paraCharge Pagbank.DecideNoAviso pagbank ↔
        PagaEhMaisRecente (pagbank.map Pagbank.paraCharge)) ∧
      (MesmaEscolha Ton.paraCharge Ton.DecideNoAviso ton ↔
        PagaEhMaisRecente (ton.map Ton.paraCharge)) :=
  ⟨Pagbank.mesmaEscolha_iff_paga some_pagbank distinct_pagbank,
    Ton.mesmaEscolha_iff_paga some_ton distinct_ton⟩

/-- A paid charge and a declined attempt after it: a notification reads "paid", the round reads
"declined". -/
def Pagbank.pagaDepoisRecusada : List Pagbank.Charge :=
  [{ id := "CHAR_1", status := some "PAID", paymentMethod := some "PIX", createdAt := 1
     paid := some 5000, links := "" },
    { id := "CHAR_2", status := some "DECLINED", paymentMethod := some "CREDIT_CARD"
      createdAt := 2, paid := some 0, links := "" }]

theorem not_mesmaEscolha_pagaDepoisRecusada :
    ¬ MesmaEscolha Pagbank.paraCharge Pagbank.DecideNoAviso Pagbank.pagaDepoisRecusada ∧
      Pagbank.parseWebhook true (fun _ => .ok Pagbank.pagaDepoisRecusada)
          { charges := none, status := none, id := none, referenceId := some 1 } =
        .ok (.payment 1 .paid .pix (some 5000)
          [("payment_method", "PIX"), ("links", ""), ("codeTransaction", "CHAR_1"),
            ("confirmadoNaFonte", "true")]) ∧
      (cobrancaDaRodada (Pagbank.pagaDepoisRecusada.map Pagbank.paraCharge)).map
        GatewayCharge.status = some .declined := by
  refine ⟨?_, by decide, by decide⟩
  rintro ⟨status, _, decided⟩
  have round : some PaymentStatus.declined = some status := (decided _ (.refl _)).2.1
  obtain rfl := Option.some.inj round
  obtain ⟨_, _, _, read⟩ := (decided _ (.refl _)).1 true (fun _ => .ok Pagbank.pagaDepoisRecusada)
    { charges := none, status := none, id := none, referenceId := some 1 } 1 rfl rfl
  have notice : Pagbank.parseWebhook true (fun _ => .ok Pagbank.pagaDepoisRecusada)
      { charges := none, status := none, id := none, referenceId := some 1 } =
        .ok (.payment 1 .paid .pix (some 5000)
          [("payment_method", "PIX"), ("links", ""), ("codeTransaction", "CHAR_1"),
            ("confirmadoNaFonte", "true")]) := by decide
  simp [notice] at read

/-- The paths disagree on a declined attempt after a paid one at PagBank, and agree on an overpaid
charge at Ton. -/
theorem mesmaEscolha_iff_recusadaDepoisPaga :
    ¬ MesmaEscolha Pagbank.paraCharge Pagbank.DecideNoAviso Pagbank.pagaDepoisRecusada ∧
      MesmaEscolha Ton.paraCharge Ton.DecideNoAviso
        [⟨"ch_1", some "overpaid", some "pix", 1, some 5100, some 5000, none⟩] := by
  obtain ⟨pagbank, ton⟩ := @mesmaEscolha_iff Pagbank.pagaDepoisRecusada
    [⟨"ch_1", some "overpaid", some "pix", 1, some 5100, some 5000, none⟩]
    (by decide) (by decide) (by decide) (by decide)
  refine ⟨fun same => ?_, ton.mpr ?_⟩
  · exact absurd (pagbank.mp same) (by unfold PagaEhMaisRecente; decide)
  · unfold PagaEhMaisRecente
    decide

end IccvBackend
