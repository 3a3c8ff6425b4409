/-
Module: IccvBackend.Proofs.Refunds
Purpose: A refund made at the house never reaches payments that are paid.
Trusted boundary: none
Main exports: EstornoChega, PagasEIsoladas, estorno_nao_chega
-/
import IccvBackend.Lib.Transitions
import IccvBackend.System

namespace IccvBackend

open Lib

/-!
A notification stops at a first row that is paid, whatever it says, and a round only asks about
payments that wait.  So a set of paid payments that shares no reference with any other payment is
out of reach of the houses: the invariant is that set, together with the charges that the rounds in
flight still hold.
-/

/-- The payments of the reference end the run refunded, so that their units are available. -/
def EstornoChega (amb : Ambiente) (w : World) (referenceId : Id) (actions : List Action) : Prop :=
  ∀ q ∈ (runFrom (step amb) w actions).db.payments, q.tem referenceId = true →
    q.status = .refunded

/-- A stretch of a round. -/
def Task.ehRodada : Task → Bool
  | .reconcileNext _ _ => true
  | .reconcileWrite _ _ _ _ _ => true
  | _ => false

/-- What the houses can do: notifications and rounds, in any interleaving. -/
def AvisoOuRodada (w : World) : Action → Prop
  | .updatePaymentWebhook _ => True
  | .updatePaymentCheckoutWebhook _ _ _ => True
  | .reconciliar _ => True
  | .reorder _ => True
  | .drop _ => True
  | .resume i _ => w.tasks[i]?.all Task.ehRodada = true
  | _ => False

instance (amb : Ambiente) (w : World) (referenceId : Id) (actions : List Action) :
    Decidable (EstornoChega amb w referenceId actions) :=
  inferInstanceAs (Decidable (∀ q ∈ _, _))

/-! ### Rows and their references -/

/-- `depois` holds the rows of `db` rewritten by `f`, with the ids and references they had. -/
structure MesmasReferencias (db depois : Database) (f : Payment → Payment) : Prop where
  perm : depois.payments.Perm (db.payments.map f)
  id : ∀ p, (f p).id = p.id
  referencias : ∀ p, (f p).checkouts.map PaymentCheckout.referenceId =
    p.checkouts.map PaymentCheckout.referenceId

section MesmasReferencias

variable {db meio depois : Database} {f g : Payment → Payment}

theorem mesmasReferencias_refl (db : Database) : MesmasReferencias db db id :=
  ⟨by simp, fun _ => rfl, fun _ => rfl⟩

theorem MesmasReferencias.trans (first : MesmasReferencias db meio f)
    (second : MesmasReferencias meio depois g) :
    MesmasReferencias db depois fun p => g (f p) where
  perm := by
    have rewritten := first.perm.map g
    rw [List.map_map] at rewritten
    exact second.perm.trans rewritten
  id p := (second.id _).trans (first.id p)
  referencias p := (second.referencias _).trans (first.referencias p)

theorem mesmasReferencias_updateMany (db : Database) (selected : Payment → Bool)
    (data : Database.PaymentUpdate) :
    MesmasReferencias db (db.updateManyPayments selected data)
      fun p => if selected p then data.apply p else p where
  perm := .refl _
  id p := by split <;> rfl
  referencias p := by split <;> rfl

theorem mesmasReferencias_updateManyCheckouts (db : Database)
    (selected : Payment → PaymentCheckout → Bool) (status : CheckoutStatus) :
    MesmasReferencias db (db.updateManyCheckouts selected status) fun p =>
      { p with
        checkouts := p.checkouts.map fun c =>
          if selected p c then { c with status := status } else c }
    where
  perm := .refl _
  id _ := rfl
  referencias p := by
    rw [List.map_map]
    refine List.map_congr_left fun c _ => ?_
    simp only [Function.comp_apply]
    split <;> rfl

theorem mesmasReferencias_reorder (db : Database) (rank : Id → Nat) :
    MesmasReferencias db (db.reorderPayments rank) id :=
  ⟨by rw [List.map_id]; exact List.perm_insertionSort _ _, fun _ => rfl, fun _ => rfl⟩

theorem MesmasReferencias.mem (same : MesmasReferencias db depois f) {q : Payment}
    (mem : q ∈ depois.payments) : ∃ p ∈ db.payments, f p = q :=
  List.mem_map.mp (same.perm.mem_iff.mp mem)

theorem MesmasReferencias.tem (same : MesmasReferencias db depois f) (p : Payment)
    (referenceId : Id) : (f p).tem referenceId = p.tem referenceId :=
  tem_congr (same.referencias p) referenceId

end MesmasReferencias

/-! ### The invariant -/

/-- The payments in `T` are paid, and no other payment shares a reference with one of them. -/
structure PagasEIsoladas (db : Database) (T : Id → Prop) : Prop where
  pagas : ∀ p ∈ db.payments, T p.id → p.status = .paid
  isoladas : ∀ p ∈ db.payments, T p.id → ∀ q ∈ db.payments, ∀ referenceId,
    p.tem referenceId = true → q.tem referenceId = true → T q.id

/-- No payment in `T` has this reference. -/
def ForaDe (db : Database) (T : Id → Prop) (cobranca : CobrancaPendente) : Prop :=
  ∀ p ∈ db.payments, p.tem cobranca.referenceId = true → ¬ T p.id

/-- What the houses cannot break. -/
structure ForaDeAlcance (w : World) (T : Id → Prop) : Prop where
  isoladas : PagasEIsoladas w.db T
  rodadas : ∀ task ∈ w.tasks, ∀ cobranca ∈ task.cobrancas, ForaDe w.db T cobranca

section Step

variable {amb : Ambiente} {w : World} {T : Id → Prop}

/-- A rewrite that keeps references and leaves the payments in `T` paid keeps the isolation. -/
theorem PagasEIsoladas.of_mesmasReferencias {db depois : Database} {f : Payment → Payment}
    (isoladas : PagasEIsoladas db T) (same : MesmasReferencias db depois f)
    (stays : ∀ p ∈ db.payments, T p.id → (f p).status = .paid) : PagasEIsoladas depois T where
  pagas q mem in_T := by
    obtain ⟨p, p_mem, rfl⟩ := same.mem mem
    exact stays p p_mem (same.id p ▸ in_T)
  isoladas q mem in_T q' mem' referenceId has has' := by
    obtain ⟨p, p_mem, rfl⟩ := same.mem mem
    obtain ⟨p', p'_mem, rfl⟩ := same.mem mem'
    rw [same.id] at in_T ⊢
    rw [same.tem] at has has'
    exact isoladas.isoladas p p_mem in_T p' p'_mem referenceId has has'

theorem ForaDe.of_mesmasReferencias {db depois : Database} {f : Payment → Payment}
    {cobranca : CobrancaPendente} (fora : ForaDe db T cobranca)
    (same : MesmasReferencias db depois f) : ForaDe depois T cobranca := by
  intro q mem has in_T
  obtain ⟨p, p_mem, rfl⟩ := same.mem mem
  rw [same.id] at in_T
  rw [same.tem] at has
  exact fora p p_mem has in_T

/-- A notification leaves the payments in `T` paid. -/
theorem PagasEIsoladas.webhook {db : Database} (isoladas : PagasEIsoladas db T)
    {notice : PaymentNotice} {depois : Database}
    (ok : updatePaymentWebhook db notice = .ok depois) :
    ∃ f, MesmasReferencias db depois f ∧
      ∀ p ∈ db.payments, T p.id → (f p).status = .paid := by
  rcases updatePaymentWebhook_cases db notice with
    ⟨_, failed⟩ | ⟨first, rest, found, ⟨_, same⟩ | ⟨unpaid, status, rfl, written, rfl, wrote⟩⟩
  · exact nomatch failed.symm.trans ok
  · obtain rfl := Except.ok.inj (same.symm.trans ok)
    exact ⟨id, mesmasReferencias_refl db, isoladas.pagas⟩
  · obtain rfl := Except.ok.inj (wrote.symm.trans ok)
    obtain ⟨first_mem, _, _, first_has⟩ := tem_of_checkoutsWhere
      (found ▸ List.mem_cons_self (l := rest))
    -- a row in `T` would put the first row in `T`, and that one is not paid
    have spared : ∀ p ∈ db.payments, T p.id →
        p.id ∉ (first :: rest).map fun row => row.1.id := by
      intro p mem in_T listed
      obtain ⟨row, row_mem, same_id⟩ := List.mem_map.mp listed
      obtain ⟨row_in, _, _, has⟩ := tem_of_checkoutsWhere (found ▸ row_mem)
      obtain rfl := db.eq_of_id_eq row_in mem same_id
      exact unpaid (isoladas.pagas _ first_mem
        (isoladas.isoladas _ mem in_T _ first_mem _ has first_has))
    have written_paid : ∀ p ∈ db.payments, T p.id →
        (if decide (p.id ∈ (first :: rest).map fun row => row.1.id) = true then
          (gatewayUpdate (conferirValorPago notice.status notice.pagoEmCentavos
            first.2.chargedAmountCents) notice.method notice.payload).apply p
        else p).status = .paid := by
      intro p mem in_T
      rw [if_neg (by simpa using spared p mem in_T)]
      exact isoladas.pagas p mem in_T
    split
    · exact ⟨_, (mesmasReferencias_updateMany db _ _).trans
        (mesmasReferencias_updateManyCheckouts _ _ _), written_paid⟩
    · exact ⟨_, mesmasReferencias_updateMany db _ _, written_paid⟩

/-- The write of a round leaves the payments in `T` paid. -/
theorem PagasEIsoladas.gravarCobranca {db : Database} (isoladas : PagasEIsoladas db T)
    {cobranca : CobrancaPendente} (fora : ForaDe db T cobranca) (status : PaymentStatus)
    (charge : GatewayCharge) :
    ∃ f, MesmasReferencias db (gravarCobranca db cobranca status charge) f ∧
      ∀ p ∈ db.payments, T p.id → (f p).status = .paid := by
  obtain ⟨g, payments, id, referencias, written⟩ :=
    gravarCobranca_payments db cobranca status charge
  refine ⟨g, ⟨payments ▸ .refl _, id, referencias⟩, fun p mem in_T => ?_⟩
  rw [written, if_neg fun has => fora p mem has in_T]
  exact isoladas.pagas p mem in_T

/-- A round asks about references of payments that wait. -/
theorem pendente_of_aReconciliar {db : Database} {filtro : Option Id} {cobranca : CobrancaPendente}
    (asked : cobranca ∈ aReconciliar db filtro) :
    ∃ p ∈ db.payments, p.tem cobranca.referenceId = true ∧ p.pendente = true := by
  obtain ⟨p, mem, newest⟩ := List.mem_filterMap.mp (List.mem_of_mem_filter asked)
  obtain ⟨p_in, waits⟩ := List.mem_filter.mp mem
  rw [Bool.and_eq_true] at waits
  exact ⟨p, p_in, tem_of_cobranca newest, waits.1⟩

/-- A round that starts asks about no payment in `T`. -/
theorem PagasEIsoladas.foraDe_aReconciliar {db : Database} (isoladas : PagasEIsoladas db T)
    (filtro : Option Id) : ∀ cobranca ∈ aReconciliar db filtro, ForaDe db T cobranca := by
  intro cobranca asked q q_mem has in_T
  obtain ⟨p, p_mem, p_has, waits⟩ := pendente_of_aReconciliar asked
  have paid := isoladas.pagas p p_mem (isoladas.isoladas q q_mem in_T p p_mem _ has p_has)
  simp [Payment.pendente, paid] at waits

/-- A stretch that asks commits nothing, and the round goes on with charges it already had. -/
theorem runTask_reconcileNext (amb : Ambiente) (db : Database) (r : Resposta)
    (restantes : List CobrancaPendente) (casas : Casas) :
    (runTask amb db r (.reconcileNext restantes casas)).1 = db ∧
      ∀ next ∈ (runTask amb db r (.reconcileNext restantes casas)).2,
        ∀ cobranca ∈ next.cobrancas, cobranca ∈ restantes := by
  cases restantes with
  | nil => simp [runTask]
  | cons cobranca restantes =>
      simp only [runTask]
      split
      · simpa [Task.cobrancas] using fun c => Or.inr (a := c = cobranca)
      · split
        · simpa [Task.cobrancas] using fun c => Or.inr (a := c = cobranca)
        · simp [Task.cobrancas]

/-- One step of the houses keeps the rows, and keeps the payments in `T` out of reach. -/
theorem ForaDeAlcance.step (amb : Ambiente) (safe : ForaDeAlcance w T) {action : Action}
    (houses : AvisoOuRodada w action) :
    (∃ f, MesmasReferencias w.db (step amb w action).db f) ∧
      ForaDeAlcance (step amb w action) T := by
  have keep : ∀ {depois : Database} {f : Payment → Payment} {tasks : List Task},
      MesmasReferencias w.db depois f → (∀ p ∈ w.db.payments, T p.id → (f p).status = .paid) →
      (∀ task ∈ tasks, ∀ cobranca ∈ task.cobrancas, ForaDe w.db T cobranca) →
      (∃ f, MesmasReferencias w.db depois f) ∧ ForaDeAlcance ⟨depois, tasks⟩ T :=
    fun same stays rodadas => ⟨⟨_, same⟩, safe.isoladas.of_mesmasReferencias same stays,
      fun task mem cobranca c_mem => (rodadas task mem cobranca c_mem).of_mesmasReferencias same⟩
  have parada := mesmasReferencias_refl w.db
  cases action with
  | updatePaymentWebhook notice =>
      simp only [IccvBackend.step]
      cases result : updatePaymentWebhook w.db notice with
      | error => exact ⟨⟨_, parada⟩, safe⟩
      | ok depois =>
          obtain ⟨f, same, stays⟩ := safe.isoladas.webhook result
          exact keep same stays safe.rodadas
  | updatePaymentCheckoutWebhook checkoutId status escopo =>
      simp only [IccvBackend.step]
      cases result : updatePaymentCheckoutWebhook w.db checkoutId status escopo with
      | error => exact ⟨⟨_, parada⟩, safe⟩
      | ok depois =>
          rw [updatePaymentCheckoutWebhook_ok result]
          exact keep (mesmasReferencias_updateManyCheckouts _ _ _) safe.isoladas.pagas safe.rodadas
  | reconciliar filtro =>
      refine keep parada safe.isoladas.pagas fun task mem cobranca c_mem => ?_
      rcases List.mem_append.mp mem with old | new
      · exact safe.rodadas task old cobranca c_mem
      · obtain rfl := List.mem_singleton.mp new
        exact safe.isoladas.foraDe_aReconciliar filtro cobranca c_mem
  | reorder rank =>
      exact keep (mesmasReferencias_reorder _ _) safe.isoladas.pagas safe.rodadas
  | drop i =>
      exact keep parada safe.isoladas.pagas fun task mem =>
        safe.rodadas task (List.mem_of_mem_eraseIdx mem)
  | resume i resposta =>
      simp only [IccvBackend.step]
      cases found : w.tasks[i]? with
      | none => exact ⟨⟨_, parada⟩, safe⟩
      | some task =>
          have in_flight := safe.rodadas task (List.mem_of_getElem? found)
          have rest : ∀ {next : Option Task},
              (∀ t ∈ next, ∀ cobranca ∈ t.cobrancas, ForaDe w.db T cobranca) →
              ∀ t ∈ w.tasks.eraseIdx i ++ next.toList, ∀ cobranca ∈ t.cobrancas,
                ForaDe w.db T cobranca := by
            intro next goes_on t mem
            rcases List.mem_append.mp mem with old | new
            · exact safe.rodadas t (List.mem_of_mem_eraseIdx old)
            · exact goes_on t (Option.mem_toList.mp new)
          have round : task.ehRodada = true := by simpa [AvisoOuRodada, found] using houses
          cases task with
          | reconcileNext restantes casas =>
              obtain ⟨same, goes_on⟩ := runTask_reconcileNext amb w.db resposta restantes
                casas
              have tasks := rest fun t mem cobranca c_mem =>
                in_flight cobranca (goes_on t mem cobranca c_mem)
              dsimp only
              rw [same]
              exact keep parada safe.isoladas.pagas tasks
          | reconcileWrite cobranca status charge restantes casas =>
              obtain ⟨f, same, stays⟩ := safe.isoladas.gravarCobranca
                (in_flight cobranca List.mem_cons_self) status charge
              refine keep same stays (rest fun t mem cobranca' c_mem => ?_)
              obtain rfl := Option.mem_some_iff.mp mem
              exact in_flight cobranca' (List.mem_cons_of_mem _ c_mem)
          | _ => cases round
  | _ => exact houses.elim

/-- A run of the houses keeps the payments in `T` out of reach, and every reference in place. -/
theorem ForaDeAlcance.run (safe : ForaDeAlcance w T) {referenceId : Id} {actions : List Action}
    (houses : EachStep (IccvBackend.step amb) AvisoOuRodada w actions)
    (found : ∃ p ∈ w.db.payments, p.tem referenceId = true ∧ T p.id) :
    Always (IccvBackend.step amb) (fun w => ForaDeAlcance w T ∧
      ∃ p ∈ w.db.payments, p.tem referenceId = true ∧ T p.id) w actions := by
  refine always_of_eachStep ?_ ⟨safe, found⟩ houses
  rintro w action ⟨safe, p, mem, has, in_T⟩ house
  obtain ⟨⟨f, same⟩, safe'⟩ := safe.step amb house
  refine ⟨safe', f p, same.perm.mem_iff.mpr (List.mem_map_of_mem mem), ?_, ?_⟩
  · exact (same.tem p referenceId).trans has
  · exact (same.id p).symm ▸ in_T

end Step

/-- A notification about a reference whose payments are paid changes nothing. -/
theorem updatePaymentWebhook_pagas {db : Database} {notice : PaymentNotice}
    (pagas : ∀ p ∈ db.payments, p.tem notice.referenceId = true → p.status = .paid)
    {depois : Database} (ok : updatePaymentWebhook db notice = .ok depois) : depois = db := by
  rcases updatePaymentWebhook_cases db notice with
    ⟨_, failed⟩ | ⟨first, rest, found, ⟨_, same⟩ | ⟨unpaid, _⟩⟩
  · exact nomatch failed.symm.trans ok
  · exact (Except.ok.inj (same.symm.trans ok)).symm
  · obtain ⟨mem, _, _, has⟩ := tem_of_checkoutsWhere (found ▸ List.mem_cons_self (l := rest))
    exact absurd (pagas first.1 mem has) unpaid

/-- **A refund does not arrive.**  In every state where the payments of a reference are paid: no
notification about the reference refunds them, no round asks about it, and, as long as no reference
ties them to a payment that is not paid, no run of notifications and rounds refunds them. -/
theorem estorno_nao_chega (amb : Ambiente) (w : World) (referenceId : Id)
    (found : ∃ p ∈ w.db.payments, p.tem referenceId = true)
    (pagas : ∀ p ∈ w.db.payments, p.tem referenceId = true → p.status = .paid) :
    (∀ notice : PaymentNotice, notice.referenceId = referenceId →
      ¬ EstornoChega amb w referenceId [.updatePaymentWebhook notice]) ∧
    (∀ filtro, ∀ cobranca ∈ aReconciliar w.db filtro, cobranca.referenceId ≠ referenceId) ∧
    ∀ T : Id → Prop, ForaDeAlcance w T → (∀ p ∈ w.db.payments, p.tem referenceId = true → T p.id) →
      ∀ actions, EachStep (step amb) AvisoOuRodada w actions →
        ¬ EstornoChega amb w referenceId actions := by
  obtain ⟨p, mem, has⟩ := found
  refine ⟨?_, ?_, ?_⟩
  · rintro notice rfl refunded
    have same : (step amb w (.updatePaymentWebhook notice)).db = w.db := by
      rcases w.commit_cases (updatePaymentWebhook w.db notice) id with same | ⟨depois, ok, same⟩
      · exact same
      · exact same.trans (updatePaymentWebhook_pagas pagas ok)
    have := refunded p (by simpa [same] using mem) has
    simp [pagas p mem has] at this
  · rintro filtro cobranca asked rfl
    obtain ⟨p, p_mem, p_has, waits⟩ := pendente_of_aReconciliar asked
    simp [Payment.pendente, pagas p p_mem p_has] at waits
  · intro T safe covers actions houses refunded
    obtain ⟨safe', q, q_mem, q_has, in_T⟩ :=
      (safe.run houses ⟨p, mem, has, covers p mem has⟩).last
    have := refunded q q_mem q_has
    simp [safe'.isoladas.pagas q q_mem in_T] at this

/-! ### The refund that is lost -/

namespace Loja

/-- A ticket charged and paid at the house. -/
def ingressoPago : World :=
  runFrom (step ambiente) (aberta .pagbank 100 none)
    [inscricao 3 1000, .createCheckout ⟨3, 5, [7], []⟩, .resume 0 (resposta 1000 [] 500),
      .resume 0 (resposta 1000 [] 500), .resume 0 (resposta 1000 [] 500),
      aviso 101 .paid (some 10000)]

/-- The house notifies the refund, and a round runs after it. -/
def estornoNaCasa : List Action :=
  [aviso 101 .refunded (some 10000), .reconciliar none,
    .resume 0 (resposta 2000 [cobranca .refunded 1000 (some 10000)] 500)]

end Loja

theorem estorno_nao_chega_ingressoPago :
    ¬ EstornoChega Loja.ambiente Loja.ingressoPago 101 Loja.estornoNaCasa := by
  have one_row : ∀ p ∈ Loja.ingressoPago.db.payments, p.id = 100 ∧ p.status = .paid := by
    decide +kernel
  have no_task : Loja.ingressoPago.tasks.isEmpty = true := by decide +kernel
  have safe : ForaDeAlcance Loja.ingressoPago (· = 100) :=
    ⟨⟨fun p mem _ => (one_row p mem).2, fun _ _ _ q mem _ _ _ => (one_row q mem).1⟩,
      fun task mem => absurd (List.isEmpty_iff.mp no_task ▸ mem) List.not_mem_nil⟩
  have round : ((runFrom (step Loja.ambiente) Loja.ingressoPago
      (Loja.estornoNaCasa.take 2)).tasks[0]?).all Task.ehRodada = true := by decide +kernel
  exact (estorno_nao_chega Loja.ambiente Loja.ingressoPago 101 (by decide +kernel)
    fun p mem _ => (one_row p mem).2).2.2 (· = 100) safe (fun p mem _ => (one_row p mem).1)
    Loja.estornoNaCasa ⟨trivial, trivial, round, trivial⟩

/-- The notification finds its row, the round runs to its end, and the ticket is still paid. -/
theorem not_estornoChega_ingressoPago :
    (Loja.ingressoPago.db.checkoutsWhere
        (PaymentNotice.selects ⟨101, .refunded, .pix, [], some ⟨.pagbank, 2, 1⟩, some 10000⟩
          Loja.ingressoPago.db)).length = 1 ∧
      ¬ EstornoChega Loja.ambiente Loja.ingressoPago 101 Loja.estornoNaCasa := by
  decide +kernel

end IccvBackend
