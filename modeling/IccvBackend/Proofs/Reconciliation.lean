/-
Module: IccvBackend.Proofs.Reconciliation
Purpose: Which paid charges a round of the reconciliation finds.
Trusted boundary: none
Main exports: PagaNaCasa, CasasRespondem, decisao, conferir, reconciliar_status, PagaNaVez,
  Encontravel, NaoDesvia, SemDesvio, encontraPagas_iff
-/
import IccvBackend.Lib.Transitions
import IccvBackend.System

namespace IccvBackend

open Lib

/-!
With fixed answers of the houses and every credential at hand, a round is a walk over the pending
charges that only changes statuses.  `conferir` is that walk on statuses alone, and
`reconciliar_status` says that the round refines it.  What a payment ends with is then read off the
charges that share a reference with it.

A round goes wrong in three ways: no charge it asks about pays the payment; it skips a reference
because the first payment agrees, and another does not; it writes something else over "paid".
-/

variable {db : Database} {charges : Id → List GatewayCharge} {p : Payment}

/-- Houses that list the same charges of a reference to whoever asks. -/
def listas (charges : Id → List GatewayCharge) (_ : PaymentProviderConfig) (referenceId : Id) :
    Except GatewayError (List GatewayCharge) :=
  .ok (charges referenceId)

/-- A house lists a paid charge for a checkout of the payment, the newest or an older one, and its
value covers what was charged. -/
def PagaNaCasa (charges : Id → List GatewayCharge) (p : Payment) : Prop :=
  ∃ c ∈ p.checkouts, ∃ charge ∈ charges c.referenceId,
    charge.status = .paid ∧ PagoBasta charge.paidAmountCents c.chargedAmountCents

/-- Every pending charge has its credential and is of a church that charges online. -/
def CasasRespondem (db : Database) : Prop :=
  ∀ cobranca ∈ pendentes db none, (resolver db.catalogue cobranca).isSome = true ∧
    cobranca.eventId.any (moduloDesligado db.catalogue) = false

/-- The payment is paid after a round. -/
def Encontrada (db : Database) (charges : Id → List GatewayCharge) (p : Payment) : Prop :=
  ∀ q ∈ (reconciliar db none (listas charges)).payments, q.id = p.id → q.status = .paid

instance (db : Database) (charges : Id → List GatewayCharge) (p : Payment) :
    Decidable (Encontrada db charges p) :=
  inferInstanceAs (Decidable (∀ q ∈ _, _))

/-- A round finds every pending payment that was paid at a house. -/
def EncontraPagas (db : Database) (charges : Id → List GatewayCharge) : Prop :=
  ∀ p ∈ db.payments, p.pendente = true → PagaNaCasa charges p → Encontrada db charges p

/-! ### The walk on statuses -/

/-- What the list of its house says about a charge. -/
def decisao (charges : Id → List GatewayCharge) (cobranca : CobrancaPendente) :
    Option PaymentStatus :=
  (cobrancaDaRodada (charges cobranca.referenceId)).map fun charge =>
    conferirValorPago charge.status charge.paidAmountCents cobranca.chargedAmountCents

/-- One charge of the round, on the statuses of the payments: skipped where the first payment of
the reference agrees, written on every payment of the reference otherwise. -/
def conferir (db : Database) (charges : Id → List GatewayCharge) (s : Payment → PaymentStatus)
    (cobranca : CobrancaPendente) : Payment → PaymentStatus :=
  match decisao charges cobranca with
  | none => s
  | some status =>
      if (db.pagamentoNoBanco cobranca.referenceId).any fun first => s first = status then s
      else fun p => if p.tem cobranca.referenceId then status else s p

/-- A round in flight over the rows of `db`: the same rows with the statuses `s`, and no absent
house in the cache. -/
structure Rodada (db : Database) (state : Database × Casas) (s : Payment → PaymentStatus) :
    Prop where
  catalogue : state.1.catalogue = db.catalogue
  payments : ∃ g : Payment → Payment, state.1.payments = db.payments.map g ∧
    (∀ p, (g p).id = p.id) ∧ (∀ p referenceId, (g p).tem referenceId = p.tem referenceId) ∧
    ∀ p ∈ db.payments, (g p).status = s p
  casas : ∀ entry ∈ state.2, entry.2.isSome = true

/-- With its credential at hand a charge has a house. -/
theorem casaDa_isSome {cat : Catalogue} {cobranca : CobrancaPendente} {casas : Casas}
    (known : (resolver cat cobranca).isSome = true)
    (cached : ∀ entry ∈ casas, entry.2.isSome = true) :
    (casaDa cat cobranca casas).1.isSome = true ∧
      ∀ entry ∈ (casaDa cat cobranca casas).2, entry.2.isSome = true := by
  unfold casaDa
  cases found : casas.lookup cobranca.chave with
  | some casa =>
      obtain ⟨before, after, split, _⟩ := List.lookup_eq_some_iff.mp found
      exact ⟨cached (cobranca.chave, casa) (by simp [split]), cached⟩
  | none =>
      refine ⟨known, fun entry mem => ?_⟩
      rcases List.mem_append.mp mem with old | new
      · exact cached entry old
      · rw [List.mem_singleton.mp new]
        exact known

/-- The first payment of a reference does not depend on statuses. -/
theorem Rodada.pagamentoNoBanco {state : Database × Casas} {g : Payment → Payment}
    (payments : state.1.payments = db.payments.map g)
    (tem : ∀ p referenceId, (g p).tem referenceId = p.tem referenceId) (referenceId : Id) :
    state.1.pagamentoNoBanco referenceId = (db.pagamentoNoBanco referenceId).map g := by
  have same : ((fun p => p.tem referenceId) ∘ g) = fun p => p.tem referenceId :=
    funext fun p => tem p referenceId
  calc state.1.pagamentoNoBanco referenceId
      = (db.payments.map g).find? fun p => p.tem referenceId := by rw [← payments]; rfl
    _ = (db.payments.find? ((fun p => p.tem referenceId) ∘ g)).map g := List.find?_map
    _ = (db.pagamentoNoBanco referenceId).map g := by rw [same]; rfl

/-- One charge of a round is one step of the walk. -/
theorem Rodada.conferir {state : Database × Casas} {s : Payment → PaymentStatus}
    (rodada : Rodada db state s) {cobranca : CobrancaPendente}
    (known : (resolver db.catalogue cobranca).isSome = true) :
    Rodada db (reconciliarCobranca (listas charges) state cobranca)
      (IccvBackend.conferir db charges s cobranca) := by
  obtain ⟨g, payments, id, tem, status⟩ := rodada.payments
  obtain ⟨here, cached⟩ := casaDa_isSome (rodada.catalogue ▸ known) rodada.casas
  obtain ⟨config, house⟩ := Option.isSome_iff_exists.mp here
  have first_row := Rodada.pagamentoNoBanco payments tem cobranca.referenceId
  unfold reconciliarCobranca IccvBackend.conferir decisao
  simp only [house, conferirCobranca, listas, Except.toOption, Option.bind_eq_bind,
    Option.bind_some, first_row]
  cases chosen : cobrancaDaRodada (charges cobranca.referenceId) with
  | none => exact ⟨rodada.catalogue, ⟨g, payments, id, tem, status⟩, cached⟩
  | some charge =>
      cases found : db.pagamentoNoBanco cobranca.referenceId with
      | none =>
          refine ⟨rodada.catalogue, ⟨g, payments, id, tem, fun p mem => ?_⟩, cached⟩
          have not_has : ¬ p.tem cobranca.referenceId = true :=
            fun has => List.find?_eq_none.mp found p mem has
          simpa [not_has] using status p mem
      | some first =>
          have first_status := status first (pagamentoNoBanco_spec found).1
          by_cases agrees : s first = conferirValorPago charge.status charge.paidAmountCents
              cobranca.chargedAmountCents
          · simp only [Option.map_some, Option.bind_some, Option.any_some, first_status, agrees,
              decide_true, if_true]
            exact ⟨rodada.catalogue, ⟨g, payments, id, tem, status⟩, cached⟩
          · simp only [Option.map_some, Option.bind_some, Option.any_some, first_status, agrees,
              decide_false, if_false]
            obtain ⟨g', written, id', tem', status'⟩ := gravarCobranca_payments state.1 cobranca
              (conferirValorPago charge.status charge.paidAmountCents cobranca.chargedAmountCents)
              charge
            refine ⟨?_, ⟨g' ∘ g, ?_, ?_, ?_, ?_⟩, cached⟩
            · exact (gravarCobranca_catalogue _ _ _ _).trans rodada.catalogue
            · rw [← List.map_map, ← payments]
              exact written
            · exact fun p => (id' (g p)).trans (id p)
            · exact fun p referenceId =>
                (tem_congr (tem' (g p)) referenceId).trans (tem p referenceId)
            · intro p mem
              rw [Function.comp_apply, status', tem, status p mem]
              rfl

/-- With every house at hand no pending charge is left out. -/
theorem aReconciliar_eq_pendentes (houses : CasasRespondem db) :
    aReconciliar db none = pendentes db none :=
  List.filter_eq_self.mpr fun cobranca mem => by simp [(houses cobranca mem).2]

/-- A round refines the walk on statuses. -/
theorem reconciliar_status (charges : Id → List GatewayCharge) (houses : CasasRespondem db) :
    Rodada db ((aReconciliar db none).foldl (reconciliarCobranca (listas charges)) (db, []))
      ((pendentes db none).foldl (IccvBackend.conferir db charges) Payment.status) := by
  rw [aReconciliar_eq_pendentes houses]
  refine List.foldl_rel (r := Rodada db) ?_ fun cobranca mem state s rodada =>
    rodada.conferir (houses cobranca mem).1
  exact ⟨rfl, ⟨id, (List.map_id _).symm, fun _ => rfl, fun _ _ => rfl, fun _ _ => rfl⟩,
    fun _ mem => absurd mem List.not_mem_nil⟩

/-- The status of a payment after a round is the one the walk ends with. -/
theorem encontrada_iff_status (houses : CasasRespondem db) (mem : p ∈ db.payments) :
    Encontrada db charges p ↔
      (pendentes db none).foldl (IccvBackend.conferir db charges) Payment.status p = .paid := by
  obtain ⟨g, payments, id, -, status⟩ := (reconciliar_status charges houses).payments
  unfold Encontrada reconciliar
  rw [payments, ← status p mem]
  constructor
  · exact fun found => found (g p) (List.mem_map_of_mem mem) (id p)
  · intro paid q q_mem same
    obtain ⟨p', p'_mem, rfl⟩ := List.mem_map.mp q_mem
    rw [db.eq_of_id_eq p'_mem mem ((id p').symm.trans same)]
    exact paid

/-! ### Which walks end in "paid" -/

/-- One step of the walk changes nothing, or writes what the house says on the reference. -/
theorem conferir_cases (db : Database) (charges : Id → List GatewayCharge)
    (s : Payment → PaymentStatus) (cobranca : CobrancaPendente) :
    conferir db charges s cobranca = s ∨
      ∃ status, decisao charges cobranca = some status ∧
        conferir db charges s cobranca =
          fun p => if p.tem cobranca.referenceId then status else s p := by
  unfold conferir
  cases decides : decisao charges cobranca with
  | none => exact .inl rfl
  | some status =>
      by_cases agrees : ((db.pagamentoNoBanco cobranca.referenceId).any fun first =>
          s first = status) = true
      · exact .inl (by simp only [agrees, if_true])
      · exact .inr ⟨status, rfl, by simp only [agrees]; rfl⟩

/-- A charge is written when the first payment of its reference says something else. -/
theorem conferir_of_differs {s : Payment → PaymentStatus} {cobranca : CobrancaPendente}
    {status : PaymentStatus} (decides : decisao charges cobranca = some status)
    (differs : ∀ first, db.pagamentoNoBanco cobranca.referenceId = some first → s first ≠ status)
    (has : p.tem cobranca.referenceId = true) : conferir db charges s cobranca p = status := by
  have written : ¬ ((db.pagamentoNoBanco cobranca.referenceId).any fun first =>
      s first = status) = true := by
    cases found : db.pagamentoNoBanco cobranca.referenceId with
    | none => simp
    | some first => simpa using differs first found
  simp only [conferir, decides, if_neg written, has, if_true]

/-- A walk whose charges never decide "paid" for a payment does not pay it. -/
theorem foldl_conferir_ne_paid {s : Payment → PaymentStatus} {cobrancas : List CobrancaPendente}
    (unpaid : s p ≠ .paid) (nobody : ∀ cobranca ∈ cobrancas, p.tem cobranca.referenceId = true →
      decisao charges cobranca ≠ some .paid) :
    cobrancas.foldl (conferir db charges) s p ≠ .paid := by
  refine List.foldlRecOn cobrancas (conferir db charges) (motive := fun s => s p ≠ .paid) unpaid ?_
  intro s unpaid cobranca asked
  rcases conferir_cases db charges s cobranca with same | ⟨status, decides, written⟩
  · rw [same]
    exact unpaid
  · rw [written]
    dsimp only
    split
    · next has =>
        rintro rfl
        exact nobody cobranca asked has decides
    · exact unpaid

/-- Where the charges of a payment decide "paid" or nothing, a paid payment stays paid. -/
theorem foldl_conferir_keeps_paid {s : Payment → PaymentStatus}
    {cobrancas : List CobrancaPendente} (paid : s p = .paid)
    (agree : ∀ cobranca ∈ cobrancas, p.tem cobranca.referenceId = true →
      decisao charges cobranca = none ∨ decisao charges cobranca = some .paid) :
    cobrancas.foldl (conferir db charges) s p = .paid := by
  refine List.foldlRecOn cobrancas (conferir db charges) (motive := fun s => s p = .paid) paid ?_
  intro s paid cobranca asked
  rcases conferir_cases db charges s cobranca with same | ⟨status, decides, written⟩
  · rw [same]
    exact paid
  · rw [written]
    dsimp only
    split
    · next has =>
        rcases agree cobranca asked has with nothing | says_paid
        · exact nomatch nothing.symm.trans decides
        · exact (Option.some.inj (says_paid.symm.trans decides)).symm
    · exact paid

/-! ### What a round needs -/

/-- The `k`-th charge of a round pays the payment for good: its reference is one of the payment's
and it decides "paid"; the first payment of the reference is not paid, nor is paid by a charge
before it; and no charge after it decides something else for the payment. -/
structure PagaNaVez (db : Database) (charges : Id → List GatewayCharge) (p : Payment) (k : Nat)
    (cobranca : CobrancaPendente) : Prop where
  tem : p.tem cobranca.referenceId = true
  decide : decisao charges cobranca = some .paid
  primeiro : ∀ first ∈ db.pagamentoNoBanco cobranca.referenceId, first.status ≠ .paid ∧
    ∀ outra ∈ (pendentes db none).take k, first.tem outra.referenceId = true →
      decisao charges outra ≠ some .paid
  depois : ∀ outra ∈ (pendentes db none).drop (k + 1), p.tem outra.referenceId = true →
    decisao charges outra = none ∨ decisao charges outra = some .paid

instance (db : Database) (charges : Id → List GatewayCharge) (p : Payment) (k : Nat)
    (cobranca : CobrancaPendente) : Decidable (PagaNaVez db charges p k cobranca) :=
  decidable_of_iff (_ ∧ _ ∧ _ ∧ _)
    ⟨fun ⟨tem, decide, primeiro, depois⟩ => ⟨tem, decide, primeiro, depois⟩,
      fun paga => ⟨paga.tem, paga.decide, paga.primeiro, paga.depois⟩⟩

/-- Some charge of the round pays the payment for good. -/
def Encontravel (db : Database) (charges : Id → List GatewayCharge) (p : Payment) : Prop :=
  ∃ k < (pendentes db none).length, ∃ cobranca ∈ (pendentes db none)[k]?,
    PagaNaVez db charges p k cobranca

instance (db : Database) (charges : Id → List GatewayCharge) (p : Payment) :
    Decidable (Encontravel db charges p) :=
  inferInstanceAs (Decidable (∃ k < _, _))

theorem encontrada_of_encontravel (houses : CasasRespondem db) (mem : p ∈ db.payments)
    (findable : Encontravel db charges p) : Encontrada db charges p := by
  rw [encontrada_iff_status houses mem]
  obtain ⟨k, inside, cobranca, here, paga⟩ := findable
  obtain ⟨_, is_k⟩ := List.getElem?_eq_some_iff.mp here
  have split : pendentes db none =
      (pendentes db none).take k ++ cobranca :: (pendentes db none).drop (k + 1) := by
    rw [← is_k, List.getElem_cons_drop, List.take_append_drop]
  rw [split, List.foldl_append, List.foldl_cons]
  refine foldl_conferir_keeps_paid (conferir_of_differs paga.decide ?_ paga.tem) paga.depois
  -- until its turn, the first payment of the reference is not paid
  intro first found
  obtain ⟨unpaid, nobody⟩ := paga.primeiro first found
  exact foldl_conferir_ne_paid unpaid nobody

/-- A pending payment that ends paid was paid by a charge of one of its references. -/
theorem decide_of_encontrada (houses : CasasRespondem db) (mem : p ∈ db.payments)
    (waits : p.pendente = true) (found : Encontrada db charges p) :
    ∃ cobranca ∈ pendentes db none, p.tem cobranca.referenceId = true ∧
      decisao charges cobranca = some .paid := by
  rw [encontrada_iff_status houses mem] at found
  by_contra nobody
  refine foldl_conferir_ne_paid (fun paid => ?_) (fun cobranca asked has decides =>
    nobody ⟨cobranca, asked, has, decides⟩) found
  simp [Payment.pendente, paid] at waits

/-! ### The wrong branches -/

/-- A charge does not take a wrong branch: where the first payment of the reference agrees with what
it decides, so do the others, and nothing but "paid" is decided for a payment that is paid. -/
def NaoDesvia (charges : Id → List GatewayCharge) (agora : Database)
    (cobranca : CobrancaPendente) : Prop :=
  ∀ status ∈ decisao charges cobranca, ∀ first ∈ agora.pagamentoNoBanco cobranca.referenceId,
    ∀ p ∈ agora.payments, p.tem cobranca.referenceId = true →
      (first.status = status → p.status = status) ∧ (p.status = .paid → status = .paid)

instance (charges : Id → List GatewayCharge) (agora : Database) (cobranca : CobrancaPendente) :
    Decidable (NaoDesvia charges agora cobranca) :=
  inferInstanceAs (Decidable (∀ status ∈ decisao charges cobranca,
    ∀ first ∈ agora.pagamentoNoBanco cobranca.referenceId,
    ∀ p ∈ agora.payments, p.tem cobranca.referenceId = true →
      (first.status = status → p.status = status) ∧ (p.status = .paid → status = .paid)))

/-- No charge of the round takes a wrong branch. -/
def SemDesvio (db : Database) (charges : Id → List GatewayCharge) : Prop :=
  EachStep (reconciliarCobranca (listas charges)) (fun state => NaoDesvia charges state.1)
    (db, []) (aReconciliar db none)

instance (db : Database) (charges : Id → List GatewayCharge) : Decidable (SemDesvio db charges) :=
  inferInstanceAs (Decidable (EachStep _ _ _ _))

/-- The same of the walk on statuses. -/
def NaoDesviaNoStatus (db : Database) (charges : Id → List GatewayCharge)
    (s : Payment → PaymentStatus) (cobranca : CobrancaPendente) : Prop :=
  ∀ status ∈ decisao charges cobranca, ∀ first ∈ db.pagamentoNoBanco cobranca.referenceId,
    ∀ p ∈ db.payments, p.tem cobranca.referenceId = true →
      (s first = status → s p = status) ∧ (s p = .paid → status = .paid)

/-- A round that takes no wrong branch is a walk that takes none. -/
theorem Rodada.semDesvio {cobrancas : List CobrancaPendente}
    (known : ∀ cobranca ∈ cobrancas, (resolver db.catalogue cobranca).isSome = true)
    {state : Database × Casas} {s : Payment → PaymentStatus} (rodada : Rodada db state s)
    (certa : EachStep (reconciliarCobranca (listas charges))
      (fun state => NaoDesvia charges state.1) state cobrancas) :
    EachStep (IccvBackend.conferir db charges) (NaoDesviaNoStatus db charges) s cobrancas := by
  induction cobrancas generalizing state s with
  | nil => trivial
  | cons cobranca cobrancas ih =>
      obtain ⟨here, rest⟩ := certa
      refine ⟨?_, ih (fun c mem => known c (List.mem_cons_of_mem _ mem))
        (rodada.conferir (known cobranca List.mem_cons_self)) rest⟩
      obtain ⟨g, payments, _, tem, status⟩ := rodada.payments
      intro decided decides first first_found p p_mem has
      have first_row : state.1.pagamentoNoBanco cobranca.referenceId = some (g first) := by
        rw [Rodada.pagamentoNoBanco payments tem, Option.mem_def.mp first_found]
        rfl
      have row := here decided decides (g first) first_row (g p)
        (payments ▸ List.mem_map_of_mem p_mem) ((tem p _).trans has)
      rwa [status p p_mem, status first (pagamentoNoBanco_spec first_found).1] at row

/-- Without a wrong branch, a charge that decides "paid" leaves every payment of its reference
paid. -/
theorem conferir_paga {s : Payment → PaymentStatus} {cobranca : CobrancaPendente}
    (certa : NaoDesviaNoStatus db charges s cobranca) (mem : p ∈ db.payments)
    (has : p.tem cobranca.referenceId = true) (decides : decisao charges cobranca = some .paid) :
    conferir db charges s cobranca p = .paid := by
  by_cases agrees : ∃ first, db.pagamentoNoBanco cobranca.referenceId = some first ∧
      s first = .paid
  · obtain ⟨first, found, first_paid⟩ := agrees
    have skipped : conferir db charges s cobranca = s := by
      simp [conferir, decides, found, first_paid]
    rw [skipped]
    exact (certa _ decides first found p mem has).1 first_paid
  · exact conferir_of_differs decides (fun first found paid => agrees ⟨first, found, paid⟩) has

/-- Without a wrong branch, what is paid stays paid. -/
theorem foldl_conferir_fica {s : Payment → PaymentStatus} {cobrancas : List CobrancaPendente}
    (certa : EachStep (conferir db charges) (NaoDesviaNoStatus db charges) s cobrancas)
    (mem : p ∈ db.payments) (paid : s p = .paid) :
    cobrancas.foldl (conferir db charges) s p = .paid := by
  induction cobrancas generalizing s with
  | nil => exact paid
  | cons cobranca cobrancas ih =>
      refine ih certa.2 ?_
      rcases conferir_cases db charges s cobranca with same | ⟨status, decides, written⟩
      · rw [same, paid]
      · rw [written]
        dsimp only
        split
        · next has =>
            obtain ⟨first, found⟩ : ∃ first, db.pagamentoNoBanco cobranca.referenceId =
                some first :=
              Option.isSome_iff_exists.mp (List.find?_isSome.mpr ⟨p, mem, has⟩)
            exact (certa.1 status decides first found p mem has).2 paid
        · exact paid

/-- Without a wrong branch, a charge that decides "paid" pays every payment of its reference for
good. -/
theorem foldl_conferir_paga {s : Payment → PaymentStatus} {cobrancas : List CobrancaPendente}
    (certa : EachStep (conferir db charges) (NaoDesviaNoStatus db charges) s cobrancas)
    (mem : p ∈ db.payments) {cobranca : CobrancaPendente} (asked : cobranca ∈ cobrancas)
    (has : p.tem cobranca.referenceId = true) (decides : decisao charges cobranca = some .paid) :
    cobrancas.foldl (conferir db charges) s p = .paid := by
  obtain ⟨before, after, rfl⟩ := List.append_of_mem asked
  obtain ⟨_, here, rest⟩ := eachStep_append.mp certa
  rw [List.foldl_append, List.foldl_cons]
  exact foldl_conferir_fica rest mem (conferir_paga here mem has decides)

/-- Without a wrong branch, no charge decides something else for a payment that is paid. -/
theorem decisao_de_pago {s : Payment → PaymentStatus} {cobrancas : List CobrancaPendente}
    (certa : EachStep (conferir db charges) (NaoDesviaNoStatus db charges) s cobrancas)
    (mem : p ∈ db.payments) (paid : s p = .paid) {cobranca : CobrancaPendente}
    (asked : cobranca ∈ cobrancas) (has : p.tem cobranca.referenceId = true) :
    decisao charges cobranca = none ∨ decisao charges cobranca = some .paid := by
  obtain ⟨before, after, rfl⟩ := List.append_of_mem asked
  obtain ⟨first_part, here, _⟩ := eachStep_append.mp certa
  cases decides : decisao charges cobranca with
  | none => exact .inl rfl
  | some status =>
      obtain ⟨first, found⟩ : ∃ first, db.pagamentoNoBanco cobranca.referenceId = some first :=
        Option.isSome_iff_exists.mp (List.find?_isSome.mpr ⟨p, mem, has⟩)
      have still := foldl_conferir_fica first_part mem paid
      rw [(here status decides first found p mem has).2 still]
      exact .inr rfl

/-- A round without a wrong branch that finds a pending payment had what it needs to find it: the
first charge that decides "paid" for it. -/
theorem encontravel_of_encontrada (houses : CasasRespondem db) (mem : p ∈ db.payments)
    (waits : p.pendente = true) (certa : SemDesvio db charges)
    (found : Encontrada db charges p) : Encontravel db charges p := by
  obtain ⟨some_charge, asked, some_has, some_decides⟩ := decide_of_encontrada houses mem waits found
  have walk : EachStep (conferir db charges) (NaoDesviaNoStatus db charges) Payment.status
      (pendentes db none) := by
    unfold SemDesvio at certa
    rw [aReconciliar_eq_pendentes houses] at certa
    exact Rodada.semDesvio (fun cobranca asked => (houses cobranca asked).1)
      ⟨rfl, ⟨id, (List.map_id _).symm, fun _ => rfl, fun _ _ => rfl, fun _ _ => rfl⟩,
        fun _ mem => absurd mem List.not_mem_nil⟩ certa
  -- the first charge that decides "paid" for the payment
  obtain ⟨cobranca, chosen⟩ := Option.isSome_iff_exists.mp (List.find?_isSome
    (p := fun c : CobrancaPendente => p.tem c.referenceId && decisao charges c = some .paid).mpr
      ⟨some_charge, asked, by simp [some_has, some_decides]⟩)
  obtain ⟨is_paid, before, after, split, earlier⟩ := List.find?_eq_some_iff_append.mp chosen
  simp only [Bool.and_eq_true, decide_eq_true_eq] at is_paid
  obtain ⟨has, decides⟩ := is_paid
  have unpaid : before.foldl (conferir db charges) Payment.status p ≠ .paid := by
    refine foldl_conferir_ne_paid (fun paid => ?_) fun outra outra_mem outra_has outra_decides => ?_
    · simp [Payment.pendente, paid] at waits
    · simpa [outra_has, outra_decides] using earlier outra outra_mem
  rw [split] at walk
  obtain ⟨first_part, here, rest⟩ := eachStep_append.mp walk
  refine ⟨before.length, by simp [split], cobranca, by simp [split], has, decides, ?_, ?_⟩
  · intro first first_found
    have first_mem := (pagamentoNoBanco_spec first_found).1
    -- a first payment that is paid when the turn comes makes the round skip the reference
    have skips : before.foldl (conferir db charges) Payment.status first ≠ .paid := fun paid =>
      unpaid ((here _ decides first first_found p mem has).1 paid)
    rw [split, List.take_left]
    exact ⟨fun paid => skips (foldl_conferir_fica first_part first_mem paid),
      fun outra outra_mem outra_has outra_decides =>
        skips (foldl_conferir_paga first_part first_mem outra_mem outra_has outra_decides)⟩
  · have later : (pendentes db none).drop (before.length + 1) = after := by
      rw [split, ← List.drop_drop, List.drop_left, List.drop_one, List.tail_cons]
    rw [later]
    exact fun outra => decisao_de_pago rest mem (conferir_paga here mem has decides)

namespace Loja

/-- A ticket with a checkout, before anybody pays. -/
def ingressoCobrado : World :=
  runFrom (step ambiente) (aberta .pagbank 100 none)
    [inscricao 3 1000, .createCheckout ⟨3, 5, [7], []⟩, .resume 0 (resposta 1000 [] 500),
      .resume 0 (resposta 1000 [] 500), .resume 0 (resposta 1000 [] 500)]

def recusada : GatewayCharge := cobranca .declined 2000 none

/-- The house lists a paid charge, and an attempt that was declined before or after it. -/
def tentativas (pagaEm : Instant) (_ : Id) : List GatewayCharge :=
  [cobranca .paid pagaEm (some 10000), recusada]

theorem casasRespondem_ingressoCobrado : CasasRespondem ingressoCobrado.db := by
  unfold CasasRespondem
  decide +kernel

end Loja

end IccvBackend
