/-
Module: IccvBackend.Proofs.Isolation
Purpose: What a notification can change: the charges of the credential it was authenticated by.
Trusted boundary: none
Main exports: DaCasa, SoMudaDaCasa, soMudaDaCasa_of_processar, notificacao_isolada
-/
import IccvBackend.Lib.Transitions
import IccvBackend.Proofs.StatusWrites
import IccvBackend.Webhooks.Service

namespace IccvBackend

open Lib

/-!
The reference of a notification comes from outside, and so does its checkout.  The scope is carried
by every read and write of the two handlers but one: the status is written by payment id, on the
payments that the scoped read returned.
-/

/-- A checkout of a configuration: made by it, or older than the column, of the same house and for
a ticket of an event of its church. -/
def DaCasa (db : Database) (config : PaymentProviderConfig) (p : Payment) (c : PaymentCheckout) :
    Prop :=
  c.configId = some config.id ∨
    c.configId = none ∧ c.provider = config.provider ∧
      ∃ userId eventId roleId event, p.userId = some userId ∧ p.eventId = some eventId ∧
        p.roleRegistrationId = some roleId ∧
        roleId ∈ (db.rolesOf userId eventId).map
          EventOnUsersRolesRegistration.roleRegistrationId ∧
        db.catalogue.event? eventId = some event ∧ event.churchId = config.churchId

/-- Row by row, only payments with a checkout of the configuration change, and only checkouts of the
configuration; no other table changes. -/
structure SoMudaDaCasa (config : PaymentProviderConfig) (db depois : Database) : Prop where
  linhas : ∃ f : Payment → Payment, depois.payments = db.payments.map f ∧
    ∀ p ∈ db.payments,
      ((∀ c ∈ p.checkouts, ¬ DaCasa db config p c) → f p = p) ∧
      ∃ g : PaymentCheckout → PaymentCheckout, (f p).checkouts = p.checkouts.map g ∧
        ∀ c ∈ p.checkouts, ¬ DaCasa db config p c → g c = c
  catalogue : depois.catalogue = db.catalogue
  eventOnUsers : depois.eventOnUsers = db.eventOnUsers
  waitlist : depois.waitlist = db.waitlist

theorem SoMudaDaCasa.refl (config : PaymentProviderConfig) (db : Database) :
    SoMudaDaCasa config db db :=
  ⟨⟨id, (List.map_id _).symm, fun _ _ =>
    ⟨fun _ => rfl, id, (List.map_id _).symm, fun _ _ _ => rfl⟩⟩, rfl, rfl, rfl⟩

/-- The church of a ticket, with the registration it is of. -/
theorem churchOfTicket_eq_some {db : Database} {p : Payment} {churchId : Id}
    (found : db.churchOfTicket p = some churchId) :
    ∃ userId eventId roleId event, p.userId = some userId ∧ p.eventId = some eventId ∧
      p.roleRegistrationId = some roleId ∧
      roleId ∈ (db.rolesOf userId eventId).map EventOnUsersRolesRegistration.roleRegistrationId ∧
      db.catalogue.event? eventId = some event ∧ event.churchId = churchId := by
  simp only [Database.churchOfTicket, Option.bind_eq_bind, Option.bind_eq_some_iff] at found
  obtain ⟨userId, user, eventId, in_event, roleId, role, row, registration, held, search, event,
    is_event, same⟩ := found
  refine ⟨userId, eventId, roleId, event, user, in_event, role, ?_, is_event, Option.some.inj same⟩
  simp only [Database.rolesOf, registration, Option.map_some, Option.getD_some]
  refine List.mem_map.mpr ⟨held, List.mem_of_find?_eq_some search, ?_⟩
  simpa using List.find?_some search

/-- The scope of a configuration lets only its checkouts through. -/
theorem daCasa_of_filtro {db : Database} {config : PaymentProviderConfig} {p : Payment}
    {c : PaymentCheckout}
    (inside : filtroDaCasa db (some (escopoDaConfig config)) p c = true) :
    DaCasa db config p c := by
  simp only [filtroDaCasa, escopoDaConfig, Bool.or_eq_true, Bool.and_eq_true,
    decide_eq_true_eq] at inside
  rcases inside with made | ⟨⟨old, house⟩, church⟩
  · exact .inl (of_decide_eq_true made)
  · exact .inr ⟨old, of_decide_eq_true house, churchOfTicket_eq_some (of_decide_eq_true church)⟩

/-- A write on payments that each have a checkout inside the scope, and on checkouts inside it. -/
theorem soMudaDaCasa_of_map {db depois : Database} {config : PaymentProviderConfig}
    (selected : Payment → Bool) (data : Database.PaymentUpdate)
    (fechar : Payment → PaymentCheckout → PaymentCheckout)
    (rows : depois.payments = db.payments.map fun p =>
      { (if selected p then data.apply p else p) with checkouts := p.checkouts.map (fechar p) })
    (payments : ∀ p ∈ db.payments, selected p = true → ∃ c ∈ p.checkouts, DaCasa db config p c)
    (checkouts : ∀ p ∈ db.payments, ∀ c ∈ p.checkouts, ¬ DaCasa db config p c → fechar p c = c)
    (catalogue : depois.catalogue = db.catalogue)
    (eventOnUsers : depois.eventOnUsers = db.eventOnUsers)
    (waitlist : depois.waitlist = db.waitlist) : SoMudaDaCasa config db depois := by
  refine ⟨⟨_, rows, fun p mem => ⟨fun outside => ?_, fechar p, rfl, checkouts p mem⟩⟩, catalogue,
    eventOnUsers, waitlist⟩
  have not_selected : ¬ selected p = true := by
    intro sel
    obtain ⟨c, c_mem, mine⟩ := payments p mem sel
    exact outside c c_mem mine
  have same : p.checkouts.map (fechar p) = p.checkouts :=
    (List.map_congr_left fun c c_mem => checkouts p mem c c_mem (outside c c_mem)).trans
      (List.map_id' _)
  rw [if_neg not_selected, same]

theorem soMudaDaCasa_checkout {db depois : Database} {config : PaymentProviderConfig}
    {checkoutId : Id} {status : CheckoutStatus}
    (ok : updatePaymentCheckoutWebhook db checkoutId status (some (escopoDaConfig config)) =
      .ok depois) : SoMudaDaCasa config db depois := by
  rw [updatePaymentCheckoutWebhook_ok ok]
  apply soMudaDaCasa_of_map (fun _ => false) {} (fun p c =>
    if c.checkoutId = checkoutId && filtroDaCasa db (some (escopoDaConfig config)) p c then
      { c with status := status } else c) rfl
  · intro p _ sel
    exact absurd sel Bool.false_ne_true
  · intro p _ c _ outside
    refine if_neg fun sel => outside ?_
    exact daCasa_of_filtro (Bool.and_eq_true _ _ ▸ sel).2
  · rfl
  · rfl
  · rfl

/-- The payments that a notification writes on are those of the rows it read in scope. -/
theorem daCasa_of_row {db : Database} {config : PaymentProviderConfig} {notice : PaymentNotice}
    (scope : notice.escopo = some (escopoDaConfig config)) {p : Payment} (mem : p ∈ db.payments)
    (sel : p.id ∈ (db.checkoutsWhere (notice.selects db)).map fun row => row.1.id) :
    ∃ c ∈ p.checkouts, DaCasa db config p c := by
  obtain ⟨row, row_mem, same⟩ := List.mem_map.mp sel
  obtain ⟨q, q_mem, row_of_q⟩ := List.mem_flatMap.mp row_mem
  obtain ⟨c, c_mem, rfl⟩ := List.mem_map.mp row_of_q
  obtain rfl := db.eq_of_id_eq q_mem mem same
  obtain ⟨c_in, selected⟩ := List.mem_filter.mp c_mem
  simp only [PaymentNotice.selects, Bool.and_eq_true, scope] at selected
  exact ⟨c, c_in, daCasa_of_filtro selected.2⟩

theorem soMudaDaCasa_payment {db depois : Database} {config : PaymentProviderConfig}
    {notice : PaymentNotice} (scope : notice.escopo = some (escopoDaConfig config))
    (ok : updatePaymentWebhook db notice = .ok depois) : SoMudaDaCasa config db depois := by
  rcases updatePaymentWebhook_cases db notice with
    ⟨_, failed⟩ | ⟨first, rest, found, ⟨_, same⟩ | ⟨_, status, _, written, rfl, wrote⟩⟩
  · exact nomatch failed.symm.trans ok
  · exact Except.ok.inj (same.symm.trans ok) ▸ .refl config db
  · obtain rfl := Except.ok.inj (wrote.symm.trans ok)
    have payments : ∀ p ∈ db.payments,
        decide (p.id ∈ (first :: rest).map fun row => row.1.id) = true →
          ∃ c ∈ p.checkouts, DaCasa db config p c := fun p mem sel =>
      daCasa_of_row scope mem (found ▸ of_decide_eq_true sel)
    split
    · -- the second write selects on the rows already written, whose keys are the same
      apply soMudaDaCasa_of_map _ (gatewayUpdate status notice.method notice.payload) (fun p c =>
        if notice.selects db p c then { c with status := .inactive } else c) _ payments
      · intro p _ c _ outside
        refine if_neg fun sel => outside ?_
        simp only [PaymentNotice.selects, Bool.and_eq_true, scope] at sel
        exact daCasa_of_filtro sel.2
      · rfl
      · rfl
      · rfl
      · simp only [Database.updateManyCheckouts, Database.modifyPayments_payments,
          Database.updateManyPayments_payments, List.map_map]
        refine List.map_congr_left fun p _ => ?_
        rw [Function.comp_apply]
        split <;> rfl
    · apply soMudaDaCasa_of_map _ (gatewayUpdate status notice.method notice.payload)
        (fun _ c => c) _ payments
      · exact fun _ _ _ _ _ => rfl
      · rfl
      · rfl
      · rfl
      · refine List.map_congr_left fun p _ => ?_
        rw [List.map_id']
        split <;> rfl

/-- What a notification of an authenticated configuration commits. -/
theorem soMudaDaCasa_of_processar {db depois : Database} {config : PaymentProviderConfig}
    {leitura : Leitura} (ok : processar db config leitura = .ok depois) :
    SoMudaDaCasa config db depois := by
  unfold processar at ok
  split at ok
  · exact absurd ok throw_ne_ok
  · split at ok
    · exact absurd ok throw_ne_ok
    · exact pure_eq_ok_iff.mp ok ▸ .refl config db
    · split at ok
      · exact pure_eq_ok_iff.mp ok ▸ .refl config db
      · next done => exact pure_eq_ok_iff.mp ok ▸ soMudaDaCasa_checkout done
    · split at ok
      · exact pure_eq_ok_iff.mp ok ▸ .refl config db
      · next done => exact pure_eq_ok_iff.mp ok ▸ soMudaDaCasa_payment rfl done

theorem porSegredoDeWebhook_ok {cat : Catalogue} {provider : PaymentProvider} {segredo : String}
    {config : PaymentProviderConfig}
    (ok : porSegredoDeWebhook cat provider segredo = .ok (some config)) :
    config ∈ cat.configs ∧ config.provider = provider ∧ config.webhookSecret = segredo := by
  unfold porSegredoDeWebhook at ok
  split at ok
  · exact nomatch ok
  · split at ok
    · next owner found =>
        unfold abrir at ok
        split at ok
        · obtain rfl := Option.some.inj (Except.ok.inj ok)
          have owns := List.find?_some found
          simp only [Bool.and_eq_true, decide_eq_true_eq] at owns
          exact ⟨List.mem_of_find?_eq_some found, owns⟩
        · exact nomatch ok
    · exact nomatch ok

/-- **Isolation.**  Whatever a notification says, what it commits is confined to the charges of the
configuration it was authenticated by: on the route of every house, the owner of the secret. -/
theorem notificacao_isolada (db depois : Database) :
    (∀ config leitura, processar db config leitura = .ok depois → SoMudaDaCasa config db depois) ∧
      (∀ provider segredo le, receber db provider segredo le = .ok depois →
        ∃ config ∈ db.catalogue.configs, config.provider = provider ∧
          config.webhookSecret = segredo ∧ SoMudaDaCasa config db depois) ∧
      ∀ canal referencia le, receberLegadoPagbank db canal referencia le = .ok depois →
        depois = db ∨ ∃ config, (le config).verifyWebhook = true ∧
          SoMudaDaCasa config db depois := by
  refine ⟨fun config leitura ok => soMudaDaCasa_of_processar ok, ?_, ?_⟩
  · intro provider segredo le ok
    unfold receber at ok
    simp only [bind_eq_ok_iff, orFail_eq_ok_iff] at ok
    obtain ⟨_, owner, config, rfl, done⟩ := ok
    obtain ⟨mem, house, secret⟩ := porSegredoDeWebhook_ok owner
    exact ⟨config, mem, house, secret, soMudaDaCasa_of_processar done⟩
  · intro canal referencia le ok
    unfold receberLegadoPagbank at ok
    split at ok
    · exact .inl (pure_eq_ok_iff.mp ok).symm
    · simp only [bind_eq_ok_iff, orFail_eq_ok_iff] at ok
      obtain ⟨_, _, _, _, config, rfl, done⟩ := ok
      refine .inr ⟨config, ?_, soMudaDaCasa_of_processar done⟩
      by_contra unverified
      rw [processar, if_pos (by simpa using unverified)] at done
      exact absurd done throw_ne_ok

namespace Loja

/-- A ticket that was sent to the house of the church. -/
def ingressoNaCasa : World :=
  runFrom (step ambiente) (aberta .pagbank 100 none)
    [inscricao 3 1000, .createCheckout ⟨3, 5, [7], []⟩, .resume 0 (resposta 1000 [] 500),
      .resume 0 (resposta 1000 [] 500), .resume 0 (resposta 1000 [] 500)]

/-- The configuration of another church at the same house. -/
def outraCasa : PaymentProviderConfig where
  id := 20
  churchId := 11
  provider := .pagbank
  enabled := true
  isDefault := true
  opens := true
  webhookSecret := "outro segredo bem longo"

/-- Its adapter reads that the reference of the ticket was paid. -/
def leituraPaga : Leitura where
  verifyWebhook := true
  parseWebhook := .ok (.payment 101 .paid .pix (some 10000) [])

end Loja

/-- Another church's credential, with the reference of the ticket. -/
theorem notificacao_isolada_outraCasa :
    SoMudaDaCasa Loja.outraCasa Loja.ingressoNaCasa.db
      ((processar Loja.ingressoNaCasa.db Loja.outraCasa Loja.leituraPaga).toOption.getD
        Loja.ingressoNaCasa.db) := by
  cases done : processar Loja.ingressoNaCasa.db Loja.outraCasa Loja.leituraPaga with
  | ok depois => exact (notificacao_isolada Loja.ingressoNaCasa.db depois).1 _ _ done
  | error failure =>
      have answered : (processar Loja.ingressoNaCasa.db Loja.outraCasa Loja.leituraPaga).isOk =
          true := by decide +kernel
      rw [done] at answered
      exact absurd answered Bool.false_ne_true

end IccvBackend
