/-
Module: IccvBackend.Proofs.Amounts
Purpose: The stored amount of a payment against its parts: the ticket and the items.
Trusted boundary: none
Main exports: Payment.SomaDasPartes, contaCerta_step, somaDasPartes_run_iff
-/
import IccvBackend.Lib.Transitions
import IccvBackend.Proofs.Rows

namespace IccvBackend

open Lib

/-!
`amount` is written at birth, when products are hung on a ticket, and when a reactivation drops
items.  Each of these writes changes the items by the same cents, so the difference of the two is
fixed at birth.  What it is fixed to is no column: it is kept here as a history variable.
-/

/-! ### The tickets of a step -/

theorem Registrou.ticket_of_comVaga {db : Database} {request : RegistrationRequest} {user : User}
    {event : Event} {result : Database × List (Id × ResultType)}
    (registrou : Registrou db request user event result) {role : GroupRoles × RolesRegistration}
    (mem : role ∈ request.comVaga db) : ∃ q ∈ result.1.payments, q.amount = role.2.price := by
  obtain ⟨novos, payments, tickets⟩ := registrou.payments
  obtain ⟨i, inside, rfl⟩ := List.getElem_of_mem mem
  have inside' := tickets.length_eq ▸ inside
  obtain ⟨id, _, same⟩ := tickets.get inside' inside
  exact ⟨novos[i], payments ▸ List.mem_append_right _ (List.getElem_mem inside'),
    congrArg Payment.amount same⟩

/-- Each of these roles has its ticket after the step, at the price of the role. -/
theorem ticket_of_ingressosNovos {amb : Ambiente} {w : World} {action : Action}
    {role : GroupRoles × RolesRegistration} (mem : role ∈ ingressosNovos amb w action) :
    ∃ q ∈ (step amb w action).db.payments, q.amount = role.2.price := by
  cases action with
  | registerUserInEvent request =>
      simp only [ingressosNovos] at mem
      cases result : registerUserInEvent amb.quando w.db request with
      | error => simp [result, Except.isOk, Except.toBool] at mem
      | ok result' =>
          obtain ⟨_, _, registrou⟩ := registerUserInEvent_ok result
          simp only [result, Except.isOk, Except.toBool, if_true] at mem
          simp only [step, result, World.commit]
          exact registrou.ticket_of_comVaga mem
  | updateUserFromEvent userId eventId roles agora =>
      simp only [ingressosNovos] at mem
      cases result : updateUserFromEvent amb.quando w.db userId eventId roles agora with
      | error => simp [result, Except.isOk, Except.toBool] at mem
      | ok result' =>
          obtain ⟨_, ⟨_, _, registrou⟩, _⟩ := updateUserFromEvent_ok result
          simp only [result, Except.isOk, Except.toBool, if_true] at mem
          simp only [step, result, World.commit]
          exact registrou.ticket_of_comVaga mem
  | _ => cases mem

/-! ### The sum of the parts -/

/-- The ticket cents of each payment, fixed when it is born: the price of its role then, and none
for a purchase without ticket. -/
def registrarIngresso (ingresso : Id → Int) (antes : World) (_ : Action) (depois : World) :
    Id → Int := fun id =>
  if id < antes.db.nextId then ingresso id
  else
    ((depois.db.payment? id).bind fun p => p.roleRegistrationId.bind fun roleId =>
      (antes.db.catalogue.role? roleId).map fun role => cents role.price).getD 0

/-- The amount is ticket plus items, it is not negative, and a purchase without ticket has items. -/
structure Payment.SomaDasPartes (ingresso : Id → Int) (p : Payment) : Prop where
  soma : cents p.amount = ingresso p.id + p.centavosDosItens
  naoNegativo : 0 ≤ cents p.amount
  semIngresso : p.roleRegistrationId = none → ingresso p.id = 0 ∧ p.productItems ≠ []

/-- What is kept along a run, whatever the prices are. -/
structure Payment.ContaCerta (ingresso : Id → Int) (p : Payment) : Prop where
  soma : cents p.amount = ingresso p.id + p.centavosDosItens
  semIngresso : p.roleRegistrationId = none → ingresso p.id = 0 ∧ p.productItems ≠ []

/-- Every row a step leaves is right, and its ticket cents are old ones, the price of a ticket just
written, or zero. -/
theorem contaCerta_step {amb : Ambiente} {w : World} {action : Action} {ingresso : Id → Int}
    (certas : ∀ p ∈ w.db.payments, p.ContaCerta ingresso) {q : Payment}
    (mem : q ∈ (step amb w action).db.payments) :
    q.ContaCerta (registrarIngresso ingresso w action (step amb w action)) ∧
      ((∃ p ∈ w.db.payments,
          registrarIngresso ingresso w action (step amb w action) q.id = ingresso p.id) ∨
        (∃ role ∈ ingressosNovos amb w action,
          registrarIngresso ingresso w action (step amb w action) q.id = cents role.2.price) ∨
        registrarIngresso ingresso w action (step amb w action) q.id = 0) := by
  have old : ∀ p ∈ w.db.payments,
      registrarIngresso ingresso w action (step amb w action) p.id = ingresso p.id :=
    fun p p_mem => if_pos (w.db.payments_keyed.lt_next p p_mem)
  have found := Database.payment?_of_mem mem
  cases passo_origem (step_passo amb w action) q mem with
  | mantido p p_mem same =>
      have certa := certas p p_mem
      rw [same.id, old p p_mem]
      refine ⟨⟨?_, ?_⟩, .inl ⟨p, p_mem, rfl⟩⟩
      · rw [same.id, old p p_mem, same.amount, Payment.centavosDosItens, same.productItems]
        exact certa.soma
      · rw [same.id, old p p_mem, same.roleRegistrationId, same.productItems]
        exact certa.semIngresso
  | cortado p p_mem ids same sobrou =>
      have certa := certas p p_mem
      have same_id : q.id = p.id := same.id
      rw [same_id, old p p_mem]
      refine ⟨⟨?_, ?_⟩, .inl ⟨p, p_mem, rfl⟩⟩
      · have cut := semItens_cents ids p
        have soma := certa.soma
        rw [same_id, old p p_mem, same.amount, Payment.centavosDosItens, same.productItems,
          ← Payment.centavosDosItens]
        omega
      · rw [same_id, old p p_mem, same.roleRegistrationId, same.productItems,
          semItens_roleRegistrationId]
        exact fun no_ticket => ⟨(certa.semIngresso no_ticket).1, sobrou no_ticket⟩
  | juntado p p_mem ticket rows total recebe custam same =>
      have certa := certas p p_mem
      have same_id : q.id = p.id := same.id
      rw [same_id, old p p_mem]
      refine ⟨⟨?_, ?_⟩, .inl ⟨p, p_mem, rfl⟩⟩
      · have soma := certa.soma
        rw [same_id, old p p_mem, same.amount, Payment.centavosDosItens, same.productItems]
        simp only [Payment.comItens]
        rw [cents_intCast_div, List.map_append, List.sum_append, custam, soma,
          Payment.centavosDosItens]
        omega
      · rw [same_id, old p p_mem, same.roleRegistrationId]
        intro no_ticket
        rw [show p.roleRegistrationId = none from no_ticket] at ticket
        cases ticket
  | cobrado p p_mem ids row link listed same =>
      have certa := certas p p_mem
      have same_id : q.id = p.id := same.id
      rw [same_id, old p p_mem]
      refine ⟨⟨?_, ?_⟩, .inl ⟨p, p_mem, rfl⟩⟩
      · rw [same_id, old p p_mem, same.amount, Payment.centavosDosItens, same.productItems]
        exact certa.soma
      · rw [same_id, old p p_mem, same.roleRegistrationId, same.productItems]
        exact certa.semIngresso
  | inscrito role role_mem request id fresh same =>
      have same_id : q.id = id := same.id
      have price : registrarIngresso ingresso w action (step amb w action) q.id =
          cents role.2.price := by
        have ticket : q.roleRegistrationId = some role.2.id := same.roleRegistrationId
        rw [registrarIngresso, if_neg (not_lt.mpr (same_id ▸ fresh)), found, Option.bind_some,
          ticket, Option.bind_some, Catalogue.role?_of_mem (ingressosNovos_subset role_mem)]
        rfl
      refine ⟨⟨?_, ?_⟩, .inr (.inl ⟨role, role_mem, price⟩)⟩
      · rw [price, same.amount, Payment.centavosDosItens, same.productItems]
        exact (add_zero _).symm
      · rw [same.roleRegistrationId]
        intro no_ticket
        cases no_ticket
  | comprado fresh no_ticket rows some_item total custam amount items _ =>
      have zero : registrarIngresso ingresso w action (step amb w action) q.id = 0 := by
        rw [registrarIngresso, if_neg (not_lt.mpr fresh), found, Option.bind_some, no_ticket]
        rfl
      refine ⟨⟨?_, fun _ => ⟨zero, items ▸ some_item⟩⟩, .inr (.inr zero)⟩
      rw [zero, amount, cents_intCast_div, Payment.centavosDosItens, items, custam, zero_add]

/-- The tickets a step writes do not cost less than nothing. -/
def IngressosNaoNegativos (amb : Ambiente) (w : World) (action : Action) : Prop :=
  ∀ role ∈ ingressosNovos amb w action, 0 ≤ cents role.2.price

instance (amb : Ambiente) (w : World) (action : Action) :
    Decidable (IngressosNaoNegativos amb w action) :=
  inferInstanceAs (Decidable (∀ role ∈ ingressosNovos amb w action, 0 ≤ cents role.2.price))

/-- **Amounts.**  From a database without payments, every payment of every state of a run is the sum
of its parts and not negative exactly when no ticket is written at a negative price. -/
theorem somaDasPartes_run_iff {amb : Ambiente} {w : World} (no_payments : w.db.payments = [])
    (ingresso : Id → Int) (actions : List Action) :
    Always (withHistory (step amb) registrarIngresso)
        (fun s => ∀ p ∈ s.1.db.payments, p.SomaDasPartes s.2) (w, ingresso) actions ↔
      EachStep (step amb) (IngressosNaoNegativos amb) w actions := by
  rw [← eachStep_withHistory (w, ingresso)]
  refine always_iff_eachStep_of_invariant
    (I := fun s => ∀ p ∈ s.1.db.payments, p.ContaCerta s.2 ∧ 0 ≤ s.2 p.id) ?_ ?_ ?_ ?_
  · intro s right p mem
    obtain ⟨certa, ticket⟩ := right p mem
    refine ⟨certa.soma, ?_, certa.semIngresso⟩
    have := centavosDosItens_nonneg p
    have := certa.soma
    omega
  · intro s action right prices q mem
    obtain ⟨certa, ⟨p, p_mem, same⟩ | ⟨role, role_mem, same⟩ | zero⟩ :=
      contaCerta_step (fun p p_mem => (right p p_mem).1) mem
    · exact ⟨certa, le_of_le_of_eq (right p p_mem).2 same.symm⟩
    · exact ⟨certa, le_of_le_of_eq (prices role role_mem) same.symm⟩
    · exact ⟨certa, zero.ge⟩
  · intro s action _ after role role_mem
    obtain ⟨q, q_mem, amount⟩ := ticket_of_ingressosNovos role_mem
    exact amount ▸ (after q q_mem).naoNegativo
  · intro p mem
    rw [no_payments] at mem
    exact nomatch mem

/-- The event form takes a negative price for a role, and its ticket is a payment below zero. -/
theorem not_somaDasPartes_negative_role :
    ¬ Always (withHistory (step Loja.ambiente) registrarIngresso)
      (fun s => ∀ p ∈ s.1.db.payments, p.SomaDasPartes s.2)
      (Loja.aberta .pagbank (-10) none, fun _ => 0) [Loja.inscricao 3 1000] := by
  intro always
  have after := always.last
  rw [runFrom_withHistory] at after
  have below : ∃ p ∈ (runFrom (step Loja.ambiente) (Loja.aberta .pagbank (-10) none)
      [Loja.inscricao 3 1000]).db.payments, cents p.amount < 0 := by decide +kernel
  obtain ⟨p, mem, negative⟩ := below
  exact absurd (after p mem).naoNegativo (not_le.mpr negative)

/-- A registration, and a purchase hung on its ticket. -/
theorem somaDasPartes_run_iff_attached :
    Always (withHistory (step Loja.ambiente) registrarIngresso)
      (fun s => ∀ p ∈ s.1.db.payments, p.SomaDasPartes s.2)
      (Loja.aberta .pagbank 100 none, fun _ => 0)
      [Loja.inscricao 3 1000, Loja.compra 3 true 2000] :=
  (somaDasPartes_run_iff rfl _ _).mpr (by decide +kernel)

end IccvBackend
